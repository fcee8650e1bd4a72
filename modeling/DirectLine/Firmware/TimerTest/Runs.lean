import DirectLine.Firmware.Supply.Rehearsal
import DirectLine.Firmware.TimerLines.Rehearsal
import DirectLine.Firmware.TimerTest.Construction

/-!
# Runs of the timer test

The test over the four timers with their handlers and over the PRCM.  A failure
blames a lack of progress; a run that returns has seen each timer serviced by
its own interrupt, and by no other.
-/

namespace DirectLine.Firmware.TimerTest

open DirectLine.Interaction DirectLine.Interaction.Program Relation TimerLine TimerLines
open Acquisition Supply

structure Rig where
  lines : TimerLines
  control : PowerControl

namespace Rig

structure Moves (rig : Rig) (access : Access) (rig' : Rig) : Prop where
  lines : rig.lines.Moves access rig'.lines
  control : rig.control.access access rig'.control

inductive Disturbs : Rig → Rig → Prop where
  | lines {lines lines' : TimerLines} {control : PowerControl} :
      lines.Disturbs lines' → Disturbs ⟨lines, control⟩ ⟨lines', control⟩
  | control {lines : TimerLines} {control control' : PowerControl} :
      control.Loads control' → Disturbs ⟨lines, control⟩ ⟨lines, control'⟩

end Rig

def testing : Process Register Instruction Word Rig Unit where
  device := Rig.Moves
  rely := Rig.Disturbs
  next _ _ _ := False

abbrev tested : Setting Register Instruction Word Rig := testing.setting fun _ _ _ => True

section Runs

variable {Result : Type} {rig : Rig}

/-- The PRCM does what it does alone, while handlers that have acknowledged nothing may run. -/
theorem framed_control : tested.Framed powered Rig.control Uncounting
    fun rig => Joint (fun _ => Anything) (fun _ => 0) rig.lines where
  device _ _ _ uncounting joint moved :=
    ⟨moved.control, fun timer => (joint timer).moved uncounting moved.lines trivial⟩
  rely rig rig' joint disturbs := by
    cases disturbs with
    | lines disturbs => exact ⟨.refl, stable_joint .anything _ _ joint disturbs⟩
    | control loads => exact ⟨.single loads, joint⟩
  guarantee _ _ _ _ _ _ _ := trivial

theorem framed_lines : tested.Framed foreground Rig.lines (fun _ => True) fun _ => True where
  device _ _ _ _ _ moved := ⟨moved.lines, trivial⟩
  rely rig rig' _ disturbs := by
    cases disturbs with
    | lines disturbs => exact ⟨.single disturbs, trivial⟩
    | control loads => exact ⟨.refl, trivial⟩
  guarantee _ _ _ _ _ _ _ := trivial

theorem meets_lines {program : Driver Result} {post : Result → TimerLines → Prop}
    (checks : Checks post program rig.lines) :
    tested.Meets (fun result rig => post result rig.lines) (fun message _ => Excused message)
      program rig :=
  (checks.framed framed_lines (.unbounded program) trivial).mono (fun _ _ finish => finish.1)
    fun _ _ stopped => stopped.1

theorem checks_plain {program : Driver Result} {lines : TimerLines} (plain : Plain program)
    (joint : Joint (fun _ => Anything) (fun _ => 0) lines) :
    Checks (fun _ => Joint (fun _ => Anything) fun _ => 0) program lines := by
  have meets : foreground.Meets _ _ program lines :=
    .within plain (stable_joint .anything) joint fun _ _ _ ordinary joint moved =>
      ⟨trivial, fun timer => (joint timer).moved (uncounting_of_ordinary ordinary) moved trivial⟩
  refine meets.mono (fun _ _ finish => finish) ?_
  rintro _ _ ⟨rfl, -⟩
  exact .budget

abbrev Uncounts (program : Driver Result) : Prop := program.Within Uncounting fun _ => True

theorem uncounts_of_plain {program : Driver Result} (plain : Plain program) : Uncounts program :=
  plain.mono (fun _ => uncounting_of_ordinary) fun _ _ => trivial

theorem uncounts_assert (condition : Bool) (message : String) :
    Uncounts (assert condition message : Driver Unit) := by
  cases condition <;> trivial

theorem uncounts_assertEq (line : Nat) (left right : Word) :
    Uncounts (assertEq line left right) := by
  rw [assertEq]
  split <;> trivial

theorem uncounts_clkEn : Uncounts clkEn := fun _ => ⟨uncounting_read, trivial⟩

theorem uncounts_ratio : Uncounts ratio := fun _ => ⟨uncounting_read, trivial⟩

theorem uncounts_addTimer (index : Fin 4) (gates : Word) : Uncounts (addTimer index gates) := by
  refine .bind (uncounts_of_plain (Timer.plain_initializeTimer _)) fun timer => ?_
  refine .bind uncounts_clkEn fun enabled => .bind (uncounts_assertEq _ _ _) fun _ => ?_
  refine .bind uncounts_ratio fun divider => ?_
  exact .bind (uncounts_assertEq _ _ _) fun _ => trivial

theorem uncounts_construct (counterIndex : Fin 4) : Uncounts (construct counterIndex) := by
  refine .bind (uncounts_of_plain Prcm.plain_initializeTimerClock) fun _ => ?_
  refine .bind uncounts_clkEn fun gates => ?_
  refine .bind (uncounts_of_plain (Counter.plain_initializeCounter _)) fun counter => ?_
  refine .bind uncounts_clkEn fun enabled => .bind (uncounts_assertEq _ _ _) fun _ => ?_
  refine .bind (fun _ => ⟨uncounting_read, trivial⟩) fun status => ?_
  refine .bind (uncounts_assert _ _) fun _ => .bind (uncounts_addTimer _ _) fun first => ?_
  refine .bind (uncounts_addTimer _ _) fun second => .bind (uncounts_addTimer _ _) fun third => ?_
  refine .bind (uncounts_of_plain (plain_now _)) fun start => ?_
  exact .bind (uncounts_of_plain (plain_waitFor (plain_advanced _ start) _)) fun _ => trivial

theorem instances_ne (counterIndex : Fin 4) :
    instances (counterIndex + 1 + 1) ≠ instances (counterIndex + 0 + 1) ∧
      instances (counterIndex + 2 + 1) ≠ instances (counterIndex + 0 + 1) ∧
        instances (counterIndex + 2 + 1) ≠ instances (counterIndex + 1 + 1) := by
  revert counterIndex
  decide

theorem mem_instances {counterIndex : Fin 4} {timer : Timer.Instance}
    (other : timer ≠ instances counterIndex) :
    timer ∈ [instances (counterIndex + 0 + 1), instances (counterIndex + 1 + 1),
      instances (counterIndex + 2 + 1)] := by
  revert counterIndex
  cases timer <;> decide

/-- What the test establishes. -/
def Serviced (counterIndex : Fin 4) (lines : TimerLines) : Prop :=
  ∀ timer, timer ≠ instances counterIndex → 23 ≤ lines.acknowledged timer

theorem meets_run (counterIndex : Fin 4) (fresh : rig.lines.Fresh) :
    tested.Meets (fun _ rig => Serviced counterIndex rig.lines) (fun message _ => Excused message)
      (run counterIndex) rig := by
  rw [run]
  have made := (constructs_construct counterIndex rig.control).framed framed_control
    (uncounts_construct counterIndex) (joint_fresh fresh)
  refine .bind (made.mono ?_ fun _ _ stopped => stopped.1)
  rintro _ rig ⟨rfl, joint⟩
  refine meets_lines ?_
  obtain ⟨second_ne, third_ne, apart⟩ := instances_ne counterIndex
  have excused : ∀ message (_ : TimerLines), Excused message → Excused message :=
    fun _ _ excused => excused
  have requested : Plain Clocks.requestHfCrystal := ⟨rfl, trivial⟩
  have ready : Plain Clocks.hfCrystalReady := fun _ => ⟨rfl, trivial⟩
  have enabled : Plain (perform .enableInterrupts) := ⟨rfl, trivial⟩
  refine .bind ((checks_plain requested joint).mono ?_ excused)
  intro _ lines joint
  refine .bind ((checks_plain (plain_waitFor ready _) joint).mono ?_ excused)
  intro _ lines joint
  refine .bind ((checks_plain (plain_waitFor Clocks.plain_trySwitchToHfCrystal _) joint).mono ?_
    excused)
  intro _ lines joint
  refine .bind ((checks_plain enabled joint).mono ?_ excused)
  intro _ lines joint
  refine (checks_checkTimers second_ne third_ne apart joint).mono ?_ excused
  exact fun _ lines serviced timer other => serviced timer (mem_instances other)

end Runs

section Rehearsal

def Rig.answer (past : Nat) (rig : Rig) : Register → Word
  | .prcm setting => Supply.answer rig.control setting
  | register => rig.lines.answer past register

/-- A cue is a timer with a number of timeouts, each of which is served. -/
def rehearsal : Stage Register Instruction Word Rig (Timer.Instance × Nat) where
  answer := Rig.answer
  access rig access := (rig.lines.perform access).map fun lines => ⟨lines, take rig.control access⟩
  cue rig cue := (rig.lines.serves cue.1 cue.2).map fun lines => ⟨lines, rig.control⟩

theorem faithful_rehearsal : rehearsal.Faithful testing where
  access past rig access rig' answered moved := by
    obtain ⟨lines, performed, rfl⟩ := Option.map_eq_some_iff.mp moved
    have shown : ∀ setting value, setting ≠ .pdstat0 → access = .read (.prcm setting) value →
        value = Supply.answer rig.control setting := fun setting value _ same => answered _ _ same
    obtain ⟨middle, accessed, loads⟩ := exists_taken shown
    have counted : ∀ index value, access = .read (.timerInterrupts index) value →
        value = (rig.lines.hardware (numbered index)).count :=
      fun index value same => answered _ _ same
    refine ⟨⟨lines, middle⟩, ⟨moves_perform counted performed, accessed⟩, ?_⟩
    exact loads.lift (Rig.mk lines) fun _ _ => .control
  cue rig cue rig' stepped := by
    obtain ⟨lines, served, rfl⟩ := Option.map_eq_some_iff.mp stepped
    exact (disturbs_serves served).lift (fun lines => Rig.mk lines rig.control) fun _ _ => .lines

def unconfigured : Rig where
  lines := { hardware := fun _ => default, handler := none, acknowledged := fun _ => 0 }
  control := unrequested

/-- Each timer is served as often as the checks ask for. -/
def script : List (Direction (Timer.Instance × Nat)) :=
  [.accesses 126, .cue (.gpt1, 20), .cue (.gpt2, 20), .cue (.gpt3, 20), .accesses 6,
    .cue (.gpt1, 2), .accesses 14, .cue (.gpt2, 2), .cue (.gpt3, 2), .accesses 28,
    .cue (.gpt1, 1), .accesses 34, .cue (.gpt2, 1), .accesses 34, .cue (.gpt3, 1), .accesses 19]

theorem exists_returned :
    ∃ rig, testing.Reaches ⟨run 0, unconfigured⟩ ⟨.ret (), rig⟩ ∧
      rig.lines.acknowledged .gpt3 = 23 := by
  have performed : ((rehearsal.perform script ⟨run 0, unconfigured⟩).map fun final =>
      final.2.lines.acknowledged .gpt3) = some 23 := by
    decide +kernel
  obtain ⟨⟨⟨⟩, rig⟩, performed, count⟩ := Option.map_eq_some_iff.mp performed
  exact ⟨rig, faithful_rehearsal.reaches_perform performed, count⟩

end Rehearsal

/-- Whatever the PRCM held, a run of the test that fails has exhausted a bound on its waiting, has
seen too few interrupts in ten milliseconds or the power domain off.  None fails where a gate or
the divider, a refused request or the count of a stopped timer is checked.  A run that returns
leaves each of the three timers with at least 23 interrupts acknowledged. -/
theorem test_sound (counterIndex : Fin 4) (rig : Rig) (fresh : rig.lines.Fresh)
    (point : Point Register Instruction Word Rig Unit)
    (reaches : testing.Reaches ⟨run counterIndex, rig⟩ point) :
    (∀ message, point.program = .panic message → Excused message) ∧
    (∀ line ∈ certain, ∀ message, point.program ≠ .panic (placed line message)) ∧
    (point.program = .ret () → ∀ timer, timer ≠ instances counterIndex →
      23 ≤ point.state.lines.acknowledged timer) := by
  have meets := reaches.meets (fun _ _ _ _ => False.elim) (meets_run counterIndex fresh)
  have failed : ∀ message, point.program = .panic message → Excused message := by
    intro message panicked
    rw [panicked] at meets
    exact meets _ .refl
  refine ⟨failed, ?_, ?_⟩
  · intro line member message panicked
    exact line_of_excused (failed _ panicked) rfl member
  · intro returned
    rw [returned] at meets
    exact meets.returned

/-- A run that returns, in which no bound is exceeded. -/
theorem test_sound_returned :
    ∃ rig, testing.Reaches ⟨run 0, unconfigured⟩ ⟨.ret (), rig⟩ ∧
      rig.lines.acknowledged .gpt3 = 23 ∧
        ∀ timer, timer ≠ instances 0 → 23 ≤ rig.lines.acknowledged timer := by
  obtain ⟨rig, reaches, count⟩ := exists_returned
  have fresh : unconfigured.lines.Fresh := ⟨rfl, fun _ => rfl, fun _ => rfl⟩
  exact ⟨rig, reaches, count, (test_sound 0 unconfigured fresh _ reaches).2.2 rfl⟩

end DirectLine.Firmware.TimerTest
