import DirectLine.Firmware.Supply.Constructions
import DirectLine.Firmware.TimerTest.Checks

/-!
# The construction of the timer test

Each GPT is added to the gates already open at the undivided rate, whatever the
PRCM held before.  The comparisons with the gate and divider fields therefore
hold, and only the power domain's status is left to the hardware.
-/

namespace DirectLine.Firmware.TimerTest

open DirectLine.Interaction DirectLine.Interaction.Program Acquisition Supply

abbrev powered : Setting Register Instruction Word PowerControl :=
  constructing.setting fun _ _ _ => True

/-- The settings are in force, with these gates open and the timers' clock undivided. -/
structure Opened (gates : Word) (control : PowerControl) : Prop where
  loaded : control.Loaded
  gates : Word.field (control.words .gptclkgr) 0 Prcm.clkEnWidth = gates
  divider : control.words .gptclkdiv = 0

section Construction

variable {Result : Type} {post : Result → PowerControl → Prop} {gates : Word}
variable {words : Prcm → Word} {control : PowerControl}

abbrev Constructs (post : Result → PowerControl → Prop) (program : Driver Result)
    (control : PowerControl) : Prop :=
  powered.Meets post (fun message _ => Excused message) program control

theorem stable_opened : powered.Stable (Opened gates) := by
  rintro control control' opened loads
  have same : control'.words = control.words := stable_words control.words _ _ rfl loads
  exact ⟨Loaded.loads loads, same ▸ opened.gates, same ▸ opened.divider⟩

theorem constructs_supplies {program : Driver Result} (supplies : Supplies post program control)
    (plain : Plain program) : Constructs post program control := by
  have framed : powered.Framed supplying id (fun _ => True) fun _ => True :=
    ⟨fun _ _ _ _ _ moved => ⟨moved, trivial⟩, fun _ _ _ step => ⟨.single step, trivial⟩,
      fun _ _ _ _ _ _ _ => trivial⟩
  have meets := (supplies.framed framed (.unbounded program) trivial).stops plain
  refine meets.mono (fun _ _ finish => finish.1) ?_
  rintro _ _ ⟨rfl, -⟩
  exact .budget

theorem constructs_read {setting : Prcm} {next : Word → Driver Result}
    (clock : isClock setting = true) (opened : Opened gates control)
    (rest : ∀ control, Opened gates control →
      Constructs post (next (control.words setting)) control) :
    Constructs post (.read (.prcm setting) next) control := by
  refine .read stable_opened opened fun control value control' opened moved => ?_
  obtain ⟨rfl, rfl⟩ : control' = control ∧ value = control.words setting := by
    cases setting <;> first | exact moved | cases clock
  exact ⟨trivial, rest _ opened⟩

theorem constructs_clkEn {line : Nat} {after : Unit → Driver Result} (opened : Opened gates control)
    (rest : ∀ control, Opened gates control → Constructs post (after ()) control) :
    Constructs post (clkEn >>= fun enabled => assertEq line enabled gates >>= after) control := by
  refine constructs_read rfl opened fun control opened => ?_
  change Constructs post (assertEq line (Word.field _ 0 Prcm.clkEnWidth) gates >>= after) control
  rw [opened.gates, assertEq, if_pos rfl]
  exact rest _ opened

theorem constructs_ratio {after : Unit → Driver Result} (opened : Opened gates control)
    (rest : ∀ control, Opened gates control → Constructs post (after ()) control) :
    Constructs post (ratio >>= fun divider => assertEq 41 divider 0 >>= after) control := by
  refine constructs_read rfl opened fun control opened => ?_
  change Constructs post (assertEq 41 (Word.field _ 0 4) 0 >>= after) control
  rw [opened.divider, assertEq, if_pos (by decide)]
  exact rest _ opened

theorem field_clockMask (index : Fin 4) :
    Word.field (instances index).clockMask 0 Prcm.clkEnWidth = Word.bit 32 index := by
  revert index
  decide

theorem opened_supplied {index : Fin 4} {before : PowerControl} (opened : Opened gates before)
    (here : InForce (supplied before.words Prcm.periphOn .gptclkgr (instances index).clockMask)
      control) : Opened (gates ||| Word.bit 32 index) control := by
  refine ⟨here.loaded, ?_, ?_⟩
  · rw [here.words, supplied, request, Function.update_self, request,
      Function.update_of_ne (by decide), Word.field_or, opened.gates, field_clockMask]
  · rw [here.words, supplied, request, Function.update_of_ne (by decide), request,
      Function.update_of_ne (by decide), opened.divider]

theorem constructs_addTimer (index : Fin 4) (opened : Opened gates control) :
    Constructs
      (fun made control =>
        made = (Timer.ofInstance (instances index), gates ||| Word.bit 32 index) ∧
          Opened (gates ||| Word.bit 32 index) control)
      (addTimer index gates) control := by
  rw [addTimer]
  have here : control.words = control.words := rfl
  have made := (constructs_supplies (meets_initializeTimer (instances index) here)
    (Timer.plain_initializeTimer _)).yields (Timer.yields_initializeTimer _)
  refine .bind (made.mono ?_ fun _ _ excused => excused)
  rintro _ control ⟨rfl, here⟩
  refine constructs_clkEn (opened_supplied opened here) fun control opened => ?_
  refine constructs_ratio opened fun control opened => ?_
  exact .ret stable_opened opened fun _ opened => ⟨rfl, opened⟩

theorem constructs_initializeTimerClock (control : PowerControl) :
    Constructs (fun _ control => ∃ gates, Opened gates control) Prcm.initializeTimerClock
      control := by
  simp only [Prcm.initializeTimerClock, writeReg_bind]
  have stable : powered.Stable fun _ => True := fun _ _ _ _ => trivial
  refine .write stable trivial fun control control' _ moved => ⟨trivial, ?_⟩
  obtain rfl : control' = _ := moved
  refine constructs_supplies (meets_applyClockSettings ⟨rfl, ?_⟩ ?_) Prcm.plain_applyClockSettings
  · exact fun done => by simp [isClock] at done
  · intro control same loaded
    refine ⟨_, loaded, rfl, (congrFun same .gptclkdiv).trans ?_⟩
    dsimp only
    rw [Function.update_self]

theorem constructs_plain {program : Driver Result} {known : Result → Prop} (plain : Plain program)
    (yields : program.Yields known) :
    Constructs (fun result _ => known result) program control := by
  have stable : powered.Stable fun _ => True := fun _ _ _ _ => trivial
  have meets : powered.Meets _ _ program control :=
    .within plain stable trivial fun _ _ _ _ _ _ => ⟨trivial, trivial⟩
  refine (meets.yields yields).mono (fun _ _ finish => finish.1) ?_
  rintro _ _ ⟨rfl, -⟩
  exact .budget

theorem plain_now (counter : Counter) : Plain counter.now := fun _ => ⟨rfl, trivial⟩

theorem plain_advanced (counter : Counter) (start : Word) : Plain (advanced counter start) :=
  fun _ => ⟨rfl, trivial⟩

def handles (counterIndex : Fin 4) : Counter × Timer × Timer × Timer :=
  (⟨(instances counterIndex).registers⟩, Timer.ofInstance (instances (counterIndex + 0 + 1)),
    Timer.ofInstance (instances (counterIndex + 1 + 1)),
    Timer.ofInstance (instances (counterIndex + 2 + 1)))

theorem constructs_construct (counterIndex : Fin 4) (control : PowerControl) :
    Constructs (fun made _ => made = handles counterIndex) (construct counterIndex) control := by
  rw [construct]
  refine .bind ((constructs_initializeTimerClock control).mono ?_ fun _ _ excused => excused)
  rintro _ control ⟨gates, opened⟩
  refine constructs_read rfl opened fun control opened => ?_
  change Constructs _ (Counter.initializeCounter (instances counterIndex) >>= fun counter => _) _
  rw [opened.gates]
  have here : control.words = control.words := rfl
  have made := (constructs_supplies (meets_initializeCounter (instances counterIndex) here)
    (Counter.plain_initializeCounter _)).yields (Counter.yields_initializeCounter _)
  refine .bind (made.mono ?_ fun _ _ excused => excused)
  rintro _ control ⟨rfl, here⟩
  refine constructs_clkEn (opened_supplied opened here) fun control opened => ?_
  refine .read stable_opened opened fun control status control' opened moved => ⟨trivial, ?_⟩
  obtain rfl : control' = control := moved
  change Constructs _ (assert (Word.flag status Prcm.periphOn) _ >>= fun _ => _) _
  cases Word.flag status Prcm.periphOn with
  | false => exact fun _ _ => .domain
  | true =>
      rw [assert_true, ret_bind]
      refine .bind ((constructs_addTimer _ opened).mono ?_ fun _ _ excused => excused)
      rintro _ control ⟨rfl, opened⟩
      refine .bind ((constructs_addTimer _ opened).mono ?_ fun _ _ excused => excused)
      rintro _ control ⟨rfl, opened⟩
      refine .bind ((constructs_addTimer _ opened).mono ?_ fun _ _ excused => excused)
      rintro _ control ⟨rfl, -⟩
      refine constructs_plain (.bind (plain_now _) fun start => ?_)
        (.after fun _ => .after fun _ => rfl)
      exact .bind (plain_waitFor (plain_advanced _ start) _) fun _ => trivial

end Construction

end DirectLine.Firmware.TimerTest
