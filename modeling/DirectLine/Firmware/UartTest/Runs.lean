import DirectLine.Firmware.Supply.Rehearsal
import DirectLine.Firmware.UartTest.Construction

/-!
# Runs of the UART test

The test over the UART, the PRCM and the pins.  A failure blames a lack of
progress or a character that was being received when the FIFOs were emptied; a
run that returns has received every byte.
-/

namespace DirectLine.Firmware.UartTest

open DirectLine.Interaction DirectLine.Interaction.Program Relation Uart Line
open Supply (PowerControl)

section Runs

variable {Result : Type} {uart : Uart} {depth : Nat} {rig : Rig} {index : Fin 4}
variable {words : Prcm → Word} {pads : Nat → Word} {known : Line → Prop}
variable {file : UartRegister → Word}

theorem moves_elsewhere {access : Access} {rig' : Rig} (apart : elsewhere access = true)
    (moved : rig.Moves uart depth access rig') : rig' = rig := by
  refine Rig.ext ?_ moved.status ?_ (line_elsewhere apart moved.line)
  · have control := moved.control
    cases access with
    | act => exact control
    | read register value =>
        cases register with
        | prcm => cases apart
        | _ => exact control
    | write register value =>
        cases register with
        | prcm => cases apart
        | _ => exact control
  · have padded := moved.pads
    cases access with
    | act => exact padded
    | read register value =>
        cases register with
        | iocfg => cases apart
        | _ => exact padded
    | write register value =>
        cases register with
        | iocfg => cases apart
        | _ => exact padded

theorem tests_aside {program : Driver Result} (aside : Aside program)
    (stable : (serial uart depth).Stable known) (here : At words pads known rig) :
    Tests uart depth (fun _ => At words pads known) program rig := by
  have meets : (tested uart depth).Meets _ _ program rig :=
    .within aside (stable_at stable) here fun _ _ _ apart here moved =>
      ⟨trivial, moves_elsewhere apart moved ▸ here⟩
  refine meets.mono (fun _ _ here => here) ?_
  rintro _ _ ⟨rfl, -⟩
  exact .inl .budget

theorem tests_line {program : Driver Result} {post : Result → Line → Prop}
    (prepares : Prepares uart depth post program rig.line) :
    Tests uart depth (fun result rig => post result rig.line) program rig :=
  (prepares.framed framed_line (.unbounded program) trivial).mono (fun _ _ finish => finish.1)
    fun _ _ stopped => stopped.1

theorem tests_initializeTimerClock (stable : (serial uart depth).Stable known)
    (here : At words pads known rig) :
    Tests uart depth (fun _ => At (Function.update words .gptclkdiv 0) pads known)
      Prcm.initializeTimerClock rig := by
  simp only [Prcm.initializeTimerClock, writeReg_bind]
  exact tests_write_prcm rfl stable here fun rig here => tests_applyClockSettings stable here

theorem tests_enableClock (timer : Timer.Instance) (stable : (serial uart depth).Stable known)
    (here : At words pads known rig) :
    Tests uart depth (fun _ rig => ∃ words, At words pads known rig) timer.enableClock rig := by
  rw [Timer.Instance.enableClock]
  apply (tests_powerDomain (by decide) stable here).andThen
  intro _ rig here
  have few : (timer.clockMask &&& ~~~0xf == 0) = true := by cases timer <;> decide
  exact (tests_enableClocks rfl few stable here).mono (fun _ _ here => ⟨_, here⟩)
    fun _ _ failed => failed

theorem tests_initializeCounter (timer : Timer.Instance)
    (stable : (serial uart depth).Stable known) (here : At words pads known rig) :
    Tests uart depth
      (fun counter rig => counter = ⟨timer.registers⟩ ∧ ∃ words, At words pads known rig)
      (Counter.initializeCounter timer) rig := by
  refine Setting.Meets.yields ?_ (Counter.yields_initializeCounter timer)
  rw [Counter.initializeCounter]
  apply (tests_enableClock timer stable here).andThen
  rintro _ rig ⟨words, here⟩
  refine (tests_aside ?_ stable here).mono (fun _ _ here => ⟨words, here⟩) fun _ _ failed => failed
  exact ⟨rfl, rfl, rfl, rfl, rfl, rfl, rfl, rfl, trivial⟩

theorem refused_invalid : ∀ baud ∈ invalidBauds, baudDivisors baud = none := by
  simp only [invalidBauds, List.forall_mem_cons, List.not_mem_nil, false_implies, implies_true,
    and_true]
  decide

/-- After the configuration the UART listens to itself, unless a character got past the flush. -/
theorem tests_configure (here : At words pads (Unused file) rig) :
    Tests (handle index) depth
      (fun made rig => made = (⟨.gpt1⟩, handle index) ∧
        (rig.line.caught = true ∨ Settled [] [] rig.line))
      (configure (selection index)) rig := by
  rw [configure]
  apply (tests_initializationState stable_unused here).andThen
  rintro _ rig ⟨rfl, here⟩
  apply (tests_refuse stable_unused invalidBauds refused_invalid here).andThen
  intro _ rig here
  apply (tests_powerUp here).andThen
  rintro _ rig ⟨rfl, here⟩
  apply (tests_initializeTimerClock stable_programmed here).andThen
  intro _ rig here
  apply (tests_initializeCounter .gpt1 stable_programmed here).andThen
  rintro _ rig ⟨rfl, words, here⟩
  apply (tests_checkRegisters here).andThen
  intro _ rig here
  have linked : Tests (handle index) depth
      (fun _ rig => rig.line.caught = true ∨ Settled [] [] rig.line)
      (loopBack (handle index).registers) rig :=
    tests_line (prepares_loopBack here.line rfl rfl)
  apply linked.andThen
  intro _ rig linked
  have stable : (serial (handle index) depth).Stable fun line =>
      line.caught = true ∨ Settled [] [] line := by
    rintro line line' (caught | settled) shifts
    · exact .inl (shifts.caught_eq.trans caught)
    · exact absurd shifts settled.still
  have finish : Prepares (handle index) depth
      (fun (made : Counter × Uart) line =>
        made = (⟨.gpt1⟩, handle index) ∧ (line.caught = true ∨ Settled [] [] line))
      (.ret ((⟨.gpt1⟩ : Counter), handle index)) rig.line :=
    .ret stable linked fun _ linked => ⟨rfl, linked⟩
  exact tests_line finish

def Echoed (line : Line) : Prop := line.receiver.consumed = everyByte.map .good

theorem tests_run (room : 0 < depth) (here : At words pads (Unused file) rig) :
    Tests (handle index) depth (fun _ rig => rig.line.caught = true ∨ Echoed rig.line) (run index)
      rig := by
  rw [run]
  apply (tests_configure here).andThen
  rintro _ rig ⟨rfl, linked⟩
  have prepares : Prepares (handle index) depth
      (fun _ line => line.caught = true ∨ Echoed line) (communicate ⟨.gpt1⟩ (handle index))
      rig.line := by
    rcases linked with caught | settled
    · exact prepares_caught _ caught fun _ _ caught => .inl caught
    · exact (exchanges_communicate room settled).mono (fun _ _ settled => .inr settled.consumed)
        fun _ _ excused => .inl excused
  exact tests_line prepares

end Runs

section Rehearsal

/-- A character from the pin starts or completes. -/
inductive Cue where
  | listen (entry : Entry)
  | arrive

/-- The answers of the UART; only entries without an error are read. -/
def lineAnswer (depth : Nat) (line : Line) : UartRegister → Word
  | .fr =>
      (if line.capacity depth ≤ line.outgoing.length then Word.bit 32 txff else 0) |||
        if line.receiver.queue.isEmpty then Word.bit 32 rxfe else 0
  | .dr => (line.receiver.queue.headD (.good 0)).data.setWidth 32
  | .ecr => 0
  | register => line.words register

def lineTake (block : UartBlock) (depth : Nat) (line : Line) : Access → Option Line
  | .read (.uart other .dr) _ =>
      if other = block then
        match line.receiver.queue with
        | [] => some line
        | entry :: queue =>
            if entry = .good entry.data then
              some { line with
                receiver := { line.receiver with
                  queue := queue
                  consumed := line.receiver.consumed ++ [⟨entry, false⟩] } }
            else none
      else some line
  | .write (.uart other register) value =>
      some (if other = block then line.write depth value register else line)
  | _ => some line

def echo (depth : Nat) (line : Line) : Line :=
  match line.outgoing with
  | [] => line
  | byte :: bytes =>
      if line.enabled && line.sends && line.loops && line.receives && line.shifting.isNone then
        { line with
          outgoing := bytes
          shifting := none
          receiver := line.receiver.arrive (line.capacity depth) (.good byte) }
      else line

def padTake (pads : Nat → Word) : Access → Nat → Word
  | .write (.iocfg dio) value => Function.update pads dio value
  | _ => pads

def Rig.answer (depth : Nat) (rig : Rig) : Register → Word
  | .prcm .pdstat0 => rig.status
  | .prcm setting => Supply.answer rig.control setting
  | .iocfg dio => rig.pads dio
  | .uart _ register => lineAnswer depth rig.line register
  | .ddi _ => BitVec.allOnes 32
  | _ => 0

def Rig.perform (uart : Uart) (depth : Nat) (rig : Rig) (access : Access) : Option Rig :=
  (lineTake uart.registers depth rig.line access).map fun line =>
    let control := Supply.take rig.control access
    { control := control
      status := rig.status ||| control.words .pdctl0
      pads := padTake rig.pads access
      line := echo depth line }

def Rig.cue (depth : Nat) (rig : Rig) : Cue → Option Rig
  | .listen entry =>
      if rig.line.enabled && rig.line.receives && !rig.line.loops && rig.line.arriving.isNone then
        some { rig with line := { rig.line with arriving := some entry } }
      else none
  | .arrive =>
      rig.line.arriving.map fun entry =>
        { rig with
          line := { rig.line with
            arriving := none
            receiver := rig.line.receiver.arrive (rig.line.capacity depth) entry } }

def rehearsal (uart : Uart) (depth : Nat) : Stage Register Instruction Word Rig Cue where
  answer _ := Rig.answer depth
  access := Rig.perform uart depth
  cue := Rig.cue depth

variable {uart : Uart} {depth : Nat} {rig : Rig} {line line' : Line} {access : Access}

theorem reads_lineAnswer (depth : Nat) (line : Line) (register : UartRegister)
    (other : register ≠ .dr) : line.Reads depth (lineAnswer depth line register) register line := by
  cases register with
  | dr => exact absurd rfl other
  | ecr => exact .status
  | ibrd | fbrd | lcrh | ctl | imsc | dmactl => exact .stored rfl rfl
  | fr =>
      refine .flags ?_ ?_
      all_goals
        rw [lineAnswer]
        by_cases full : line.capacity depth ≤ line.outgoing.length
        · rw [if_pos full]
          cases line.receiver.queue.isEmpty <;> simp [full] <;> decide
        · rw [if_neg full]
          cases line.receiver.queue.isEmpty <;> simp [full] <;> decide

theorem shows_good (byte : Byte) : (Received.good byte).Shows (byte.setWidth 32) where
  data := by simp [Received.good, Entry.good]
  framing := by simp [Word.flag, Received.good, Entry.good, dataFe]
  parity := by simp [Word.flag, Received.good, Entry.good, dataPe]
  breakDetected := by simp [Word.flag, Received.good, Entry.good, dataBe]
  overrun := by simp [Word.flag, Received.good, dataOe]

theorem reads_front {block : UartBlock} {value : Word}
    (taken : lineTake block depth line (.read (.uart block .dr) value) = some line') :
    line.Reads depth (lineAnswer depth line .dr) .dr line' := by
  rw [lineTake, if_pos rfl] at taken
  rw [lineAnswer]
  cases front : line.receiver.queue with
  | nil =>
      rw [front] at taken
      obtain rfl := Option.some.inj taken
      exact .data (.empty front)
  | cons entry queue =>
      rw [front] at taken
      dsimp only at taken
      split at taken
      · next good =>
        obtain rfl := Option.some.inj taken
        refine .data (.entry ⟨entry, false⟩ queue front (by nofun) ?_)
        rw [List.headD_cons, good]
        exact shows_good entry.data
      · cases taken

theorem access_lineTake
    (answered : ∀ register value, access = .read (.uart uart.registers register) value →
      value = lineAnswer depth line register)
    (taken : lineTake uart.registers depth line access = some line') :
    line.access uart.registers depth access line' := by
  cases access with
  | act => exact (Option.some.inj taken).symm
  | write register value =>
      cases register with
      | uart other register =>
          obtain rfl := Option.some.inj taken
          rw [Line.access]
          split <;> rfl
      | _ => exact (Option.some.inj taken).symm
  | read register value =>
      cases register with
      | uart other register =>
          by_cases same : other = uart.registers
          · subst same
            obtain rfl := answered register value rfl
            rw [Line.access, if_pos rfl]
            cases register with
            | dr => exact reads_front taken
            | _ =>
                obtain rfl := Option.some.inj taken
                exact reads_lineAnswer depth line _ (by decide)
          · rw [Line.access, if_neg same]
            cases register with
            | dr =>
                rw [lineTake, if_neg same] at taken
                exact (Option.some.inj taken).symm
            | _ => exact (Option.some.inj taken).symm
      | _ => exact (Option.some.inj taken).symm

theorem shifts_echo (depth : Nat) (line : Line) :
    ReflTransGen (Shifts depth) line (echo depth line) := by
  rw [echo]
  split
  · exact .refl
  · next byte bytes first =>
    split
    · next ready =>
      simp only [Bool.and_eq_true, Option.isNone_iff_eq_none] at ready
      obtain ⟨⟨⟨⟨enabled, sends⟩, loops⟩, receives⟩, idle⟩ := ready
      have looped : (line.loops && line.receives) = true :=
        Bool.and_eq_true_iff.mpr ⟨loops, receives⟩
      exact .head (.send enabled sends idle first) (.single (.looped rfl looped))
    · exact .refl

theorem padAccess_padTake {pads : Nat → Word}
    (answered : ∀ dio value, access = .read (.iocfg dio) value → value = pads dio) :
    padAccess pads access (padTake pads access) := by
  cases access with
  | act => rfl
  | read register value =>
      cases register with
      | iocfg dio => exact ⟨rfl, answered dio value rfl⟩
      | _ => rfl
  | write register value =>
      cases register with
      | _ => rfl

theorem follows_requests (rig : Rig) :
    rig.Follows (rig.status ||| rig.control.words .pdctl0) := by
  intro domain
  have either : Word.flag (rig.status ||| rig.control.words .pdctl0) domain =
      (Word.flag rig.status domain || Word.flag (rig.control.words .pdctl0) domain) :=
    BitVec.getLsbD_or
  rw [either]
  cases Word.flag rig.status domain with
  | false => exact .inr (Bool.false_or _)
  | true => exact .inl (Bool.true_or _)

theorem disturbs_echo (depth : Nat) (rig : Rig) :
    ReflTransGen (Rig.Disturbs depth) rig { rig with line := echo depth rig.line } :=
  (shifts_echo depth rig.line).lift (fun line => ({ rig with line := line } : Rig))
    fun _ _ shifts => .line shifts

theorem faithful_rehearsal : (rehearsal uart depth).Faithful (testing uart depth) where
  access past rig access rig' answered moved := by
    obtain ⟨line, taken, rfl⟩ := Option.map_eq_some_iff.mp moved
    have set : ∀ setting value, setting ≠ .pdstat0 → access = .read (.prcm setting) value →
        value = Supply.answer rig.control setting := by
      intro setting value other same
      rw [answered _ _ same]
      cases setting with
      | pdstat0 => exact absurd rfl other
      | _ => rfl
    obtain ⟨control, accessed, loads⟩ := Supply.exists_taken set
    let during (control : PowerControl) : Rig :=
      { control := control, status := rig.status, pads := padTake rig.pads access, line := line }
    refine ⟨during control, ?_, ?_⟩
    · exact {
        control := accessed
        status := rfl
        shown := fun value same => answered _ _ same
        pads := padAccess_padTake fun dio value same => answered _ _ same
        line := access_lineTake (fun register value same => answered _ _ same) taken }
    · have loaded : ReflTransGen (Rig.Disturbs depth) (during control)
          (during (Supply.take rig.control access)) :=
        loads.lift during fun _ _ loads => .control loads
      exact (loaded.tail (.status (follows_requests _))).trans (disturbs_echo depth _)
  cue rig cue rig' stepped := by
    cases cue with
    | listen entry =>
        rw [rehearsal] at stepped
        dsimp only [Rig.cue] at stepped
        split at stepped
        · next ready =>
          simp only [Bool.and_eq_true, Bool.not_eq_true', Option.isNone_iff_eq_none] at ready
          obtain ⟨⟨⟨enabled, receives⟩, apart⟩, silent⟩ := ready
          obtain rfl := Option.some.inj stepped
          exact .single (.line (.listen entry enabled receives apart silent))
        · cases stepped
    | arrive =>
        obtain ⟨entry, arriving, rfl⟩ := Option.map_eq_some_iff.mp stepped
        exact .single (.line (.arrive arriving))

def unconfigured : Rig where
  control := Supply.unrequested
  status := 0
  pads _ := 0
  line := {
    words := fun _ => 0
    outgoing := []
    shifting := none
    arriving := none
    receiver := .holding [] false
    caught := false }

/-- A character arrives between the flush and the selection of the loop-back mode. -/
def intrusion : List (Direction Cue) :=
  [.accesses 60, .cue (.listen (.good 0x41)), .accesses 15, .cue .arrive, .accesses 7]

theorem exists_returned :
    ∃ rig, (testing (handle 0) 32).Reaches ⟨run 0, unconfigured⟩ ⟨.ret (), rig⟩ ∧
      rig.line.caught = false := by
  have performed : (((rehearsal (handle 0) 32).perform [.accesses 1875]
      ⟨run 0, unconfigured⟩).map fun final => final.2.line.caught) = some false := by
    decide +kernel
  obtain ⟨⟨⟨⟩, rig⟩, performed, quiet⟩ := Option.map_eq_some_iff.mp performed
  exact ⟨rig, faithful_rehearsal.reaches_perform performed, quiet⟩

def unexpected : String :=
  "assertion `left == right` failed\n  left: Ok(Some(65))\n right: Ok(None)"

def failure : Driver Unit → Option String
  | .panic message => some message
  | _ => none

theorem exists_failed :
    ∃ rig, (testing (handle 0) 32).Reaches ⟨run 0, unconfigured⟩
      ⟨.panic unexpected, rig⟩ := by
  have played : (((rehearsal (handle 0) 32).play intrusion 0 ⟨run 0, unconfigured⟩).bind
      fun point => failure point.program) =
        some unexpected := by
    decide +kernel
  obtain ⟨⟨program, rig⟩, played, failed⟩ := Option.bind_eq_some_iff.mp played
  cases program with
  | panic =>
      obtain rfl := Option.some.inj failed
      exact ⟨rig, faithful_rehearsal.reaches_play played⟩
  | ret | exhausted | read | write | act => cases failed

theorem not_excused_unexpected : ¬Excused unexpected := by
  generalize text : unexpected = message
  intro excused
  cases excused with
  | budget | slow => exact absurd text (by decide)

theorem unused_unconfigured : Unused unconfigured.line.words unconfigured.line where
  words := rfl
  outgoing := rfl
  shifting := rfl
  silent := rfl
  disabled := by decide

end Rehearsal

/-- Whatever the registers held, the test of a UART fails for a lack of progress only, unless a
character was being received when the FIFOs were emptied.  A run that returns has then received
every byte, in order and without an error. -/
theorem loopback_sound (index : Fin 4) (depth : Nat) (room : 0 < depth) (rig : Rig)
    (rested : rig.Rested) (unused : Unused rig.line.words rig.line)
    (point : Point Register Instruction Word Rig Unit)
    (reaches : (testing (handle index) depth).Reaches ⟨run index, rig⟩ point) :
    (∀ message, point.program = .panic message →
      Excused message ∨ point.state.line.caught = true) ∧
    (point.program = .ret () → point.state.line.caught = true ∨ Echoed point.state.line) := by
  have here : At rig.control.words rig.pads (Unused rig.line.words) rig :=
    ⟨rfl, rested, rfl, unused⟩
  have meets := reaches.meets (fun _ _ _ _ => False.elim) (tests_run room here)
  refine ⟨fun message panicked => ?_, fun returned => ?_⟩
  · rw [panicked] at meets
    exact meets _ .refl
  · rw [returned] at meets
    exact meets.returned

/-- A run that returns, and one that the character fails. -/
theorem loopback_sound_runs :
    (∃ rig, (testing (handle 0) 32).Reaches ⟨run 0, unconfigured⟩ ⟨.ret (), rig⟩ ∧
      Echoed rig.line) ∧
    ∃ rig, (testing (handle 0) 32).Reaches ⟨run 0, unconfigured⟩
      ⟨.panic unexpected, rig⟩ ∧
        rig.line.caught = true := by
  have rested : unconfigured.Rested := fun _ _ => rfl
  have room : 0 < 32 := by decide
  constructor
  · obtain ⟨rig, reaches, quiet⟩ := exists_returned
    have sound := (loopback_sound 0 32 room _ rested unused_unconfigured _ reaches).2 rfl
    rcases sound with caught | echoed
    · rw [quiet] at caught
      cases caught
    · exact ⟨rig, reaches, echoed⟩
  · obtain ⟨rig, reaches⟩ := exists_failed
    have sound := (loopback_sound 0 32 room _ rested unused_unconfigured _ reaches).1 _ rfl
    rcases sound with excused | caught
    · exact absurd excused not_excused_unexpected
    · exact ⟨rig, reaches, caught⟩

end DirectLine.Firmware.UartTest
