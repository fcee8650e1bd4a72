import DirectLine.Firmware.Startup
import DirectLine.Interaction.Transition

/-!
# The boot record

`rust_start`, `capture_fault` and the panic handler of `startup.rs` store the
seven words of `BOOT_DIAGNOSTIC` one by one.  A fault or an NMI may enter
`FaultEntry` between any two accesses, those of an earlier capture included, and
nothing it cuts off is ever resumed.
-/

namespace DirectLine.Firmware.Diagnostic

open DirectLine.Interaction
open DirectLine.Firmware.Startup (Address Symbols stackWatermark)

/-- The words of the record.  Its two kinds of details share the last five. -/
inductive Cell where
  | magic | stage
  | details (index : Fin 5)
  deriving DecidableEq, Repr

structure BootDiagnostic where
  magic : Word
  stage : Word
  details : Vector Word 5
  deriving DecidableEq

def BootDiagnostic.store (diagnostic : BootDiagnostic) (value : Word) : Cell → BootDiagnostic
  | .magic => { diagnostic with magic := value }
  | .stage => { diagnostic with stage := value }
  | .details index => { diagnostic with details := diagnostic.details.set index value }

structure FaultDetails where
  exception : Word
  cfsr : Word
  hfsr : Word
  mmfar : Word
  bfar : Word
  deriving DecidableEq, Repr

def FaultDetails.words (fault : FaultDetails) : Vector Word 5 :=
  #v[fault.exception, fault.cfsr, fault.hfsr, fault.mmfar, fault.bfar]

structure PanicDetails where
  line : Word
  column : Word
  filenameAddress : Word
  filenameLength : Word
  reserved : Word
  deriving DecidableEq, Repr

def PanicDetails.words (panic : PanicDetails) : Vector Word 5 :=
  #v[panic.line, panic.column, panic.filenameAddress, panic.filenameLength, panic.reserved]

/-- "DLRS". -/
def bootDiagnosticMagic : Word := 0x444c5253

def stageReset : Word := 0

def stageTrim : Word := 1

def stageApplication : Word := 2

def stageFault : Word := 0xffff0001

def stagePanic : Word := 0xffff0002

inductive Scb where
  | cfsr | hfsr | mmfar | bfar
  deriving DecidableEq, Repr

inductive Register where
  | diagnostic (cell : Cell)
  | scb (register : Scb)
  /-- The number of the exception being handled. -/
  | ipsr
  | memory (address : Address)
  deriving DecidableEq, Repr

inductive Instruction where
  /-- `cpsid i`. -/
  | disableInterrupts
  | clearStackLimit
  | switchToFaultStack
  /-- All of `setup::initialize`. -/
  | setup
  deriving DecidableEq, Repr

/-- Who has the processor once the code here is through: `main` or the loop of `park`. -/
inductive Control where
  | application | parked
  deriving DecidableEq, Repr

abbrev Code (Result : Type) := Program Register Instruction Word Result

abbrev Access := Event Register Instruction Word

open Program

def copyData (edata : Address) : Nat → Address → Address → Code Unit
  | 0, _, _ => .exhausted
  | fuel + 1, source, destination =>
      if destination < edata then do
        let value ← readReg (.memory source)
        writeReg (.memory destination) value
        copyData edata fuel (source + 4) (destination + 4)
      else return ()

def fill (bound : Address) (value : Word) : Nat → Address → Code Unit
  | 0, _ => .exhausted
  | fuel + 1, destination =>
      if destination < bound then do
        writeReg (.memory destination) value
        fill bound value fuel (destination + 4)
      else return ()

def writeEmptyDiagnostic : Code Unit := do
  writeReg (.diagnostic .magic) 0
  writeReg (.diagnostic .stage) stageReset
  writeReg (.diagnostic (.details 0)) 0
  writeReg (.diagnostic (.details 1)) 0
  writeReg (.diagnostic (.details 2)) 0
  writeReg (.diagnostic (.details 3)) 0
  writeReg (.diagnostic (.details 4)) 0

def rustStart (symbols : Symbols) (currentSp : Address) (fuel : Nat) : Code Control := do
  copyData symbols.edata fuel symbols.sidata symbols.sdata
  fill symbols.ebss 0 fuel symbols.sbss
  fill currentSp stackWatermark fuel symbols.stackBottom
  writeEmptyDiagnostic
  writeReg (.diagnostic .magic) bootDiagnosticMagic
  writeReg (.diagnostic .stage) stageTrim
  perform .setup
  writeReg (.diagnostic .stage) stageApplication
  return .application

def captureFault (exception : Word) : Code Control := do
  writeReg (.diagnostic .magic) bootDiagnosticMagic
  writeReg (.diagnostic (.details 0)) exception
  let cfsr ← readReg (.scb .cfsr)
  writeReg (.diagnostic (.details 1)) cfsr
  let hfsr ← readReg (.scb .hfsr)
  writeReg (.diagnostic (.details 2)) hfsr
  let mmfar ← readReg (.scb .mmfar)
  writeReg (.diagnostic (.details 3)) mmfar
  let bfar ← readReg (.scb .bfar)
  writeReg (.diagnostic (.details 4)) bfar
  writeReg (.diagnostic .stage) stageFault
  return .parked

def faultEntry : Code Control := do
  perform .disableInterrupts
  let exception ← readReg .ipsr
  perform .clearStackLimit
  perform .switchToFaultStack
  captureFault exception

/-- A source location: the file name is a slice of static text. -/
structure Location where
  line : Word
  column : Word
  fileAddress : Word
  fileLength : Word
  deriving DecidableEq, Repr

def panicDetails : Option Location → PanicDetails
  | none => ⟨0, 0, 0, 0, 0⟩
  | some location =>
      { line := location.line
        column := location.column
        filenameAddress := location.fileAddress
        filenameLength := location.fileLength
        reserved := 0 }

/-- The panic handler of the standalone image. -/
def panic (location : Option Location) : Code Control := do
  perform .disableInterrupts
  writeReg (.diagnostic .magic) bootDiagnosticMagic
  writeReg (.diagnostic (.details 0)) (panicDetails location).line
  writeReg (.diagnostic (.details 1)) (panicDetails location).column
  writeReg (.diagnostic (.details 2)) (panicDetails location).filenameAddress
  writeReg (.diagnostic (.details 3)) (panicDetails location).filenameLength
  writeReg (.diagnostic (.details 4)) 0
  writeReg (.diagnostic .stage) stagePanic
  return .parked

structure Machine where
  diagnostic : BootDiagnostic
  scb : Scb → Word
  ipsr : Word
  code : Code Control

namespace Machine

/-- Status registers answer with their values; memory answers at will. -/
def Answers (machine : Machine) : Access → Prop
  | .read (.scb register) value => value = machine.scb register
  | .read .ipsr value => value = machine.ipsr
  | _ => True

end Machine

def BootDiagnostic.after (diagnostic : BootDiagnostic) : Access → BootDiagnostic
  | .write (.diagnostic cell) value => diagnostic.store value cell
  | _ => diagnostic

/-- Where a panic may be raised: in `setup::initialize`, in the application and its handlers, and
before an earlier panic has masked those handlers. -/
def MayPanic : Code Control → Prop
  | .act .setup _ | .act .disableInterrupts (.write _ _ _) | .ret .application => True
  | _ => False

inductive Label where
  | access (event : Access)
  | fault (exception : Word) (scb : Scb → Word)
  | panic (location : Option Location)
  /-- The status registers change behind the code. -/
  | hardware (scb : Scb → Word)

inductive Step : Machine → Label → Machine → Prop where
  | access {machine : Machine} {access : Access} {next : Code Control} :
      Program.Step machine.code access next → machine.Answers access →
      Step machine (.access access)
        { machine with diagnostic := machine.diagnostic.after access, code := next }
  | fault (machine : Machine) (exception : Word) (scb : Scb → Word) :
      Step machine (.fault exception scb)
        { machine with scb := scb, ipsr := exception, code := faultEntry }
  | panic {machine : Machine} (location : Option Location) :
      MayPanic machine.code →
      Step machine (.panic location) { machine with code := Diagnostic.panic location }
  | hardware (machine : Machine) (scb : Scb → Word) :
      Step machine (.hardware scb) { machine with scb := scb }

def Label.terminal : Label → Bool
  | .fault _ _ | .panic _ => true
  | .access _ => false
  | .hardware _ => false

def Label.accesses : Label → List Access
  | .access event => [event]
  | _ => []

def accesses (labels : List Label) : List Access := labels.flatMap Label.accesses

def faultAccesses (fault : FaultDetails) : List Access :=
  [.act .disableInterrupts, .read .ipsr fault.exception, .act .clearStackLimit,
    .act .switchToFaultStack, .write (.diagnostic .magic) bootDiagnosticMagic,
    .write (.diagnostic (.details 0)) fault.exception,
    .read (.scb .cfsr) fault.cfsr, .write (.diagnostic (.details 1)) fault.cfsr,
    .read (.scb .hfsr) fault.hfsr, .write (.diagnostic (.details 2)) fault.hfsr,
    .read (.scb .mmfar) fault.mmfar, .write (.diagnostic (.details 3)) fault.mmfar,
    .read (.scb .bfar) fault.bfar, .write (.diagnostic (.details 4)) fault.bfar,
    .write (.diagnostic .stage) stageFault]

section Handlers

variable {trace : List Access} {control : Control}

theorem set_details (details : Vector Word 5) (first second third fourth fifth : Word) :
    ((((details.set 0 first).set 1 second).set 2 third).set 3 fourth).set 4 fifth =
      #v[first, second, third, fourth, fifth] := by
  refine Vector.ext fun index bound => ?_
  match index, bound with
  | 0, _ | 1, _ | 2, _ | 3, _ | 4, _ => simp

theorem returns_faultEntry (run : Returns faultEntry trace control) :
    ∃ fault, trace = faultAccesses fault := by
  simp only [faultEntry, captureFault, perform_bind, readReg_bind, writeReg_bind, pure_eq,
    Returns, run_act_iff, run_read_iff, run_write_iff, run_ret_iff, reduceCtorEq, and_false,
    false_or] at run
  obtain ⟨_, rfl, exception, _, rfl, _, rfl, _, rfl, _, rfl, _, rfl, cfsr, _, rfl, _, rfl,
    hfsr, _, rfl, _, rfl, mmfar, _, rfl, _, rfl, bfar, _, rfl, _, rfl, _, rfl, rfl, -⟩ := run
  exact ⟨⟨exception, cfsr, hfsr, mmfar, bfar⟩, rfl⟩

theorem foldl_faultAccesses (fault : FaultDetails) (diagnostic : BootDiagnostic) :
    (faultAccesses fault).foldl BootDiagnostic.after diagnostic =
      ⟨bootDiagnosticMagic, stageFault, fault.words⟩ :=
  congrArg (BootDiagnostic.mk bootDiagnosticMagic stageFault)
    (set_details diagnostic.details fault.exception fault.cfsr fault.hfsr fault.mmfar fault.bfar)

theorem foldl_panic {location : Option Location} (run : Returns (panic location) trace control)
    (diagnostic : BootDiagnostic) :
    trace.foldl BootDiagnostic.after diagnostic =
      ⟨bootDiagnosticMagic, stagePanic, (panicDetails location).words⟩ := by
  simp only [panic, perform_bind, writeReg_bind, pure_eq, Returns, run_act_iff, run_write_iff,
    run_ret_iff, reduceCtorEq, and_false, false_or] at run
  obtain ⟨_, rfl, _, rfl, _, rfl, _, rfl, _, rfl, _, rfl, _, rfl, _, rfl, rfl, -⟩ := run
  have reserved : (panicDetails location).reserved = 0 := by cases location <;> rfl
  rw [PanicDetails.words, reserved]
  exact congrArg (BootDiagnostic.mk bootDiagnosticMagic stagePanic)
    (set_details diagnostic.details (panicDetails location).line (panicDetails location).column
      (panicDetails location).filenameAddress (panicDetails location).filenameLength 0)

theorem yields_rustStart (symbols : Symbols) (currentSp : Address) (fuel : Nat) :
    (rustStart symbols currentSp fuel).Yields (· = .application) :=
  .after fun _ => .after fun _ => .after fun _ => rfl

end Handlers

section Runs

variable {first last machine machine' : Machine} {label : Label} {labels past : List Label}

theorem accesses_append (earlier later : List Label) :
    accesses (earlier ++ later) = accesses earlier ++ accesses later :=
  List.flatMap_append

/-- What holds of code that has not been cut off. -/
structure Uncut (first : Machine) (past : List Label) (machine : Machine) : Prop where
  run : Run first.code (accesses past) machine.code
  diagnostic :
    machine.diagnostic = (accesses past).foldl BootDiagnostic.after first.diagnostic
  ipsr : machine.ipsr = first.ipsr
  exception : ∀ value, .read .ipsr value ∈ accesses past → value = first.ipsr
  scb : (∀ scb, .hardware scb ∉ past) → machine.scb = first.scb ∧
    ∀ register value, .read (.scb register) value ∈ accesses past → value = first.scb register

theorem Uncut.start (machine : Machine) : Uncut machine [] machine where
  run := .nil _
  diagnostic := rfl
  ipsr := rfl
  exception _ member := by cases member
  scb _ := ⟨rfl, fun _ _ member => by cases member⟩

theorem Uncut.access {event : Access} {next : Code Control} (uncut : Uncut first past machine)
    (step : Program.Step machine.code event next) (answers : machine.Answers event) :
    Uncut first (past ++ [.access event])
      { machine with diagnostic := machine.diagnostic.after event, code := next } := by
  have extended : accesses (past ++ [.access event]) = accesses past ++ [event] :=
    accesses_append past _
  refine
    { run := ?_
      diagnostic := ?_
      ipsr := uncut.ipsr
      exception := fun value member => ?_
      scb := fun quiet => ?_ }
  · rw [extended]
    exact uncut.run.append (.cons step (.nil _))
  · rw [extended, List.foldl_append, ← uncut.diagnostic]
    rfl
  · rw [extended, List.mem_append, List.mem_singleton] at member
    rcases member with member | rfl
    · exact uncut.exception value member
    · exact answers.trans uncut.ipsr
  · obtain ⟨same, read⟩ := uncut.scb fun scb member => quiet scb (List.mem_append_left _ member)
    refine ⟨same, fun register value member => ?_⟩
    rw [extended, List.mem_append, List.mem_singleton] at member
    rcases member with member | rfl
    · exact read register value member
    · exact answers.trans (congrFun same register)

theorem Uncut.step (uncut : Uncut first past machine) (resumes : label.terminal = false)
    (taken : Step machine label machine') : Uncut first (past ++ [label]) machine' := by
  cases taken with
  | access step answers => exact uncut.access step answers
  | fault | panic => cases resumes
  | hardware scb =>
      have extended : accesses (past ++ [.hardware scb]) = accesses past := by
        rw [accesses_append]
        exact List.append_nil _
      refine
        { run := ?_
          diagnostic := ?_
          ipsr := uncut.ipsr
          exception := ?_
          scb := fun quiet => absurd (by simp) (quiet scb) }
      · rw [extended]
        exact uncut.run
      · rw [extended]
        exact uncut.diagnostic
      · rw [extended]
        exact uncut.exception

theorem Uncut.of_trace (trace : Trace Step first labels last)
    (resumes : ∀ label ∈ labels, label.terminal = false) : Uncut first labels last :=
  trace.invariant [] (Uncut first)
    (fun _ _ label _ member uncut taken => uncut.step (resumes label member) taken) (.start first)

/-- Code that nothing cuts off runs to its end. -/
theorem trace_of_run {trace : List Access} {code code' : Code Control} (run : Run code trace code')
    (same : machine.code = code) (answers : ∀ event ∈ trace, machine.Answers event) :
    Trace Step machine (trace.map .access)
      { machine with
        diagnostic := trace.foldl BootDiagnostic.after machine.diagnostic
        code := code' } := by
  induction run generalizing machine with
  | nil =>
      subst same
      exact .nil machine
  | cons step _ inductionHypothesis =>
      subst same
      refine .cons (.access step (answers _ List.mem_cons_self)) ?_
      exact inductionHypothesis rfl fun event member =>
        answers event (List.mem_cons_of_mem _ member)

/-- What the last entry leaves, given the labels after it. -/
def Recorded (record : BootDiagnostic) (later : List Label) : Label → Prop
  | .fault exception scb => ∃ fault : FaultDetails,
      accesses later = faultAccesses fault ∧ fault.exception = exception ∧
      ((∀ scb, .hardware scb ∉ later) →
        fault = ⟨exception, scb .cfsr, scb .hfsr, scb .mmfar, scb .bfar⟩) ∧
      record = ⟨bootDiagnosticMagic, stageFault, fault.words⟩
  | .panic location =>
      record = ⟨bootDiagnosticMagic, stagePanic, (panicDetails location).words⟩
  | .access _ | .hardware _ => False

theorem Uncut.recorded {entry : Label} (taken : Step first entry machine)
    (terminal : entry.terminal = true) (uncut : Uncut machine labels last)
    (parked : last.code = .ret .parked) : Recorded last.diagnostic labels entry := by
  have run := uncut.run
  rw [parked] at run
  cases taken with
  | access | hardware => cases terminal
  | panic location =>
      rw [Recorded, uncut.diagnostic]
      exact foldl_panic run _
  | fault exception scb =>
      obtain ⟨fault, whole⟩ := returns_faultEntry run
      have number : fault.exception = exception := by
        refine uncut.exception _ ?_
        rw [whole]
        simp [faultAccesses]
      refine ⟨fault, whole, number, fun quiet => ?_, ?_⟩
      · have read := (uncut.scb quiet).2
        have values : fault.cfsr = scb .cfsr ∧ fault.hfsr = scb .hfsr ∧
            fault.mmfar = scb .mmfar ∧ fault.bfar = scb .bfar := by
          rw [whole] at read
          exact ⟨read _ _ (by simp [faultAccesses]), read _ _ (by simp [faultAccesses]),
            read _ _ (by simp [faultAccesses]), read _ _ (by simp [faultAccesses])⟩
        obtain ⟨cfsr, hfsr, mmfar, bfar⟩ := values
        rw [← number, ← cfsr, ← hfsr, ← mmfar, ← bfar]
      · rw [uncut.diagnostic, whole]
        exact foldl_faultAccesses fault _

theorem entered {symbols : Symbols} {currentSp : Address} {fuel : Nat}
    (boot : first.code = rustStart symbols currentSp fuel)
    (trace : Trace Step first labels last) (parked : last.code = .ret .parked) :
    ∃ entry ∈ labels, entry.terminal = true := by
  by_contra none
  have uncut := Uncut.of_trace trace fun label member =>
    eq_false_of_ne_true fun terminal => none ⟨label, member, terminal⟩
  have run := uncut.run
  rw [boot, parked] at run
  cases (yields_rustStart symbols currentSp fuel).returned run

theorem record_whole {symbols : Symbols} {currentSp : Address} {fuel : Nat}
    (boot : first.code = rustStart symbols currentSp fuel)
    (trace : Trace Step first labels last) (parked : last.code = .ret .parked) :
    last.diagnostic.magic = bootDiagnosticMagic ∧
      (∃ entry ∈ labels, entry.terminal = true) ∧
      ∀ earlier entry later, labels = earlier ++ entry :: later → entry.terminal = true →
        (∀ label ∈ later, label.terminal = false) → Recorded last.diagnostic later entry := by
  have recorded : ∀ earlier entry later, labels = earlier ++ entry :: later →
      entry.terminal = true → (∀ label ∈ later, label.terminal = false) →
      Recorded last.diagnostic later entry := by
    rintro earlier entry later rfl terminal resumes
    obtain ⟨machine, -, rest⟩ := Trace.append_iff.mp trace
    cases rest with
    | cons taken rest => exact (Uncut.of_trace rest resumes).recorded taken terminal parked
  obtain ⟨entry, member, terminal⟩ := entered boot trace parked
  refine ⟨?_, ⟨entry, member, terminal⟩, recorded⟩
  obtain ⟨entry, later, earlier, resumes, terminal, split, -⟩ :=
    List.exists_of_eraseP (List.mem_reverse.mpr member) terminal
  have kept := recorded earlier.reverse entry later.reverse (by
    rw [← List.reverse_reverse labels, split]
    simp) terminal fun label member =>
      eq_false_of_ne_true (resumes label (List.mem_reverse.mp member))
  cases entry with
  | access | hardware => cases terminal
  | fault =>
      obtain ⟨_, -, -, -, record⟩ := kept
      rw [record]
  | panic =>
      have record : last.diagnostic = _ := kept
      rw [record]

/-- An NMI cuts off the capture of a hard fault. -/
theorem record_whole_nested : ∃ last : Machine,
    Recorded last.diagnostic ((faultAccesses ⟨2, 9, 9, 9, 9⟩).map .access)
      (.fault 2 fun _ => 9) := by
  have capture : Run faultEntry (faultAccesses ⟨2, 9, 9, 9, 9⟩) (.ret .parked) :=
    run_replay faultEntry [2, 9, 9, 9, 9]
  have trace : Trace Step
      ⟨⟨7, 7, #v[7, 7, 7, 7, 7]⟩, fun _ => 0, 0, rustStart ⟨0, 0, 0, 0, 0, 0⟩ 0 1⟩
      ([.fault 3 fun _ => 8, .access (.act .disableInterrupts), .access (.read .ipsr 3),
        .fault 2 fun _ => 9] ++ (faultAccesses ⟨2, 9, 9, 9, 9⟩).map .access) _ :=
    .cons (.fault _ 3 fun _ => 8) <|
      .cons (.access (.act Instruction.disableInterrupts _) trivial) <|
      .cons (.access (.read Register.ipsr _ 3) rfl) <|
      .cons (.fault _ 2 fun _ => 9) <|
      trace_of_run capture rfl (by simp [faultAccesses, Machine.Answers])
  exact ⟨_, (record_whole rfl trace rfl).2.2 [.fault 3 fun _ => 8,
    .access (.act .disableInterrupts), .access (.read .ipsr 3)] _ _ rfl rfl
      (by simp [Label.terminal])⟩

end Runs

end DirectLine.Firmware.Diagnostic
