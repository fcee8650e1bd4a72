import DirectLine.Firmware.Acquisition
import DirectLine.Firmware.Device
import DirectLine.Interaction.Process

/-!
# Power and clock requests

What the constructors of the drivers ask of the PRCM.  Each adds the bits it
needs to the shared words and loads the settings, so requests compose in any
order.
-/

namespace DirectLine.Firmware.Supply

open DirectLine.Interaction Acquisition

structure PowerControl where
  /-- The words as written last. -/
  words : Prcm → Word
  /-- The clock settings in force. -/
  active : Prcm → Word
  /-- `LOAD` has been written and the settings have not been taken over since. -/
  loading : Bool
  loadDone : Bool

namespace PowerControl

/-- Every clock setting is in force as written. -/
def Loaded (control : PowerControl) : Prop :=
  ∀ setting, isClock setting = true → control.active setting = control.words setting

/-- The effect of an access.  A domain may take its time to come up; writing a clock setting
clears `LOAD_DONE`. -/
def access (control : PowerControl) : Access → PowerControl → Prop
  | .read (.prcm .pdstat0) _, control' => control' = control
  | .read (.prcm .clkloadctl) value, control' =>
      control' = control ∧ Word.flag value Prcm.loadDone = control.loadDone
  | .read (.prcm setting) value, control' => control' = control ∧ value = control.words setting
  | .write (.prcm .pdstat0) _, control' => control' = control
  | .write (.prcm .clkloadctl) value, control' =>
      control' = { control with loading := control.loading || Word.flag value 0 }
  | .write (.prcm setting) value, control' =>
      control' =
        { control with
          words := Function.update control.words setting value
          loadDone := control.loadDone && !isClock setting }
  | _, control' => control' = control

/-- The clock control takes over the settings after a `LOAD`. -/
def Loads (control control' : PowerControl) : Prop :=
  control.loading = true ∧
    control' = { control with active := control.words, loading := false, loadDone := true }

/-- No bit is cleared, and the timers' divider is untouched. -/
structure Grows (control control' : PowerControl) : Prop where
  words : ∀ setting bit, (control.words setting).getLsbD bit = true →
    (control'.words setting).getLsbD bit = true
  divider : control'.words .gptclkdiv = control.words .gptclkdiv

theorem Grows.refl (control : PowerControl) : control.Grows control := ⟨fun _ _ set => set, rfl⟩

theorem Grows.of_eq {control control' : PowerControl} (same : control'.words = control.words) :
    control.Grows control' :=
  ⟨fun _ _ set => same ▸ set, congrFun same _⟩

theorem Grows.trans {first middle last : PowerControl} (one : first.Grows middle)
    (other : middle.Grows last) : first.Grows last :=
  ⟨fun setting bit set => other.words setting bit (one.words setting bit set),
    other.divider.trans one.divider⟩

end PowerControl

inductive Construction where
  | output (dio : Nat)
  | counter (gpt : Timer.Instance)
  | timer (gpt : Timer.Instance)
  | uart (block : Uart.Instance) (rxDio txDio : Nat) (baud : Word)

namespace Construction

def code : Construction → Driver Unit
  | .output dio => do
      let _ ← Gpio.configureOutput dio
      return ()
  | .counter gpt => do
      let _ ← Counter.initializeCounter gpt
      return ()
  | .timer gpt => do
      let _ ← Timer.initializeTimer gpt
      return ()
  | .uart block rxDio txDio baud => do
      let _ ← Uart.initializeUart block rxDio txDio baud
      return ()

def Valid : Construction → Prop
  | .output _ | .counter _ | .timer _ => True
  | .uart _ rxDio txDio baud =>
      rxDio < 32 ∧ txDio < 32 ∧ rxDio ≠ txDio ∧ (Uart.baudDivisors baud).isSome = true

def domain : Construction → Nat
  | .uart .uart0 _ _ _ => Prcm.serialOn
  | _ => Prcm.periphOn

def gate : Construction → Prcm
  | .output _ => .gpioclkgr
  | .counter _ | .timer _ => .gptclkgr
  | .uart _ _ _ _ => .uartclkgr

def clock : Construction → Word
  | .output _ => Word.bit 32 0
  | .counter gpt | .timer gpt => gpt.clockMask
  | .uart block _ _ _ => block.clockMask

/-- The bits that a construction needs in a word. -/
def needs (construction : Construction) (setting : Prcm) : Word :=
  (if setting = .pdctl0 then Word.bit 32 construction.domain else 0) |||
    (if setting = construction.gate then construction.clock else 0)

end Construction

def constructAll : List Construction → Driver Unit
  | [] => return ()
  | construction :: constructions => do
      construction.code
      constructAll constructions

/-- The union of the bits that the constructions need in a word. -/
def needed (constructions : List Construction) (setting : Prcm) : Word :=
  constructions.foldr (fun construction bits => construction.needs setting ||| bits) 0

/-- One context constructs the drivers, over the PRCM alone. -/
def constructing : Process Register Instruction Word PowerControl Unit where
  device := PowerControl.access
  rely := PowerControl.Loads
  next _ _ _ := False

def request (words : Prcm → Word) (setting : Prcm) (bits : Word) : Prcm → Word :=
  Function.update words setting (words setting ||| bits)

section Requests

variable {Result : Type} {words : Prcm → Word} {control control' : PowerControl} {setting : Prcm}
  {bits : Word}

/-- What holds between two accesses: the words are known, and `LOAD_DONE` can be trusted. -/
structure At (words : Prcm → Word) (control : PowerControl) : Prop where
  words : control.words = words
  done : control.loadDone = true → control.Loaded

abbrev supplying : Setting Register Instruction Word PowerControl :=
  constructing.setting fun control _ control' => control.Grows control'

theorem Loaded.loads (loads : control.Loads control') : control'.Loaded := by
  obtain ⟨-, rfl⟩ := loads
  exact fun _ _ => rfl

theorem stable_words (words : Prcm → Word) :
    supplying.Stable fun control => control.words = words := by
  rintro control control' same ⟨-, rfl⟩
  exact same

theorem stable_at (words : Prcm → Word) : supplying.Stable (At words) := by
  rintro control control' here loads
  exact ⟨stable_words words _ _ here.words loads, fun _ => Loaded.loads loads⟩

theorem stable_loaded (words : Prcm → Word) :
    supplying.Stable fun control => control.words = words ∧ control.Loaded := by
  rintro control control' ⟨same, -⟩ loads
  exact ⟨stable_words words _ _ same loads, Loaded.loads loads⟩

variable {post : Unit → PowerControl → Prop}

def Stops (message : String) : Prop :=
  message = "hardware handshake iteration budget exhausted" ∨
    message = "only DIO0–31 are supported"

abbrev Supplies (post : Result → PowerControl → Prop) (program : Driver Result)
    (control : PowerControl) : Prop :=
  supplying.Meets post (fun message _ => Stops message) program control

theorem grows_request (added : control'.words = request control.words setting bits)
    (other : setting ≠ .gptclkdiv) : control.Grows control' := by
  refine ⟨fun any bit set => ?_, ?_⟩
  · rw [added, request]
    by_cases same : any = setting
    · subst same
      rw [Function.update_self, BitVec.getLsbD_or, set, Bool.true_or]
    · rwa [Function.update_of_ne same]
  · rw [added, request, Function.update_of_ne (Ne.symm other)]

theorem meets_powerDomain {domain : Nat} (here : control.words = words)
    (posts : ∀ control, control.words = request words .pdctl0 (Word.bit 32 domain) →
      post () control) :
    Supplies post (Prcm.powerDomain domain) control := by
  simp only [Prcm.powerDomain, Program.readReg_bind, Program.writeReg_bind]
  refine .read (stable_words words) here fun control power control' here moved => ?_
  obtain ⟨rfl, rfl⟩ := moved
  rw [here]
  refine ⟨.refl _, .write (stable_words words) here fun control control' here moved => ?_⟩
  subst here
  have added : control'.words = request control.words .pdctl0 (Word.bit 32 domain) := by
    rw [show control' = _ from moved, request, Word.setFlag_true]
  refine ⟨grows_request added (by decide), ?_⟩
  refine meets_waitFor_register (.prcm .pdstat0) (fun value => Word.flag value domain)
    (stable_words _) (stable_words _) (fun control value control' here moved => ?_) posts
    (fun _ _ => .inl rfl) _ added
  obtain rfl : control' = control := moved
  exact ⟨.refl _, by split <;> exact here⟩

theorem meets_applyClockSettings (here : At words control)
    (posts : ∀ control, control.words = words → control.Loaded → post () control) :
    Supplies post Prcm.applyClockSettings control := by
  simp only [Prcm.applyClockSettings, Program.writeReg_bind]
  refine .write (stable_at words) here fun control control' here moved => ?_
  obtain rfl : control' = _ := moved
  refine ⟨.of_eq rfl, ?_⟩
  refine meets_waitFor_register (.prcm .clkloadctl) (fun value => Word.flag value Prcm.loadDone)
    (stable_at words) (stable_loaded words) (fun control value control' here moved => ?_)
    (fun control loaded => posts control loaded.1 loaded.2) (fun _ _ => .inl rfl) _
    ⟨here.words, here.done⟩
  obtain ⟨rfl, answer⟩ := moved
  refine ⟨.refl _, ?_⟩
  split
  · rename_i done
    exact ⟨here.words, here.done (answer.symm.trans done)⟩
  · exact here

theorem meets_gate {added : Word → Word} (clock : isClock setting = true)
    (other : setting ≠ .gptclkdiv) (adds : added (words setting) = words setting ||| bits)
    (here : control.words = words)
    (posts : ∀ control, control.words = request words setting bits → control.Loaded →
      post () control) :
    Supplies post
      (.read (.prcm setting) fun clocks =>
        .write (.prcm setting) (added clocks) Prcm.applyClockSettings) control := by
  refine .read (stable_words words) here fun control clocks control' here moved => ?_
  obtain ⟨rfl, rfl⟩ : control' = control ∧ clocks = control.words setting := by
    cases setting <;> first | exact moved | cases clock
  rw [here]
  refine ⟨.refl _, .write (stable_words words) here fun control control' here moved => ?_⟩
  obtain rfl : control' =
      { control with
        words := Function.update control.words setting (added (words setting))
        loadDone := false } := by
    cases setting <;>
      first | exact moved.trans (by rw [clock, Bool.not_true, Bool.and_false]) | cases clock
  subst here
  have requested : Function.update control.words setting (added (control.words setting)) =
      request control.words setting bits := by
    rw [request, adds]
  exact ⟨grows_request requested other, meets_applyClockSettings ⟨requested, nofun⟩ posts⟩

theorem meets_enableClocks {mask : Word} {message : String} (clock : isClock setting = true)
    (other : setting ≠ .gptclkdiv) (inside : (mask &&& ~~~0xf == 0) = true)
    (here : control.words = words)
    (posts : ∀ control, control.words = request words setting mask → control.Loaded →
      post () control) :
    Supplies post (Prcm.enableClocks setting mask message) control := by
  simp only [Prcm.enableClocks, inside, Program.assert_true, Program.ret_bind,
    Program.readReg_bind, Program.writeReg_bind]
  exact meets_gate clock other (Word.setField_field_or _ _ (eq_of_beq inside)) here posts

theorem meets_enableGpioClock (here : control.words = words)
    (posts : ∀ control, control.words = request words .gpioclkgr (Word.bit 32 0) →
      control.Loaded → post () control) :
    Supplies post Prcm.enableGpioClock control := by
  simp only [Prcm.enableGpioClock, Program.readReg_bind, Program.writeReg_bind]
  exact meets_gate rfl nofun (Word.setFlag_true _ 0) here posts

end Requests

end DirectLine.Firmware.Supply
