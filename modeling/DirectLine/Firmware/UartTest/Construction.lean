import DirectLine.Firmware.Supply.Constructions
import DirectLine.Firmware.UartTest.Exchange

/-!
# The configuration of the UART test

The UART with the PRCM, its power domains and the pins.  Whatever the clock
gates and the pins held before, the registers read back after the configuration
are those the test expects, and the domains that are up are those requested.
-/

namespace DirectLine.Firmware.UartTest

open DirectLine.Interaction DirectLine.Interaction.Program Uart Line
open Supply (PowerControl)

@[ext] structure Rig where
  control : PowerControl
  status : Word
  pads : Nat → Word
  line : Line

def padAccess (pads : Nat → Word) : Access → (Nat → Word) → Prop
  | .read (.iocfg dio) value, pads' => pads' = pads ∧ value = pads dio
  | .write (.iocfg dio) value, pads' => pads' = Function.update pads dio value
  | _, pads' => pads' = pads

namespace Rig

structure Moves (uart : Uart) (depth : Nat) (rig : Rig) (access : Access) (rig' : Rig) : Prop where
  control : rig.control.access access rig'.control
  status : rig'.status = rig.status
  shown : ∀ value, access = .read (.prcm .pdstat0) value → value = rig.status
  pads : padAccess rig.pads access rig'.pads
  line : rig.line.access uart.registers depth access rig'.line

/-- Each domain keeps its status or follows the request. -/
def Follows (rig : Rig) (status : Word) : Prop :=
  ∀ domain, Word.flag status domain = Word.flag rig.status domain ∨
    Word.flag status domain = Word.flag (rig.control.words .pdctl0) domain

inductive Disturbs (depth : Nat) : Rig → Rig → Prop where
  | control {rig : Rig} {control : PowerControl} : rig.control.Loads control →
      Disturbs depth rig { rig with control := control }
  | status {rig : Rig} {status : Word} : rig.Follows status →
      Disturbs depth rig { rig with status := status }
  | line {rig : Rig} {line : Line} : rig.line.Shifts depth line →
      Disturbs depth rig { rig with line := line }

/-- The domains that the drivers request are up if they have been requested. -/
def Rested (rig : Rig) : Prop :=
  ∀ domain ∈ [Prcm.serialOn, Prcm.periphOn],
    Word.flag rig.status domain = Word.flag (rig.control.words .pdctl0) domain

end Rig

def testing (uart : Uart) (depth : Nat) : Process Register Instruction Word Rig Unit where
  device := Rig.Moves uart depth
  rely := Rig.Disturbs depth
  next _ _ _ := False

abbrev tested (uart : Uart) (depth : Nat) : Setting Register Instruction Word Rig :=
  (testing uart depth).setting fun _ _ _ => True

section Configuration

variable {Result : Type} {uart : Uart} {depth : Nat} {rig : Rig} {post : Result → Rig → Prop}
variable {words : Prcm → Word} {pads : Nat → Word} {known : Line → Prop}

/-- A contract of which a lack of progress and a character that outlives a flush excuse the
failures. -/
abbrev Tests (uart : Uart) (depth : Nat) (post : Result → Rig → Prop) (program : Driver Result)
    (rig : Rig) : Prop :=
  (tested uart depth).Meets post (fun message rig => Excused message ∨ rig.line.caught = true)
    program rig

/-- What is known between two accesses. -/
structure At (words : Prcm → Word) (pads : Nat → Word) (known : Line → Prop) (rig : Rig) :
    Prop where
  words : rig.control.words = words
  rested : rig.Rested
  pads : rig.pads = pads
  line : known rig.line

theorem stable_at (stable : (serial uart depth).Stable known) :
    (tested uart depth).Stable (At words pads known) := by
  intro rig rig' here step
  cases step with
  | control loads =>
      obtain ⟨-, rfl⟩ := loads
      exact { here with }
  | status follows =>
      refine { here with rested := fun domain member => ?_ }
      rcases follows domain with kept | requested
      · exact kept.trans (here.rested domain member)
      · exact requested
  | line shifts => exact { here with line := stable _ _ here.line shifts }

theorem At.kept {rig' : Rig} (here : At words pads known rig)
    (control : rig'.control.words = rig.control.words) (status : rig'.status = rig.status)
    (padded : rig'.pads = rig.pads) (line : rig'.line = rig.line) :
    At words pads known rig' where
  words := control.trans here.words
  rested domain member := by
    rw [status, control]
    exact here.rested domain member
  pads := padded.trans here.pads
  line := line ▸ here.line

/-- The settings of the PRCM, which read as they were written. -/
def isSetting : Prcm → Bool
  | .pdstat0 | .clkloadctl => false
  | .pdctl0 | .gpioclkgr | .gptclkgr | .uartclkgr | .gptclkdiv => true

theorem words_written {setting : Prcm} {value : Word} {control control' : PowerControl}
    (kept : isSetting setting = true)
    (moved : control.access (.write (.prcm setting) value) control') :
    control'.words = Function.update control.words setting value := by
  cases setting with
  | pdstat0 | clkloadctl => cases kept
  | pdctl0 | gpioclkgr | gptclkgr | uartclkgr | gptclkdiv =>
      rw [show control' = _ from moved]

theorem words_loaded {value : Word} {control control' : PowerControl}
    (moved : control.access (.write (.prcm .clkloadctl) value) control') :
    control'.words = control.words := by
  rw [show control' = _ from moved]

theorem tests_read_prcm {setting : Prcm} {next : Word → Driver Result}
    (kept : isSetting setting = true) (stable : (serial uart depth).Stable known)
    (here : At words pads known rig)
    (rest : ∀ rig, At words pads known rig → Tests uart depth post (next (words setting)) rig) :
    Tests uart depth post (.read (.prcm setting) next) rig := by
  refine .read (stable_at stable) here fun rig value rig' here moved => ⟨trivial, ?_⟩
  obtain ⟨control, rfl⟩ : rig'.control = rig.control ∧ value = rig.control.words setting := by
    have control := moved.control
    cases setting with
    | pdstat0 | clkloadctl => cases kept
    | pdctl0 | gpioclkgr | gptclkgr | uartclkgr | gptclkdiv => exact control
  obtain rfl : rig' = rig := Rig.ext control moved.status moved.pads moved.line
  rw [here.words]
  exact rest rig' here

theorem tests_read_status {next : Word → Driver Result} (stable : (serial uart depth).Stable known)
    (here : At words pads known rig)
    (rest : ∀ status rig,
      (∀ domain ∈ [Prcm.serialOn, Prcm.periphOn],
        Word.flag status domain = Word.flag (words .pdctl0) domain) →
      At words pads known rig → Tests uart depth post (next status) rig) :
    Tests uart depth post (.read (.prcm .pdstat0) next) rig := by
  refine .read (stable_at stable) here fun rig status rig' here moved => ⟨trivial, ?_⟩
  obtain rfl : rig' = rig := Rig.ext moved.control moved.status moved.pads moved.line
  refine rest status rig' (fun domain member => ?_) here
  rw [moved.shown status rfl, ← here.words]
  exact here.rested domain member

theorem tests_write_prcm {setting : Prcm} {value : Word} {next : Driver Result}
    (clock : Acquisition.isClock setting = true) (stable : (serial uart depth).Stable known)
    (here : At words pads known rig)
    (rest : ∀ rig, At (Function.update words setting value) pads known rig →
      Tests uart depth post next rig) :
    Tests uart depth post (.write (.prcm setting) value next) rig := by
  refine .write (stable_at stable) here fun rig rig' here moved => ⟨trivial, rest rig' ?_⟩
  have control := words_written (by cases setting <;> first | rfl | cases clock) moved.control
  have other : Prcm.pdctl0 ≠ setting := by
    rintro rfl
    cases clock
  obtain ⟨rfl, rested, rfl, line⟩ := here
  refine ⟨control, fun domain member => ?_, moved.pads, ?_⟩
  · rw [moved.status, control, Function.update_of_ne other]
    exact rested domain member
  · have same : rig'.line = rig.line := moved.line
    exact same ▸ line

theorem tests_write_load {value : Word} {next : Driver Result}
    (stable : (serial uart depth).Stable known) (here : At words pads known rig)
    (rest : ∀ rig, At words pads known rig → Tests uart depth post next rig) :
    Tests uart depth post (.write (.prcm .clkloadctl) value next) rig := by
  refine .write (stable_at stable) here fun rig rig' here moved => ⟨trivial, rest rig' ?_⟩
  exact here.kept (words_loaded moved.control) moved.status moved.pads moved.line

theorem tests_read_pad {dio : Nat} {next : Word → Driver Result}
    (stable : (serial uart depth).Stable known) (here : At words pads known rig)
    (rest : ∀ rig, At words pads known rig → Tests uart depth post (next (pads dio)) rig) :
    Tests uart depth post (.read (.iocfg dio) next) rig := by
  refine .read (stable_at stable) here fun rig value rig' here moved => ⟨trivial, ?_⟩
  obtain ⟨padded, rfl⟩ : rig'.pads = rig.pads ∧ value = rig.pads dio := moved.pads
  obtain rfl : rig' = rig := Rig.ext moved.control moved.status padded moved.line
  rw [here.pads]
  exact rest rig' here

theorem tests_write_pad {dio : Nat} {value : Word} {next : Driver Result}
    (stable : (serial uart depth).Stable known) (here : At words pads known rig)
    (rest : ∀ rig, At words (Function.update pads dio value) known rig →
      Tests uart depth post next rig) :
    Tests uart depth post (.write (.iocfg dio) value next) rig := by
  refine .write (stable_at stable) here fun rig rig' here moved => ⟨trivial, rest rig' ?_⟩
  have control : rig'.control = rig.control := moved.control
  have padded : rig'.pads = Function.update rig.pads dio value := moved.pads
  have kept : At words rig.pads known { rig' with pads := rig.pads } :=
    { here with pads := rfl }.kept (congrArg _ control) moved.status rfl moved.line
  exact { kept with pads := padded.trans (congrArg (Function.update · dio value) here.pads) }

theorem framed_line :
    (tested uart depth).Framed (serial uart depth) Rig.line (fun _ => True) fun _ => True where
  device _ _ _ _ _ moved := ⟨moved.line, trivial⟩
  rely rig rig' _ step := by
    cases step with
    | control | status => exact ⟨.refl, trivial⟩
    | line shifts => exact ⟨.single shifts, trivial⟩
  guarantee _ _ _ _ _ _ _ := trivial

theorem tests_read_uart {register : UartRegister} {value : Word} {next : Word → Driver Result}
    (kept : readable register = true) (stable : (serial uart depth).Stable known)
    (shown : ∀ line, known line → line.words register = value) (here : At words pads known rig)
    (rest : ∀ rig, At words pads known rig → Tests uart depth post (next value) rig) :
    Tests uart depth post (.read (.uart uart.registers register) next) rig := by
  refine .read (stable_at stable) here fun rig reading rig' here moved => ⟨trivial, ?_⟩
  obtain ⟨line, rfl⟩ := read_eq kept moved.line
  obtain rfl : rig' = rig := Rig.ext moved.control moved.status moved.pads line
  rw [shown _ here.line]
  exact rest rig' here

theorem tests_write_uart {register : UartRegister} {value : Word} {next : Driver Result}
    {known' : Line → Prop} (stable : (serial uart depth).Stable known)
    (writes : ∀ line, known line → known' (line.write depth value register))
    (here : At words pads known rig)
    (rest : ∀ rig, At words pads known' rig → Tests uart depth post next rig) :
    Tests uart depth post (.write (.uart uart.registers register) value next) rig := by
  refine .write (stable_at stable) here fun rig rig' here moved => ⟨trivial, rest rig' ?_⟩
  have control : rig'.control = rig.control := moved.control
  have kept : At words pads known { rig' with line := rig.line } :=
    here.kept (congrArg _ control) moved.status moved.pads rfl
  exact { kept with line := write_eq moved.line ▸ writes _ here.line }

/-- One of the domains has been requested and may still be down. -/
structure Rising (domain : Nat) (words : Prcm → Word) (pads : Nat → Word) (known : Line → Prop)
    (rig : Rig) : Prop where
  rested : ∀ other ∈ [Prcm.serialOn, Prcm.periphOn], other ≠ domain →
    Word.flag rig.status other = Word.flag (words .pdctl0) other
  requested : Word.flag (words .pdctl0) domain = true
  words : rig.control.words = words
  pads : rig.pads = pads
  line : known rig.line

theorem stable_rising {domain : Nat} (stable : (serial uart depth).Stable known) :
    (tested uart depth).Stable (Rising domain words pads known) := by
  intro rig rig' rising step
  cases step with
  | control loads =>
      obtain ⟨-, rfl⟩ := loads
      exact { rising with }
  | status follows =>
      refine { rising with rested := fun other member apart => ?_ }
      rcases follows other with kept | requested
      · exact kept.trans (rising.rested other member apart)
      · rw [rising.words] at requested
        exact requested
  | line shifts => exact { rising with line := stable _ _ rising.line shifts }

def requesting (words : Prcm → Word) (domain : Nat) : Prcm → Word :=
  Function.update words .pdctl0 (Word.setFlag (words .pdctl0) domain true)

theorem flag_requesting {domain other : Nat} (small : other < 32) :
    Word.flag (requesting words domain .pdctl0) other =
      (Word.flag (words .pdctl0) other || decide (other = domain)) := by
  rw [requesting, Function.update_self, Word.flag, Word.getLsbD_setFlag]
  by_cases same : other = domain
  · rw [if_pos same]
    simp [same ▸ small, same]
  · simp [same, Word.flag]

theorem tests_powerDomain {domain : Nat} (small : domain < 32)
    (stable : (serial uart depth).Stable known) (here : At words pads known rig) :
    Tests uart depth (fun _ => At (requesting words domain) pads known)
      (Prcm.powerDomain domain) rig := by
  simp only [Prcm.powerDomain, readReg_bind, writeReg_bind]
  refine tests_read_prcm rfl stable here fun rig here => ?_
  refine .write (stable_at stable) here fun rig rig' here moved => ⟨trivial, ?_⟩
  have control := words_written rfl moved.control
  have line : rig'.line = rig.line := moved.line
  have requested : Word.flag (requesting words domain .pdctl0) domain = true := by
    rw [flag_requesting small, decide_eq_true rfl, Bool.or_true]
  have rising : Rising domain (requesting words domain) pads known rig' := by
    refine ⟨fun other member apart => ?_, requested, ?_, ?_, line ▸ here.line⟩
    · have otherSmall : other < 32 := by
        rcases List.mem_pair.mp member with rfl | rfl <;> decide
      rw [flag_requesting otherSmall, decide_eq_false apart, Bool.or_false, moved.status,
        here.rested other member, here.words]
    · rw [control, here.words]
      rfl
    · exact (show rig'.pads = rig.pads from moved.pads).trans here.pads
  refine meets_waitFor_register (.prcm .pdstat0) (fun value => Word.flag value domain)
    (stable_rising stable) (stable_at stable) (fun rig value rig' rising moved => ⟨trivial, ?_⟩)
    (fun _ here => here) (fun _ _ => .inl .budget) _ rising
  obtain rfl : rig' = rig := Rig.ext moved.control moved.status moved.pads moved.line
  obtain rfl := moved.shown value rfl
  cases shown : Word.flag rig'.status domain with
  | false => exact rising
  | true =>
      refine ⟨rising.words, fun other member => ?_, rising.pads, rising.line⟩
      rw [rising.words]
      by_cases same : other = domain
      · rw [same, shown, rising.requested]
      · exact rising.rested other member same

theorem tests_applyClockSettings (stable : (serial uart depth).Stable known)
    (here : At words pads known rig) :
    Tests uart depth (fun _ => At words pads known) Prcm.applyClockSettings rig := by
  simp only [Prcm.applyClockSettings, writeReg_bind]
  refine tests_write_load stable here fun rig here => ?_
  refine meets_waitFor_register (.prcm .clkloadctl) (fun value => Word.flag value Prcm.loadDone)
    (stable_at stable) (stable_at stable) (fun rig value rig' here moved => ⟨trivial, ?_⟩)
    (fun _ here => here) (fun _ _ => .inl .budget) _ here
  obtain ⟨control, -⟩ : rig'.control = rig.control ∧ _ := moved.control
  obtain rfl : rig' = rig := Rig.ext control moved.status moved.pads moved.line
  split <;> exact here

def gating (words : Prcm → Word) (gate : Prcm) (mask : Word) : Prcm → Word :=
  Function.update words gate
    (Word.setField (words gate) 0 Prcm.clkEnWidth
      (Word.field (words gate) 0 Prcm.clkEnWidth ||| mask))

theorem tests_enableClocks {gate : Prcm} {mask : Word} {message : String}
    (clock : Acquisition.isClock gate = true) (inside : (mask &&& ~~~0xf == 0) = true)
    (stable : (serial uart depth).Stable known) (here : At words pads known rig) :
    Tests uart depth (fun _ => At (gating words gate mask) pads known)
      (Prcm.enableClocks gate mask message) rig := by
  simp only [Prcm.enableClocks, inside, assert_true, ret_bind, readReg_bind, writeReg_bind]
  refine tests_read_prcm (by cases gate <;> first | rfl | cases clock) stable here
    fun rig here => ?_
  exact tests_write_prcm clock stable here fun rig here => tests_applyClockSettings stable here

theorem stable_unused {file : UartRegister → Word} : (serial uart depth).Stable (Unused file) :=
  fun _ _ unused shifts => absurd shifts unused.still

section Uart

variable {block : Uart.Instance} {baud : Word} {divisors : Word × Word}
variable {file : UartRegister → Word}

def domain : Uart.Instance → Nat
  | .uart0 => Prcm.serialOn
  | .uart1 | .uart2 | .uart3 => Prcm.periphOn

theorem enablePower_eq (block : Uart.Instance) :
    block.enablePower = Prcm.powerDomain (domain block) := by
  cases block <;> rfl

theorem domain_lt (block : Uart.Instance) : domain block < 32 := by
  cases block <;> decide

/-- The pins once the constructor has routed them. -/
def routed (pads : Nat → Word) (ports : Word × Word) : Nat → Word :=
  Function.update
    (Function.update pads rxDio
      (Ioc.setIe (Ioc.setPullCtl (Ioc.setPortId 0 ports.1) Ioc.noPull) true))
    txDio (Ioc.setPullCtl (Ioc.setPortId 0 ports.2) Ioc.noPull)

def formatted (file : UartRegister → Word) (divisors : Word × Word) : UartRegister → Word :=
  [(UartRegister.ctl, 0), (.lcrh, 0), (.dmactl, 0), (.imsc, 0), (.ibrd, divisors.1),
    (.fbrd, divisors.2), (.lcrh, format)].foldl
    (fun file setting => Function.update file setting.1 setting.2) file

def configured (file : UartRegister → Word) (divisors : Word × Word) : UartRegister → Word :=
  Function.update (formatted file divisors) .ctl control

theorem tests_write_setting {register : UartRegister} {value : Word} {next : Driver Result}
    (kept : readable register = true)
    (off : register = .ctl → Word.flag value ctlUarten = false)
    (here : At words pads (Unused file) rig)
    (rest : ∀ rig, At words pads (Unused (Function.update file register value)) rig →
      Tests uart depth post next rig) :
    Tests uart depth post (.write (.uart uart.registers register) value next) rig :=
  tests_write_uart stable_unused (fun _ unused => unused.write kept off) here rest

theorem tests_configureUart (here : At words pads (Unused file) rig) :
    Tests uart depth (fun _ => At words pads (Programmed (configured file divisors)))
      (configureUart uart.registers divisors) rig := by
  simp only [configureUart, writeReg_bind]
  refine tests_write_setting rfl (fun _ => by decide) here fun rig here => ?_
  refine tests_write_setting rfl (absurd · (by decide)) here fun rig here => ?_
  refine tests_write_setting rfl (absurd · (by decide)) here fun rig here => ?_
  refine tests_write_setting rfl (absurd · (by decide)) here fun rig here => ?_
  refine tests_write_setting rfl (absurd · (by decide)) here fun rig here => ?_
  refine tests_write_setting rfl (absurd · (by decide)) here fun rig here => ?_
  refine tests_write_setting rfl (absurd · (by decide)) here fun rig here => ?_
  have enabled (line : Line) (unused : Unused (formatted file divisors) line) :
      Programmed (configured file divisors) (line.write depth control .ctl) :=
    unused.toProgrammed.write rfl
  refine tests_write_uart stable_unused enabled here fun rig here => ?_
  exact .ret (stable_at stable_programmed) here fun _ here => here

def supplied (words : Prcm → Word) (block : Uart.Instance) : Prcm → Word :=
  gating (requesting words (domain block)) .uartclkgr block.clockMask

theorem tests_initializeUart (accepted : baudDivisors baud = some divisors)
    (here : At words pads (Unused file) rig) :
    Tests ⟨block.registers⟩ depth
      (fun result rig => result = .ok ⟨block.registers⟩ ∧
        At (supplied words block) (routed pads block.ports)
          (Programmed (configured file divisors)) rig)
      (initializeUart block rxDio txDio baud) rig := by
  have distinct : (rxDio != txDio) = true := by decide
  have pins (dio : Nat) (valid : dio < 32) : Ioc.config dio = .ret (.iocfg dio) := by
    rw [Ioc.config, decide_eq_true valid, assert_true, ret_bind, pure_eq]
  simp only [initializeUart, accepted, pins rxDio (by decide), pins txDio (by decide), distinct,
    assert_true, ret_bind, writeReg_bind, enablePower_eq]
  apply (tests_powerDomain (domain_lt block) stable_unused here).andThen
  intro _ rig here
  apply (tests_enableClocks rfl (by cases block <;> decide) stable_unused here).andThen
  intro _ rig here
  refine tests_write_pad stable_unused here fun rig here => ?_
  refine tests_write_pad stable_unused here fun rig here => ?_
  apply (tests_configureUart here).andThen
  intro _ rig here
  exact .ret (stable_at stable_programmed) here fun _ here => ⟨rfl, here⟩

theorem tests_check_uart {register : UartRegister} {value : Word} {check : Word → Driver Unit}
    {after : Unit → Driver Result} (kept : readable register = true)
    (shown : ∀ line, known line → line.words register = value) (passes : check value = .ret ())
    (stable : (serial uart depth).Stable known) (here : At words pads known rig)
    (rest : ∀ rig, At words pads known rig → Tests uart depth post (after ()) rig) :
    Tests uart depth post
      (.read (.uart uart.registers register) fun value => check value >>= after) rig := by
  refine tests_read_uart kept stable shown here fun rig here => ?_
  rw [passes, ret_bind]
  exact rest rig here

theorem tests_check_pad {dio : Nat} {check : Word → Driver Unit} {after : Unit → Driver Result}
    (passes : check (pads dio) = .ret ()) (stable : (serial uart depth).Stable known)
    (here : At words pads known rig)
    (rest : ∀ rig, At words pads known rig → Tests uart depth post (after ()) rig) :
    Tests uart depth post (.read (.iocfg dio) fun value => check value >>= after) rig := by
  refine tests_read_pad stable here fun rig here => ?_
  rw [passes, ret_bind]
  exact rest rig here

def initialState (words : Prcm → Word) (pads : Nat → Word) : List Word :=
  [words .pdctl0, words .uartclkgr, pads rxDio, pads txDio]

theorem tests_initializationState (stable : (serial uart depth).Stable known)
    (here : At words pads known rig) :
    Tests uart depth (fun state rig => state = initialState words pads ∧ At words pads known rig)
      initializationState rig := by
  simp only [initializationState, readReg_bind]
  refine tests_read_prcm rfl stable here fun rig here => ?_
  refine tests_read_prcm rfl stable here fun rig here => ?_
  refine tests_read_pad stable here fun rig here => ?_
  refine tests_read_pad stable here fun rig here => ?_
  exact .ret (stable_at stable) here fun _ here => ⟨rfl, here⟩

theorem tests_refuse (stable : (serial uart depth).Stable known) (bauds : List Word)
    (refused : ∀ baud ∈ bauds, baudDivisors baud = none) (here : At words pads known rig) :
    Tests uart depth (fun _ => At words pads known)
      (refuse block (initialState words pads) bauds) rig := by
  induction bauds generalizing rig with
  | nil => exact .ret (stable_at stable) here fun _ here => here
  | cons baud bauds inductionHypothesis =>
      have none : initializeUart block rxDio txDio baud = .ret (.error ⟨⟩) := by
        rw [initializeUart, refused baud List.mem_cons_self]
        rfl
      rw [refuse, none, ret_bind]
      apply (tests_initializationState stable here).andThen
      rintro _ rig ⟨rfl, here⟩
      rw [assertEqual_self]
      exact inductionHypothesis (fun other member => refused other (List.mem_cons_of_mem _ member))
        here

theorem field_clockMask (block : Uart.Instance) :
    Word.field block.clockMask 0 Prcm.clkEnWidth = Word.bit 32 block.index := by
  cases block <;> decide

theorem field_supplied (words : Prcm → Word) (block : Uart.Instance) :
    Word.field (supplied words block .uartclkgr) 0 Prcm.clkEnWidth =
      Word.field (words .uartclkgr) 0 Prcm.clkEnWidth ||| Word.bit 32 block.index := by
  have inside : block.clockMask &&& ~~~Word.mask 32 0 Prcm.clkEnWidth = 0 := by
    cases block <;> decide
  have unrequested : requesting words (domain block) .uartclkgr = words .uartclkgr :=
    Function.update_of_ne (by decide) _ _
  rw [supplied, gating, Function.update_self, unrequested, Word.setField_field_or _ _ inside,
    Word.field_or, field_clockMask]

theorem flag_supplied {other : Nat} (small : other < 32) :
    Word.flag (supplied words block .pdctl0) other =
      (Word.flag (words .pdctl0) other || decide (other = domain block)) := by
  rw [supplied, gating, Function.update_of_ne (by decide), flag_requesting small]

section Selected

variable {index : Fin 4}

abbrev handle (index : Fin 4) : Uart := ⟨(selection index).uart.registers⟩

theorem accepted (index : Fin 4) :
    baudDivisors (selection index).baud = some (selection index).divisors := by
  revert index
  decide

theorem tests_powerUp (here : At words pads (Unused file) rig) :
    Tests (handle index) depth
      (fun uart rig => uart = handle index ∧
        At (supplied words (selection index).uart) (routed pads (selection index).uart.ports)
          (Programmed (configured file (selection index).divisors)) rig)
      (powerUp (selection index)) rig := by
  simp only [powerUp, clkEn, readReg_bind, read_bind, pure_eq, ret_bind]
  refine tests_read_status stable_unused here fun before rig shownBefore here => ?_
  refine tests_read_prcm rfl stable_unused here fun rig here => ?_
  apply (tests_initializeUart (accepted index) here).andThen
  rintro _ rig ⟨rfl, here⟩
  rw [unwrapUart, pure_eq, ret_bind]
  refine tests_read_status stable_programmed here fun status rig shown here => ?_
  have serial : Word.flag status Prcm.serialOn =
      (Word.flag before Prcm.serialOn || decide ((selection index).uart = .uart0)) := by
    rw [shown _ (by decide), shownBefore _ (by decide), flag_supplied (by decide)]
    cases (selection index).uart <;> rfl
  have periph : Word.flag status Prcm.periphOn =
      (Word.flag before Prcm.periphOn || decide ((selection index).uart ≠ .uart0)) := by
    rw [shown _ (by decide), shownBefore _ (by decide), flag_supplied (by decide)]
    cases (selection index).uart <;> rfl
  rw [serial, assertEqual_self, periph, assertEqual_self]
  refine tests_read_prcm rfl stable_programmed here fun rig here => ?_
  rw [field_supplied, assertEqual_self]
  exact .ret (stable_at stable_programmed) here fun _ here => ⟨rfl, here⟩

theorem routed_rx (pads : Nat → Word) (ports : Word × Word) :
    routed pads ports rxDio =
      Ioc.setIe (Ioc.setPullCtl (Ioc.setPortId 0 ports.1) Ioc.noPull) true := by
  rw [routed, Function.update_of_ne (by decide), Function.update_self]

theorem routed_tx (pads : Nat → Word) (ports : Word × Word) :
    routed pads ports txDio = Ioc.setPullCtl (Ioc.setPortId 0 ports.2) Ioc.noPull :=
  Function.update_self _ _ _

theorem routed_checked (index : Fin 4) :
    let rx := Ioc.setIe (Ioc.setPullCtl (Ioc.setPortId 0 (selection index).uart.ports.1) Ioc.noPull)
      true
    let tx := Ioc.setPullCtl (Ioc.setPortId 0 (selection index).uart.ports.2) Ioc.noPull
    portId rx = (selection index).ports.1 ∧ portId tx = (selection index).ports.2 ∧
      ie rx = true ∧ ie tx = false ∧ pullCtl rx = 3 ∧ pullCtl tx = 3 := by
  revert index
  decide

theorem divisors_checked (index : Fin 4) :
    Word.field (selection index).divisors.1 0 16 = (selection index).divisors.1 ∧
      Word.field (selection index).divisors.2 0 6 = (selection index).divisors.2 := by
  revert index
  decide

theorem tests_checkRegisters
    (here : At words (routed pads (selection index).uart.ports)
      (Programmed (configured file (selection index).divisors)) rig) :
    Tests (handle index) depth
      (fun _ => At words (routed pads (selection index).uart.ports)
        (Programmed (configured file (selection index).divisors)))
      (checkRegisters (selection index)) rig := by
  obtain ⟨rxPort, txPort, rxInput, txInput, rxPull, txPull⟩ := routed_checked index
  obtain ⟨integer, fraction⟩ := divisors_checked index
  have known (register : UartRegister) (line : Line)
      (programmed : Programmed (configured file (selection index).divisors) line) :
      line.words register = configured file (selection index).divisors register :=
    congrFun programmed.words register
  simp only [checkRegisters, readReg_bind]
  refine tests_check_uart rfl (known .ibrd) (if_pos integer) stable_programmed here
    fun rig here => ?_
  refine tests_check_uart rfl (known .fbrd) (if_pos fraction) stable_programmed here
    fun rig here => ?_
  rw [← routed_rx pads] at rxPort rxInput rxPull
  rw [← routed_tx pads] at txPort txInput txPull
  refine tests_check_pad (if_pos rxPort) stable_programmed here fun rig here => ?_
  refine tests_check_pad (if_pos txPort) stable_programmed here fun rig here => ?_
  refine tests_check_pad (if_pos rxInput) stable_programmed here fun rig here => ?_
  refine tests_check_pad (if_pos (congrArg not txInput)) stable_programmed here fun rig here => ?_
  refine tests_check_pad (if_pos rxPull) stable_programmed here fun rig here => ?_
  refine tests_check_pad (if_pos txPull) stable_programmed here fun rig here => ?_
  have fifos : format = BitVec.ofNat 32 (3 <<< 5 ||| 1 <<< 4) := by decide
  refine tests_check_uart rfl (known .lcrh) (if_pos fifos) stable_programmed here fun rig here => ?_
  refine tests_check_uart rfl (known .imsc) (if_pos rfl) stable_programmed here fun rig here => ?_
  refine tests_read_uart rfl stable_programmed (known .dmactl) here fun rig here => ?_
  exact .ret (stable_at stable_programmed) here fun _ here => here

end Selected

end Uart

end Configuration

end DirectLine.Firmware.UartTest
