import DirectLine.Firmware.Acquisition

/-!
# The order of board acquisition

Contracts of the constructors over the summary of what has been prepared.  Each
may only access what is powered and clocked, keeps what earlier constructors
prepared, and can stop only in an exhausted handshake, before retention is given
up and with interrupts still masked.
-/

namespace DirectLine.Firmware.Acquisition

open DirectLine.Interaction

/-- The clock gate of a timer block is its bit of `GPTCLKGR.CLK_EN`. -/
def gptBit : GptBlock → Nat
  | .gpt0 => 0
  | .gpt1 => 1
  | .gpt2 => 2
  | .gpt3 => 3

def uartBit : UartBlock → Nat
  | .uart0 => 0
  | .uart1 => 1
  | .uart2 => 2
  | .uart3 => 3

def uartDomain : UartBlock → Nat
  | .uart0 => Prcm.serialOn
  | .uart1 | .uart2 | .uart3 => Prcm.periphOn

/-- The power domain, the gate register and the gate bit a register depends on. -/
def supply : Register → Option (Nat × Prcm × Nat)
  | .gpio _ => some (Prcm.periphOn, .gpioclkgr, 0)
  | .gpt block _ => some (Prcm.periphOn, .gptclkgr, gptBit block)
  | .uart block _ => some (uartDomain block, .uartclkgr, uartBit block)
  | _ => none

def accessed : Access → Option Register
  | .read register _ => some register
  | .write register _ => some register
  | .act _ => none

def boardPins : List Nat :=
  [Board.redLedDio, Board.greenLedDio, Board.uartRxDio, Board.uartTxDio]

def ledPins : List Nat := [Board.redLedDio, Board.greenLedDio]

namespace Progress

variable (progress : Progress)

/-- A power domain is on and a clock gate is loaded with a bit set. -/
def Prepared (domain : Nat) (gate : Prcm) (bit : Nat) : Prop :=
  progress.observed domain = true ∧
    ∃ value, progress.staged gate = .loaded value ∧ value.getLsbD bit = true

def Supplied (register : Register) : Prop :=
  ∀ domain gate bit, supply register = some (domain, gate, bit) →
    progress.Prepared domain gate bit

def Divided : Prop := ∃ value, progress.staged .gptclkdiv = .loaded value

/-- What an access has to come after, besides its supply. -/
def Ordered : Access → Prop
  | .read (.gpt _ _) _ => progress.Divided
  | .write (.gpt _ _) _ => progress.Divided
  | .write (.prcm .gptclkdiv) _ => progress.timers = false
  | .write .sleepctl _ =>
      (∀ dio ∈ boardPins, progress.pins dio = true) ∧ ∀ dio ∈ ledPins, progress.latches dio = true
  | .write .ioclatch _ =>
      (∀ dio ∈ boardPins, progress.pins dio = true) ∧ ∀ dio ∈ ledPins, progress.latches dio = true
  | .act .enableInterrupts => progress.released = true
  | _ => True

/-- The condition on the next access. -/
structure Permits (access : Access) : Prop where
  masked : progress.unmasked = false
  supplied : ∀ register, accessed access = some register → progress.Supplied register
  ordered : progress.Ordered access

theorem permits_of_unsupplied {progress : Progress} {access : Access}
    (masked : progress.unmasked = false) (unsupplied : (accessed access).bind supply = none)
    (ordered : progress.Ordered access) : progress.Permits access := by
  refine ⟨masked, fun register reached domain gate bit supplied => ?_, ordered⟩
  rw [reached, Option.bind_some, supplied] at unsupplied
  cases unsupplied

end Progress

def monitor : Monitor Register Instruction Word Progress where
  after := Progress.after
  allowed := Progress.Permits

@[simp] theorem monitor_after (progress : Progress) (access : Access) :
    monitor.after progress access = progress.after access := rfl

def Stopped (message : String) (progress : Progress) : Prop :=
  message = "hardware handshake iteration budget exhausted" ∧ progress.released = false ∧
    progress.unmasked = false

def Progress.stage (progress : Progress) (setting : Prcm) (value : Word) : Progress :=
  { progress with staged := Function.update progress.staged setting (.written value) }

def Progress.loads (progress : Progress) : Progress :=
  { progress with staged := fun setting => (progress.staged setting).request.done }

theorem Progress.staged_loads_stage (progress : Progress) (setting : Prcm) (value : Word) :
    (progress.stage setting value).loads.staged setting = .loaded value := by
  simp [loads, stage, Staged.request, Staged.done]

theorem Progress.staged_loads_stage_of_ne {progress : Progress} {setting other : Prcm}
    {loaded : Word} (value : Word) (distinct : other ≠ setting)
    (before : progress.staged other = .loaded loaded) :
    (progress.stage setting value).loads.staged other = .loaded loaded := by
  simp [loads, stage, Function.update_of_ne distinct, before, Staged.request, Staged.done]

/-- A handshake may run. -/
structure Progress.Held (progress : Progress) : Prop where
  released : progress.released = false
  unmasked : progress.unmasked = false

/-- The divider is loaded and the pads are still held. -/
structure Progress.Underway (progress : Progress) : Prop extends progress.Held where
  divided : progress.Divided

theorem permits_supplied {progress : Progress} {access : Access} {register : Register}
    {domain bit : Nat} {gate : Prcm} (masked : progress.unmasked = false)
    (prepared : progress.Prepared domain gate bit) (reached : accessed access = some register)
    (supplied : supply register = some (domain, gate, bit)) (ordered : progress.Ordered access) :
    monitor.allowed progress access := by
  refine ⟨masked, ?_, ordered⟩
  rintro _ same domain gate bit supplied'
  rw [reached] at same
  cases same
  rw [supplied] at supplied'
  cases supplied'
  exact prepared

structure Progress.Grows (progress progress' : Progress) : Prop where
  pins : ∀ dio, progress.pins dio = true → progress'.pins dio = true
  latches : ∀ dio, progress.latches dio = true → progress'.latches dio = true

section Handshakes

variable {Result : Type} {post : Result → Progress → Prop} {after : Unit → Driver Result}
variable {progress : Progress}

/-- A bounded poll of a status register, whose failed attempts keep an assertion. -/
theorem meets_poll {status : Prcm} {bit : Nat} {iterations : Nat} (assertion : Progress → Prop)
    (held : ∀ progress, assertion progress → progress.Held) (start : assertion progress)
    (failed : ∀ progress value, assertion progress → Word.flag value bit = false →
      assertion (progress.after (.read (.prcm status) value)))
    (rest : ∀ progress value, assertion progress → Word.flag value bit = true →
      monitor.setting.Meets post Stopped (after ())
        (progress.after (.read (.prcm status) value))) :
    monitor.setting.Meets post Stopped
      (waitFor (Prcm.statusFlag status bit) iterations >>= after) progress := by
  apply Setting.Meets.bind
  refine meets_waitFor assertion ?_ ?_ iterations start
  · intro progress holds
    simp only [Prcm.statusFlag, Program.readReg_bind, Program.pure_eq, Monitor.meets_read_iff,
      Monitor.meets_ret_iff]
    intro value
    refine ⟨Progress.permits_of_unsupplied (held progress holds).unmasked
      rfl trivial, ?_⟩
    · cases set : Word.flag value bit with
      | true => simpa using rest progress value holds set
      | false => simpa using failed progress value holds set
  · intro progress holds
    rw [Monitor.meets_panic_iff]
    exact ⟨rfl, (held progress holds).released, (held progress holds).unmasked⟩

theorem permits_plain {access : Access} (held : progress.Held)
    (unsupplied : (accessed access).bind supply = none)
    (ordered : progress.Ordered access) : monitor.allowed progress access :=
  Progress.permits_of_unsupplied held.unmasked unsupplied ordered

theorem meets_applyClockSettings (held : progress.Held)
    (rest : monitor.setting.Meets post Stopped (after ()) progress.loads) :
    monitor.setting.Meets post Stopped (Prcm.applyClockSettings >>= after) progress := by
  simp only [Prcm.applyClockSettings, Program.writeReg_bind, Program.write_bind,
    Monitor.meets_write_iff, monitor_after]
  refine ⟨permits_plain held rfl trivial, ?_⟩
  refine meets_poll (fun requested => requested = progress.after (.write _ Prcm.load)) ?_ rfl ?_ ?_
  · rintro _ rfl
    exact ⟨held.released, held.unmasked⟩
  · rintro _ value rfl clear
    rw [Progress.after_loadDone, if_neg (by simp [clear])]
  · rintro _ value rfl set
    rw [Progress.after_loadDone, if_pos set]
    exact rest

theorem meets_powerDomain {on : Nat} (held : progress.Held)
    (rest : ∀ observed : Nat → Bool, observed on = true →
      (∀ other, progress.observed other = true → observed other = true) →
      monitor.setting.Meets post Stopped (after ()) { progress with observed := observed }) :
    monitor.setting.Meets post Stopped (Prcm.powerDomain on >>= after) progress := by
  simp only [Prcm.powerDomain, Program.readReg_bind, Program.read_bind,
    Program.writeReg_bind, Program.write_bind, Monitor.meets_read_iff, Monitor.meets_write_iff,
    monitor_after]
  intro power
  refine ⟨permits_plain held rfl trivial,
    permits_plain held rfl trivial, ?_⟩
  refine meets_poll (fun watching => ∃ observed : Nat → Bool,
    (∀ other, progress.observed other = true → observed other = true) ∧
      watching = { progress with observed := observed }) ?_ ⟨_, fun _ set => set, rfl⟩ ?_ ?_
  · rintro _ ⟨observed, -, rfl⟩
    exact ⟨held.released, held.unmasked⟩
  · rintro _ value ⟨observed, grown, rfl⟩ -
    exact ⟨_, fun other set => Bool.or_eq_true_iff.mpr (.inl (grown other set)), rfl⟩
  · rintro _ value ⟨observed, grown, rfl⟩ set
    refine rest _ (Bool.or_eq_true_iff.mpr (.inr set)) fun other known => ?_
    exact Bool.or_eq_true_iff.mpr (.inl (grown other known))

theorem meets_stage {setting : Prcm} {value : Word} (held : progress.Held)
    (clock : isClock setting = true) (ordered : setting = .gptclkdiv → progress.timers = false)
    (rest : monitor.setting.Meets post Stopped (after ()) (progress.stage setting value).loads) :
    monitor.setting.Meets post Stopped
      (.write (.prcm setting) value (Prcm.applyClockSettings >>= after)) progress := by
  rw [Monitor.meets_write_iff, monitor_after, Progress.after_clock progress value clock]
  refine ⟨permits_plain held rfl ?_, ?_⟩
  · cases setting with
    | gptclkdiv => exact ordered rfl
    | _ => trivial
  · exact meets_applyClockSettings ⟨held.released, held.unmasked⟩ rest

theorem meets_enableClocks {gate : Prcm} {mask : Word} {message : String} (held : progress.Held)
    (clock : isClock gate = true) (other : gate ≠ .gptclkdiv) (small : mask &&& ~~~0xf = 0)
    (rest : ∀ value : Word, (∀ bit, bit < 4 → mask.getLsbD bit = true → value.getLsbD bit = true) →
      monitor.setting.Meets post Stopped (after ()) (progress.stage gate value).loads) :
    monitor.setting.Meets post Stopped (Prcm.enableClocks gate mask message >>= after)
      progress := by
  simp only [Prcm.enableClocks, small, beq_self_eq_true, Program.assert_true, Program.ret_bind,
    Program.readReg_bind, Program.read_bind, Program.writeReg_bind, Program.write_bind,
    Monitor.meets_read_iff, monitor_after]
  intro clocks
  refine ⟨permits_plain held rfl trivial, ?_⟩
  have unread : progress.after (.read (.prcm gate) clocks) = progress := by
    cases gate <;> first | rfl | cases clock
  rw [unread]
  refine meets_stage held clock (fun same => absurd same other) (rest _ ?_)
  intro bit inside set
  rw [Word.getLsbD_setField, if_pos (by simpa [Prcm.clkEnWidth] using inside)]
  simp [set]
  omega

theorem meets_enableGpioClock (held : progress.Held)
    (rest : ∀ value : Word, value.getLsbD 0 = true →
      monitor.setting.Meets post Stopped (after ()) (progress.stage .gpioclkgr value).loads) :
    monitor.setting.Meets post Stopped (Prcm.enableGpioClock >>= after) progress := by
  simp only [Prcm.enableGpioClock, Program.readReg_bind, Program.read_bind, Program.writeReg_bind,
    Program.write_bind, Monitor.meets_read_iff, monitor_after]
  intro gpio
  refine ⟨permits_plain held rfl trivial, ?_⟩
  apply meets_stage held rfl (fun same => absurd same (by decide))
  apply rest
  simp [Word.getLsbD_setFlag]

end Handshakes

section Constructors

variable {Result : Type} {post : Result → Progress → Prop} {progress : Progress}

theorem Progress.Underway.stage (underway : progress.Underway) {setting : Prcm}
    (distinct : setting ≠ .gptclkdiv) (value : Word) :
    (progress.stage setting value).loads.Underway where
  released := underway.released
  unmasked := underway.unmasked
  divided := by
    obtain ⟨divider, loaded⟩ := underway.divided
    exact ⟨divider, Progress.staged_loads_stage_of_ne value distinct.symm loaded⟩

theorem Progress.Underway.watch (underway : progress.Underway) (observed : Nat → Bool) :
    { progress with observed := observed : Progress }.Underway where
  released := underway.released
  unmasked := underway.unmasked
  divided := underway.divided

/-- Power one domain and load a clock gate with the bits of a mask. -/
theorem meets_supply {after : Unit → Driver Result} {domain : Nat} {gate : Prcm}
    {mask : Word} {message : String} (bit : Nat) (underway : progress.Underway)
    (clock : isClock gate = true) (other : gate ≠ .gptclkdiv) (small : mask &&& ~~~0xf = 0)
    (inside : bit < 4) (set : mask.getLsbD bit = true)
    (rest : ∀ progress', progress'.Underway → progress.Grows progress' →
      progress'.Prepared domain gate bit →
      monitor.setting.Meets post Stopped (after ()) progress') :
    monitor.setting.Meets post Stopped
      (Prcm.powerDomain domain >>= fun _ => Prcm.enableClocks gate mask message >>= after)
      progress := by
  refine meets_powerDomain underway.toHeld fun observed powered _ => ?_
  have watching := underway.watch observed
  refine meets_enableClocks watching.toHeld clock other small fun value bits => ?_
  exact rest _ (watching.stage other value) ⟨fun _ set => set, fun _ set => set⟩
    ⟨powered, value, Progress.staged_loads_stage _ gate value, bits bit inside set⟩

theorem meets_gpioSupply {after : Unit → Driver Result} (underway : progress.Underway)
    (rest : ∀ progress', progress'.Underway → progress.Grows progress' →
      progress'.Prepared Prcm.periphOn .gpioclkgr 0 →
      monitor.setting.Meets post Stopped (after ()) progress') :
    monitor.setting.Meets post Stopped
      (Prcm.powerPeriph >>= fun _ => Prcm.enableGpioClock >>= after) progress := by
  refine meets_powerDomain underway.toHeld fun observed powered _ => ?_
  have watching := underway.watch observed
  refine meets_enableGpioClock watching.toHeld fun value set => ?_
  exact rest _ (watching.stage (by decide) value) ⟨fun _ set => set, fun _ set => set⟩
    ⟨powered, value, Progress.staged_loads_stage _ _ value, set⟩

theorem meets_configureOutput {after : OutputPin → Driver Result} {dio : Nat} (valid : dio < 32)
    (underway : progress.Underway)
    (rest : ∀ progress', progress'.Underway → progress.Grows progress' →
      progress'.pins dio = true → progress'.latches dio = true →
      monitor.setting.Meets post Stopped (after ⟨Word.bit 32 dio⟩) progress') :
    monitor.setting.Meets post Stopped (Gpio.configureOutput dio >>= after) progress := by
  simp only [Gpio.configureOutput, Ioc.config, valid, decide_true, Program.assert_true,
    Program.ret_bind, Program.pure_eq, bind_assoc]
  refine meets_gpioSupply underway fun ready underway grows prepared => ?_
  simp only [Program.readReg_bind, Program.writeReg_bind, Monitor.meets_write_iff,
    Monitor.meets_read_iff, monitor_after, Progress.after_doutclr, Progress.after_iocfg]
  refine ⟨permits_supplied underway.unmasked prepared rfl rfl trivial,
    permits_plain ⟨underway.released, underway.unmasked⟩ rfl trivial,
    fun doe => ⟨permits_supplied underway.unmasked prepared rfl rfl trivial,
      permits_supplied underway.unmasked prepared rfl rfl trivial, ?_⟩⟩
  refine rest _ ⟨⟨underway.released, underway.unmasked⟩, underway.divided⟩
    ⟨fun pin set => ?_, fun pin set => ?_⟩ (Function.update_self _ _ _) ?_
  · by_cases same : pin = dio
    · exact same ▸ Function.update_self _ _ _
    · exact (Function.update_of_ne same _ _).trans (grows.pins pin set)
  · exact Bool.or_eq_true_iff.mpr (.inl (grows.latches pin set))
  · refine Bool.or_eq_true_iff.mpr (.inr ?_)
    simp [Word.flag, valid]

/-- A timer block is supplied while its constructor runs. -/
structure Driving (start : Progress) (block : GptBlock) (progress : Progress) : Prop extends
    progress.Underway where
  grows : start.Grows progress
  prepared : progress.Prepared Prcm.periphOn .gptclkgr (gptBit block)

namespace Driving

variable {start : Progress} {block : GptBlock} {next : Driver Result}

theorem touched (driving : Driving start block progress) :
    Driving start block { progress with timers := true } :=
  ⟨⟨⟨driving.released, driving.unmasked⟩, driving.divided⟩,
    ⟨driving.grows.pins, driving.grows.latches⟩, driving.prepared⟩

theorem write (driving : Driving start block progress) {register : Gpt} {value : Word}
    (rest : monitor.setting.Meets post Stopped next { progress with timers := true }) :
    monitor.setting.Meets post Stopped (.write (.gpt block register) value next) progress := by
  rw [Monitor.meets_write_iff]
  exact ⟨permits_supplied driving.unmasked driving.prepared rfl rfl driving.divided, rest⟩

theorem read (driving : Driving start block progress) {register : Gpt}
    {next : Word → Driver Result}
    (rest : ∀ value, monitor.setting.Meets post Stopped (next value)
      { progress with timers := true }) :
    monitor.setting.Meets post Stopped (.read (.gpt block register) next) progress := by
  rw [Monitor.meets_read_iff]
  exact fun value =>
    ⟨permits_supplied driving.unmasked driving.prepared rfl rfl driving.divided, rest value⟩

end Driving

theorem meets_enableClock {after : Unit → Driver Result} (timer : Timer.Instance)
    (underway : progress.Underway)
    (rest : ∀ progress', Driving progress timer.registers progress' →
      monitor.setting.Meets post Stopped (after ()) progress') :
    monitor.setting.Meets post Stopped (timer.enableClock >>= after) progress := by
  simp only [Timer.Instance.enableClock, Prcm.powerPeriph, Prcm.enableTimerClocks, bind_assoc]
  refine meets_supply (gptBit timer.registers) underway rfl (by decide) ?_ ?_ ?_
    fun ready underway grows prepared => rest ready ⟨underway, grows, prepared⟩
  · cases timer <;> decide
  · cases timer <;> decide
  · cases timer <;> decide

theorem meets_initializeCounter {after : Counter → Driver Result} (timer : Timer.Instance)
    (underway : progress.Underway)
    (rest : ∀ progress', progress'.Underway → progress.Grows progress' →
      monitor.setting.Meets post Stopped (after ⟨timer.registers⟩) progress') :
    monitor.setting.Meets post Stopped (Counter.initializeCounter timer >>= after) progress := by
  simp only [Counter.initializeCounter, bind_assoc]
  refine meets_enableClock timer underway fun ready driving => ?_
  simp only [Program.pure_eq, Program.writeReg_bind, Program.ret_bind]
  refine driving.write ?_
  repeat refine driving.touched.write ?_
  exact rest _ driving.touched.toUnderway driving.touched.grows

theorem meets_initializeTimer {after : Timer → Driver Result} (timer : Timer.Instance)
    (underway : progress.Underway)
    (rest : ∀ progress', progress'.Underway → progress.Grows progress' →
      monitor.setting.Meets post Stopped (after (Timer.ofInstance timer)) progress') :
    monitor.setting.Meets post Stopped (Timer.initializeTimer timer >>= after) progress := by
  simp only [Timer.initializeTimer, bind_assoc]
  refine meets_enableClock timer underway fun ready driving => ?_
  have inRange : timer.irq < Interrupts.irqCount := by cases timer <;> decide
  have valid : (2 : Word) < Interrupts.priorityLevels := by decide
  simp only [Timer.stop, Timer.clearTimeout, Interrupts.setPriority_eq inRange valid,
    Program.pure_eq, Program.writeReg_bind, Program.readReg_bind, Program.perform_bind,
    Program.read_bind, Program.write_bind, Program.act_bind, Program.ret_bind]
  refine Monitor.meets_write_iff.mpr ⟨permits_plain driving.toHeld rfl trivial, ?_⟩
  refine Monitor.meets_act_iff.mpr ⟨permits_plain driving.toHeld rfl trivial, ?_⟩
  refine driving.write (driving.touched.write (driving.touched.write
    (driving.touched.read fun _ => ?_)))
  have touched := driving.touched
  refine Monitor.meets_act_iff.mpr ⟨permits_plain touched.toHeld rfl trivial, ?_⟩
  refine Monitor.meets_write_iff.mpr ⟨permits_plain touched.toHeld rfl trivial, ?_⟩
  refine Monitor.meets_read_iff.mpr fun _ => ⟨permits_plain touched.toHeld rfl trivial, ?_⟩
  refine Monitor.meets_write_iff.mpr ⟨permits_plain touched.toHeld rfl trivial, ?_⟩
  exact rest _ touched.toUnderway touched.grows

theorem meets_configureUart {after : Unit → Driver Result} {block : UartBlock}
    {divisors : Word × Word} (underway : progress.Underway)
    (prepared : progress.Prepared (uartDomain block) .uartclkgr (uartBit block))
    (rest : monitor.setting.Meets post Stopped (after ()) progress) :
    monitor.setting.Meets post Stopped (Uart.configureUart block divisors >>= after) progress := by
  have permitted {next : Driver Result} {register : UartRegister} {value : Word}
      (rest : monitor.setting.Meets post Stopped next progress) :
      monitor.setting.Meets post Stopped (.write (.uart block register) value next) progress := by
    rw [Monitor.meets_write_iff]
    exact ⟨permits_supplied underway.unmasked prepared rfl rfl trivial, rest⟩
  simp only [Uart.configureUart, Program.writeReg_bind, Program.write_bind]
  repeat refine permitted ?_
  exact rest

theorem enablePower_eq (uart : Uart.Instance) :
    uart.enablePower = Prcm.powerDomain (uartDomain uart.registers) := by
  cases uart <;> rfl

theorem meets_initializeUart {after : Except Uart.BaudError Uart → Driver Result}
    {uart : Uart.Instance} {rxDio txDio : Nat} {baud : Word} {divisors : Word × Word}
    (accepted : Uart.baudDivisors baud = some divisors) (rxValid : rxDio < 32)
    (txValid : txDio < 32) (distinct : rxDio ≠ txDio) (underway : progress.Underway)
    (rest : ∀ progress', progress'.Underway → progress.Grows progress' →
      progress'.pins rxDio = true → progress'.pins txDio = true →
      monitor.setting.Meets post Stopped (after (.ok ⟨uart.registers⟩)) progress') :
    monitor.setting.Meets post Stopped (Uart.initializeUart uart rxDio txDio baud >>= after)
      progress := by
  have differ : (rxDio != txDio) = true := by simpa using distinct
  simp only [Uart.initializeUart, accepted, Ioc.config, rxValid, txValid, differ, decide_true,
    Program.assert_true, Program.ret_bind, Program.pure_eq, enablePower_eq,
    Prcm.enableUartClocks, bind_assoc]
  refine meets_supply (uartBit uart.registers) underway rfl (by decide) ?_ ?_ ?_
    fun ready underway grows prepared => ?_
  · cases uart <;> decide
  · cases uart <;> decide
  · cases uart <;> decide
  simp only [Program.writeReg_bind]
  refine Monitor.meets_write_iff.mpr ⟨permits_plain underway.toHeld rfl trivial, ?_⟩
  refine Monitor.meets_write_iff.mpr
    ⟨permits_plain ⟨underway.released, underway.unmasked⟩ rfl trivial, ?_⟩
  refine meets_configureUart ⟨⟨underway.released, underway.unmasked⟩, underway.divided⟩ prepared ?_
  refine rest _ ⟨⟨underway.released, underway.unmasked⟩, underway.divided⟩
    ⟨fun pin set => ?_, grows.latches⟩ ?_ (Function.update_self _ _ _)
  · simp [Function.update_apply, grows.pins pin set]
  · simp [Function.update_apply]

/-- Every pin of the board is configured and the outputs are loaded. -/
structure Progress.Assembled (progress : Progress) : Prop extends progress.Underway where
  pins : ∀ dio ∈ boardPins, progress.pins dio = true
  latches : ∀ dio ∈ ledPins, progress.latches dio = true

theorem Progress.Grows.trans {first second third : Progress} (earlier : first.Grows second)
    (later : second.Grows third) : first.Grows third where
  pins dio set := later.pins dio (earlier.pins dio set)
  latches dio set := later.latches dio (earlier.latches dio set)

theorem baudDivisors_uartBaud : Uart.baudDivisors Board.uartBaud = some (26, 3) := by
  decide

theorem meets_configure {after : Board → Driver Result} (underway : progress.Underway)
    (rest : ∀ board progress', progress'.Assembled →
      monitor.setting.Meets post Stopped (after board) progress') :
    monitor.setting.Meets post Stopped (Board.configure >>= after) progress := by
  simp only [Board.configure, bind_assoc]
  refine meets_configureOutput (by decide) underway fun red underway _ redPin redLatch => ?_
  refine meets_configureOutput (by decide) underway
    fun green underway grew greenPin greenLatch => ?_
  refine meets_initializeCounter .gpt1 underway fun counter underway counterGrew => ?_
  refine meets_initializeTimer .gpt0 underway fun timer underway timerGrew => ?_
  refine meets_initializeUart baudDivisors_uartBaud (by decide) (by decide) (by decide) underway
    fun uart underway uartGrew rxPin txPin => ?_
  have since := (counterGrew.trans timerGrew).trans uartGrew
  refine rest _ uart ⟨underway, ?_, ?_⟩
  · simp only [boardPins, List.forall_mem_cons, List.not_mem_nil, false_imp_iff, implies_true,
      and_true]
    exact ⟨since.pins _ (grew.pins _ redPin), since.pins _ greenPin, rxPin, txPin⟩
  · simp only [ledPins, List.forall_mem_cons, List.not_mem_nil, false_imp_iff, implies_true,
      and_true]
    exact ⟨since.latches _ (grew.latches _ redLatch), since.latches _ greenLatch⟩

/-- The call that takes the board gives up retention and unmasks interrupts at its end. -/
theorem meets_take {after : Option Board → Driver Result} (held : progress.Held)
    (untouched : progress.timers = false)
    (rest : ∀ board progress', progress'.released = true → progress'.unmasked = true →
      monitor.setting.Meets post Stopped (after (some board)) progress') :
    monitor.setting.Meets post Stopped (Board.take false >>= after) progress := by
  simp only [Board.take, Prcm.initializeTimerClock, Ioc.releaseRetention, bind_assoc,
    Program.writeReg_bind, Program.write_bind, Bool.false_eq_true, ↓reduceIte]
  refine meets_stage held rfl (fun _ => untouched) ?_
  refine meets_configure ⟨⟨held.released, held.unmasked⟩, 0, ?_⟩ fun board ready assembled => ?_
  · exact Progress.staged_loads_stage progress .gptclkdiv 0
  simp only [Program.readReg_bind, Program.perform_bind, Program.pure_eq, Program.ret_bind]
  refine Monitor.meets_read_iff.mpr fun _ => ⟨permits_plain assembled.toHeld rfl trivial, ?_⟩
  have release := And.intro assembled.pins assembled.latches
  refine Monitor.meets_write_iff.mpr ⟨permits_plain assembled.toHeld rfl release, ?_⟩
  refine Monitor.meets_write_iff.mpr
    ⟨Progress.permits_of_unsupplied assembled.unmasked rfl release, ?_⟩
  refine Monitor.meets_act_iff.mpr
    ⟨Progress.permits_of_unsupplied assembled.unmasked rfl rfl, ?_⟩
  exact rest board _ rfl rfl

end Constructors

end DirectLine.Firmware.Acquisition
