import DirectLine.Firmware.Fifo.Calls
import DirectLine.Firmware.Main.Prologue
import DirectLine.Firmware.TimerLines.Contracts

/-!
# What the application's drivers access

No driver counts interrupts; that is left to the handlers.  The board's assembly
and the clock switch move no character either, and the only panic of theirs is
an exhausted polling budget.
-/

namespace DirectLine.Firmware

open DirectLine.Interaction DirectLine.Interaction.Program TimerLine

def Budget (message : String) : Prop := message = "hardware handshake iteration budget exhausted"

theorem within_waitFor {allowed : Access → Prop} {stops : String → Prop} {ready : Driver Bool}
    (within : ready.Within allowed stops)
    (budget : stops "hardware handshake iteration budget exhausted") (iterations : Nat) :
    (waitFor ready iterations).Within allowed stops := by
  induction iterations with
  | zero => exact budget
  | succ iterations inductionHypothesis =>
      refine within.bind fun done => ?_
      cases done with
      | true => trivial
      | false => exact inductionHypothesis

theorem uncounting_read {register : Register} {value : Word} :
    Uncounting (.read register value) := fun _ => nofun

theorem uncounting_write {register : Register} {value : Word} :
    Uncounting (.write register value) := fun _ => nofun

/-- An access that neither counts an interrupt nor moves a character. -/
def ordinary : Access → Bool
  | .act (.fetchAdd _) | .read (.uart _ .dr) _ | .write (.uart _ .dr) _ => false
  | _ => true

theorem uncounting_of_ordinary {access : Access} (plain : ordinary access = true) :
    Uncounting access := by
  rintro index rfl
  cases plain

/-- Code of ordinary accesses that stops in an exhausted budget only. -/
abbrev Plain {Result : Type} (program : Driver Result) : Prop :=
  program.Within (fun access => ordinary access = true) Budget

theorem plain_waitFor {ready : Driver Bool} (plain : Plain ready) (iterations : Nat) :
    Plain (waitFor ready iterations) :=
  within_waitFor plain rfl iterations

namespace Prcm

theorem plain_statusFlag (status : Prcm) (bit : Nat) : Plain (statusFlag status bit) :=
  fun _ => ⟨rfl, trivial⟩

theorem plain_applyClockSettings : Plain applyClockSettings :=
  ⟨rfl, plain_waitFor (plain_statusFlag _ _) _⟩

theorem plain_powerDomain (on : Nat) : Plain (powerDomain on) :=
  fun _ => ⟨rfl, rfl, plain_waitFor (plain_statusFlag _ _) _⟩

theorem plain_enableClocks (gate : Prcm) {mask : Word} (message : String)
    (few : (mask &&& ~~~0xf == 0) = true) : Plain (enableClocks gate mask message) := by
  rw [enableClocks, few, assert_true]
  exact fun _ => ⟨rfl, rfl, plain_applyClockSettings⟩

theorem plain_initializeTimerClock : Plain initializeTimerClock :=
  ⟨rfl, plain_applyClockSettings⟩

theorem plain_enableGpioClock : Plain enableGpioClock :=
  fun _ => ⟨rfl, rfl, plain_applyClockSettings⟩

end Prcm

theorem Gpio.plain_configureOutput {dio : Nat} (valid : dio < 32) :
    Plain (Gpio.configureOutput dio) := by
  rw [Gpio.configureOutput, Ioc.config, decide_eq_true valid, assert_true, ret_bind, pure_eq,
    ret_bind]
  refine .bind (Prcm.plain_powerDomain _) fun _ => .bind Prcm.plain_enableGpioClock fun _ => ?_
  exact ⟨rfl, rfl, fun _ => ⟨rfl, rfl, trivial⟩⟩

theorem Timer.plain_enableClock (timer : Timer.Instance) : Plain timer.enableClock :=
  .bind (Prcm.plain_powerDomain _) fun _ =>
    Prcm.plain_enableClocks _ _ (by cases timer <;> decide)

theorem Counter.plain_initializeCounter (timer : Timer.Instance) :
    Plain (Counter.initializeCounter timer) :=
  .bind (Timer.plain_enableClock timer) fun _ =>
    ⟨rfl, rfl, rfl, rfl, rfl, rfl, rfl, rfl, trivial⟩

theorem Interrupts.plain_setPriority {irq : Nat} {priority : Word} (inRange : irq < irqCount)
    (valid : priority < priorityLevels) : Plain (Interrupts.setPriority irq priority) := by
  rw [setPriority_eq inRange valid]
  exact fun _ => ⟨rfl, rfl, trivial⟩

theorem Timer.plain_initializeTimer (timer : Timer.Instance) :
    Plain (Timer.initializeTimer timer) := by
  refine .bind (plain_enableClock timer) fun _ => .bind ?_ fun _ => .bind ?_ fun _ => trivial
  · exact (TimerLines.within_stop timer).mono (fun _ own => by cases own <;> rfl)
      fun _ => False.elim
  · exact Interrupts.plain_setPriority (by cases timer <;> decide) (by decide)

theorem Uart.plain_enablePower (uart : Uart.Instance) : Plain uart.enablePower := by
  cases uart <;> exact Prcm.plain_powerDomain _

theorem Uart.plain_initializeUart (uart : Uart.Instance) {rxDio txDio : Nat} (baud : Word)
    (rxValid : rxDio < 32) (txValid : txDio < 32) (distinct : (rxDio != txDio) = true) :
    Plain (Uart.initializeUart uart rxDio txDio baud) := by
  rw [Uart.initializeUart]
  cases baudDivisors baud with
  | none => trivial
  | some divisors =>
      dsimp only
      rw [Ioc.config, Ioc.config, decide_eq_true rxValid, decide_eq_true txValid, distinct]
      simp only [assert_true, ret_bind, pure_eq]
      refine .bind (plain_enablePower uart) fun _ => .bind ?_ fun _ => ?_
      · exact Prcm.plain_enableClocks _ _ (by cases uart <;> decide)
      · exact ⟨rfl, rfl, rfl, rfl, rfl, rfl, rfl, rfl, rfl, rfl, trivial⟩

theorem Board.plain_configure : Plain Board.configure := by
  refine .bind (Gpio.plain_configureOutput (by decide)) fun _ =>
    .bind (Gpio.plain_configureOutput (by decide)) fun _ =>
      .bind (Counter.plain_initializeCounter _) fun _ =>
        .bind (Timer.plain_initializeTimer _) fun _ => ?_
  refine .bind_yields (Uart.plain_initializeUart _ _ (by decide) (by decide) (by decide))
    (Uart.yields_initializeUart _ _ _ _) ?_
  rintro _ rfl
  rw [show (Uart.baudDivisors uartBaud).isSome = true by decide, if_pos rfl]
  trivial

theorem Board.plain_take (taken : Bool) : Plain (Board.take taken) := by
  cases taken with
  | true => trivial
  | false =>
      rw [Board.take, if_neg Bool.false_ne_true]
      refine .bind Prcm.plain_initializeTimerClock fun _ => .bind plain_configure fun _ => ?_
      exact fun _ => ⟨rfl, rfl, rfl, rfl, trivial⟩

theorem Clocks.plain_trySwitchToHfCrystal : Plain Clocks.trySwitchToHfCrystal := by
  refine fun status => ⟨rfl, ?_⟩
  change Plain (if _ then _ else _)
  split
  · trivial
  · split
    · trivial
    · exact fun _ => ⟨rfl, rfl, rfl, rfl, rfl, trivial⟩

namespace Uart

variable (uart : Uart) (counter : Counter) (start timeoutTicks : Word) (fuel : Nat)

theorem within_poll (byte : Byte) :
    (uart.poll counter start timeoutTicks byte).Within (Sends uart.registers counter)
      (fun _ => False) := by
  rw [poll_eq]
  intro reading
  refine ⟨.poll reading, ?_⟩
  dsimp only
  split
  · trivial
  · refine fun flags => ⟨.flags flags, ?_⟩
    dsimp only
    split
    · trivial
    · exact ⟨.data _, trivial⟩

theorem within_enqueue (bytes : List Byte) :
    (uart.enqueue counter start timeoutTicks fuel bytes).Within (Sends uart.registers counter)
      (fun _ => False) := by
  induction bytes with
  | nil => trivial
  | cons byte bytes inductionHypothesis =>
      refine .bind ((within_poll uart counter start timeoutTicks byte).iterate fuel) fun sent => ?_
      cases sent with
      | error => trivial
      | ok => exact inductionHypothesis

theorem within_writeTimeout (bytes : List Byte) :
    (uart.writeTimeout bytes counter timeoutTicks fuel).Within (Sends uart.registers counter)
      (fun _ => False) := by
  rw [writeTimeout]
  split
  · trivial
  · exact fun start => ⟨.poll start, within_enqueue uart counter start timeoutTicks fuel bytes⟩

theorem within_tryRead :
    uart.tryRead.Within (Receives uart.registers) (fun _ => False) := by
  rw [tryRead_eq]
  refine fun flags => ⟨.flags flags, ?_⟩
  dsimp only
  split
  · trivial
  · refine fun data => ⟨.data data, ?_⟩
    dsimp only
    split
    · exact ⟨.clear 0, trivial⟩
    · trivial

end Uart

end DirectLine.Firmware
