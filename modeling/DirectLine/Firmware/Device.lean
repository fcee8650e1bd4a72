import DirectLine.Firmware.Uart

/-!
# Board acquisition

`device.rs`: the one-time assembly of the board's drivers.  The `TAKEN` flag is
passed along a sequence of calls.
-/

namespace DirectLine.Firmware

open DirectLine.Interaction DirectLine.Interaction.Program

structure Board where
  redLed : OutputPin
  greenLed : OutputPin
  counter : Counter
  timer : Timer
  uart : Uart
  deriving DecidableEq

namespace Board

def redLedDio : Nat := 6

def greenLedDio : Nat := 7

def uartRxDio : Nat := 12

def uartTxDio : Nat := 13

def uartBaud : Word := 115200

def configure : Driver Board := do
  let redLed ← Gpio.configureOutput redLedDio
  let greenLed ← Gpio.configureOutput greenLedDio
  let counter ← Counter.initializeCounter .gpt1
  let timer ← Timer.initializeTimer .gpt0
  match ← Uart.initializeUart .uart0 uartRxDio uartTxDio uartBaud with
  | .error _ => .panic "invalid board UART baud rate"
  | .ok uart => return ⟨redLed, greenLed, counter, timer, uart⟩

def assembled : Board where
  redLed := ⟨Word.bit 32 redLedDio⟩
  greenLed := ⟨Word.bit 32 greenLedDio⟩
  counter := ⟨.gpt1⟩
  timer := Timer.ofInstance .gpt0
  uart := ⟨.uart0⟩

/-- One call, with the value of `TAKEN` it swaps out; `true` is left behind either way. -/
def take (taken : Bool) : Driver (Option Board) := do
  if taken then
    return none
  Prcm.initializeTimerClock
  let board ← configure
  Ioc.releaseRetention
  perform .enableInterrupts
  return some board

theorem yields_configure : configure.Yields fun board => board = assembled := by
  refine .bind (Gpio.yields_configureOutput _) ?_
  rintro _ rfl
  refine .bind (Gpio.yields_configureOutput _) ?_
  rintro _ rfl
  refine .bind (Counter.yields_initializeCounter _) ?_
  rintro _ rfl
  refine .bind (Timer.yields_initializeTimer _) ?_
  rintro _ rfl
  refine .bind (Uart.yields_initializeUart _ _ _ _) ?_
  rintro _ rfl
  rw [show (Uart.baudDivisors uartBaud).isSome = true by decide, if_pos rfl]
  exact rfl

theorem yields_take (taken : Bool) :
    (take taken).Yields fun result => ∀ board, result = some board → board = assembled := by
  cases taken with
  | true => exact fun board impossible => nomatch impossible
  | false =>
      refine .after fun _ => .bind yields_configure ?_
      rintro _ rfl
      refine .after fun _ => fun board same => ?_
      exact (Option.some.inj same).symm

/-- Any number of calls in a row; a panic ends the program. -/
def takes (taken : Bool) : Nat → Driver (List (Option Board))
  | 0 => return []
  | calls + 1 => do
      let board ← take taken
      let boards ← takes true calls
      return board :: boards

/-- Once the board is taken, further calls access nothing. -/
theorem takes_true (calls : Nat) : takes true calls = .ret (List.replicate calls none) := by
  induction calls with
  | zero => rfl
  | succ calls inductionHypothesis =>
      rw [takes, inductionHypothesis]
      rfl

theorem takes_false (calls : Nat) :
    takes false (calls + 1) =
      take false >>= fun board => .ret (board :: List.replicate calls none) := by
  rw [takes]
  simp only [takes_true, ret_bind, pure_eq]

end Board

end DirectLine.Firmware
