import DirectLine.Firmware.Device

/-!
# The bring-up application

The final loop of `main.rs`: it blinks the LEDs for every acknowledged timeout
and echoes received bytes.
-/

namespace DirectLine.Firmware.Main

open DirectLine.Interaction DirectLine.Interaction.Program Uart

/-- `GPT_CLOCK_HZ`, one nominal second. -/
def timeout : Word := BitVec.ofNat 32 Timer.gptClockHz

def rxError : List Byte := [0x52, 0x58, 0x5f, 0x45, 0x52, 0x52, 0x4f, 0x52, 0x0d, 0x0a]

def unwrap : Except Timeout Unit → Driver Unit
  | .ok () => return ()
  | .error _ => .panic "called `Result::unwrap()` on an `Err` value: Timeout"

/-- The first half of the loop body; the result is the new value of `previous`. -/
def blink (board : Board) (previous : Word) : Driver Word := do
  let current ← board.timer.interrupts
  if current != previous then
    board.redLed.toggle
    board.greenLed.toggle
    perform .countBlink
    return current
  return previous

theorem blink_eq (board : Board) (previous : Word) :
    blink board previous =
      .read (.timerInterrupts board.timer.count) fun current =>
        if current != previous then
          .write (.gpio .douttgl) board.redLed.mask
            (.write (.gpio .douttgl) board.greenLed.mask (.act .countBlink (.ret current)))
        else .ret previous := rfl

/-- The second half of the loop body. -/
def echo (board : Board) (fuel : Nat) : Driver Unit := do
  match ← board.uart.tryRead with
  | .ok (some byte) =>
      let sent ← board.uart.writeTimeout [byte] board.counter timeout fuel
      unwrap sent
  | .ok none => return ()
  | .error _ =>
      let sent ← board.uart.writeTimeout rxError board.counter timeout fuel
      unwrap sent

def turn (board : Board) (fuel : Nat) (previous : Word) : Driver Word := do
  let previous ← blink board previous
  echo board fuel
  return previous

end DirectLine.Firmware.Main
