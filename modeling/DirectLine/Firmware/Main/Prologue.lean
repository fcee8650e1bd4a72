import DirectLine.Firmware.Clock
import DirectLine.Firmware.Main
import DirectLine.Interaction.Frame

/-!
# The bring-up application before its loop

`main.rs` from its entry to the head of its final loop: the board is taken, the
crystal is selected, the initialisation of the statics and the timer are
checked, and the outcome is reported on the serial port.
-/

namespace DirectLine.Firmware.Main

open DirectLine.Interaction DirectLine.Interaction.Program Uart

/-- The statics of `main.rs` that the checks use. -/
inductive Static where
  | initializedData | zeroedData | timerTestStatus
  deriving DecidableEq, Repr

inductive Cell where
  | register (register : Register)
  | static (static : Static)
  deriving DecidableEq, Repr

abbrev Code (Result : Type) := Program Cell Instruction Word Result

abbrev drive {Result : Type} (driver : Driver Result) : Code Result := driver.embed .register

def bytes (text : String) : List Byte := text.toList.map fun char => BitVec.ofNat 8 char.toNat

def banner : List Byte := bytes "DIRECT_LINE_RUST v1\r\n"

def memoryFailure : List Byte := bytes "RESULT FAIL memory initialization\r\n"

def timerFailure : List Byte := bytes "RESULT FAIL timer interrupt\r\n"

def pass : List Byte := bytes "RESULT PASS bringup\r\n"

def expect (board : Option Board) : Driver Board :=
  match board with
  | some board => return board
  | none => .panic "board already taken"

def unwrapTimer : Except TimerError Unit → Driver Unit
  | .ok () => return ()
  | .error _ => .panic "called `Result::unwrap()` on an `Err` value: TimerError"

def unwrapTicks : Option Word → Driver Word
  | some ticks => return ticks
  | none => .panic "called `Option::unwrap()` on a `None` value"

/-- The message of `assert_eq!`; `context` is empty or a colon and the given text. -/
def unequal (context : String) (left right : Word) : String :=
  "assertion `left == right` failed" ++ context ++ "\n  left: " ++ toString left.toNat ++
    "\n right: " ++ toString right.toNat

def assertEq (context : String) (left right : Word) : Driver Unit :=
  if left = right then return () else .panic (unequal context left right)

def initialPattern : Word := 0x1234abcd

/-- The statics do not hold their initial values; the second is read only if the first does. -/
def uninitialized : Code Bool := do
  if (← readReg (.static .initializedData)) != initialPattern then
    return true
  return (← readReg (.static .zeroedData)) != 0

/-- `board.uart.write_timeout(…)` with the application's counter and timeout. -/
def transmit (board : Board) (text : List Byte) (fuel : Nat) : Driver (Except Timeout Unit) :=
  board.uart.writeTimeout text board.counter timeout fuel

def checkMemory (board : Board) (fuel : Nat) : Code Unit := do
  if ← uninitialized then
    let _ ← drive (transmit board memoryFailure fuel)
    .panic "memory initialization failed"
  writeReg (.static .initializedData) 0x5678ef01
  writeReg (.static .zeroedData) 1

/-- One attempt of the wait for repeated interrupts. -/
def interrupted (board : Board) (start : Word) (fuel : Nat) : Driver Bool := do
  if (← board.counter.elapsedSince start) ≥ timeout then
    let _ ← transmit board timerFailure fuel
    .panic "timer interrupt timeout"
  return (← board.timer.interrupts) ≥ 20

/-- One attempt of a wait for counter progress. -/
def elapsed (board : Board) (start ticks : Word) : Driver Bool := do
  return (← board.counter.elapsedSince start) ≥ ticks

/-- `assert!` of an `is_err()`. -/
def assertRefused (message : String) : Except TimerError Unit → Driver Unit
  | .ok () => .panic message
  | .error _ => return ()

/-- The timer's checks, between the first two writes of `TIMER_TEST_STATUS`. -/
def testTimer (board : Board) (fuel : Nat) : Driver Unit := do
  unwrapTimer (← board.timer.startPeriodicUs 1000)
  let start ← board.counter.now
  waitFor (interrupted board start fuel) 48000000
  board.timer.stop
  let stopped ← board.timer.interrupts
  let start ← board.counter.now
  let tenMs ← unwrapTicks (Timer.ticksFromUs 10000)
  waitFor (elapsed board start tenMs) 1000000
  assertEq ": interrupt after stop" (← board.timer.interrupts) stopped
  assertRefused "assertion failed: board.timer.start_periodic_us(0).is_err()"
    (← board.timer.startPeriodicUs 0)
  assertRefused "assertion failed: board.timer.start_periodic_us(u32::MAX).is_err()"
    (← board.timer.startPeriodicUs (BitVec.allOnes 32))
  -- A one-shot must produce exactly one interrupt.
  unwrapTimer (← board.timer.startOnceUs 1000)
  let start ← board.counter.now
  waitFor (elapsed board start tenMs) 1000000
  assertEq "" (← board.timer.interrupts) (stopped + 1)
  board.timer.stop

/-- The result is the board and the first value of `previous`. -/
def prologue (taken : Bool) (fuel : Nat) : Code (Board × Word) := do
  let board ← drive (do expect (← Board.take taken))
  drive Clocks.requestHfCrystal
  drive (waitFor Clocks.trySwitchToHfCrystal 2000000)
  drive (do unwrap (← transmit board banner fuel))
  checkMemory board fuel
  writeReg (.static .timerTestStatus) 1
  drive (testTimer board fuel)
  writeReg (.static .timerTestStatus) 2
  drive (do unwrap (← transmit board pass fuel))
  drive (do unwrapTimer (← board.timer.startPeriodicUs 500000))
  let previous ← drive board.timer.interrupts
  return (board, previous)

end DirectLine.Firmware.Main
