import DirectLine.Firmware.Main.Prologue

/-!
# The timer test

`timer_test.rs`: one GPT as a counter and the other three as interrupt timers,
in each of the four assignments.
-/

namespace DirectLine.Firmware.TimerTest

open DirectLine.Interaction DirectLine.Interaction.Program
open Main (assertRefused timeout unequal unwrapTicks unwrapTimer)

def instances : Fin 4 → Timer.Instance
  | 0 => .gpt0
  | 1 => .gpt1
  | 2 => .gpt2
  | 3 => .gpt3

/-- A failed assertion is reported with its line, all that the panic handler keeps of it. -/
def placed (line : Nat) (message : String) : String :=
  "timer_test.rs:" ++ toString line ++ ": " ++ message

theorem takeWhile_toDigits (line : Nat) (rest : List Char) :
    (Nat.toDigits 10 line ++ ':' :: rest).takeWhile Char.isDigit = Nat.toDigits 10 line := by
  rw [List.takeWhile_append_of_pos fun _ => Nat.isDigit_of_mem_toDigits (by decide) (by decide)]
  exact List.append_nil _

theorem line_of_placed {line line' : Nat} {message message' : String}
    (same : placed line message = placed line' message') : line = line' := by
  have lists := congrArg String.toList same
  simp only [placed, String.toList_append, Nat.toString_eq_repr, Nat.toList_repr,
    List.append_assoc, List.append_cancel_left_eq] at lists
  have digits := congrArg (List.takeWhile Char.isDigit) lists
  change List.takeWhile _ (_ ++ ':' :: _) = List.takeWhile _ (_ ++ ':' :: _) at digits
  rw [takeWhile_toDigits, takeWhile_toDigits] at digits
  have values := congrArg (Nat.ofDigitChars 10 · 0) digits
  rwa [Nat.ofDigitChars_ten_toDigits, Nat.ofDigitChars_ten_toDigits] at values

def assertEq (line : Nat) (left right : Word) : Driver Unit :=
  if left = right then return () else .panic (placed line (unequal "" left right))

/-- The field `CLK_EN` of `GPTCLKGR`. -/
def clkEn : Driver Word := do
  return Word.field (← readReg (.prcm .gptclkgr)) 0 Prcm.clkEnWidth

/-- The field `RATIO` of `GPTCLKDIV`. -/
def ratio : Driver Word := do
  return Word.field (← readReg (.prcm .gptclkdiv)) 0 4

def addTimer (instanceIndex : Fin 4) (gates : Word) : Driver (Timer × Word) := do
  let timer ← Timer.initializeTimer (instances instanceIndex)
  let gates := gates ||| Word.bit 32 instanceIndex
  assertEq 40 (← clkEn) gates
  assertEq 41 (← ratio) 0
  return (timer, gates)

def advanced (counter : Counter) (start : Word) : Driver Bool := do
  return (← counter.elapsedSince start) != 0

def construct (counterIndex : Fin 4) : Driver (Counter × Timer × Timer × Timer) := do
  Prcm.initializeTimerClock
  let gates ← clkEn
  let counter ← Counter.initializeCounter (instances counterIndex)
  let gates := gates ||| Word.bit 32 counterIndex
  assertEq 33 (← clkEn) gates
  assert (Word.flag (← readReg (.prcm .pdstat0)) Prcm.periphOn)
    (placed 34 "assertion failed: r::PRCM.pdstat0.read().periph_on()")
  let first ← addTimer (counterIndex + 0 + 1) gates
  let second ← addTimer (counterIndex + 1 + 1) first.2
  let third ← addTimer (counterIndex + 2 + 1) second.2
  let start ← counter.now
  waitFor (advanced counter start) 1000000
  return (counter, first.1, second.1, third.1)

/-- A loop over the timers. -/
def forEach (body : Timer → Driver Unit) : List Timer → Driver Unit
  | [] => return ()
  | timer :: timers => do
      body timer
      forEach body timers

/-- `all`, which stops at the first timer with too few interrupts. -/
def allServiced : List Timer → Driver Bool
  | [] => return true
  | timer :: timers => do
      if (← timer.interrupts) ≥ 20 then
        allServiced timers
      else
        return false

/-- One attempt of the wait for repeated interrupts. -/
def serviced (counter : Counter) (start : Word) (timers : List Timer) : Driver Bool := do
  assert (decide ((← counter.elapsedSince start) < timeout))
    (placed 62 "assertion failed: counter.elapsed_since(start) < GPT_CLOCK_HZ")
  allServiced timers

def elapsed (counter : Counter) (start ticks : Word) : Driver Bool := do
  return (← counter.elapsedSince start) ≥ ticks

def waitTenMs (counter : Counter) : Driver Unit := do
  let start ← counter.now
  let ticks ← unwrapTicks (Timer.ticksFromUs 10000)
  waitFor (elapsed counter start ticks) 1000000

/-- More than one interrupt has been counted since. -/
def assertProgress (line : Nat) (message : String) (timer : Timer) (before : Word) :
    Driver Unit := do
  assert (decide ((← timer.interrupts) - before > 1)) (placed line message)

def checkOneShot (counter : Counter) (timer : Timer) : Driver Unit := do
  timer.stop
  let before ← timer.interrupts
  unwrapTimer (← timer.startOnceUs 1000)
  waitTenMs counter
  assertEq 87 (← timer.interrupts) (before + 1)
  timer.stop

/-- `timers.each_ref().map(Timer::interrupts)`. -/
def counts : List Timer → Driver (List Word)
  | [] => return []
  | timer :: timers => do
      let count ← timer.interrupts
      return count :: (← counts timers)

/-- The `Debug` text of an array. -/
def debugArray (values : List Word) : String :=
  "[" ++ String.intercalate ", " (values.map fun value => toString value.toNat) ++ "]"

def assertEqArray (line : Nat) (left right : List Word) : Driver Unit :=
  if left = right then return ()
  else .panic (placed line ("assertion `left == right` failed\n  left: " ++ debugArray left ++
    "\n right: " ++ debugArray right))

def checkTimers (counter : Counter) (first second third : Timer) : Driver Unit := do
  let timers := [first, second, third]
  forEach (fun timer => do unwrapTimer (← timer.startPeriodicUs 1000)) timers
  let start ← counter.now
  waitFor (serviced counter start timers) 48000000
  -- Invalid requests preserve an active timer; stopping one leaves the others running.
  assertRefused (placed 67 "assertion failed: timers[0].start_periodic_us(0).is_err()")
    (← first.startPeriodicUs 0)
  assertRefused (placed 68 "assertion failed: timers[0].start_once_us(u32::MAX).is_err()")
    (← first.startOnceUs (BitVec.allOnes 32))
  let before ← first.interrupts
  waitTenMs counter
  assertProgress 71 "assertion failed: timers[0].interrupts().wrapping_sub(before) > 1" first before
  first.stop
  let stopped ← first.interrupts
  let secondCount ← second.interrupts
  let thirdCount ← third.interrupts
  waitTenMs counter
  assertEq 76 (← first.interrupts) stopped
  let behind := "assertion failed: timer.interrupts().wrapping_sub(before) > 1"
  assertProgress 78 behind second secondCount
  assertProgress 78 behind third thirdCount
  forEach (checkOneShot counter) timers
  let stopped ← counts timers
  waitTenMs counter
  assertEqArray 92 (← counts timers) stopped

def run (counterIndex : Fin 4) : Driver Unit := do
  let made ← construct counterIndex
  Clocks.requestHfCrystal
  waitFor Clocks.hfCrystalReady 2000000
  waitFor Clocks.trySwitchToHfCrystal 2000000
  perform .enableInterrupts
  checkTimers made.1 made.2.1 made.2.2.1 made.2.2.2

end DirectLine.Firmware.TimerTest
