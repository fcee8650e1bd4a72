import DirectLine.Firmware.Prcm

/-!
# Counters and timers

`timer.rs`, with the interrupt numbers and the priority write of
`interrupts.rs` and the peripheral part of the vector table of `startup.rs`.
-/

namespace DirectLine.Firmware

open DirectLine.Interaction DirectLine.Interaction.Program

namespace Interrupts

def gpt0a : Nat := 15

def gpt1a : Nat := 17

def gpt2a : Nat := 19

def gpt3a : Nat := 21

def irqCount : Nat := 47

def priorityLevels : Word := 8

/-- Priority words hold four interrupts in bytes, each using its top three bits. -/
def setPriority (irq : Nat) (priority : Word) : Driver Unit := do
  assert (irq < irqCount) "peripheral IRQ out of range"
  assert (priority < priorityLevels) "interrupt priority out of range"
  let register : Register := .nvic (.ipr (irq / 4))
  let shift := irq % 4 * 8
  let word ← readReg register
  let bits : Word := (word &&& ~~~((0xff : Word) <<< shift)) |||
    ((priority <<< 5) <<< shift)
  writeReg register bits

theorem setPriority_eq {irq : Nat} {priority : Word} (inRange : irq < irqCount)
    (valid : priority < priorityLevels) :
    setPriority irq priority =
      .read (.nvic (.ipr (irq / 4))) fun word =>
        .write (.nvic (.ipr (irq / 4))) ((word &&& ~~~((0xff : Word) <<< (irq % 4 * 8))) |||
          ((priority <<< 5) <<< (irq % 4 * 8))) (.ret ()) := by
  simp only [setPriority, inRange, valid, decide_true, assert_true, ret_bind, readReg_bind]
  rfl

theorem getLsbD_priority {priority : Word} (valid : priority < priorityLevels) {bit : Nat}
    (above : 3 ≤ bit) : priority.getLsbD bit = false := by
  have small : priority.toNat < 2 ^ 3 := BitVec.lt_def.mp valid
  exact Nat.testBit_lt_two_pow
    (Nat.lt_of_lt_of_le small (Nat.pow_le_pow_right Nat.zero_lt_two above))

/-- The new priority word sets the interrupt's byte. -/
theorem setField_priority {priority : Word} (valid : priority < priorityLevels) (word : Word)
    (lo : Nat) :
    (word &&& ~~~((0xff : Word) <<< lo)) ||| ((priority <<< 5) <<< lo) =
      Word.setField word lo 8 (priority <<< 5) := by
  have byte : (priority <<< 5) <<< lo &&& Word.mask 32 lo 8 = (priority <<< 5) <<< lo := by
    apply BitVec.eq_of_getLsbD_eq
    intro bit inside
    simp only [BitVec.getLsbD_and, BitVec.getLsbD_shiftLeft, Word.getLsbD_mask]
    by_cases within : lo ≤ bit ∧ bit < lo + 8
    · simp [inside, within]
    · by_cases below : bit < lo
      · simp [below]
      · rw [getLsbD_priority valid (by omega : 3 ≤ bit - lo - 5)]
        simp
  rw [Word.setField, byte]
  rfl

end Interrupts

namespace Timer

def gptClockHz : Nat := 48000000

/-- `checked_mul` by the ticks of one microsecond. -/
def ticksFromUs (microseconds : Word) : Option Word :=
  let ticks := microseconds.toNat * (gptClockHz / 1000000)
  if ticks < 2 ^ 32 then some (BitVec.ofNat 32 ticks) else none

inductive Instance where
  | gpt0 | gpt1 | gpt2 | gpt3
  deriving DecidableEq, Repr

namespace Instance

def registers : Instance → GptBlock
  | .gpt0 => .gpt0
  | .gpt1 => .gpt1
  | .gpt2 => .gpt2
  | .gpt3 => .gpt3

def irq : Instance → Nat
  | .gpt0 => Interrupts.gpt0a
  | .gpt1 => Interrupts.gpt1a
  | .gpt2 => Interrupts.gpt2a
  | .gpt3 => Interrupts.gpt3a

def index : Instance → Fin 4
  | .gpt0 => 0
  | .gpt1 => 1
  | .gpt2 => 2
  | .gpt3 => 3

def clockMask (self : Instance) : Word := Word.bit 32 self.index

def enableClock (self : Instance) : Driver Unit := do
  Prcm.powerPeriph
  Prcm.enableTimerClocks self.clockMask

end Instance

end Timer

/-- A handle on the `TAV` register of its timer block. -/
structure Counter where
  registers : GptBlock
  deriving DecidableEq

namespace Counter

open Timer

def initializeCounter (timer : Instance) : Driver Counter := do
  let registers := timer.registers
  timer.enableClock
  -- Both halves are disabled before the configuration changes.
  writeReg (.gpt registers .ctl) 0
  writeReg (.gpt registers .cfg) 0
  writeReg (.gpt registers .imr) 0
  writeReg (.gpt registers .iclr) 1
  let periodic : Word := 2
  let mode := Word.setFlag (Word.setField 0 0 2 periodic) 4 true
  writeReg (.gpt registers .tamr) mode
  writeReg (.gpt registers .tailr) (BitVec.allOnes 32)
  writeReg (.gpt registers .tav) 0
  writeReg (.gpt registers .ctl) 1
  return ⟨registers⟩

theorem yields_initializeCounter (timer : Instance) :
    (initializeCounter timer).Yields fun counter => counter = ⟨timer.registers⟩ :=
  .after fun _ => rfl

def now (counter : Counter) : Driver Word := readReg (.gpt counter.registers .tav)

def elapsedSince (counter : Counter) (start : Word) : Driver Word := do
  return (← counter.now) - start

end Counter

structure TimerError where
  deriving DecidableEq, Repr

/-- The handle's register block, NVIC bit and counter cell, fixed by its instance. -/
structure Timer where
  registers : GptBlock
  irqMask : Word
  count : Fin 4
  deriving DecidableEq

namespace Timer

def clearTimeout (registers : GptBlock) : Driver Unit := do
  writeReg (.gpt registers .iclr) 1
  let _ ← readReg (.gpt registers .mis)
  perform .nopNop

/-- Stop counting and discard any pending timeout. -/
def stop (timer : Timer) : Driver Unit := do
  writeReg (.nvic .icer0) timer.irqMask
  perform .dsbIsb
  writeReg (.gpt timer.registers .ctl) 0
  writeReg (.gpt timer.registers .imr) 0
  clearTimeout timer.registers
  -- The latched request is discarded after its source is cleared.
  writeReg (.nvic .icpr0) timer.irqMask

def acceptedTicks (microseconds : Word) : Option Word :=
  (ticksFromUs microseconds).filter fun ticks => ticks != 0

def arm (timer : Timer) (microseconds mode : Word) : Driver (Except TimerError Unit) :=
  match acceptedTicks microseconds with
  | none => return .error ⟨⟩
  | some ticks => do
      timer.stop
      writeReg (.gpt timer.registers .cfg) 0
      let config := Word.setFlag (Word.setField 0 0 2 mode) 8 true
      writeReg (.gpt timer.registers .tamr) config
      writeReg (.gpt timer.registers .tailr) (ticks - 1)
      writeReg (.gpt timer.registers .imr) 1
      writeReg (.nvic .iser0) timer.irqMask
      writeReg (.gpt timer.registers .ctl) 1
      return .ok ()

def periodic : Word := 2

def oneShot : Word := 1

def startPeriodicUs (timer : Timer) (microseconds : Word) : Driver (Except TimerError Unit) :=
  timer.arm microseconds periodic

def startOnceUs (timer : Timer) (microseconds : Word) : Driver (Except TimerError Unit) :=
  timer.arm microseconds oneShot

def ofInstance (timer : Instance) : Timer where
  registers := timer.registers
  irqMask := Word.bit 32 timer.irq
  count := timer.index

def initializeTimer (timer : Instance) : Driver Timer := do
  timer.enableClock
  let handle := ofInstance timer
  handle.stop
  Interrupts.setPriority timer.irq 2
  return handle

theorem yields_initializeTimer (timer : Instance) :
    (initializeTimer timer).Yields fun handle => handle = ofInstance timer :=
  .after fun _ => .after fun _ => .after fun _ => rfl

/-- `Timer::interrupts`: a relaxed load of the handle's cell. -/
def interrupts (timer : Timer) : Driver Word := readReg (.timerInterrupts timer.count)

def interrupt (timer : Instance) : Driver Unit := do
  clearTimeout timer.registers
  perform (.fetchAdd timer.index)

theorem interrupt_eq (timer : Instance) :
    interrupt timer =
      .write (.gpt timer.registers .iclr) 1 (.read (.gpt timer.registers .mis) fun _ =>
        .act .nopNop (.act (.fetchAdd timer.index) (.ret ()))) := rfl

def timer0A : Driver Unit := interrupt .gpt0

def timer1A : Driver Unit := interrupt .gpt1

def timer2A : Driver Unit := interrupt .gpt2

def timer3A : Driver Unit := interrupt .gpt3

end Timer

namespace Startup

/-- A vector: the terminal fault entry or a peripheral handler. -/
inductive Handler where
  | faultEntry
  | handler (code : Driver Unit)

/-- `VECTORS.irqs`, built by overwriting the default entries in source order. -/
def irqs : Nat → Handler :=
  let irqs := fun _ => Handler.faultEntry
  let irqs := Function.update irqs Interrupts.gpt0a (.handler Timer.timer0A)
  let irqs := Function.update irqs Interrupts.gpt1a (.handler Timer.timer1A)
  let irqs := Function.update irqs Interrupts.gpt2a (.handler Timer.timer2A)
  Function.update irqs Interrupts.gpt3a (.handler Timer.timer3A)

theorem irqs_irq (timer : Timer.Instance) :
    irqs timer.irq = .handler (Timer.interrupt timer) := by
  cases timer <;> rfl

end Startup

end DirectLine.Firmware
