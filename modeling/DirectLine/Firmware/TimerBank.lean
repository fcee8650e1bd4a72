import DirectLine.Firmware.Timer

/-!
# Four timers on shared words

The registers of the four timer blocks, the words they share with each other
(`GPTCLKGR`, the NVIC words of bank 0 and the packed priorities) and the static
array of counts.  `View` is what one instance owns of them, and `Frame` says that
nothing else has changed.
-/

namespace DirectLine.Firmware.TimerBank

open DirectLine.Interaction

structure Bank where
  gpt : GptBlock → Gpt → Word
  gptclkgr : Word
  enables : Word
  pendings : Word
  priorities : Nat → Word
  counts : Fin 4 → Word

namespace Bank

/-- The effect of one access.  `ISER0`, `ICER0` and `ICPR0` act on the bits written as one;
`GPTCLKGR` and the priorities are plain words. -/
def access (bank : Bank) : Access → Bank
  | .write (.gpt block register) value =>
      { bank with
        gpt := Function.update bank.gpt block (Function.update (bank.gpt block) register value) }
  | .write (.prcm .gptclkgr) value => { bank with gptclkgr := value }
  | .write (.nvic .iser0) value => { bank with enables := bank.enables ||| value }
  | .write (.nvic .icer0) value => { bank with enables := bank.enables &&& ~~~value }
  | .write (.nvic .icpr0) value => { bank with pendings := bank.pendings &&& ~~~value }
  | .write (.nvic (.ipr word)) value =>
      { bank with priorities := Function.update bank.priorities word value }
  | .act (.fetchAdd index) =>
      { bank with counts := Function.update bank.counts index (bank.counts index + 1) }
  | _ => bank

/-- A read of a plain word is answered with that word; status registers answer at will. -/
def Answers (bank : Bank) : Access → Prop
  | .read (.prcm .gptclkgr) value => value = bank.gptclkgr
  | .read (.nvic (.ipr word)) value => value = bank.priorities word
  | .read (.timerInterrupts index) value => value = bank.counts index
  | _ => True

end Bank

def priorityLo (timer : Timer.Instance) : Nat := timer.irq % 4 * 8

structure View where
  registers : Gpt → Word
  clock : Bool
  enabled : Bool
  pending : Bool
  priority : Word
  count : Word

namespace Bank

def view (bank : Bank) (timer : Timer.Instance) : View where
  registers := bank.gpt timer.registers
  clock := bank.gptclkgr.getLsbD timer.index
  enabled := bank.enables.getLsbD timer.irq
  pending := bank.pendings.getLsbD timer.irq
  priority := Word.field (bank.priorities (timer.irq / 4)) (priorityLo timer) 8
  count := bank.counts timer.index

end Bank

/-- Nothing outside one instance's view has changed. -/
structure Frame (timer : Timer.Instance) (bank bank' : Bank) : Prop where
  gpt : ∀ block, block ≠ timer.registers → bank'.gpt block = bank.gpt block
  gptclkgr : ∀ bit, bit ≠ timer.index.val → bank'.gptclkgr.getLsbD bit = bank.gptclkgr.getLsbD bit
  enables : ∀ bit, bit ≠ timer.irq → bank'.enables.getLsbD bit = bank.enables.getLsbD bit
  pendings : ∀ bit, bit ≠ timer.irq → bank'.pendings.getLsbD bit = bank.pendings.getLsbD bit
  priorities : ∀ word bit, (word ≠ timer.irq / 4 ∨ bit < priorityLo timer ∨
    priorityLo timer + 8 ≤ bit) →
      (bank'.priorities word).getLsbD bit = (bank.priorities word).getLsbD bit
  counts : ∀ index, index ≠ timer.index → bank'.counts index = bank.counts index

section Distinct

variable {first second : Timer.Instance}

theorem registers_ne (distinct : first ≠ second) : first.registers ≠ second.registers := by
  cases first <;> cases second <;> first | exact absurd rfl distinct | decide

theorem irq_ne (distinct : first ≠ second) : first.irq ≠ second.irq := by
  cases first <;> cases second <;> first | exact absurd rfl distinct | decide

theorem index_ne (distinct : first ≠ second) : first.index ≠ second.index := by
  cases first <;> cases second <;> first | exact absurd rfl distinct | decide

/-- The priority bytes of two instances do not overlap, though two of them share a word. -/
theorem priority_disjoint (distinct : first ≠ second) {bit : Nat} (lower : priorityLo first ≤ bit)
    (upper : bit < priorityLo first + 8) :
    first.irq / 4 ≠ second.irq / 4 ∨ bit < priorityLo second ∨ priorityLo second + 8 ≤ bit := by
  have differ := irq_ne distinct
  unfold priorityLo at *
  omega

end Distinct

namespace Frame

variable {timer : Timer.Instance} {bank bank' : Bank}

theorem refl (timer : Timer.Instance) (bank : Bank) : Frame timer bank bank :=
  ⟨fun _ _ => rfl, fun _ _ => rfl, fun _ _ => rfl, fun _ _ => rfl, fun _ _ _ => rfl,
    fun _ _ => rfl⟩

theorem view (frame : Frame timer bank bank') {other : Timer.Instance} (distinct : other ≠ timer) :
    bank'.view other = bank.view other := by
  simp only [Bank.view, View.mk.injEq]
  refine ⟨frame.gpt _ (registers_ne distinct), frame.gptclkgr _ ?_,
    frame.enables _ (irq_ne distinct), frame.pendings _ (irq_ne distinct), ?_,
    frame.counts _ (index_ne distinct)⟩
  · exact fun same => index_ne distinct (Fin.val_injective same)
  · exact Word.field_congr fun bit lower upper =>
      frame.priorities _ bit (priority_disjoint distinct lower upper)

end Frame

/-- The operations of the two drivers. -/
inductive Operation where
  | initializeTimer
  | initializeCounter
  | startPeriodicUs (microseconds : Word)
  | startOnceUs (microseconds : Word)
  | stop
  deriving DecidableEq, Repr

namespace Operation

def code (timer : Timer.Instance) : Operation → Driver Unit
  | .initializeTimer => do
      let _ ← Timer.initializeTimer timer
  | .initializeCounter => do
      let _ ← Counter.initializeCounter timer
  | .startPeriodicUs microseconds => do
      let _ ← (Timer.ofInstance timer).startPeriodicUs microseconds
  | .startOnceUs microseconds => do
      let _ ← (Timer.ofInstance timer).startOnceUs microseconds
  | .stop => (Timer.ofInstance timer).stop

/-- Board initialization serialises the read-modify-writes of the shared words. -/
def exclusive : Operation → Bool
  | .initializeTimer | .initializeCounter => true
  | .startPeriodicUs _ | .startOnceUs _ | .stop => false

end Operation

namespace View

def store (view : View) (register : Gpt) (value : Word) : View :=
  { view with registers := Function.update view.registers register value }

def stop (view : View) : View :=
  { ({ view with enabled := false }.store .ctl 0 |>.store .imr 0 |>.store .iclr 1) with
    pending := false }

def arm (view : View) (microseconds mode : Word) : View :=
  match Timer.acceptedTicks microseconds with
  | none => view
  | some ticks =>
      { (view.stop.store .cfg 0
          |>.store .tamr (Word.setFlag (Word.setField 0 0 2 mode) 8 true)
          |>.store .tailr (ticks - 1)
          |>.store .imr 1) with enabled := true }.store .ctl 1

def initializeTimer (view : View) : View :=
  { ({ view with clock := true }.stop) with priority := (2 : Word) <<< 5 }

def initializeCounter (view : View) : View :=
  { view with clock := true }.store .ctl 0 |>.store .cfg 0 |>.store .imr 0 |>.store .iclr 1
    |>.store .tamr (Word.setFlag (Word.setField 0 0 2 2) 4 true)
    |>.store .tailr (BitVec.allOnes 32) |>.store .tav 0 |>.store .ctl 1

def enter (view : View) : View := { view with pending := false }

def interrupt (view : View) : View :=
  { view.store .iclr 1 with count := view.count + 1 }

end View

def Operation.effect : Operation → View → View
  | .initializeTimer => View.initializeTimer
  | .initializeCounter => View.initializeCounter
  | .startPeriodicUs microseconds => fun view => view.arm microseconds Timer.periodic
  | .startOnceUs microseconds => fun view => view.arm microseconds Timer.oneShot
  | .stop => View.stop

/-- What may run on an instance: an operation, or the handler its vector enters. -/
inductive Task where
  | operation (operation : Operation)
  | vector
  deriving DecidableEq, Repr

def Task.effect : Task → View → View
  | .operation started => started.effect
  | .vector => fun view => view.enter.interrupt

end DirectLine.Firmware.TimerBank
