import DirectLine.Firmware.Registers
import DirectLine.Interaction.Loop

/-!
# RAM initialisation

The loops of `rust_start` in `startup.rs`, which run before any static is
accessed, over the memory map of `memory.ld`.
-/

namespace DirectLine.Firmware.Startup

open DirectLine.Interaction

abbrev Address := BitVec 32

/-- Flash and SRAM by words, each at the address of its first byte. -/
structure Memory where
  flash : Address → Word
  sram : Address → Word

/-- End of `FLASH`, whose origin is zero. -/
def flashEnd : Nat := 0x100000

def sramOrigin : Nat := 0x20000000

def sramEnd : Nat := 0x20040000

namespace Memory

def InSram (address : Address) : Prop :=
  sramOrigin ≤ address.toNat ∧ address.toNat < sramEnd

instance (address : Address) : Decidable (InSram address) :=
  inferInstanceAs (Decidable (_ ∧ _))

def load (memory : Memory) (address : Address) : Word :=
  if InSram address then memory.sram address else memory.flash address

def store (memory : Memory) (address : Address) (value : Word) : Memory :=
  if InSram address then { memory with sram := Function.update memory.sram address value }
  else memory

end Memory

/-- The linker's symbols for the loops. -/
structure Symbols where
  sidata : Address
  sdata : Address
  edata : Address
  sbss : Address
  ebss : Address
  stackBottom : Address

/-- The locals of `rust_start` and the memory. -/
structure Locals where
  source : Address
  destination : Address
  memory : Memory

namespace Locals

/-- One turn of the `.data` loop. -/
def copyWord (locals : Locals) : Locals where
  source := locals.source + 4
  destination := locals.destination + 4
  memory := locals.memory.store locals.destination (locals.memory.load locals.source)

/-- One turn of the `.bss` and stack loops. -/
def fillWord (value : Word) (locals : Locals) : Locals :=
  { locals with
    destination := locals.destination + 4
    memory := locals.memory.store locals.destination value }

def below (bound : Address) (locals : Locals) : Bool :=
  decide (locals.destination < bound)

end Locals

def stackWatermark : Word := 0xa5a5a5a5

/-- `rust_start` up to the boot record; `currentSp` is the value of MSP. -/
def rustStart (symbols : Symbols) (currentSp : Address) (memory : Memory) (fuel : Nat) :
    Option Memory := do
  let copied ← loop (Locals.below symbols.edata) Locals.copyWord fuel
    ⟨symbols.sidata, symbols.sdata, memory⟩
  let zeroed ← loop (Locals.below symbols.ebss) (Locals.fillWord 0) fuel
    { copied with destination := symbols.sbss }
  let marked ← loop (Locals.below currentSp) (Locals.fillWord stackWatermark) fuel
    { zeroed with destination := symbols.stackBottom }
  return marked.memory

theorem rustStart_of_le {symbols : Symbols} {currentSp : Address} {memory memory' : Memory}
    {fuel fuel' : Nat} (started : rustStart symbols currentSp memory fuel = some memory')
    (le : fuel ≤ fuel') : rustStart symbols currentSp memory fuel' = some memory' := by
  simp only [rustStart, Option.bind_eq_bind, Option.bind_eq_some_iff] at started ⊢
  obtain ⟨copied, copies, zeroed, zeroes, marked, marks, same⟩ := started
  exact ⟨copied, loop_of_le copies le, zeroed, loop_of_le zeroes le, marked,
    loop_of_le marks le, same⟩

/-- A word-aligned range of SRAM, possibly empty. -/
structure Extent where
  start : Address
  stop : Address
  ordered : start.toNat ≤ stop.toNat
  startAligned : start.toNat % 4 = 0
  stopAligned : stop.toNat % 4 = 0
  above : sramOrigin ≤ start.toNat
  below : stop.toNat ≤ sramEnd

namespace Extent

def Holds (extent : Extent) (address : Address) : Prop :=
  extent.start ≤ address ∧ address < extent.stop

def Disjoint (first second : Extent) : Prop :=
  ∀ address, ¬(first.Holds address ∧ second.Holds address)

theorem Disjoint.of_before {first second : Extent}
    (before : first.stop.toNat ≤ second.start.toNat) : first.Disjoint second := by
  rintro address ⟨⟨-, inside⟩, ⟨reached, -⟩⟩
  rw [BitVec.lt_def] at inside
  rw [BitVec.le_def] at reached
  omega

theorem Disjoint.symm {first second : Extent} (disjoint : first.Disjoint second) :
    second.Disjoint first :=
  fun address both => disjoint address both.symm

def words (extent : Extent) : Nat := (extent.stop.toNat - extent.start.toNat) / 4

end Extent

def word (start : Address) (index : Nat) : Address := start + BitVec.ofNat 32 (4 * index)

/-- The ranges of a linked image.  The stack is that below the live frame. -/
structure Layout where
  sidata : Address
  data : Extent
  bss : Extent
  stack : Extent
  faultStack : Extent
  diagnostic : Extent
  image : sidata.toNat + (data.stop.toNat - data.start.toNat) ≤ flashEnd
  disjoint : [data, bss, stack, faultStack, diagnostic].Pairwise Extent.Disjoint

def Layout.symbols (layout : Layout) : Symbols where
  sidata := layout.sidata
  sdata := layout.data.start
  edata := layout.data.stop
  sbss := layout.bss.start
  ebss := layout.bss.stop
  stackBottom := layout.stack.start

section Words

variable {start : Address} {index : Nat} {extent : Extent}

theorem toNat_word (inside : start.toNat + 4 * index < 2 ^ 32) :
    (word start index).toNat = start.toNat + 4 * index := by
  rw [word, BitVec.toNat_add, BitVec.toNat_ofNat]
  omega

theorem word_succ : word start index + 4 = word start (index + 1) := by
  rw [word, word, Nat.mul_succ, BitVec.ofNat_add, BitVec.add_assoc]
  rfl

theorem Extent.toNat_stop (extent : Extent) :
    extent.stop.toNat = extent.start.toNat + 4 * extent.words := by
  obtain ⟨start, stop, ordered, startAligned, stopAligned, -, -⟩ := extent
  simp only [Extent.words]
  omega

theorem Extent.toNat_word (extent : Extent) (within : index ≤ extent.words) :
    (word extent.start index).toNat = extent.start.toNat + 4 * index := by
  apply Startup.toNat_word
  have stop := extent.toNat_stop
  have bounded := extent.stop.isLt
  omega

theorem Extent.word_lt_stop (within : index ≤ extent.words) :
    word extent.start index < extent.stop ↔ index < extent.words := by
  rw [BitVec.lt_def, extent.toNat_word within, extent.toNat_stop]
  omega

theorem Extent.holds_word (within : index < extent.words) :
    extent.Holds (word extent.start index) := by
  refine ⟨?_, (word_lt_stop (Nat.le_of_lt within)).mpr within⟩
  rw [BitVec.le_def, extent.toNat_word (Nat.le_of_lt within)]
  exact Nat.le_add_right _ _

theorem Extent.inSram {address : Address} (holds : extent.Holds address) :
    Memory.InSram address := by
  obtain ⟨reached, before⟩ := holds
  rw [BitVec.le_def] at reached
  rw [BitVec.lt_def] at before
  exact ⟨extent.above.trans reached, before.trans_le extent.below⟩

theorem Extent.word_injective {other : Nat} (within : index < extent.words)
    (withinOther : other < extent.words)
    (same : word extent.start index = word extent.start other) : index = other := by
  have values := congrArg BitVec.toNat same
  rw [extent.toNat_word (Nat.le_of_lt within), extent.toNat_word (Nat.le_of_lt withinOther)]
    at values
  omega

end Words

def Memory.stores (memory : Memory) (start : Address) (values : Nat → Word) : Nat → Memory
  | 0 => memory
  | count + 1 => (memory.stores start values count).store (word start count) (values count)

section Stores

variable {memory : Memory} {extent : Extent} {values : Nat → Word} {count : Nat}

theorem Memory.flash_store (memory : Memory) (address : Address) (value : Word) :
    (memory.store address value).flash = memory.flash := by
  rw [Memory.store]
  split <;> rfl

theorem Memory.flash_stores (memory : Memory) (start : Address) (values : Nat → Word)
    (count : Nat) : (memory.stores start values count).flash = memory.flash := by
  induction count with
  | zero => rfl
  | succ count inductionHypothesis =>
      rw [Memory.stores, Memory.flash_store, inductionHypothesis]

theorem Extent.sram_store {index : Nat} (within : index < extent.words) (memory : Memory)
    (value : Word) :
    (memory.store (word extent.start index) value).sram =
      Function.update memory.sram (word extent.start index) value := by
  rw [Memory.store, if_pos (inSram (holds_word within))]

theorem sram_stores_outside {address : Address} (outside : ¬extent.Holds address)
    (within : count ≤ extent.words) :
    (memory.stores extent.start values count).sram address = memory.sram address := by
  induction count with
  | zero => rfl
  | succ count inductionHypothesis =>
      have distinct : address ≠ word extent.start count := by
        rintro rfl
        exact outside (Extent.holds_word within)
      rw [Memory.stores, Extent.sram_store within, Function.update_of_ne distinct]
      exact inductionHypothesis (Nat.le_of_succ_le within)

/-- Each word holds what was stored to it; later words do not disturb it. -/
theorem sram_stores_word {index : Nat} (stored : index < count)
    (within : count ≤ extent.words) :
    (memory.stores extent.start values count).sram (word extent.start index) = values index := by
  induction count with
  | zero => exact absurd stored (Nat.not_lt_zero index)
  | succ count inductionHypothesis =>
      rw [Memory.stores, Extent.sram_store within]
      by_cases last : index = count
      · rw [last, Function.update_self]
      · have before : index < count := by omega
        have distinct : word extent.start index ≠ word extent.start count :=
          fun same => last (Extent.word_injective (before.trans_le (Nat.le_of_succ_le within))
            within same)
        rw [Function.update_of_ne distinct]
        exact inductionHypothesis before (Nat.le_of_succ_le within)

end Stores

section Loops

variable {extent : Extent} {fuel : Nat}

/-- A loop that moves the destination through an extent takes one turn for each word. -/
theorem loop_extent {body : Locals → Locals} {locals : Locals}
    (moves : ∀ turn ≤ extent.words, (body^[turn] locals).destination = word extent.start turn)
    (enough : extent.words < fuel) :
    loop (Locals.below extent.stop) body fuel locals = some (body^[extent.words] locals) := by
  apply loop_eq_iterate
  · intro turn before
    rw [Locals.below, decide_eq_true_iff, moves turn (Nat.le_of_lt before)]
    exact (Extent.word_lt_stop (Nat.le_of_lt before)).mpr before
  · rw [Locals.below, decide_eq_false_iff_not, moves _ le_rfl, Extent.word_lt_stop le_rfl]
    exact Nat.lt_irrefl _
  · exact enough

theorem iterate_fillWord (value : Word) (source destination : Address) (memory : Memory)
    (turns : Nat) :
    (Locals.fillWord value)^[turns] ⟨source, destination, memory⟩ =
      ⟨source, word destination turns, memory.stores destination (fun _ => value) turns⟩ := by
  induction turns with
  | zero =>
      rw [word]
      simp [Memory.stores]
  | succ turns inductionHypothesis =>
      rw [Function.iterate_succ_apply', inductionHypothesis, Locals.fillWord, word_succ]
      rfl

theorem iterate_copyWord (source destination : Address) (memory : Memory) {turns : Nat}
    (image : ∀ index < turns, ¬Memory.InSram (word source index)) :
    Locals.copyWord^[turns] ⟨source, destination, memory⟩ =
      ⟨word source turns, word destination turns,
        memory.stores destination (fun index => memory.flash (word source index)) turns⟩ := by
  induction turns with
  | zero =>
      rw [word, word]
      simp [Memory.stores]
  | succ turns inductionHypothesis =>
      have before := inductionHypothesis fun index earlier =>
        image index (Nat.lt_succ_of_lt earlier)
      rw [Function.iterate_succ_apply', before, Locals.copyWord, word_succ, word_succ, Memory.load,
        if_neg (image turns (Nat.lt_succ_self turns)), Memory.flash_stores]
      rfl

theorem loop_fill (extent : Extent) (value : Word) (source : Address) (memory : Memory)
    (enough : extent.words < fuel) :
    loop (Locals.below extent.stop) (Locals.fillWord value) fuel ⟨source, extent.start, memory⟩ =
      some ⟨source, word extent.start extent.words,
        memory.stores extent.start (fun _ => value) extent.words⟩ := by
  rw [loop_extent (fun turn _ => by rw [iterate_fillWord]) enough, iterate_fillWord]

theorem loop_copy (extent : Extent) (source : Address) (memory : Memory)
    (image : ∀ index < extent.words, ¬Memory.InSram (word source index))
    (enough : extent.words < fuel) :
    loop (Locals.below extent.stop) Locals.copyWord fuel ⟨source, extent.start, memory⟩ =
      some ⟨word source extent.words, word extent.start extent.words,
        memory.stores extent.start (fun index => memory.flash (word source index))
          extent.words⟩ := by
  have moves : ∀ turn ≤ extent.words,
      (Locals.copyWord^[turn] ⟨source, extent.start, memory⟩).destination =
        word extent.start turn := by
    intro turn within
    rw [iterate_copyWord]
    exact fun index before => image index (before.trans_le within)
  rw [loop_extent moves enough, iterate_copyWord _ _ _ image]

end Loops

namespace Layout

variable (layout : Layout) (memory : Memory)

theorem image_flash {index : Nat} (within : index < layout.data.words) :
    ¬Memory.InSram (word layout.sidata index) := by
  have image := layout.image
  have stop := layout.data.toNat_stop
  have inside : (word layout.sidata index).toNat = layout.sidata.toNat + 4 * index := by
    apply toNat_word
    simp only [flashEnd] at image
    omega
  rintro ⟨above, -⟩
  rw [inside] at above
  simp only [flashEnd, sramOrigin] at image above
  omega

def imageWord (index : Nat) : Word := memory.flash (word layout.sidata index)

def copied : Memory :=
  memory.stores layout.data.start (layout.imageWord memory) layout.data.words

def zeroed : Memory :=
  (layout.copied memory).stores layout.bss.start (fun _ => 0) layout.bss.words

def marked : Memory :=
  (layout.zeroed memory).stores layout.stack.start (fun _ => stackWatermark) layout.stack.words

/-- The loops terminate, within one turn for each word. -/
theorem rustStart_eq {fuel : Nat} (data : layout.data.words < fuel)
    (bss : layout.bss.words < fuel) (stack : layout.stack.words < fuel) :
    rustStart layout.symbols layout.stack.stop memory fuel = some (layout.marked memory) := by
  rw [rustStart, symbols, loop_copy _ _ _ (fun _ => layout.image_flash) data, Option.bind_eq_bind,
    Option.bind_some, loop_fill _ _ _ _ bss, Option.bind_some, loop_fill _ _ _ _ stack]
  rfl

/-- What the loops leave: the load image in `.data`, zero in `.bss`, the watermark below the live
frame, and every other word as it was. -/
structure Initialized (memory' : Memory) : Prop where
  flash : memory'.flash = memory.flash
  data : ∀ index < layout.data.words,
    memory'.sram (word layout.data.start index) = memory.flash (word layout.sidata index)
  bss : ∀ index < layout.bss.words, memory'.sram (word layout.bss.start index) = 0
  stack : ∀ index < layout.stack.words,
    memory'.sram (word layout.stack.start index) = stackWatermark
  other : ∀ address, ¬layout.data.Holds address → ¬layout.bss.Holds address →
    ¬layout.stack.Holds address → memory'.sram address = memory.sram address
  faultStack : ∀ address, layout.faultStack.Holds address →
    memory'.sram address = memory.sram address
  diagnostic : ∀ address, layout.diagnostic.Holds address →
    memory'.sram address = memory.sram address

theorem sram_marked_other {address : Address} (data : ¬layout.data.Holds address)
    (bss : ¬layout.bss.Holds address) (stack : ¬layout.stack.Holds address) :
    (layout.marked memory).sram address = memory.sram address := by
  rw [marked, sram_stores_outside stack le_rfl, zeroed, sram_stores_outside bss le_rfl, copied,
    sram_stores_outside data le_rfl]

theorem initialized_marked : layout.Initialized memory (layout.marked memory) := by
  obtain ⟨data, rest⟩ := List.pairwise_cons.mp layout.disjoint
  obtain ⟨bss, rest⟩ := List.pairwise_cons.mp rest
  obtain ⟨stack, -⟩ := List.pairwise_cons.mp rest
  have dataBss : layout.data.Disjoint layout.bss := data _ (by simp)
  have dataStack : layout.data.Disjoint layout.stack := data _ (by simp)
  have bssStack : layout.bss.Disjoint layout.stack := bss _ (by simp)
  -- An address of another extent is in none of those written.
  have apart : ∀ extent ∈ [layout.faultStack, layout.diagnostic], ∀ address,
      extent.Holds address → (layout.marked memory).sram address = memory.sram address := by
    intro extent member address holds
    apply layout.sram_marked_other memory
    · exact fun within => data extent (by simp_all) address ⟨within, holds⟩
    · exact fun within => bss extent (by simp_all) address ⟨within, holds⟩
    · exact fun within => stack extent (by simp_all) address ⟨within, holds⟩
  constructor
  · rw [marked, Memory.flash_stores, zeroed, Memory.flash_stores, copied, Memory.flash_stores]
  · intro index within
    have holds := Extent.holds_word within
    rw [marked, sram_stores_outside (fun other => dataStack _ ⟨holds, other⟩) le_rfl, zeroed,
      sram_stores_outside (fun other => dataBss _ ⟨holds, other⟩) le_rfl, copied,
      sram_stores_word within le_rfl, imageWord]
  · intro index within
    have holds := Extent.holds_word within
    rw [marked, sram_stores_outside (fun other => bssStack _ ⟨holds, other⟩) le_rfl, zeroed,
      sram_stores_word within le_rfl]
  · intro index within
    rw [marked, sram_stores_word within le_rfl]
  · intro address data bss stack
    exact layout.sram_marked_other memory data bss stack
  · exact apart layout.faultStack (by simp)
  · exact apart layout.diagnostic (by simp)

end Layout

/-- For every flash image, SRAM content and layout the loops terminate and initialise the RAM. -/
theorem rustStart_initializes (layout : Layout) (memory : Memory) :
    ∃ memory', layout.Initialized memory memory' ∧
      ∃ turns, ∀ fuel, turns < fuel →
        rustStart layout.symbols layout.stack.stop memory fuel = some memory' := by
  refine ⟨layout.marked memory, layout.initialized_marked memory,
    max layout.data.words (max layout.bss.words layout.stack.words), fun fuel enough => ?_⟩
  obtain ⟨data, enough⟩ := max_lt_iff.mp enough
  obtain ⟨bss, stack⟩ := max_lt_iff.mp enough
  exact layout.rustStart_eq memory data bss stack

/-- Two words of `.data`, one of `.bss` and two below the frame. -/
def Layout.small : Layout where
  sidata := 0x1000
  data := ⟨0x20002200, 0x20002208, by decide, by decide, by decide, by decide, by decide⟩
  bss := ⟨0x20002208, 0x2000220c, by decide, by decide, by decide, by decide, by decide⟩
  stack := ⟨0x20000200, 0x20000208, by decide, by decide, by decide, by decide, by decide⟩
  faultStack := ⟨0x20000000, 0x20000200, by decide, by decide, by decide, by decide, by decide⟩
  diagnostic := ⟨0x2000220c, 0x20002228, by decide, by decide, by decide, by decide, by decide⟩
  image := by decide
  disjoint := by
    simp only [List.pairwise_cons, List.forall_mem_cons, List.not_mem_nil, false_implies,
      implies_true, List.Pairwise.nil, and_true]
    exact ⟨⟨.of_before (by decide), .symm (.of_before (by decide)),
        .symm (.of_before (by decide)), .of_before (by decide)⟩,
      ⟨.symm (.of_before (by decide)), .symm (.of_before (by decide)), .of_before (by decide)⟩,
      ⟨.symm (.of_before (by decide)), .of_before (by decide)⟩, .of_before (by decide)⟩

-- Flash that holds each word's own address is copied over SRAM that holds ones.
example : ((rustStart Layout.small.symbols Layout.small.stack.stop ⟨id, fun _ => 1⟩ 3).map
    fun memory => [0x20002200, 0x20002204, 0x20002208, 0x20000204, 0x20000208].map memory.sram) =
      some [0x1000, 0x1004, 0, stackWatermark, 1] := by decide

end DirectLine.Firmware.Startup
