import DirectLine.Arithmetic.Placement
import DirectLine.Firmware.Startup

/-!
# Linked images

`memory.ld` places the input sections of an image in flash and SRAM.  An image
that links satisfies what `rust_start` relies on, whatever was linked into it.
-/

namespace DirectLine.Firmware.Link

open DirectLine.Arithmetic.Placement
open DirectLine.Firmware.Startup (Address Memory Extent Layout Symbols)

structure Region where
  origin : Nat
  length : Nat
  deriving DecidableEq, Repr

namespace Region

def flash : Region := ⟨0x00000000, 1024 * 1024⟩

def ccfg : Region := ⟨0x50000000, 2 * 1024⟩

def sram : Region := ⟨0x20000000, 256 * 1024⟩

def stop (region : Region) : Nat := region.origin + region.length

end Region

/-- The allocated input sections by the patterns they match, in link order. -/
structure Objects where
  vectors : List Block
  text : List Block
  rodata : List Block
  ccfg : List Block
  data : List Block
  bss : List Block
  diagnostic : List Block
  orphan : List Block

/-- The exponent of an output section's alignment: that of its inputs, and at least as asked. -/
def exponent (least : Nat) (inputs : List Block) : Nat :=
  inputs.foldr (fun input widest => max input.exponent widest) least

def output (least : Nat) (inputs : List Block) (location : Nat) : Span where
  start := alignUp (2 ^ exponent least inputs) location
  stop := after inputs (alignUp (2 ^ exponent least inputs) location)

/-- `. = ALIGN(4)` at the end of a section. -/
def padded (span : Span) : Span := { span with stop := alignUp 4 span.stop }

def reserve (alignment size location : Nat) : Span where
  start := alignUp alignment location
  stop := alignUp alignment location + size

structure Image where
  vectors : Span
  text : Span
  rodata : Span
  ccfg : Span
  faultStack : Span
  stack : Span
  data : Span
  /-- `LOADADDR(.data)`. -/
  sidata : Nat
  bss : Span
  diagnostic : Span
  orphan : Span
  deriving DecidableEq, Repr

def place (objects : Objects) : Image :=
  let vectors := output 8 objects.vectors Region.flash.origin
  let text := output 2 objects.text vectors.stop
  let rodata := output 2 objects.rodata text.stop
  let faultStack := reserve 8 512 Region.sram.origin
  let stack := reserve 8 (8 * 1024) faultStack.stop
  let data := padded (output 2 objects.data stack.stop)
  let bss := padded (output 2 objects.bss data.stop)
  let diagnostic := output 2 objects.diagnostic bss.stop
  { vectors, text, rodata
    ccfg := output 2 objects.ccfg Region.ccfg.origin
    faultStack, stack, data
    sidata := alignUp (2 ^ exponent 2 objects.data) rodata.stop
    bss, diagnostic
    orphan := output 0 objects.orphan diagnostic.stop }

inductive Failure where
  | overflow (region : Region)
  | assertion (message : String)
  deriving DecidableEq, Repr

def check (condition : Bool) (failure : Failure) : Except Failure Unit :=
  if condition then return () else throw failure

/-- The regions hold what is placed in them, and the script's assertions hold. -/
def link (objects : Objects) : Except Failure Image := do
  let image := place objects
  check (image.sidata + image.data.size ≤ Region.flash.stop) (.overflow .flash)
  check (image.ccfg.stop ≤ Region.ccfg.stop) (.overflow .ccfg)
  check (image.diagnostic.stop ≤ Region.sram.stop) (.overflow .sram)
  check (image.orphan.size == 0) (.assertion "Unexpected allocated input section")
  check (image.vectors.size == 252) (.assertion "Expected 16 core and 47 peripheral vectors")
  check (image.ccfg.size == 124) (.assertion "CCFG must match the x4 31-word layout")
  check (image.stack.stop &&& 7 == 0) (.assertion "Stack must be eight-byte aligned")
  return image

section Sections

variable {objects : Objects} {image : Image} {least location : Nat} {inputs : List Block}

theorem le_exponent (least : Nat) (inputs : List Block) : least ≤ exponent least inputs := by
  induction inputs with
  | nil => exact le_rfl
  | cons input inputs inductionHypothesis =>
      exact inductionHypothesis.trans (Nat.le_max_right ..)

theorem output_location (least : Nat) (inputs : List Block) (location : Nat) :
    location ≤ (output least inputs location).start :=
  le_alignUp (Nat.two_pow_pos _)

theorem output_ordered (least : Nat) (inputs : List Block) (location : Nat) :
    (output least inputs location).start ≤ (output least inputs location).stop :=
  le_after inputs _

theorem output_aligned (least : Nat) (inputs : List Block) (location : Nat) :
    2 ^ least ∣ (output least inputs location).start :=
  (Nat.pow_dvd_pow 2 (le_exponent least inputs)).trans (dvd_alignUp _ _)

theorem padded_stop (span : Span) : span.stop ≤ (padded span).stop := le_alignUp (by decide)

theorem check_bind_eq_ok {Result : Type} {condition : Bool} {failure : Failure}
    {rest : Unit → Except Failure Result} {result : Result} :
    (check condition failure >>= rest) = .ok result ↔
      condition = true ∧ rest () = .ok result := by
  cases condition with
  | true => exact ⟨fun linked => ⟨rfl, linked⟩, And.right⟩
  | false => exact ⟨nofun, nofun⟩

structure Placed (image : Image) : Prop where
  vectors : image.vectors.start = 0 ∧ image.vectors.stop = 252
  text : image.vectors.stop ≤ image.text.start ∧ image.text.start ≤ image.text.stop
  rodata : image.text.stop ≤ image.rodata.start ∧ image.rodata.start ≤ image.rodata.stop
  load : image.rodata.stop ≤ image.sidata
  loaded : image.sidata + image.data.size ≤ Region.flash.stop
  faultStack : image.faultStack = ⟨0x20000000, 0x20000200⟩
  stack : image.stack = ⟨0x20000200, 0x20002200⟩
  data : image.stack.stop ≤ image.data.start ∧ image.data.start ≤ image.data.stop
  dataAligned : 4 ∣ image.data.start ∧ 4 ∣ image.data.stop
  bss : image.data.stop ≤ image.bss.start ∧ image.bss.start ≤ image.bss.stop
  bssAligned : 4 ∣ image.bss.start ∧ 4 ∣ image.bss.stop
  diagnostic : image.bss.stop ≤ image.diagnostic.start ∧
    image.diagnostic.start ≤ image.diagnostic.stop
  diagnosticAligned : 4 ∣ image.diagnostic.start
  held : image.diagnostic.stop ≤ Region.sram.stop

theorem link_eq_ok (linked : link objects = .ok image) :
    image = place objects ∧ image.sidata + image.data.size ≤ Region.flash.stop ∧
      image.diagnostic.stop ≤ Region.sram.stop ∧ image.vectors.size = 252 := by
  simp only [link, check_bind_eq_ok] at linked
  obtain ⟨loaded, -, held, -, vectors, -, -, placed⟩ := linked
  cases placed
  exact ⟨rfl, of_decide_eq_true loaded, of_decide_eq_true held, eq_of_beq vectors⟩

theorem padded_aligned (inputs : List Block) (location : Nat) :
    4 ∣ (padded (output 2 inputs location)).start ∧
      4 ∣ (padded (output 2 inputs location)).stop :=
  ⟨output_aligned 2 inputs location, dvd_alignUp _ _⟩

theorem padded_ordered (inputs : List Block) (location : Nat) :
    (padded (output 2 inputs location)).start ≤ (padded (output 2 inputs location)).stop :=
  (output_ordered 2 inputs location).trans (padded_stop _)

theorem placed_of_link (linked : link objects = .ok image) : Placed image := by
  obtain ⟨rfl, loaded, held, vectors⟩ := link_eq_ok linked
  have start : (place objects).vectors.start = 0 := by
    apply Nat.eq_zero_of_le_zero
    exact alignUp_le (Nat.two_pow_pos _) (Nat.dvd_zero _) le_rfl
  constructor
  · rw [Span.size, start, Nat.sub_zero] at vectors
    exact ⟨start, vectors⟩
  · exact ⟨output_location _ _ _, output_ordered _ _ _⟩
  · exact ⟨output_location _ _ _, output_ordered _ _ _⟩
  · exact le_alignUp (Nat.two_pow_pos _)
  · exact loaded
  · rfl
  · rfl
  · exact ⟨output_location _ _ _, padded_ordered _ _⟩
  · exact padded_aligned _ _
  · exact ⟨output_location _ _ _, padded_ordered _ _⟩
  · exact padded_aligned _ _
  · exact ⟨output_location _ _ _, output_ordered _ _ _⟩
  · exact output_aligned 2 _ _
  · exact held

def bootDiagnostic : Block := ⟨2, 28⟩

theorem diagnostic_aligned (record : objects.diagnostic = [bootDiagnostic])
    (linked : link objects = .ok image) : 4 ∣ image.diagnostic.stop := by
  obtain ⟨rfl, -⟩ := link_eq_ok linked
  change 4 ∣ after objects.diagnostic _
  rw [record]
  exact Nat.dvd_add (dvd_alignUp _ _) (by decide)

end Sections

def address (location : Nat) : Address := BitVec.ofNat 32 location

theorem toNat_address {location : Nat} (inside : location ≤ Region.sram.stop) :
    (address location).toNat = location := by
  apply Nat.mod_eq_of_lt
  exact inside.trans_lt (by decide)

/-- Two locations bound a range of words of SRAM. -/
structure Bounds (start stop : Nat) : Prop where
  ordered : start ≤ stop
  startAligned : 4 ∣ start
  stopAligned : 4 ∣ stop
  above : Region.sram.origin ≤ start
  below : stop ≤ Region.sram.stop

def extent {start stop : Nat} (bounds : Bounds start stop) : Extent where
  start := address start
  stop := address stop
  ordered := by
    rw [toNat_address (bounds.ordered.trans bounds.below), toNat_address bounds.below]
    exact bounds.ordered
  startAligned := by
    rw [toNat_address (bounds.ordered.trans bounds.below)]
    exact Nat.mod_eq_zero_of_dvd bounds.startAligned
  stopAligned := by
    rw [toNat_address bounds.below]
    exact Nat.mod_eq_zero_of_dvd bounds.stopAligned
  above := by
    rw [toNat_address (bounds.ordered.trans bounds.below)]
    exact bounds.above
  below := by
    rw [toNat_address bounds.below]
    exact bounds.below

theorem disjoint_extent {start stop later last : Nat} {first : Bounds start stop}
    {second : Bounds later last} (before : stop ≤ later) :
    (extent first).Disjoint (extent second) := by
  apply Extent.Disjoint.of_before
  change (address stop).toNat ≤ (address later).toNat
  rwa [toNat_address first.below, toNat_address (second.ordered.trans second.below)]

def Image.symbols (image : Image) : Symbols where
  sidata := address image.sidata
  sdata := address image.data.start
  edata := address image.data.stop
  sbss := address image.bss.start
  ebss := address image.bss.stop
  stackBottom := address image.stack.start

section Layout

variable {image : Image} {frame : Nat}

/-- A frame of `rust_start` at the top of the main stack. -/
structure Framed (image : Image) (frame : Nat) : Prop where
  fits : frame ≤ image.stack.size
  aligned : 4 ∣ frame

theorem Placed.stack_start (placed : Placed image) : image.stack.start = 0x20000200 :=
  congrArg Span.start placed.stack

theorem Placed.stack_stop (placed : Placed image) : image.stack.stop = 0x20002200 :=
  congrArg Span.stop placed.stack

theorem Placed.faultStack_start (placed : Placed image) :
    image.faultStack.start = 0x20000000 := congrArg Span.start placed.faultStack

theorem Placed.faultStack_stop (placed : Placed image) : image.faultStack.stop = 0x20000200 :=
  congrArg Span.stop placed.faultStack

theorem Placed.bounds_faultStack (placed : Placed image) :
    Bounds image.faultStack.start image.faultStack.stop := by
  rw [placed.faultStack_start, placed.faultStack_stop]
  constructor <;> decide

theorem Placed.bounds_stack (placed : Placed image) (framed : Framed image frame) :
    Bounds image.stack.start (image.stack.stop - frame) := by
  have fits := framed.fits
  rw [Span.size, placed.stack_start, placed.stack_stop] at fits
  rw [placed.stack_start, placed.stack_stop]
  constructor
  · omega
  · decide
  · exact Nat.dvd_sub (by decide) framed.aligned
  · decide
  · exact (Nat.sub_le _ _).trans (by decide)

theorem Placed.above_data (placed : Placed image) : Region.sram.origin ≤ image.data.start := by
  refine le_trans ?_ placed.data.1
  rw [placed.stack_stop]
  decide

theorem Placed.bounds_data (placed : Placed image) :
    Bounds image.data.start image.data.stop where
  ordered := placed.data.2
  startAligned := placed.dataAligned.1
  stopAligned := placed.dataAligned.2
  above := placed.above_data
  below := placed.bss.1.trans <| placed.bss.2.trans <| placed.diagnostic.1.trans <|
    placed.diagnostic.2.trans placed.held

theorem Placed.bounds_bss (placed : Placed image) : Bounds image.bss.start image.bss.stop where
  ordered := placed.bss.2
  startAligned := placed.bssAligned.1
  stopAligned := placed.bssAligned.2
  above := placed.above_data.trans (placed.data.2.trans placed.bss.1)
  below := placed.diagnostic.1.trans (placed.diagnostic.2.trans placed.held)

theorem Placed.bounds_diagnostic (placed : Placed image) (record : 4 ∣ image.diagnostic.stop) :
    Bounds image.diagnostic.start image.diagnostic.stop where
  ordered := placed.diagnostic.2
  startAligned := placed.diagnosticAligned
  stopAligned := record
  above := placed.bounds_bss.above.trans (placed.bss.2.trans placed.diagnostic.1)
  below := placed.held

/-- The ranges of an image while `rust_start` has such a frame. -/
def layout (placed : Placed image) (record : 4 ∣ image.diagnostic.stop)
    (framed : Framed image frame) : Layout where
  sidata := address image.sidata
  data := extent placed.bounds_data
  bss := extent placed.bounds_bss
  stack := extent (placed.bounds_stack framed)
  faultStack := extent placed.bounds_faultStack
  diagnostic := extent (placed.bounds_diagnostic record)
  image := by
    change (address image.sidata).toNat +
      ((address image.data.stop).toNat - (address image.data.start).toNat) ≤ Startup.flashEnd
    rw [toNat_address placed.bounds_data.below,
      toNat_address (placed.data.2.trans placed.bounds_data.below), toNat_address]
    · exact placed.loaded
    · exact (Nat.le_add_right _ _).trans (placed.loaded.trans (by decide))
  disjoint := by
    have below := Nat.sub_le image.stack.stop frame
    have stackData := below.trans placed.data.1
    have faultStackData : image.faultStack.stop ≤ image.data.start := by
      refine le_trans ?_ placed.data.1
      rw [placed.faultStack_stop, placed.stack_stop]
      decide
    have faultStackStack : image.faultStack.stop ≤ image.stack.start := by
      rw [placed.faultStack_stop, placed.stack_start]
    have dataBss := placed.data.2.trans placed.bss.1
    have bssDiagnostic := placed.bss.2.trans placed.diagnostic.1
    simp only [List.pairwise_cons, List.forall_mem_cons, List.not_mem_nil, false_implies,
      implies_true, List.Pairwise.nil, and_true]
    exact ⟨⟨disjoint_extent placed.bss.1, .symm (disjoint_extent stackData),
        .symm (disjoint_extent faultStackData),
        disjoint_extent (placed.bss.1.trans bssDiagnostic)⟩,
      ⟨.symm (disjoint_extent (stackData.trans dataBss)),
        .symm (disjoint_extent (faultStackData.trans dataBss)),
        disjoint_extent placed.diagnostic.1⟩,
      ⟨.symm (disjoint_extent faultStackStack),
        disjoint_extent (stackData.trans (dataBss.trans bssDiagnostic))⟩,
      disjoint_extent (faultStackData.trans (dataBss.trans bssDiagnostic))⟩

theorem lt_words {start stop index : Nat} (bounds : Bounds start stop)
    (within : 4 * index < stop - start) : index < (extent bounds).words := by
  change index < ((address stop).toNat - (address start).toNat) / 4
  rw [toNat_address bounds.below, toNat_address (bounds.ordered.trans bounds.below)]
  have startAligned := bounds.startAligned
  have stopAligned := bounds.stopAligned
  omega

theorem word_address (start index : Nat) :
    Startup.word (address start) index = address (start + 4 * index) :=
  (BitVec.ofNat_add ..).symm

theorem holds_iff {start stop : Nat} (bounds : Bounds start stop) (location : Address) :
    (extent bounds).Holds location ↔ (Span.mk start stop).Holds location.toNat := by
  change address start ≤ location ∧ location < address stop ↔ _
  rw [BitVec.le_def, BitVec.lt_def, toNat_address bounds.below,
    toNat_address (bounds.ordered.trans bounds.below)]
  rfl

/-- What `rust_start` leaves of an image's memory: `.data` holds its load image, `.bss` is zero, the
stack below the frame is marked, and nothing else has changed. -/
structure Started (image : Image) (frame : Nat) (memory memory' : Memory) : Prop where
  flash : memory'.flash = memory.flash
  data : ∀ index, 4 * index < image.data.size →
    memory'.sram (address (image.data.start + 4 * index)) =
      memory.flash (address (image.sidata + 4 * index))
  bss : ∀ index, 4 * index < image.bss.size →
    memory'.sram (address (image.bss.start + 4 * index)) = 0
  stack : ∀ index, 4 * index < image.stack.size - frame →
    memory'.sram (address (image.stack.start + 4 * index)) = Startup.stackWatermark
  other : ∀ location : Address, ¬image.data.Holds location.toNat →
    ¬image.bss.Holds location.toNat →
      ¬(Span.mk image.stack.start (image.stack.stop - frame)).Holds location.toNat →
        memory'.sram location = memory.sram location

theorem started_marked (placed : Placed image) (record : 4 ∣ image.diagnostic.stop)
    (framed : Framed image frame) (memory : Memory) :
    Started image frame memory ((layout placed record framed).marked memory) := by
  have initialized := (layout placed record framed).initialized_marked memory
  constructor
  · exact initialized.flash
  · intro index within
    have copied := initialized.data index (lt_words placed.bounds_data within)
    rw [← word_address, ← word_address]
    exact copied
  · intro index within
    have zeroed := initialized.bss index (lt_words placed.bounds_bss within)
    rw [← word_address]
    exact zeroed
  · intro index within
    have inside : 4 * index < image.stack.stop - frame - image.stack.start := by
      rwa [Nat.sub_right_comm]
    have marked := initialized.stack index (lt_words (placed.bounds_stack framed) inside)
    rw [← word_address]
    exact marked
  · intro location data bss stack
    apply initialized.other location
    · exact fun holds => data ((holds_iff placed.bounds_data location).mp holds)
    · exact fun holds => bss ((holds_iff placed.bounds_bss location).mp holds)
    · exact fun holds => stack ((holds_iff (placed.bounds_stack framed) location).mp holds)

/-- The loops of `rust_start` terminate on the symbols of an image that links. -/
theorem exists_started {objects : Objects} (linked : link objects = .ok image)
    (record : objects.diagnostic = [bootDiagnostic]) (framed : Framed image frame)
    (memory : Memory) :
    ∃ memory', Started image frame memory memory' ∧ ∃ turns, ∀ fuel, turns < fuel →
      Startup.rustStart image.symbols (address (image.stack.stop - frame)) memory fuel =
        some memory' := by
  have placed := placed_of_link linked
  have aligned := diagnostic_aligned record linked
  let layout := layout placed aligned framed
  refine ⟨layout.marked memory, started_marked placed aligned framed memory, ?_⟩
  refine ⟨max layout.data.words (max layout.bss.words layout.stack.words), ?_⟩
  intro fuel enough
  obtain ⟨data, enough⟩ := max_lt_iff.mp enough
  obtain ⟨bss, stack⟩ := max_lt_iff.mp enough
  exact layout.rustStart_eq memory data bss stack

theorem started_of_rustStart {objects : Objects} (linked : link objects = .ok image)
    (record : objects.diagnostic = [bootDiagnostic]) (framed : Framed image frame)
    {memory memory' : Memory} {fuel : Nat}
    (ended : Startup.rustStart image.symbols (address (image.stack.stop - frame)) memory fuel =
      some memory') : Started image frame memory memory' := by
  obtain ⟨reached, started, turns, ends⟩ := exists_started linked record framed memory
  have same := (Startup.rustStart_of_le ended (Nat.le_max_left fuel (turns + 1))).symm.trans
    (ends _ (Nat.lt_of_succ_le (Nat.le_max_right fuel (turns + 1))))
  rwa [Option.some.inj same]

end Layout

/-- Whatever is linked, an image that links starts: with any frame on the main stack and any
memory, the loops of `rust_start` terminate, bring `.data`, `.bss` and the stack into their initial
state and change nothing else.  In flash the vectors come first and nothing overlaps the load image;
in SRAM neither stack overlaps the other or a section. -/
theorem linked_starts (objects : Objects) (image : Image) (linked : link objects = .ok image)
    (record : objects.diagnostic = [bootDiagnostic]) (frame : Nat) (framed : Framed image frame)
    (memory : Memory) :
    (∃ memory', Started image frame memory memory' ∧ ∃ turns, ∀ fuel, turns < fuel →
      Startup.rustStart image.symbols (address (image.stack.stop - frame)) memory fuel =
        some memory') ∧
    image.vectors = ⟨0, 252⟩ ∧
    [image.vectors, image.text, image.rodata,
      ⟨image.sidata, image.sidata + image.data.size⟩].Pairwise Span.Before ∧
    [image.faultStack, image.stack, image.data, image.bss, image.diagnostic].Pairwise
      Span.Before := by
  have placed := placed_of_link linked
  refine ⟨exists_started linked record framed memory, ?_, ?_, ?_⟩
  · obtain ⟨start, stop⟩ := placed.vectors
    rw [← start, ← stop]
  · have text := placed.text
    have rodata := placed.rodata
    have load := placed.load
    simp only [List.pairwise_cons, List.forall_mem_cons, List.not_mem_nil, false_implies,
      implies_true, List.Pairwise.nil, Span.Before, and_true]
    omega
  · have faultStack := placed.faultStack_stop
    have stackStart := placed.stack_start
    have stackStop := placed.stack_stop
    have data := placed.data
    have bss := placed.bss
    have diagnostic := placed.diagnostic
    simp only [List.pairwise_cons, List.forall_mem_cons, List.not_mem_nil, false_implies,
      implies_true, List.Pairwise.nil, Span.Before, and_true]
    omega

def small : Objects where
  vectors := [⟨2, 252⟩]
  text := [⟨1, 34⟩, ⟨2, 400⟩]
  rodata := [⟨0, 21⟩]
  ccfg := [⟨2, 124⟩]
  data := [⟨2, 4⟩, ⟨0, 1⟩]
  bss := [⟨2, 4⟩]
  diagnostic := [bootDiagnostic]
  orphan := []

theorem link_small : link small = .ok (place small) := by decide

/-- They link, and their image starts from memory that holds ones. -/
theorem linked_starts_small :
    ∃ memory', memory'.sram 0x20002200 = BitVec.allOnes 32 ∧ memory'.sram 0x20002208 = 0 ∧
      ∃ turns, ∀ fuel, turns < fuel →
        Startup.rustStart (place small).symbols 0x200021c0
          ⟨fun _ => BitVec.allOnes 32, fun _ => BitVec.allOnes 32⟩ fuel = some memory' := by
  have framed : Framed (place small) 64 := ⟨by decide, by decide⟩
  obtain ⟨⟨memory', started, terminates⟩, -⟩ := linked_starts small (place small) link_small rfl
    64 framed ⟨fun _ => BitVec.allOnes 32, fun _ => BitVec.allOnes 32⟩
  exact ⟨memory', started.data 0 (by decide), started.bss 0 (by decide), terminates⟩

end DirectLine.Firmware.Link
