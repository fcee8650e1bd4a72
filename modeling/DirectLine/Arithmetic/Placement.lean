import Mathlib.Algebra.Order.Floor.Div

/-!
# Placing blocks

Blocks are placed one after another from a location, each at the next address of
its alignment.  Placed blocks follow one another, whatever their sizes.
-/

namespace DirectLine.Arithmetic.Placement

/-- The least multiple of an alignment that is not below a location. -/
def alignUp (alignment location : Nat) : Nat := alignment * (location ⌈/⌉ alignment)

section Align

variable {alignment location : Nat}

theorem dvd_alignUp (alignment location : Nat) : alignment ∣ alignUp alignment location :=
  Nat.dvd_mul_right ..

theorem le_alignUp (positive : 0 < alignment) : location ≤ alignUp alignment location :=
  le_smul_ceilDiv positive

/-- Locations of the alignment are reached no later. -/
theorem alignUp_le (positive : 0 < alignment) {reached : Nat} (aligned : alignment ∣ reached)
    (below : location ≤ reached) : alignUp alignment location ≤ reached := by
  obtain ⟨count, rfl⟩ := aligned
  exact Nat.mul_le_mul_left alignment ((ceilDiv_le_iff_le_mul positive).mpr below)

end Align

structure Span where
  start : Nat
  stop : Nat
  deriving DecidableEq, Repr

namespace Span

def size (span : Span) : Nat := span.stop - span.start

def Holds (span : Span) (location : Nat) : Prop :=
  span.start ≤ location ∧ location < span.stop

def Before (first second : Span) : Prop := first.stop ≤ second.start

end Span

/-- Something to place, with the exponent of its alignment, a power of two. -/
structure Block where
  exponent : Nat
  size : Nat
  deriving DecidableEq, Repr

namespace Block

def alignment (block : Block) : Nat := 2 ^ block.exponent

theorem alignment_pos (block : Block) : 0 < block.alignment := Nat.two_pow_pos _

def place (block : Block) (location : Nat) : Span where
  start := alignUp block.alignment location
  stop := alignUp block.alignment location + block.size

end Block

def after : List Block → Nat → Nat
  | [], location => location
  | block :: blocks, location => after blocks (block.place location).stop

def places : List Block → Nat → List Span
  | [], _ => []
  | block :: blocks, location =>
      block.place location :: places blocks (block.place location).stop

section Places

variable {block : Block} {location : Nat}

theorem Block.le_start (block : Block) (location : Nat) :
    location ≤ (block.place location).start := le_alignUp block.alignment_pos

theorem Block.le_stop (block : Block) (location : Nat) :
    location ≤ (block.place location).stop :=
  (block.le_start location).trans (Nat.le_add_right ..)

theorem le_after (blocks : List Block) (location : Nat) : location ≤ after blocks location := by
  induction blocks generalizing location with
  | nil => exact le_rfl
  | cons block blocks inductionHypothesis =>
      exact (block.le_stop location).trans (inductionHypothesis _)

/-- Every place lies between the location before the blocks and the one after them. -/
theorem mem_places {blocks : List Block} {span : Span} (member : span ∈ places blocks location) :
    location ≤ span.start ∧ span.stop ≤ after blocks location := by
  induction blocks generalizing location with
  | nil => cases member
  | cons block blocks inductionHypothesis =>
      rcases List.mem_cons.mp member with rfl | later
      · exact ⟨block.le_start location, le_after blocks _⟩
      · obtain ⟨reached, ends⟩ := inductionHypothesis later
        exact ⟨(block.le_stop location).trans reached, ends⟩

theorem pairwise_places (blocks : List Block) (location : Nat) :
    (places blocks location).Pairwise Span.Before := by
  induction blocks generalizing location with
  | nil => exact .nil
  | cons block blocks inductionHypothesis =>
      apply List.Pairwise.cons
      · intro span member
        exact (mem_places member).1
      · exact inductionHypothesis _

theorem getElem?_places {blocks : List Block} {index : Nat}
    (found : blocks[index]? = some block) (location : Nat) :
    ∃ reached, (places blocks location)[index]? = some (block.place reached) := by
  induction blocks generalizing location index with
  | nil => cases found
  | cons first blocks inductionHypothesis =>
      cases index with
      | zero =>
          obtain rfl := Option.some.inj found
          exact ⟨location, rfl⟩
      | succ index => exact inductionHypothesis found _

end Places

end DirectLine.Arithmetic.Placement
