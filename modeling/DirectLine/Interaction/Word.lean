import Mathlib.Data.BitVec

/-!
# Fields of register words

A field is a run of `width` bits from bit `lo` upwards.  Setting a field leaves
every other bit of the word alone, which is what makes a read-modify-write of
one field harmless to its neighbours.
-/

namespace DirectLine.Interaction.Word

variable {size : Nat}

/-- The word whose set bits are those of a field. -/
def mask (size lo width : Nat) : BitVec size := BitVec.ofNat size (2 ^ width - 1) <<< lo

def field (word : BitVec size) (lo width : Nat) : BitVec size :=
  (word >>> lo) &&& mask size 0 width

def setField (word : BitVec size) (lo width : Nat) (value : BitVec size) : BitVec size :=
  (word &&& ~~~mask size lo width) ||| ((value <<< lo) &&& mask size lo width)

/-- A one-bit field as a truth value. -/
def flag (word : BitVec size) (bit : Nat) : Bool := word.getLsbD bit

def setFlag (word : BitVec size) (bit : Nat) (value : Bool) : BitVec size :=
  setField word bit 1 (if value then 1 else 0)

/-- The word with a single set bit. -/
def bit (size index : Nat) : BitVec size := BitVec.ofNat size 1 <<< index

@[simp] theorem getLsbD_mask (lo width index : Nat) :
    (mask size lo width).getLsbD index =
      decide (index < size ∧ lo ≤ index ∧ index < lo + width) := by
  simp only [mask, BitVec.getLsbD_shiftLeft, BitVec.getLsbD_ofNat, Nat.testBit_two_pow_sub_one]
  rw [Bool.eq_iff_iff]
  simp only [Bool.and_eq_true, Bool.not_eq_true', decide_eq_true_eq, decide_eq_false_iff_not]
  omega

@[simp] theorem getLsbD_bit (index other : Nat) :
    (bit size index).getLsbD other = decide (other < size ∧ other = index) := by
  simp only [bit, BitVec.getLsbD_shiftLeft, BitVec.getLsbD_one]
  rw [Bool.eq_iff_iff]
  simp only [Bool.and_eq_true, Bool.not_eq_true', decide_eq_true_eq, decide_eq_false_iff_not]
  omega

/-- Words with the same owned bits are equal when neither changes any other bit of a word. -/
theorem eq_of_bits {Owner : Type} (bits : Owner → Nat) {word first second : BitVec size}
    (owned : ∀ owner, first.getLsbD (bits owner) = second.getLsbD (bits owner))
    (one : ∀ bit, (∀ owner, bit ≠ bits owner) → first.getLsbD bit = word.getLsbD bit)
    (other : ∀ bit, (∀ owner, bit ≠ bits owner) → second.getLsbD bit = word.getLsbD bit) :
    first = second := by
  apply BitVec.eq_of_getLsbD_eq
  intro bit _
  by_cases taken : ∃ owner, bit = bits owner
  · obtain ⟨owner, rfl⟩ := taken
    exact owned owner
  · have free := not_exists.mp taken
    exact (one bit free).trans (other bit free).symm

theorem getLsbD_field (word : BitVec size) (lo width index : Nat) :
    (field word lo width).getLsbD index =
      (decide (index < width) && word.getLsbD (lo + index)) := by
  simp only [field, BitVec.getLsbD_and, BitVec.getLsbD_ushiftRight, getLsbD_mask]
  by_cases inside : lo + index < size
  · have small : index < size := by omega
    simp [small, Bool.and_comm]
  · have outside : word.getLsbD (lo + index) = false :=
      BitVec.getLsbD_of_ge word (lo + index) (by omega)
    simp [outside]

theorem field_congr {word other : BitVec size} {lo width : Nat}
    (agree : ∀ index, lo ≤ index → index < lo + width → word.getLsbD index = other.getLsbD index) :
    field word lo width = field other lo width := by
  apply BitVec.eq_of_getLsbD_eq
  intro index _
  rw [getLsbD_field, getLsbD_field]
  by_cases inside : index < width
  · rw [agree (lo + index) (by omega) (by omega)]
  · simp [inside]

theorem field_or (word other : BitVec size) (lo width : Nat) :
    field (word ||| other) lo width = field word lo width ||| field other lo width := by
  apply BitVec.eq_of_getLsbD_eq
  intro index _
  simp only [getLsbD_field, BitVec.getLsbD_or, Bool.and_or_distrib_left]

theorem getLsbD_setField (word value : BitVec size) (lo width index : Nat) :
    (setField word lo width value).getLsbD index =
      if lo ≤ index ∧ index < lo + width then
        decide (index < size) && value.getLsbD (index - lo)
      else word.getLsbD index := by
  simp only [setField, BitVec.getLsbD_or, BitVec.getLsbD_and, BitVec.getLsbD_not,
    BitVec.getLsbD_shiftLeft, getLsbD_mask]
  by_cases inside : index < size
  · by_cases within : lo ≤ index ∧ index < lo + width
    · have notBelow : ¬index < lo := by omega
      simp [inside, within, notBelow]
    · simp [inside, within]
  · have outside : word.getLsbD index = false := BitVec.getLsbD_of_ge word index (by omega)
    simp [inside, outside]

theorem field_setField (word value : BitVec size) {lo width : Nat} (inside : lo + width ≤ size) :
    field (setField word lo width value) lo width = value &&& mask size 0 width := by
  apply BitVec.eq_of_getLsbD_eq
  intro index small
  rw [getLsbD_field, getLsbD_setField, BitVec.getLsbD_and, getLsbD_mask]
  by_cases within : index < width
  · have below : lo + index < size := by omega
    simp [within, below, small]
  · simp [within]

theorem getLsbD_setField_of_outside (word value : BitVec size) {lo width index : Nat}
    (outside : index < lo ∨ lo + width ≤ index) :
    (setField word lo width value).getLsbD index = word.getLsbD index := by
  rw [getLsbD_setField, if_neg (by omega)]

theorem getLsbD_setFlag (word : BitVec size) (position : Nat) (value : Bool) (index : Nat) :
    (setFlag word position value).getLsbD index =
      if index = position then decide (index < size) && value else word.getLsbD index := by
  rw [setFlag, getLsbD_setField]
  by_cases same : index = position
  · subst same
    cases value with
    | false => simp
    | true =>
        simp
        omega
  · rw [if_neg same, if_neg (by omega)]

theorem setFlag_true (word : BitVec size) (position : Nat) :
    setFlag word position true = word ||| bit size position := by
  apply BitVec.eq_of_getLsbD_eq
  intro index small
  rw [getLsbD_setFlag, BitVec.getLsbD_or, getLsbD_bit]
  by_cases same : index = position
  · simp [same, same ▸ small]
  · simp [same]

/-- Adding bits to the lowest field adds them to the word. -/
theorem setField_field_or (word bits : BitVec size) {width : Nat}
    (inside : bits &&& ~~~mask size 0 width = 0) :
    setField word 0 width (field word 0 width ||| bits) = word ||| bits := by
  apply BitVec.eq_of_getLsbD_eq
  intro index small
  rw [getLsbD_setField, BitVec.getLsbD_or, BitVec.getLsbD_or, getLsbD_field]
  by_cases within : index < width
  · simp [within, small]
  · have none : bits.getLsbD index = false := by
      have zero : (bits &&& ~~~mask size 0 width).getLsbD index = false := by
        rw [inside]
        exact BitVec.getLsbD_zero
      rw [BitVec.getLsbD_and, BitVec.getLsbD_not, getLsbD_mask] at zero
      simpa only [small, Nat.zero_le, Nat.zero_add, within, and_false, decide_false, Bool.not_false,
        decide_true, Bool.and_true, and_true] using zero
    simp [within, none]

theorem and_not_or_and (word : BitVec size) {bits writable : BitVec size}
    (inside : bits &&& writable = bits) :
    (word &&& ~~~writable) ||| ((word ||| bits) &&& writable) = word ||| bits := by
  apply BitVec.eq_of_getLsbD_eq
  intro index small
  have within : (bits.getLsbD index && writable.getLsbD index) = bits.getLsbD index := by
    rw [← BitVec.getLsbD_and, inside]
  simp only [BitVec.getLsbD_or, BitVec.getLsbD_and, BitVec.getLsbD_not, small, decide_true,
    Bool.true_and]
  cases written : writable.getLsbD index with
  | true => simp
  | false =>
      rw [written, Bool.and_false] at within
      simp [← within]

end DirectLine.Interaction.Word
