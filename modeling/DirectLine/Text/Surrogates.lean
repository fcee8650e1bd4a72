import DirectLine.Text.Utf8
import Mathlib.Algebra.Group.Nat.Defs

/-!
# Surrogates

A text with a surrogate cannot be encoded.  Neither literals nor decoded bytes
contain one.
-/

namespace DirectLine.Text

def isSurrogate (point : CodePoint) : Bool :=
  decide (0xd800 ≤ point.val ∧ point.val ≤ 0xdfff)

/-- `text.encode("utf-8")` raises no `UnicodeEncodeError`. -/
def encodes (text : Text) : Bool := !text.any isSurrogate

theorem isSurrogate_ofNat {code : Nat} (valid : code.isValidChar) :
    isSurrogate (Fin.ofNat 0x110000 code) = false := by
  have below : code < 0x110000 := by
    unfold Nat.isValidChar at valid
    omega
  have same : (Fin.ofNat 0x110000 code).val = code := Nat.mod_eq_of_lt below
  rw [isSurrogate, same, decide_eq_false_iff_not]
  unfold Nat.isValidChar at valid
  omega

theorem encodes_iff {text : Text} :
    encodes text = true ↔ ∀ point ∈ text, isSurrogate point = false := by
  simp [encodes]

@[simp] theorem encodes_nil : encodes [] = true := rfl

@[simp] theorem encodes_append (earlier later : Text) :
    encodes (earlier ++ later) = (encodes earlier && encodes later) := by
  simp [encodes]

@[simp] theorem encodes_ofString (string : String) : encodes (ofString string) = true := by
  rw [encodes_iff]
  intro point member
  obtain ⟨char, -, rfl⟩ := List.mem_map.mp member
  exact isSurrogate_ofNat char.valid

namespace Decoding

/-- Whatever completes the character, it is none of the surrogates. -/
def Scalar : Decoding → Prop
  | .start => True
  | .inside code lower upper more => 0x80 ≤ lower ∧ upper ≤ 0xbf ∧
      ∀ byte tail, lower ≤ byte → byte ≤ upper → tail < 0x40 ^ more →
        Nat.isValidChar ((code * 0x40 + (byte - 0x80)) * 0x40 ^ more + tail)

theorem inside_scalar {code lower upper more : Nat} (least : 0x80 ≤ lower) (greatest : upper ≤ 0xbf)
    (completes : ∀ byte tail, lower ≤ byte → byte ≤ upper → tail < 0x40 ^ more →
      Nat.isValidChar ((code * 0x40 + (byte - 0x80)) * 0x40 ^ more + tail)) :
    (inside code lower upper more).Scalar ∧ encodes [] = true :=
  ⟨⟨least, greatest, completes⟩, rfl⟩

theorem opening_scalar (byte : Nat) :
    (opening byte).1.Scalar ∧ encodes (opening byte).2 = true := by
  unfold opening
  by_cases ascii : byte < 0x80
  · rw [if_pos ascii]
    refine ⟨trivial, ?_⟩
    rw [encodes_iff]
    intro point member
    rw [List.mem_singleton.mp member]
    apply isSurrogate_ofNat
    exact .inl (by omega)
  rw [if_neg ascii]
  by_cases two : 0xc2 ≤ byte ∧ byte ≤ 0xdf
  · rw [if_pos two]
    apply inside_scalar (Nat.le_refl _) (Nat.le_refl _)
    intro next tail above below few
    unfold Nat.isValidChar
    omega
  rw [if_neg two]
  by_cases three : 0xe0 ≤ byte ∧ byte ≤ 0xef
  · rw [if_pos three]
    apply inside_scalar
    · split_ifs <;> omega
    · split_ifs <;> omega
    · intro next tail above below few
      unfold Nat.isValidChar
      split_ifs at above below <;> omega
  rw [if_neg three]
  by_cases four : 0xf0 ≤ byte ∧ byte ≤ 0xf4
  · rw [if_pos four]
    apply inside_scalar
    · split_ifs <;> omega
    · split_ifs <;> omega
    · intro next tail above below few
      unfold Nat.isValidChar
      split_ifs at above below <;> omega
  rw [if_neg four]
  exact ⟨trivial, rfl⟩

theorem step_scalar {decoding : Decoding} (scalar : decoding.Scalar) (byte : UInt8) :
    (decoding.step byte).1.Scalar ∧ encodes (decoding.step byte).2 = true := by
  cases decoding with
  | start => exact opening_scalar byte.toNat
  | inside code lower upper more =>
      obtain ⟨least, greatest, completes⟩ := scalar
      rw [step]
      by_cases within : lower ≤ byte.toNat ∧ byte.toNat ≤ upper
      · rw [if_pos within]
        cases more with
        | zero =>
            refine ⟨trivial, ?_⟩
            rw [encodes_iff]
            intro point member
            rw [List.mem_singleton.mp member]
            apply isSurrogate_ofNat
            simpa using completes byte.toNat 0 within.1 within.2 (by decide)
        | succ more =>
            refine ⟨⟨Nat.le_refl _, Nat.le_refl _, ?_⟩, rfl⟩
            intro next tail above below few
            have short : (next - 0x80) * 0x40 ^ more + tail < 0x40 ^ (more + 1) := by
              have digit : (next - 0x80) * 0x40 ^ more ≤ 0x3f * 0x40 ^ more :=
                Nat.mul_le_mul_right _ (by omega)
              rw [Nat.pow_succ]
              omega
            have completed := completes byte.toNat _ within.1 within.2 short
            rw [Nat.pow_succ] at completed
            rwa [Nat.mul_comm (0x40 ^ more) 0x40, ← Nat.mul_assoc, ← Nat.add_assoc,
              ← Nat.add_mul] at completed
      · rw [if_neg within]
        have opened := opening_scalar byte.toNat
        exact ⟨opened.1, opened.2⟩

theorem finish_encodes (decoding : Decoding) : encodes decoding.finish = true := by
  cases decoding <;> rfl

end Decoding

theorem close_encodes (decoding : Decoding) (scalar : decoding.Scalar) (bytes : Bytes) :
    encodes (utf8.close decoding bytes) = true := by
  induction bytes generalizing decoding with
  | nil => exact decoding.finish_encodes
  | cons byte bytes inductionHypothesis =>
      have stepped := Decoding.step_scalar scalar byte
      rw [Transducer.close_cons, encodes_append, Bool.and_eq_true]
      exact ⟨stepped.2, inductionHypothesis _ stepped.1⟩

theorem encodes_decode (bytes : Bytes) : encodes (decode bytes) = true :=
  close_encodes .start trivial bytes

end DirectLine.Text
