import Mathlib.Data.List.Basic

/-!
# Text

Text as a list of code points.  Surrogates are code points: a decoded string
literal may contain one that is not part of a pair.
-/

namespace DirectLine.Text

instance someCodePoints : @NeZero Nat Zero.ofOfNat0 0x110000 := ⟨by decide⟩

abbrev CodePoint := Fin 0x110000

end Text

abbrev Text := List Text.CodePoint

namespace Text

def CodePoint.ofChar (char : Char) : CodePoint := Fin.ofNat 0x110000 char.toNat

/-- A literal. -/
def ofString (string : String) : Text := string.toList.map CodePoint.ofChar

def decimal (number : Nat) : Text := ofString (toString number)

def lineFeed : CodePoint := 0x0a

def carriageReturn : CodePoint := 0x0d

/-- The code points for which `str.isspace` holds. -/
def isSpace (point : CodePoint) : Bool :=
  decide ((0x09 ≤ point.val ∧ point.val ≤ 0x0d) ∨ (0x1c ≤ point.val ∧ point.val ≤ 0x20) ∨
    (0x2000 ≤ point.val ∧ point.val ≤ 0x200a) ∨
    point.val ∈ [0x85, 0xa0, 0x1680, 0x2028, 0x2029, 0x202f, 0x205f, 0x3000])

def lstrip (text : Text) : Text := text.dropWhile isSpace

/-- The code points that end a line for `str.splitlines`. -/
def isBoundary (point : CodePoint) : Bool :=
  decide ((0x0a ≤ point.val ∧ point.val ≤ 0x0d) ∨ (0x1c ≤ point.val ∧ point.val ≤ 0x1e) ∨
    point.val ∈ [0x85, 0x2028, 0x2029])

theorem isSpace_of_isBoundary {point : CodePoint} (boundary : isBoundary point = true) :
    isSpace point = true := by
  simp only [isBoundary, isSpace, decide_eq_true_eq, List.mem_cons, List.not_mem_nil,
    or_false] at boundary ⊢
  omega

end Text

end DirectLine
