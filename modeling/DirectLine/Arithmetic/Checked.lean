import Mathlib.Data.BitVec

/-!
# Checked arithmetic

Unsigned operations that fail where the machine's would wrap or trap.
-/

namespace DirectLine.Arithmetic.Checked

variable {size : Nat} {left right : BitVec size}

def add (left right : BitVec size) : Option (BitVec size) :=
  if left.uaddOverflow right then none else some (left + right)

def mul (left right : BitVec size) : Option (BitVec size) :=
  if left.umulOverflow right then none else some (left * right)

def div (left right : BitVec size) : Option (BitVec size) :=
  if right = 0 then none else some (left / right)

def rem (left right : BitVec size) : Option (BitVec size) :=
  if right = 0 then none else some (left % right)

theorem add_eq_some (fits : left.toNat + right.toNat < 2 ^ size) :
    add left right = some (left + right) := by
  rw [add, if_neg]
  simpa [BitVec.uaddOverflow] using fits

theorem mul_eq_some (fits : left.toNat * right.toNat < 2 ^ size) :
    mul left right = some (left * right) := by
  rw [mul, if_neg]
  simpa [BitVec.umulOverflow] using fits

theorem mul_eq_none (overflows : 2 ^ size ≤ left.toNat * right.toNat) : mul left right = none := by
  rw [mul, if_pos]
  simpa [BitVec.umulOverflow] using overflows

theorem div_eq_some (nonzero : right ≠ 0) : div left right = some (left / right) :=
  if_neg nonzero

theorem rem_eq_some (nonzero : right ≠ 0) : rem left right = some (left % right) :=
  if_neg nonzero

end DirectLine.Arithmetic.Checked
