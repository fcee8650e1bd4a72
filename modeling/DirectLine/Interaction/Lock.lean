import Mathlib.Logic.Function.Basic

/-!
# Locks

A table of locks and owners that each guard one part of their course by one of
them.  That each owner takes its lock only when it is free, and drops it when it
leaves, is enough for no two to be inside with the same lock.
-/

namespace DirectLine.Interaction

variable {Owner Lock : Type} [DecidableEq Owner] [DecidableEq Lock]

/-- The table says which owners are inside. -/
def Guarded (lockOf : Owner → Lock) (inside : Owner → Bool) (table : Lock → Option Owner) : Prop :=
  ∀ lock owner, table lock = some owner ↔ inside owner = true ∧ lockOf owner = lock

inductive Locking (lockOf : Owner → Lock) (inside : Owner → Bool) (table : Lock → Option Owner)
    (owner : Owner) : Bool → (Lock → Option Owner) → Prop where
  | kept {now : Bool} : inside owner = now → Locking lockOf inside table owner now table
  | taken : inside owner = false → table (lockOf owner) = none →
      Locking lockOf inside table owner true (Function.update table (lockOf owner) (some owner))
  | dropped : inside owner = true →
      Locking lockOf inside table owner false (Function.update table (lockOf owner) none)

namespace Guarded

variable {lockOf : Owner → Lock} {inside : Owner → Bool} {table table' : Lock → Option Owner}
  {owner owner' : Owner} {now : Bool}

omit [DecidableEq Owner] [DecidableEq Lock] in
theorem exclusive (guarded : Guarded lockOf inside table) (first : inside owner = true)
    (second : inside owner' = true) (same : lockOf owner = lockOf owner') : owner = owner' := by
  have holdsFirst : table (lockOf owner) = some owner := (guarded _ _).mpr ⟨first, rfl⟩
  have holdsSecond : table (lockOf owner) = some owner' := (guarded _ _).mpr ⟨second, same.symm⟩
  exact Option.some.inj (holdsFirst.symm.trans holdsSecond)

omit [DecidableEq Owner] [DecidableEq Lock] in
theorem free (guarded : Guarded lockOf inside table) {lock : Lock} (free : table lock = none)
    (there : inside owner = true) : lockOf owner ≠ lock := by
  intro same
  have holds : table lock = some owner := (guarded _ _).mpr ⟨there, same⟩
  rw [free] at holds
  cases holds

theorem take (guarded : Guarded lockOf inside table) (free : table (lockOf owner) = none) :
    Guarded lockOf (Function.update inside owner true)
      (Function.update table (lockOf owner) (some owner)) := by
  intro lock other
  by_cases self : other = owner
  · subst self
    by_cases same : lock = lockOf other
    · subst same
      simp
    · have before := guarded lock other
      have outside : table lock ≠ some other := fun holds => same (before.mp holds).2.symm
      simp [Function.update_of_ne same, outside, Ne.symm same]
  · rw [Function.update_of_ne self]
    by_cases same : lock = lockOf owner
    · subst same
      rw [Function.update_self]
      constructor
      · intro holds
        exact absurd (Option.some.inj holds).symm self
      · rintro ⟨there, same⟩
        exact absurd same (guarded.free free there)
    · rw [Function.update_of_ne same]
      exact guarded lock other

theorem drop (guarded : Guarded lockOf inside table) (there : inside owner = true) :
    Guarded lockOf (Function.update inside owner false)
      (Function.update table (lockOf owner) none) := by
  intro lock other
  by_cases same : lock = lockOf owner
  · subst same
    rw [Function.update_self]
    constructor
    · nofun
    · rintro ⟨still, same⟩
      by_cases self : other = owner
      · rw [self, Function.update_self] at still
        cases still
      · rw [Function.update_of_ne self] at still
        exact absurd (guarded.exclusive still there same) self
  · rw [Function.update_of_ne same]
    by_cases self : other = owner
    · subst self
      have outside : table lock ≠ some other :=
        fun holds => same ((guarded lock other).mp holds).2.symm
      simp [outside]
    · rw [Function.update_of_ne self]
      exact guarded lock other

theorem step (guarded : Guarded lockOf inside table)
    (locking : Locking lockOf inside table owner now table') :
    Guarded lockOf (Function.update inside owner now) table' := by
  cases locking with
  | kept same =>
      rw [← same, Function.update_eq_self]
      exact guarded
  | taken _ free => exact guarded.take free
  | dropped there => exact guarded.drop there

end Guarded

end DirectLine.Interaction
