import Mathlib.Logic.Function.Iterate

/-!
# Loops

A loop whose guard and body are functions of the state.  A loop that leaves
after some number of turns ends in that iterate of its body, however much fuel
beyond it is given.
-/

namespace DirectLine.Interaction

variable {State : Type}

/-- `while guard { body }`, for at most `fuel` tests of the guard. -/
def loop (guard : State → Bool) (body : State → State) : Nat → State → Option State
  | 0, _ => none
  | fuel + 1, state => if guard state then loop guard body fuel (body state) else some state

theorem loop_of_le {guard : State → Bool} {body : State → State} {fuel fuel' : Nat}
    {state last : State} (ended : loop guard body fuel state = some last) (le : fuel ≤ fuel') :
    loop guard body fuel' state = some last := by
  induction fuel generalizing fuel' state with
  | zero => cases ended
  | succ fuel inductionHypothesis =>
      cases fuel' with
      | zero => cases le
      | succ fuel' =>
          rw [loop] at ended ⊢
          split
          · next more =>
            rw [if_pos more] at ended
            exact inductionHypothesis ended (Nat.le_of_succ_le_succ le)
          · next done => rwa [if_neg done] at ended

theorem loop_eq_iterate {guard : State → Bool} {body : State → State} {turns : Nat}
    {state : State} (during : ∀ turn < turns, guard (body^[turn] state) = true)
    (leaves : guard (body^[turns] state) = false) {fuel : Nat} (enough : turns < fuel) :
    loop guard body fuel state = some (body^[turns] state) := by
  induction turns generalizing state fuel with
  | zero =>
      obtain ⟨fuel, rfl⟩ := Nat.exists_eq_succ_of_ne_zero (Nat.ne_of_gt enough)
      rw [loop, if_neg (by simpa using leaves)]
      rfl
  | succ turns inductionHypothesis =>
      obtain ⟨fuel, rfl⟩ := Nat.exists_eq_succ_of_ne_zero (Nat.ne_of_gt (Nat.zero_lt_of_lt enough))
      have first : guard state = true := during 0 (Nat.succ_pos turns)
      rw [loop, if_pos first, Function.iterate_succ_apply]
      apply inductionHypothesis
      · intro turn before
        have next := during (turn + 1) (Nat.succ_lt_succ before)
        rwa [Function.iterate_succ_apply] at next
      · rwa [Function.iterate_succ_apply] at leaves
      · exact Nat.lt_of_succ_lt_succ enough

end DirectLine.Interaction
