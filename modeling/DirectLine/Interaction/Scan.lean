import DirectLine.Interaction.Transition

/-!
# Numbered scans

A loop over a list that keeps a state and may stop at an element, reporting its
number.  The runs that reach the end are the traces of the step relation; a
failure sits at the first element that the states before it do not take.
-/

namespace DirectLine.Interaction

variable {State Letter Failure : Type}

def scan (step : State → Letter → Except Failure State) (number : Nat) (state : State) :
    List Letter → Except (Nat × Failure) State
  | [] => .ok state
  | letter :: letters =>
      match step state letter with
      | .error failure => .error (number, failure)
      | .ok next => scan step (number + 1) next letters

/-- The transitions of a step function that did not fail. -/
def Takes (step : State → Letter → Except Failure State) (state : State) (letter : Letter)
    (next : State) : Prop :=
  step state letter = .ok next

variable {step : State → Letter → Except Failure State} {number : Nat} {state last : State}

theorem scan_ok_iff {letters : List Letter} :
    scan step number state letters = .ok last ↔ Trace (Takes step) state letters last := by
  induction letters generalizing number state with
  | nil =>
      constructor
      · rintro ⟨⟩
        exact .nil _
      · rintro ⟨⟩
        rfl
  | cons letter letters inductionHypothesis =>
      rw [scan]
      cases taken : step state letter with
      | error failure =>
          refine ⟨nofun, fun trace => ?_⟩
          cases trace with
          | cons step' _ => cases step'.symm.trans taken
      | ok next =>
          refine inductionHypothesis.trans ⟨fun rest => .cons taken rest, fun trace => ?_⟩
          cases trace with
          | cons step' rest =>
              cases step'.symm.trans taken
              exact rest

theorem scan_error_iff {letters : List Letter} {position : Nat} {failure : Failure} :
    scan step number state letters = .error (position, failure) ↔
      ∃ earlier letter later middle, letters = earlier ++ letter :: later ∧
        position = number + earlier.length ∧ Trace (Takes step) state earlier middle ∧
        step middle letter = .error failure := by
  induction letters generalizing number state with
  | nil => simp [scan]
  | cons letter letters inductionHypothesis =>
      rw [scan]
      cases taken : step state letter with
      | error failed =>
          constructor
          · rintro ⟨⟩
            exact ⟨[], letter, letters, state, rfl, rfl, .nil _, taken⟩
          · rintro ⟨earlier, other, later, middle, split, rfl, trace, refused⟩
            cases trace with
            | nil =>
                obtain ⟨rfl, rfl⟩ := List.cons.inj split
                cases taken.symm.trans refused
                rfl
            | cons first _ =>
                obtain ⟨rfl, -⟩ := List.cons.inj split
                cases first.symm.trans taken
      | ok next =>
          refine inductionHypothesis.trans ?_
          constructor
          · rintro ⟨earlier, other, later, middle, rfl, rfl, trace, refused⟩
            exact ⟨letter :: earlier, other, later, middle, rfl,
              by simp [Nat.add_comm, Nat.add_left_comm], .cons taken trace, refused⟩
          · rintro ⟨earlier, other, later, middle, split, rfl, trace, refused⟩
            cases trace with
            | nil =>
                obtain ⟨rfl, -⟩ := List.cons.inj split
                cases taken.symm.trans refused
            | cons first rest =>
                obtain ⟨rfl, rfl⟩ := List.cons.inj split
                cases first.symm.trans taken
                exact ⟨_, other, later, middle, rfl,
                  by simp [Nat.add_comm, Nat.add_left_comm], rest, refused⟩

/-- Letters that change nothing matter for the number of a failure only. -/
theorem scan_filter_error {keep : Letter → Bool} {letters : List Letter} {failure : Failure}
    (skips : ∀ state letter, keep letter = false → step state letter = .ok state)
    (number number' : Nat) :
    (∃ position, scan step number state letters = .error (position, failure)) ↔
      ∃ position, scan step number' state (letters.filter keep) = .error (position, failure) := by
  induction letters generalizing number number' state with
  | nil => simp [scan]
  | cons letter letters inductionHypothesis =>
      cases kept : keep letter with
      | false =>
          rw [List.filter_cons_of_neg (by simp [kept]), scan, skips state letter kept]
          exact inductionHypothesis (number + 1) number'
      | true =>
          rw [List.filter_cons_of_pos kept, scan, scan]
          cases taken : step state letter with
          | error failed => simp
          | ok next => exact inductionHypothesis (number + 1) (number' + 1)

end DirectLine.Interaction
