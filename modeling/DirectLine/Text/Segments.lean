import DirectLine.Text.Transducer

/-!
# Segments

Cutting a sequence at a separator as it arrives.  The pending carry is what has
been read since the last separator; at the end it is a segment of its own
unless it is empty.
-/

namespace DirectLine.Text

variable {Letter : Type} [DecidableEq Letter] (separator : Letter)

def cutter : Transducer (List Letter) Letter (List Letter) where
  start := []
  step pending letter :=
    if letter = separator then ([], [pending]) else (pending ++ [letter], [])
  finish pending := if pending = [] then [] else [pending]

def splitOnce : List Letter → Option (List Letter × List Letter)
  | [] => none
  | letter :: rest =>
      if letter = separator then some ([], rest)
      else (splitOnce rest).map fun (piece, left) => (letter :: piece, left)

/-- All pieces, except an empty one after the last separator. -/
def dropEmptyLast (pieces : List (List Letter)) : List (List Letter) :=
  if pieces.getLast? = some [] then pieces.dropLast else pieces

def segments (sequence : List Letter) : List (List Letter) :=
  dropEmptyLast (sequence.splitOn separator)

theorem dropEmptyLast_cons (piece : List Letter) {pieces : List (List Letter)}
    (more : pieces ≠ []) : dropEmptyLast (piece :: pieces) = piece :: dropEmptyLast pieces := by
  unfold dropEmptyLast
  rw [List.getLast?_cons_of_ne_nil more, List.dropLast_cons_of_ne_nil more]
  split <;> rfl

theorem cutter_close (pending sequence : List Letter) :
    (cutter separator).close pending sequence =
      dropEmptyLast (sequence.splitOnPPrepend (· == separator) pending.reverse) := by
  induction sequence generalizing pending with
  | nil =>
      rw [List.splitOnPPrepend_nil, List.reverse_reverse]
      by_cases empty : pending = [] <;>
        simp [Transducer.close, cutter, dropEmptyLast, empty]
  | cons letter sequence inductionHypothesis =>
      by_cases same : letter = separator
      · subst same
        rw [Transducer.close_cons, List.splitOnPPrepend_cons_pos (by simp), List.reverse_reverse,
          dropEmptyLast_cons _ (List.splitOnP_ne_nil _ _)]
        simpa [cutter] using inductionHypothesis []
      · rw [Transducer.close_cons, List.splitOnPPrepend_cons_neg (by simp [same])]
        simpa [cutter, same] using inductionHypothesis (pending ++ [letter])

/-- What the cutter emits is the batch result. -/
theorem cutter_output (sequence : List Letter) :
    (cutter separator).output sequence = segments separator sequence :=
  cutter_close separator [] sequence

variable {separator} {pending sequence piece left : List Letter}

theorem splitOnce_eq_none : splitOnce separator sequence = none ↔ separator ∉ sequence := by
  induction sequence with
  | nil => simp [splitOnce]
  | cons letter sequence inductionHypothesis =>
      by_cases same : letter = separator
      · simp [splitOnce, same]
      · simp [splitOnce, same, Ne.symm same, inductionHypothesis]

theorem splitOnce_eq_some (cut : splitOnce separator sequence = some (piece, left)) :
    sequence = piece ++ separator :: left ∧ separator ∉ piece := by
  induction sequence generalizing piece with
  | nil => cases cut
  | cons letter sequence inductionHypothesis =>
      by_cases same : letter = separator
      · rw [splitOnce, if_pos same] at cut
        cases cut
        exact ⟨by rw [same]; rfl, List.not_mem_nil⟩
      · rw [splitOnce, if_neg same, Option.map_eq_some_iff] at cut
        obtain ⟨⟨rest, _⟩, found, ⟨⟩⟩ := cut
        obtain ⟨split, absent⟩ := inductionHypothesis found
        exact ⟨by rw [split]; rfl, by simp [absent, Ne.symm same]⟩

theorem splitOnce_length (cut : splitOnce separator sequence = some (piece, left)) :
    left.length < sequence.length := by
  rw [(splitOnce_eq_some cut).1, List.length_append, List.length_cons]
  omega

@[simp] theorem cutter_step_separator :
    (cutter separator).step pending separator = ([], [pending]) := if_pos rfl

theorem cutter_step_of_ne {letter : Letter} (differs : letter ≠ separator) :
    (cutter separator).step pending letter = (pending ++ [letter], []) := if_neg differs

theorem cutter_feed_of_not_mem (absent : separator ∉ sequence) :
    (cutter separator).feed pending sequence = (pending ++ sequence, []) := by
  induction sequence generalizing pending with
  | nil => simp
  | cons letter sequence inductionHypothesis =>
      obtain ⟨differs, absent⟩ := List.ne_and_not_mem_of_not_mem_cons absent
      rw [Transducer.feed_cons, cutter_step_of_ne differs.symm, inductionHypothesis absent]
      simp

theorem cutter_feed_append (absent : separator ∉ piece) :
    (cutter separator).feed [] (piece ++ separator :: left) =
      (((cutter separator).feed [] left).1, piece :: ((cutter separator).feed [] left).2) := by
  rw [Transducer.feed_append, cutter_feed_of_not_mem absent, Transducer.feed_cons]
  simp

/-- The carry never holds a separator. -/
theorem cutter_feed_carry (absent : separator ∉ pending) :
    separator ∉ ((cutter separator).feed pending sequence).1 := by
  induction sequence generalizing pending with
  | nil => exact absent
  | cons letter sequence inductionHypothesis =>
      rw [Transducer.feed_cons]
      apply inductionHypothesis
      by_cases same : letter = separator
      · rw [same, cutter_step_separator]
        exact List.not_mem_nil
      · rw [cutter_step_of_ne same]
        simp [absent, Ne.symm same]

/-- The carry may be put back in front of what arrives next. -/
theorem cutter_feed_pending (absent : separator ∉ pending) :
    (cutter separator).feed [] (pending ++ sequence) =
      (cutter separator).feed pending sequence := by
  rw [Transducer.feed_append, cutter_feed_of_not_mem absent]
  simp

end DirectLine.Text
