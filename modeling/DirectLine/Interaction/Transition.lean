import Mathlib.Order.Basic

/-!
# Labelled transitions

Finite runs of a labelled transition system.  An invariant that mentions the
labels taken so far is proved once per transition; `Trace.invariant` packages
the induction over a run.
-/

namespace DirectLine.Interaction

variable {State Label : Type}

inductive Trace (step : State → Label → State → Prop) : State → List Label → State → Prop where
  | nil (state : State) : Trace step state [] state
  | cons {first middle last : State} {label : Label} {labels : List Label} :
      step first label middle → Trace step middle labels last →
        Trace step first (label :: labels) last

namespace Trace

variable {step : State → Label → State → Prop} {first last : State}

theorem append_iff {earlier later : List Label} :
    Trace step first (earlier ++ later) last ↔
      ∃ middle, Trace step first earlier middle ∧ Trace step middle later last := by
  induction earlier generalizing first with
  | nil =>
      constructor
      · exact fun trace => ⟨first, .nil first, trace⟩
      · rintro ⟨middle, start, rest⟩
        cases start
        exact rest
  | cons label earlier inductionHypothesis =>
      constructor
      · intro trace
        cases trace with
        | cons taken rest =>
            obtain ⟨middle, start, rest⟩ := inductionHypothesis.mp rest
            exact ⟨middle, .cons taken start, rest⟩
      · rintro ⟨middle, start, rest⟩
        cases start with
        | cons taken start => exact .cons taken (inductionHypothesis.mpr ⟨middle, start, rest⟩)

theorem append {earlier later : List Label} {middle : State}
    (start : Trace step first earlier middle) (rest : Trace step middle later last) :
    Trace step first (earlier ++ later) last :=
  append_iff.mpr ⟨middle, start, rest⟩

theorem single {label : Label} (taken : step first label last) :
    Trace step first [label] last :=
  .cons taken (.nil last)

/-- An invariant of the labels taken and the state reached.  Only the labels of the run have
to preserve it, so a run may be restricted to part of the labels. -/
theorem invariant {labels : List Label} (past : List Label) (holds : List Label → State → Prop)
    (preserved : ∀ past state label state', label ∈ labels → holds past state →
      step state label state' → holds (past ++ [label]) state')
    (start : holds past first) (trace : Trace step first labels last) :
    holds (past ++ labels) last := by
  induction trace generalizing past with
  | nil => simpa using start
  | @cons state middle last label labels taken rest inductionHypothesis =>
      have next : holds (past ++ [label]) middle :=
        preserved past state label middle (by simp) start taken
      have finish := inductionHypothesis (past ++ [label])
        (fun past state label state' member => preserved past state label state'
          (List.mem_cons_of_mem _ member)) next
      simpa using finish

theorem preserves {labels : List Label} (holds : State → Prop)
    (preserved : ∀ state label state', label ∈ labels → holds state →
      step state label state' → holds state')
    (start : holds first) (trace : Trace step first labels last) : holds last :=
  trace.invariant [] (fun _ state => holds state)
    (fun _ state label state' => preserved state label state') start

end Trace

end DirectLine.Interaction
