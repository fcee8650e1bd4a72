import Mathlib.Data.List.Basic

/-!
# Streaming transducers

A deterministic machine that reads one symbol at a time, emits some output for
each and more at the end.  What it emits does not depend on how the input was
cut into chunks.
-/

namespace DirectLine.Text

structure Transducer (State Input Output : Type) where
  start : State
  step : State → Input → State × List Output
  finish : State → List Output

namespace Transducer

variable {State Input Output : Type} (machine : Transducer State Input Output)

/-- The state after some input, with what was emitted on the way. -/
def feed (state : State) : List Input → State × List Output
  | [] => (state, [])
  | symbol :: input =>
      let (next, emitted) := machine.step state symbol
      let (last, rest) := feed next input
      (last, emitted ++ rest)

def close (state : State) (input : List Input) : List Output :=
  (machine.feed state input).2 ++ machine.finish (machine.feed state input).1

def output (input : List Input) : List Output := machine.close machine.start input

@[simp] theorem feed_nil (state : State) : machine.feed state [] = (state, []) := rfl

theorem feed_cons (state : State) (symbol : Input) (input : List Input) :
    machine.feed state (symbol :: input) =
      ((machine.feed (machine.step state symbol).1 input).1,
        (machine.step state symbol).2 ++ (machine.feed (machine.step state symbol).1 input).2) :=
  rfl

theorem feed_append (state : State) (earlier later : List Input) :
    machine.feed state (earlier ++ later) =
      ((machine.feed (machine.feed state earlier).1 later).1,
        (machine.feed state earlier).2 ++
          (machine.feed (machine.feed state earlier).1 later).2) := by
  induction earlier generalizing state with
  | nil => rfl
  | cons symbol earlier inductionHypothesis =>
      rw [List.cons_append, feed_cons, inductionHypothesis, feed_cons]
      simp

theorem close_append (state : State) (earlier later : List Input) :
    machine.close state (earlier ++ later) =
      (machine.feed state earlier).2 ++ machine.close (machine.feed state earlier).1 later := by
  simp [close, feed_append]

theorem close_cons (state : State) (symbol : Input) (input : List Input) :
    machine.close state (symbol :: input) =
      (machine.step state symbol).2 ++ machine.close (machine.step state symbol).1 input := by
  simp [close, feed_cons]

end Transducer

end DirectLine.Text
