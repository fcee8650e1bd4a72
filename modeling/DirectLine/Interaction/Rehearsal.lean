import DirectLine.Interaction.Process

/-!
# Rehearsals

A stage answers the reads of a program by a function of its state, and lets the
other contexts step on cue.  A script played on a stage is an execution of every
process that the stage is faithful to, so executions can be computed.
-/

namespace DirectLine.Interaction

open Relation

structure Stage (Reg Act Val State Cue : Type) where
  /-- The answer to a read, after so many accesses. -/
  answer : Nat → State → Reg → Val
  access : State → Event Reg Act Val → Option State
  cue : State → Cue → Option State

/-- A number of accesses, or a step of another context. -/
inductive Direction (Cue : Type) where
  | accesses (count : Nat)
  | cue (cue : Cue)

namespace Stage

variable {Reg Act Val State Cue Result : Type} (stage : Stage Reg Act Val State Cue)

def advance : Nat → Nat → State → Program Reg Act Val Result →
    Option (Point Reg Act Val State Result)
  | 0, _, state, program => some ⟨program, state⟩
  | count + 1, past, state, .read reg next =>
      let value := stage.answer past state reg
      (stage.access state (.read reg value)).bind fun state =>
        advance count (past + 1) state (next value)
  | count + 1, past, state, .write reg value next =>
      (stage.access state (.write reg value)).bind fun state =>
        advance count (past + 1) state next
  | count + 1, past, state, .act action next =>
      (stage.access state (.act action)).bind fun state =>
        advance count (past + 1) state next
  | _ + 1, _, _, _ => none

def play : List (Direction Cue) → Nat → Point Reg Act Val State Result →
    Option (Point Reg Act Val State Result)
  | [], _, point => some point
  | .accesses count :: script, past, point =>
      (stage.advance count past point.state point.program).bind
        (play script (past + count))
  | .cue cue :: script, past, point =>
      (stage.cue point.state cue).bind fun state => play script past ⟨point.program, state⟩

/-- What happens on stage can happen in the process. -/
structure Faithful (process : Process Reg Act Val State Result) : Prop where
  access : ∀ past state event state',
    (∀ reg value, event = .read reg value → value = stage.answer past state reg) →
      stage.access state event = some state' →
        ∃ middle, process.device state event middle ∧ ReflTransGen process.rely middle state'
  cue : ∀ state cue state', stage.cue state cue = some state' →
    ReflTransGen process.rely state state'

variable {stage} {process : Process Reg Act Val State Result}
variable {point point' : Point Reg Act Val State Result}

theorem Faithful.reaches_access (faithful : stage.Faithful process) (past : Nat)
    {program next : Program Reg Act Val Result} {event : Event Reg Act Val} {state state' : State}
    (taken : Program.Step program event next)
    (answered : ∀ reg value, event = .read reg value → value = stage.answer past state reg)
    (moved : stage.access state event = some state') :
    process.Reaches ⟨program, state⟩ ⟨next, state'⟩ := by
  obtain ⟨middle, device, rest⟩ := faithful.access past state event state' answered moved
  exact .head (.access taken device) (Process.Reaches.relieds rest)

theorem Faithful.reaches_advance (faithful : stage.Faithful process) {count past : Nat}
    {state : State} {program : Program Reg Act Val Result}
    (advanced : stage.advance count past state program = some point') :
    process.Reaches ⟨program, state⟩ point' := by
  induction count generalizing past state program with
  | zero =>
      cases advanced
      exact .refl
  | succ count inductionHypothesis =>
      cases program with
      | ret | panic | exhausted => cases advanced
      | read reg next =>
          obtain ⟨state', moved, rest⟩ := Option.bind_eq_some_iff.mp advanced
          have answered : ∀ other value,
              (.read reg (stage.answer past state reg) : Event Reg Act Val) = .read other value →
                value = stage.answer past state other := by
            rintro _ _ ⟨⟩
            rfl
          exact (faithful.reaches_access past (.read reg next _) answered moved).trans
            (inductionHypothesis rest)
      | write reg value next =>
          obtain ⟨state', moved, rest⟩ := Option.bind_eq_some_iff.mp advanced
          exact (faithful.reaches_access past (.write reg value next) nofun moved).trans
            (inductionHypothesis rest)
      | act action next =>
          obtain ⟨state', moved, rest⟩ := Option.bind_eq_some_iff.mp advanced
          exact (faithful.reaches_access past (.act action next) nofun moved).trans
            (inductionHypothesis rest)

theorem Faithful.reaches_play (faithful : stage.Faithful process) {script : List (Direction Cue)}
    {past : Nat} (played : stage.play script past point = some point') :
    process.Reaches point point' := by
  induction script generalizing past point with
  | nil =>
      cases played
      exact .refl
  | cons direction script inductionHypothesis =>
      cases direction with
      | accesses count =>
          obtain ⟨middle, advanced, rest⟩ := Option.bind_eq_some_iff.mp played
          exact (faithful.reaches_advance advanced).trans (inductionHypothesis rest)
      | cue cue =>
          obtain ⟨state, stepped, rest⟩ := Option.bind_eq_some_iff.mp played
          exact .trans (Process.Reaches.relieds (faithful.cue _ cue state stepped))
            (inductionHypothesis rest)

/-- The result with which a script ends the program, and the state it leaves. -/
def perform (stage : Stage Reg Act Val State Cue) (script : List (Direction Cue))
    (point : Point Reg Act Val State Result) : Option (Result × State) :=
  (stage.play script 0 point).bind fun point =>
    match point.program with
    | .ret result => some (result, point.state)
    | _ => none

theorem Faithful.reaches_perform (faithful : stage.Faithful process)
    {script : List (Direction Cue)} {result : Result} {state : State}
    (performed : stage.perform script point = some (result, state)) :
    process.Reaches point ⟨.ret result, state⟩ := by
  obtain ⟨⟨program, last⟩, played, ended⟩ := Option.bind_eq_some_iff.mp performed
  cases program with
  | ret =>
      cases ended
      exact faithful.reaches_play played
  | panic | exhausted | read | write | act => cases ended

end Stage

end DirectLine.Interaction
