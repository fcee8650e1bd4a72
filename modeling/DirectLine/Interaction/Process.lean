import DirectLine.Interaction.Contract
import DirectLine.Interaction.Transition

/-!
# Processes

A process runs programs one after another over a device state: when one has
returned, `next` says which programs may follow.  A loop follows its body's
result with the body again; a client follows the result of one call with any
other call.  Between any two accesses the other contexts may step.

What holds whenever a program has returned is proved once for each program, as
its contract; `Reaches.meets` packages the induction over the execution.
-/

namespace DirectLine.Interaction

open Relation

variable {Reg Act Val State Result Call : Type}

structure Process (Reg Act Val State Result : Type) where
  device : State → Event Reg Act Val → State → Prop
  rely : State → State → Prop
  /-- The programs that may follow a result. -/
  next : Result → State → Program Reg Act Val Result → Prop

structure Point (Reg Act Val State Result : Type) where
  program : Program Reg Act Val Result
  state : State

namespace Process

variable (process : Process Reg Act Val State Result)

inductive Step : Point Reg Act Val State Result → Point Reg Act Val State Result → Prop where
  | access {program next : Program Reg Act Val Result} {event : Event Reg Act Val}
      {state state' : State} :
      Program.Step program event next → process.device state event state' →
        Step ⟨program, state⟩ ⟨next, state'⟩
  | relied {program : Program Reg Act Val Result} {state state' : State} :
      process.rely state state' → Step ⟨program, state⟩ ⟨program, state'⟩
  | follow {result : Result} {program : Program Reg Act Val Result} {state : State} :
      process.next result state program → Step ⟨.ret result, state⟩ ⟨program, state⟩

abbrev Reaches : Point Reg Act Val State Result → Point Reg Act Val State Result → Prop :=
  ReflTransGen process.Step

/-- The setting of one program, with what its accesses promise. -/
def setting (guarantee : State → Event Reg Act Val → State → Prop) :
    Setting Reg Act Val State :=
  ⟨process.device, process.rely, guarantee⟩

section Contracts

variable {process} {guarantee : State → Event Reg Act Val → State → Prop}
variable {boundary : Result → State → Prop} {fail : String → State → Prop}
variable {point point' : Point Reg Act Val State Result}

/-- If every program that may follow meets its contract from the boundary on, the contract of
whatever is left holds at every point reached. -/
theorem Reaches.meets (reaches : process.Reaches point point')
    (follows : ∀ result state program, boundary result state →
      process.next result state program →
        (process.setting guarantee).Meets boundary fail program state)
    (start : (process.setting guarantee).Meets boundary fail point.program point.state) :
    (process.setting guarantee).Meets boundary fail point'.program point'.state := by
  induction reaches with
  | refl => exact start
  | tail _ step inductionHypothesis =>
      cases step with
      | access taken moved => exact (inductionHypothesis.access taken moved).2
      | relied step => exact inductionHypothesis.relied (.single step)
      | follow next => exact follows _ _ _ inductionHypothesis.returned next

/-- What the guarantees of the accesses and the other contexts keep, holds at every point reached,
in the middle of a program too. -/
theorem Reaches.guaranteed (reaches : process.Reaches point point')
    (follows : ∀ result state program, boundary result state →
      process.next result state program →
        (process.setting guarantee).Meets boundary fail program state)
    (start : (process.setting guarantee).Meets boundary fail point.program point.state)
    {invariant : State → Prop} (holds : invariant point.state)
    (access : ∀ state event state', invariant state → process.device state event state' →
      guarantee state event state' → invariant state')
    (relied : ∀ state state', invariant state → process.rely state state' → invariant state') :
    invariant point'.state := by
  induction reaches with
  | refl => exact holds
  | @tail middle last earlier step inductionHypothesis =>
      have meets := Reaches.meets earlier follows start
      cases step with
      | access taken moved =>
          exact access _ _ _ inductionHypothesis moved (meets.access taken moved).1
      | relied step => exact relied _ _ inductionHypothesis step
      | follow next => exact inductionHypothesis

end Contracts

theorem Reaches.relieds {process : Process Reg Act Val State Result}
    {program : Program Reg Act Val Result} {state state' : State}
    (steps : ReflTransGen process.rely state state') :
    process.Reaches ⟨program, state⟩ ⟨program, state'⟩ := by
  induction steps with
  | refl => exact .refl
  | tail _ step inductionHypothesis => exact inductionHypothesis.tail (.relied step)

/-- A view of the states under which every step is one of another process, or several of its
context, carries the executions over. -/
theorem Reaches.project {View : Type} {process : Process Reg Act Val State Result}
    {process' : Process Reg Act Val View Result} (view : State → View)
    (device : ∀ state event state', process.device state event state' →
      process'.device (view state) event (view state'))
    (rely : ∀ state state', process.rely state state' →
      ReflTransGen process'.rely (view state) (view state'))
    (next : ∀ result state program, process.next result state program →
      process'.next result (view state) program)
    {point point' : Point Reg Act Val State Result} (reaches : process.Reaches point point') :
    process'.Reaches ⟨point.program, view point.state⟩ ⟨point'.program, view point'.state⟩ := by
  induction reaches with
  | refl => exact .refl
  | tail _ step inductionHypothesis =>
      refine inductionHypothesis.trans ?_
      cases step with
      | access taken moved => exact .single (.access taken (device _ _ _ moved))
      | @relied program state state' moved =>
          exact Reaches.relieds (rely state state' moved)
      | follow following => exact .single (.follow (next _ _ _ following))

theorem Reaches.of_run {process : Process Reg Act Val State Result}
    {program last : Program Reg Act Val Result} {trace : List (Event Reg Act Val)}
    {state state' : State} (run : Program.Run program trace last)
    (moves : Trace process.device state trace state') :
    process.Reaches ⟨program, state⟩ ⟨last, state'⟩ := by
  induction run generalizing state with
  | nil =>
      cases moves
      exact .refl
  | cons step _ inductionHypothesis =>
      cases moves with
      | cons moved moves => exact .head (.access step moved) (inductionHypothesis moves)

end Process

structure Recorded (Reg Act Val State : Type) where
  current : State
  past : List (Event Reg Act Val)

namespace Recorded

def device (device : State → Event Reg Act Val → State → Prop)
    (recorded : Recorded Reg Act Val State) (event : Event Reg Act Val)
    (recorded' : Recorded Reg Act Val State) : Prop :=
  device recorded.current event recorded'.current ∧ recorded'.past = recorded.past ++ [event]

/-- The steps of the other contexts are not recorded. -/
def rely (rely : State → State → Prop) (recorded recorded' : Recorded Reg Act Val State) :
    Prop :=
  rely recorded.current recorded'.current ∧ recorded'.past = recorded.past

theorem trace {device : State → Event Reg Act Val → State → Prop} {state state' : State}
    {events : List (Event Reg Act Val)} (moves : Trace device state events state')
    (past : List (Event Reg Act Val)) :
    Trace (Recorded.device device) ⟨state, past⟩ events ⟨state', past ++ events⟩ := by
  induction moves generalizing past with
  | nil =>
      rw [List.append_nil]
      exact .nil _
  | @cons _ _ _ event events moved _ inductionHypothesis =>
      have rest := inductionHypothesis (past ++ [event])
      rw [List.append_assoc, List.singleton_append] at rest
      exact .cons ⟨moved, rfl⟩ rest

end Recorded

structure Completed (State Call Result : Type) where
  call : Call
  before : State
  result : Result

/-- A client makes calls one after another, in any order.  The calls completed so far are the
result of what it has run. -/
def client (device : State → Event Reg Act Val → State → Prop) (rely : State → State → Prop)
    (code : Call → Program Reg Act Val Result) :
    Process Reg Act Val State (List (Completed State Call Result)) where
  device := device
  rely := rely
  next completed state program :=
    ∃ call, program = code call >>= fun result => .ret (completed ++ [⟨call, state, result⟩])

end DirectLine.Interaction
