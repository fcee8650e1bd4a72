import DirectLine.Interaction.Process
import Mathlib.Data.List.Forall2

/-!
# Straight-line code

A script makes a fixed list of accesses, whatever its reads are answered with.
An execution of it has made a prefix of the list and has the rest left to make.
-/

namespace DirectLine.Interaction

variable {Reg Act Val Result : Type}

/-- The same access, up to the value a read is answered with. -/
inductive Event.Alike : Event Reg Act Val → Event Reg Act Val → Prop where
  | read (reg : Reg) (value answer : Val) : Alike (.read reg value) (.read reg answer)
  | write (reg : Reg) (value : Val) : Alike (.write reg value) (.write reg value)
  | act (action : Act) : Alike (.act action) (.act action)

theorem Event.Alike.eq_write {event : Event Reg Act Val} {reg : Reg} {value : Val}
    (alike : event.Alike (.write reg value)) : event = .write reg value := by
  cases alike
  rfl

namespace Program

def script (result : Result) : List (Event Reg Act Val) → Program Reg Act Val Result
  | [] => .ret result
  | .read reg _ :: events => .read reg fun _ => script result events
  | .write reg value :: events => .write reg value (script result events)
  | .act action :: events => .act action (script result events)

variable {result : Result} {events : List (Event Reg Act Val)}
variable {event : Event Reg Act Val} {last : Program Reg Act Val Result}

theorem Step.script (step : Step (script result events) event last) :
    ∃ listed rest, events = listed :: rest ∧ listed.Alike event ∧ last = script result rest := by
  cases events with
  | nil => cases step
  | cons listed rest =>
      refine ⟨listed, rest, rfl, ?_⟩
      cases listed with
      | read reg value =>
          cases step
          exact ⟨.read reg value _, rfl⟩
      | write reg value =>
          cases step
          exact ⟨.write reg value, rfl⟩
      | act action =>
          cases step
          exact ⟨.act action, rfl⟩

theorem Run.script {trace : List (Event Reg Act Val)}
    (run : Run (script result events) trace last) :
    ∃ done todo, events = done ++ todo ∧ List.Forall₂ Event.Alike done trace ∧
      last = script result todo := by
  induction trace generalizing events with
  | nil =>
      cases run
      exact ⟨[], events, rfl, .nil, rfl⟩
  | cons event trace inductionHypothesis =>
      cases run with
      | cons step run =>
          obtain ⟨listed, rest, rfl, alike, rfl⟩ := step.script
          obtain ⟨done, todo, rfl, made, left⟩ := inductionHypothesis run
          exact ⟨listed :: done, todo, rfl, .cons alike made, left⟩

theorem confined_script (result : Result) (events : List (Event Reg Act Val)) :
    (script result events).Confined (fun _ => True) fun _ => False := by
  induction events with
  | nil => trivial
  | cons event events inductionHypothesis =>
      cases event with
      | read reg value => exact fun _ => ⟨trivial, inductionHypothesis⟩
      | write reg value => exact ⟨trivial, inductionHypothesis⟩
      | act action => exact ⟨trivial, inductionHypothesis⟩

/-- A script without reads makes exactly its accesses. -/
theorem eq_of_alike {done trace : List (Event Reg Act Val)}
    (alike : List.Forall₂ Event.Alike done trace)
    (writes : ∀ event ∈ done, ∃ reg value, event = .write reg value) : trace = done := by
  induction alike with
  | nil => rfl
  | cons head _ inductionHypothesis =>
      obtain ⟨reg, value, rfl⟩ := writes _ List.mem_cons_self
      cases head
      rw [inductionHypothesis fun event member => writes event (List.mem_cons_of_mem _ member)]

theorem script_eq_ret_iff {returned : Result} :
    script result events = .ret returned ↔ events = [] ∧ returned = result := by
  constructor
  · intro same
    cases events with
    | nil =>
        cases same
        exact ⟨rfl, rfl⟩
    | cons event events => cases event <;> cases same
  · rintro ⟨rfl, rfl⟩
    rfl

theorem run_script (result : Result) (events : List (Event Reg Act Val)) :
    Run (script result events) events (.ret result) := by
  induction events with
  | nil => exact .nil _
  | cons event events inductionHypothesis =>
      cases event with
      | read reg value => exact .cons (.read reg _ value) inductionHypothesis
      | write reg value => exact .cons (.write reg value _) inductionHypothesis
      | act action => exact .cons (.act action _) inductionHypothesis

end Program

section Positions

variable {Item : Type} {first second done rest : List Item} {item last : Item}

/-- An element that is not in the first part is reached after all of it. -/
theorem append_eq_append_cons (split : first ++ second = done ++ item :: rest)
    (outside : item ∉ first) :
    ∃ middle, done = first ++ middle ∧ second = middle ++ item :: rest := by
  rcases List.append_eq_append_iff.mp split with ⟨middle, rfl, tail⟩ | ⟨middle, rfl, tail⟩
  · exact ⟨middle, rfl, tail⟩
  · cases middle with
    | nil => exact ⟨[], by simp, by simpa using tail.symm⟩
    | cons head middle =>
        cases (List.cons.inj tail).1
        exact absurd (List.mem_append_right _ List.mem_cons_self) outside

theorem mem_of_concat_eq (split : first ++ [last] = done ++ item :: rest) {other : Item}
    (member : other ∈ done) : other ∈ first := by
  have dropped := congrArg List.dropLast split
  rw [List.dropLast_concat, List.dropLast_append_of_ne_nil (List.cons_ne_nil _ _)] at dropped
  rw [dropped]
  exact List.mem_append_left _ member

theorem eq_of_concat_eq (split : first ++ [last] = done ++ item :: rest) (outside : item ∉ first) :
    done = first ∧ item = last ∧ rest = [] := by
  obtain ⟨middle, rfl, tail⟩ := append_eq_append_cons split outside
  cases middle with
  | nil =>
      cases tail
      exact ⟨List.append_nil _, rfl, rfl⟩
  | cons head middle => simp at tail

end Positions

namespace Process

variable {State : Type}

/-- A process that runs one program and records its accesses. -/
def single (device : State → Event Reg Act Val → State → Prop) (rely : State → State → Prop) :
    Process Reg Act Val (Recorded Reg Act Val State) Result where
  device := Recorded.device device
  rely := Recorded.rely rely
  next _ _ _ := False

variable {device : State → Event Reg Act Val → State → Prop} {rely : State → State → Prop}
variable {program : Program Reg Act Val Result} {first : State}
variable {point : Point Reg Act Val (Recorded Reg Act Val State) Result}

theorem single_run (reaches : (single device rely).Reaches ⟨program, ⟨first, []⟩⟩ point) :
    Program.Run program point.state.past point.program := by
  induction reaches with
  | refl => exact .nil _
  | tail _ step inductionHypothesis =>
      cases step with
      | access taken moved =>
          rw [moved.2]
          exact inductionHypothesis.append (.cons taken (.nil _))
      | relied moved =>
          rw [moved.2]
          exact inductionHypothesis
      | follow next => exact next.elim

/-- What the program's accesses and the other contexts' steps keep holds at every point. -/
theorem single_invariant (invariant : List (Event Reg Act Val) → State → Prop)
    (accessed : ∀ past state event state', invariant past state → device state event state' →
      invariant (past ++ [event]) state')
    (relied : ∀ past state state', invariant past state → rely state state' →
      invariant past state')
    (start : invariant [] first)
    (reaches : (single device rely).Reaches ⟨program, ⟨first, []⟩⟩ point) :
    invariant point.state.past point.state.current := by
  induction reaches with
  | refl => exact start
  | tail _ step inductionHypothesis =>
      cases step with
      | access taken moved =>
          rw [moved.2]
          exact accessed _ _ _ _ inductionHypothesis moved.1
      | relied moved =>
          rw [moved.2]
          exact relied _ _ _ inductionHypothesis moved.1
      | follow next => exact next.elim

theorem single_returned {result : Result}
    (reaches : (single device rely).Reaches ⟨.ret result, ⟨first, []⟩⟩ point) :
    point.program = .ret result ∧ point.state.past = [] ∧
      Relation.ReflTransGen rely first point.state.current := by
  induction reaches with
  | refl => exact ⟨rfl, rfl, .refl⟩
  | tail _ step inductionHypothesis =>
      obtain ⟨returned, unaccessed, steps⟩ := inductionHypothesis
      cases step with
      | access taken =>
          cases returned
          cases taken
      | relied moved => exact ⟨returned, moved.2.trans unaccessed, steps.tail moved.1⟩
      | follow next => exact next.elim

end Process

end DirectLine.Interaction
