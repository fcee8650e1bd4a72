import Mathlib.Logic.Relation

/-!
# Device programs

A driver is a finite tree of device accesses: a read continues with whatever
value the device answers, a write or an instruction continues unconditionally.
The tree fixes no meaning for the accesses.  `Run` records the accesses of one
execution under an arbitrary device; `Interaction.Contract` gives programs a
meaning over a device state that other contexts may change in between.

Loops whose number of turns the device decides are unrolled by a fuel argument.
A tree cut short by its fuel ends in `exhausted`, which is neither a result nor
a panic.
-/

namespace DirectLine.Interaction

variable {Reg Act Val Result Next : Type}

/-- One access, with the value the device answered a read with. -/
inductive Event (Reg Act Val : Type) where
  | read (reg : Reg) (value : Val)
  | write (reg : Reg) (value : Val)
  | act (action : Act)
  deriving DecidableEq, Repr

inductive Program (Reg Act Val Result : Type) where
  | ret (result : Result)
  | panic (message : String)
  | exhausted
  | read (reg : Reg) (next : Val → Program Reg Act Val Result)
  | write (reg : Reg) (value : Val) (next : Program Reg Act Val Result)
  | act (action : Act) (next : Program Reg Act Val Result)

namespace Program

def bind : Program Reg Act Val Result → (Result → Program Reg Act Val Next) →
    Program Reg Act Val Next
  | .ret result, after => after result
  | .panic message, _ => .panic message
  | .exhausted, _ => .exhausted
  | .read reg next, after => .read reg fun value => (next value).bind after
  | .write reg value next, after => .write reg value (next.bind after)
  | .act action next, after => .act action (next.bind after)

instance : Monad (Program Reg Act Val) where
  pure := .ret
  bind := Program.bind

@[simp] theorem pure_eq (result : Result) :
    (pure result : Program Reg Act Val Result) = .ret result := rfl

@[simp] theorem ret_bind (result : Result) (after : Result → Program Reg Act Val Next) :
    ((.ret result : Program Reg Act Val Result) >>= after) = after result := rfl

@[simp] theorem read_bind (reg : Reg) (next : Val → Program Reg Act Val Result)
    (after : Result → Program Reg Act Val Next) :
    ((.read reg next : Program Reg Act Val Result) >>= after) =
      .read reg fun value => next value >>= after := rfl

@[simp] theorem write_bind (reg : Reg) (value : Val) (next : Program Reg Act Val Result)
    (after : Result → Program Reg Act Val Next) :
    ((.write reg value next : Program Reg Act Val Result) >>= after) =
      .write reg value (next >>= after) := rfl

@[simp] theorem act_bind (action : Act) (next : Program Reg Act Val Result)
    (after : Result → Program Reg Act Val Next) :
    ((.act action next : Program Reg Act Val Result) >>= after) =
      .act action (next >>= after) := rfl

theorem bind_ret (program : Program Reg Act Val Result) : program.bind .ret = program := by
  induction program with
  | ret | panic | exhausted => rfl
  | read reg next inductionHypothesis =>
      simp only [Program.bind]
      congr 1
      funext value
      exact inductionHypothesis value
  | write reg value next inductionHypothesis =>
      simp only [Program.bind, inductionHypothesis]
  | act action next inductionHypothesis =>
      simp only [Program.bind, inductionHypothesis]

theorem bind_assoc {Last : Type} (program : Program Reg Act Val Result)
    (middle : Result → Program Reg Act Val Next) (last : Next → Program Reg Act Val Last) :
    (program.bind middle).bind last = program.bind fun result => (middle result).bind last := by
  induction program with
  | ret | panic | exhausted => rfl
  | read reg next inductionHypothesis =>
      simp only [Program.bind]
      congr 1
      funext value
      exact inductionHypothesis value
  | write reg value next inductionHypothesis =>
      simp only [Program.bind, inductionHypothesis]
  | act action next inductionHypothesis =>
      simp only [Program.bind, inductionHypothesis]

instance : LawfulMonad (Program Reg Act Val) :=
  LawfulMonad.mk' _ bind_ret (fun _ _ => rfl) bind_assoc

def readReg (reg : Reg) : Program Reg Act Val Val := .read reg .ret

def writeReg (reg : Reg) (value : Val) : Program Reg Act Val Unit := .write reg value (.ret ())

def perform (action : Act) : Program Reg Act Val Unit := .act action (.ret ())

def assert (condition : Bool) (message : String) : Program Reg Act Val Unit :=
  if condition then .ret () else .panic message

@[simp] theorem readReg_bind (reg : Reg) (after : Val → Program Reg Act Val Next) :
    (readReg reg >>= after) = .read reg after := rfl

@[simp] theorem writeReg_bind (reg : Reg) (value : Val)
    (after : Unit → Program Reg Act Val Next) :
    (writeReg reg value >>= after) = .write reg value (after ()) := rfl

@[simp] theorem perform_bind (action : Act) (after : Unit → Program Reg Act Val Next) :
    (perform action >>= after) = .act action (after ()) := rfl

@[simp] theorem assert_true (message : String) :
    (assert true message : Program Reg Act Val Unit) = .ret () := rfl

/-- Repeat a body until it yields a result, for at most `fuel` turns. -/
def iterate (body : Program Reg Act Val (Option Result)) : Nat → Program Reg Act Val Result
  | 0 => .exhausted
  | fuel + 1 => body >>= fun
      | some result => .ret result
      | none => iterate body fuel

/-- The program left after one access. -/
inductive Step : Program Reg Act Val Result → Event Reg Act Val →
    Program Reg Act Val Result → Prop where
  | read (reg : Reg) (next : Val → Program Reg Act Val Result) (value : Val) :
      Step (.read reg next) (.read reg value) (next value)
  | write (reg : Reg) (value : Val) (next : Program Reg Act Val Result) :
      Step (.write reg value next) (.write reg value) next
  | act (action : Act) (next : Program Reg Act Val Result) :
      Step (.act action next) (.act action) next

theorem Step.of_bind {program : Program Reg Act Val Result}
    {after : Result → Program Reg Act Val Next} {event : Event Reg Act Val}
    {last : Program Reg Act Val Next} (step : Step (program >>= after) event last) :
    (∃ result, program = .ret result ∧ Step (after result) event last) ∨
      ∃ rest, Step program event rest ∧ last = rest >>= after := by
  cases program with
  | ret result => exact .inl ⟨result, rfl, step⟩
  | panic | exhausted => cases step
  | read reg next =>
      cases step
      exact .inr ⟨_, .read reg next _, rfl⟩
  | write reg value next =>
      cases step
      exact .inr ⟨_, .write reg value next, rfl⟩
  | act action next =>
      cases step
      exact .inr ⟨_, .act action next, rfl⟩

/-- The accesses of an execution under an arbitrary device, and the program left after them. -/
inductive Run : Program Reg Act Val Result → List (Event Reg Act Val) →
    Program Reg Act Val Result → Prop where
  | nil (program : Program Reg Act Val Result) : Run program [] program
  | cons {program middle last : Program Reg Act Val Result} {event : Event Reg Act Val}
      {trace : List (Event Reg Act Val)} :
      Step program event middle → Run middle trace last → Run program (event :: trace) last

theorem Run.append {program middle last : Program Reg Act Val Result}
    {earlier later : List (Event Reg Act Val)} (start : Run program earlier middle)
    (rest : Run middle later last) : Run program (earlier ++ later) last := by
  induction start with
  | nil => exact rest
  | cons step _ inductionHypothesis => exact .cons step (inductionHypothesis rest)

/-- The accesses of an execution, with the values read, decide what is left. -/
theorem Run.unique {program first second : Program Reg Act Val Result}
    {trace : List (Event Reg Act Val)} (one : Run program trace first)
    (other : Run program trace second) : first = second := by
  induction one with
  | nil =>
      cases other
      rfl
  | cons step _ inductionHypothesis =>
      cases other with
      | cons step' other =>
          cases step <;> cases step' <;> exact inductionHypothesis other

abbrev Returns (program : Program Reg Act Val Result) (trace : List (Event Reg Act Val))
    (result : Result) : Prop :=
  Run program trace (.ret result)

abbrev Panics (program : Program Reg Act Val Result) (trace : List (Event Reg Act Val))
    (message : String) : Prop :=
  Run program trace (.panic message)

@[simp] theorem run_ret_iff {result : Result} {trace : List (Event Reg Act Val)}
    {last : Program Reg Act Val Result} :
    Run (.ret result) trace last ↔ trace = [] ∧ last = .ret result := by
  constructor
  · intro run
    cases run with
    | nil => exact ⟨rfl, rfl⟩
    | cons step _ => cases step
  · rintro ⟨rfl, rfl⟩
    exact .nil _

@[simp] theorem run_panic_iff {message : String} {trace : List (Event Reg Act Val)}
    {last : Program Reg Act Val Result} :
    Run (.panic message) trace last ↔ trace = [] ∧ last = .panic message := by
  constructor
  · intro run
    cases run with
    | nil => exact ⟨rfl, rfl⟩
    | cons step _ => cases step
  · rintro ⟨rfl, rfl⟩
    exact .nil _

@[simp] theorem run_exhausted_iff {trace : List (Event Reg Act Val)}
    {last : Program Reg Act Val Result} :
    Run .exhausted trace last ↔ trace = [] ∧ last = .exhausted := by
  constructor
  · intro run
    cases run with
    | nil => exact ⟨rfl, rfl⟩
    | cons step _ => cases step
  · rintro ⟨rfl, rfl⟩
    exact .nil _

theorem run_read_iff {reg : Reg} {next : Val → Program Reg Act Val Result}
    {trace : List (Event Reg Act Val)} {last : Program Reg Act Val Result} :
    Run (.read reg next) trace last ↔
      (trace = [] ∧ last = .read reg next) ∨
        ∃ value rest, trace = .read reg value :: rest ∧ Run (next value) rest last := by
  constructor
  · intro run
    cases run with
    | nil => exact .inl ⟨rfl, rfl⟩
    | cons step rest =>
        cases step
        exact .inr ⟨_, _, rfl, rest⟩
  · rintro (⟨rfl, rfl⟩ | ⟨value, rest, rfl, run⟩)
    · exact .nil _
    · exact .cons (.read reg next value) run

theorem run_write_iff {reg : Reg} {value : Val} {next : Program Reg Act Val Result}
    {trace : List (Event Reg Act Val)} {last : Program Reg Act Val Result} :
    Run (.write reg value next) trace last ↔
      (trace = [] ∧ last = .write reg value next) ∨
        ∃ rest, trace = .write reg value :: rest ∧ Run next rest last := by
  constructor
  · intro run
    cases run with
    | nil => exact .inl ⟨rfl, rfl⟩
    | cons step rest =>
        cases step
        exact .inr ⟨_, rfl, rest⟩
  · rintro (⟨rfl, rfl⟩ | ⟨rest, rfl, run⟩)
    · exact .nil _
    · exact .cons (.write reg value next) run

theorem run_act_iff {action : Act} {next : Program Reg Act Val Result}
    {trace : List (Event Reg Act Val)} {last : Program Reg Act Val Result} :
    Run (.act action next) trace last ↔
      (trace = [] ∧ last = .act action next) ∨
        ∃ rest, trace = .act action :: rest ∧ Run next rest last := by
  constructor
  · intro run
    cases run with
    | nil => exact .inl ⟨rfl, rfl⟩
    | cons step rest =>
        cases step
        exact .inr ⟨_, rfl, rest⟩
  · rintro (⟨rfl, rfl⟩ | ⟨rest, rfl, run⟩)
    · exact .nil _
    · exact .cons (.act action next) run

theorem Returns.of_bind {program : Program Reg Act Val Result}
    {after : Result → Program Reg Act Val Next} {trace : List (Event Reg Act Val)} {next : Next}
    (run : Returns (program >>= after) trace next) :
    ∃ earlier later result, trace = earlier ++ later ∧ Returns program earlier result ∧
      Returns (after result) later next := by
  induction program generalizing trace with
  | ret result => exact ⟨[], trace, result, rfl, .nil _, run⟩
  | panic message =>
      obtain ⟨-, impossible⟩ := run_panic_iff.mp run
      cases impossible
  | exhausted =>
      obtain ⟨-, impossible⟩ := run_exhausted_iff.mp run
      cases impossible
  | read reg rest inductionHypothesis =>
      rcases run_read_iff.mp run with ⟨-, impossible⟩ | ⟨value, trace, rfl, remaining⟩
      · cases impossible
      · obtain ⟨earlier, later, result, rfl, first, second⟩ := inductionHypothesis value remaining
        exact ⟨_, later, result, rfl, .cons (.read reg rest value) first, second⟩
  | write reg value rest inductionHypothesis =>
      rcases run_write_iff.mp run with ⟨-, impossible⟩ | ⟨trace, rfl, remaining⟩
      · cases impossible
      · obtain ⟨earlier, later, result, rfl, first, second⟩ := inductionHypothesis remaining
        exact ⟨_, later, result, rfl, .cons (.write reg value rest) first, second⟩
  | act action rest inductionHypothesis =>
      rcases run_act_iff.mp run with ⟨-, impossible⟩ | ⟨trace, rfl, remaining⟩
      · cases impossible
      · obtain ⟨earlier, later, result, rfl, first, second⟩ := inductionHypothesis remaining
        exact ⟨_, later, result, rfl, .cons (.act action rest) first, second⟩

/-- Every result the program may return, whatever a device answers. -/
def Yields (post : Result → Prop) : Program Reg Act Val Result → Prop
  | .ret result => post result
  | .panic _ | .exhausted => True
  | .read _ next => ∀ value, (next value).Yields post
  | .write _ _ next | .act _ next => next.Yields post

theorem Yields.trivial (program : Program Reg Act Val Result) :
    program.Yields fun _ => True := by
  induction program with
  | ret | panic | exhausted => exact True.intro
  | read reg next inductionHypothesis => exact inductionHypothesis
  | write reg value next inductionHypothesis => exact inductionHypothesis
  | act action next inductionHypothesis => exact inductionHypothesis

theorem Yields.bind {program : Program Reg Act Val Result}
    {after : Result → Program Reg Act Val Next} {middle : Result → Prop} {post : Next → Prop}
    (first : program.Yields middle) (rest : ∀ result, middle result → (after result).Yields post) :
    (program >>= after).Yields post := by
  induction program with
  | ret result => exact rest result first
  | panic | exhausted => exact True.intro
  | read reg next inductionHypothesis => exact fun value => inductionHypothesis value (first value)
  | write reg value next inductionHypothesis => exact inductionHypothesis first
  | act action next inductionHypothesis => exact inductionHypothesis first

theorem Yields.after {program : Program Reg Act Val Result}
    {after : Result → Program Reg Act Val Next} {post : Next → Prop}
    (rest : ∀ result, (after result).Yields post) : (program >>= after).Yields post :=
  (Yields.trivial program).bind fun result _ => rest result

theorem Yields.returned {program : Program Reg Act Val Result} {post : Result → Prop}
    {trace : List (Event Reg Act Val)} {result : Result} (yields : program.Yields post)
    (run : Returns program trace result) : post result := by
  induction program generalizing trace with
  | ret returned =>
      obtain ⟨-, same⟩ := run_ret_iff.mp run
      cases same
      exact yields
  | panic => cases (run_panic_iff.mp run).2
  | exhausted => cases (run_exhausted_iff.mp run).2
  | read reg next inductionHypothesis =>
      rcases run_read_iff.mp run with ⟨-, impossible⟩ | ⟨value, rest, -, remaining⟩
      · cases impossible
      · exact inductionHypothesis value (yields value) remaining
  | write reg value next inductionHypothesis =>
      rcases run_write_iff.mp run with ⟨-, impossible⟩ | ⟨rest, -, remaining⟩
      · cases impossible
      · exact inductionHypothesis yields remaining
  | act action next inductionHypothesis =>
      rcases run_act_iff.mp run with ⟨-, impossible⟩ | ⟨rest, -, remaining⟩
      · cases impossible
      · exact inductionHypothesis yields remaining

/-- Every access the program may make and every panic it may stop in, whatever a device
answers.  No fuel cuts the program short. -/
def Confined (allowed : Event Reg Act Val → Prop) (stops : String → Prop) :
    Program Reg Act Val Result → Prop
  | .ret _ => True
  | .panic message => stops message
  | .exhausted => False
  | .read reg next => ∀ value, allowed (.read reg value) ∧ (next value).Confined allowed stops
  | .write reg value next => allowed (.write reg value) ∧ next.Confined allowed stops
  | .act action next => allowed (.act action) ∧ next.Confined allowed stops

theorem Confined.bind {allowed : Event Reg Act Val → Prop} {stops : String → Prop}
    {program : Program Reg Act Val Result} {after : Result → Program Reg Act Val Next}
    (first : program.Confined allowed stops)
    (rest : ∀ result, (after result).Confined allowed stops) :
    (program >>= after).Confined allowed stops := by
  induction program with
  | ret result => exact rest result
  | panic message => exact first
  | exhausted => exact first
  | read reg next inductionHypothesis =>
      exact fun value => ⟨(first value).1, inductionHypothesis value (first value).2⟩
  | write reg value next inductionHypothesis => exact ⟨first.1, inductionHypothesis first.2⟩
  | act action next inductionHypothesis => exact ⟨first.1, inductionHypothesis first.2⟩

theorem Confined.assert {allowed : Event Reg Act Val → Prop} {stops : String → Prop}
    (condition : Bool) {message : String} (stopped : stops message) :
    (assert condition message : Program Reg Act Val Unit).Confined allowed stops := by
  cases condition with
  | true => exact True.intro
  | false => exact stopped

theorem Confined.step {allowed : Event Reg Act Val → Prop} {stops : String → Prop}
    {program next : Program Reg Act Val Result} {event : Event Reg Act Val}
    (confined : program.Confined allowed stops) (step : Step program event next) :
    allowed event ∧ next.Confined allowed stops := by
  cases step with
  | read reg next value => exact confined value
  | write | act => exact confined

/-- The execution under a device that always answers a register with the same value. -/
def follow (answer : Reg → Val) :
    Program Reg Act Val Result → List (Event Reg Act Val) × Program Reg Act Val Result
  | .read reg next =>
      let rest := (next (answer reg)).follow answer
      (.read reg (answer reg) :: rest.1, rest.2)
  | .write reg value next =>
      let rest := next.follow answer
      (.write reg value :: rest.1, rest.2)
  | .act action next =>
      let rest := next.follow answer
      (.act action :: rest.1, rest.2)
  | program => ([], program)

theorem run_follow (answer : Reg → Val) (program : Program Reg Act Val Result) :
    Run program (program.follow answer).1 (program.follow answer).2 := by
  induction program with
  | ret | panic | exhausted => exact .nil _
  | read reg next inductionHypothesis =>
      exact .cons (.read reg next _) (inductionHypothesis (answer reg))
  | write reg value next inductionHypothesis =>
      exact .cons (.write reg value next) inductionHypothesis
  | act action next inductionHypothesis =>
      exact .cons (.act action next) inductionHypothesis

/-- The execution under a device that answers the reads one by one, up to the first read it has
no answer for. -/
def replay : Program Reg Act Val Result → List Val →
    List (Event Reg Act Val) × Program Reg Act Val Result
  | .read reg next, value :: values =>
      let rest := (next value).replay values
      (.read reg value :: rest.1, rest.2)
  | .write reg value next, values =>
      let rest := next.replay values
      (.write reg value :: rest.1, rest.2)
  | .act action next, values =>
      let rest := next.replay values
      (.act action :: rest.1, rest.2)
  | program, _ => ([], program)

theorem run_replay (program : Program Reg Act Val Result) (values : List Val) :
    Run program (program.replay values).1 (program.replay values).2 := by
  induction program generalizing values with
  | ret | panic | exhausted => exact .nil _
  | read reg next inductionHypothesis =>
      cases values with
      | nil => exact .nil _
      | cons value values => exact .cons (.read reg next value) (inductionHypothesis value values)
  | write reg value next inductionHypothesis =>
      exact .cons (.write reg value next) (inductionHypothesis values)
  | act action next inductionHypothesis =>
      exact .cons (.act action next) (inductionHypothesis values)

def attend (device : List (Event Reg Act Val) → Reg → Val) :
    Program Reg Act Val Result → List (Event Reg Act Val) →
      List (Event Reg Act Val) × Program Reg Act Val Result
  | .read reg next, past =>
      let event := .read reg (device past reg)
      let rest := (next (device past reg)).attend device (past ++ [event])
      (event :: rest.1, rest.2)
  | .write reg value next, past =>
      let rest := next.attend device (past ++ [.write reg value])
      (.write reg value :: rest.1, rest.2)
  | .act action next, past =>
      let rest := next.attend device (past ++ [.act action])
      (.act action :: rest.1, rest.2)
  | program, _ => ([], program)

section Attend

variable (device : List (Event Reg Act Val) → Reg → Val) (program : Program Reg Act Val Result)
variable (past : List (Event Reg Act Val))

theorem run_attend : Run program (program.attend device past).1 (program.attend device past).2 := by
  induction program generalizing past with
  | ret | panic | exhausted => exact .nil _
  | read reg next inductionHypothesis =>
      exact .cons (.read reg next _) (inductionHypothesis (device past reg) _)
  | write reg value next inductionHypothesis =>
      exact .cons (.write reg value next) (inductionHypothesis _)
  | act action next inductionHypothesis =>
      exact .cons (.act action next) (inductionHypothesis _)

theorem attend_ends {event : Event Reg Act Val} {last : Program Reg Act Val Result} :
    ¬Step (program.attend device past).2 event last := by
  induction program generalizing past with
  | ret | panic | exhausted =>
      intro step
      cases step
  | read reg next inductionHypothesis => exact inductionHypothesis (device past reg) _
  | write reg value next inductionHypothesis => exact inductionHypothesis _
  | act action next inductionHypothesis => exact inductionHypothesis _

theorem attend_answers {earlier later : List (Event Reg Act Val)} {reg : Reg} {value : Val}
    (split : (program.attend device past).1 = earlier ++ .read reg value :: later) :
    value = device (past ++ earlier) reg := by
  induction program generalizing past earlier with
  | ret | panic | exhausted => simp [attend] at split
  | read other next inductionHypothesis =>
      cases earlier with
      | nil =>
          obtain ⟨⟨rfl, rfl⟩, -⟩ := by simpa [attend] using split
          rw [List.append_nil]
      | cons event earlier =>
          obtain ⟨rfl, rest⟩ := List.cons.inj split
          rw [inductionHypothesis _ _ rest, List.append_assoc, List.singleton_append]
  | write other value next inductionHypothesis =>
      cases earlier with
      | nil => cases split
      | cons event earlier =>
          obtain ⟨rfl, rest⟩ := List.cons.inj split
          rw [inductionHypothesis _ rest, List.append_assoc, List.singleton_append]
  | act action next inductionHypothesis =>
      cases earlier with
      | nil => cases split
      | cons event earlier =>
          obtain ⟨rfl, rest⟩ := List.cons.inj split
          rw [inductionHypothesis _ rest, List.append_assoc, List.singleton_append]

end Attend

end Program

end DirectLine.Interaction
