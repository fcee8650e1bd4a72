import DirectLine.Interaction.Contract

/-!
# Framing and embedding

A contract proved where little of the device is visible holds in any setting
that contains it, together with whatever the program's accesses and the other
contexts leave alone.  A program may also be embedded in one that knows further
cells; its executions and its contracts are carried along.
-/

namespace DirectLine.Interaction

open Relation

variable {Reg Cell Act Val State View Result Next : Type}

namespace Program

/-- Every access the program may make and every panic it may stop in, whatever a device answers.
Unlike a confined program, it may be cut short by its fuel. -/
def Within (allowed : Event Reg Act Val → Prop) (stops : String → Prop) :
    Program Reg Act Val Result → Prop
  | .ret _ | .exhausted => True
  | .panic message => stops message
  | .read reg next => ∀ value, allowed (.read reg value) ∧ (next value).Within allowed stops
  | .write reg value next => allowed (.write reg value) ∧ next.Within allowed stops
  | .act action next => allowed (.act action) ∧ next.Within allowed stops

variable {allowed allowed' : Event Reg Act Val → Prop} {stops stops' : String → Prop}
variable {program : Program Reg Act Val Result}

namespace Within

theorem unbounded (program : Program Reg Act Val Result) :
    program.Within (fun _ => True) fun _ => True := by
  induction program with
  | ret | panic | exhausted => trivial
  | read reg next inductionHypothesis => exact fun value => ⟨trivial, inductionHypothesis value⟩
  | write reg value next inductionHypothesis => exact ⟨trivial, inductionHypothesis⟩
  | act action next inductionHypothesis => exact ⟨trivial, inductionHypothesis⟩

theorem bind {after : Result → Program Reg Act Val Next} (first : program.Within allowed stops)
    (rest : ∀ result, (after result).Within allowed stops) :
    (program >>= after).Within allowed stops := by
  induction program with
  | ret result => exact rest result
  | panic => exact first
  | exhausted => trivial
  | read reg next inductionHypothesis =>
      exact fun value => ⟨(first value).1, inductionHypothesis value (first value).2⟩
  | write reg value next inductionHypothesis => exact ⟨first.1, inductionHypothesis first.2⟩
  | act action next inductionHypothesis => exact ⟨first.1, inductionHypothesis first.2⟩

theorem bind_yields {after : Result → Program Reg Act Val Next} {middle : Result → Prop}
    (first : program.Within allowed stops) (yields : program.Yields middle)
    (rest : ∀ result, middle result → (after result).Within allowed stops) :
    (program >>= after).Within allowed stops := by
  induction program with
  | ret result => exact rest result yields
  | panic => exact first
  | exhausted => trivial
  | read reg next inductionHypothesis =>
      exact fun value =>
        ⟨(first value).1, inductionHypothesis value (first value).2 (yields value)⟩
  | write reg value next inductionHypothesis =>
      exact ⟨first.1, inductionHypothesis first.2 yields⟩
  | act action next inductionHypothesis =>
      exact ⟨first.1, inductionHypothesis first.2 yields⟩

theorem mono (within : program.Within allowed stops)
    (weaker : ∀ event, allowed event → allowed' event)
    (more : ∀ message, stops message → stops' message) : program.Within allowed' stops' := by
  induction program with
  | ret | exhausted => trivial
  | panic => exact more _ within
  | read reg next inductionHypothesis =>
      exact fun value => ⟨weaker _ (within value).1, inductionHypothesis value (within value).2⟩
  | write reg value next inductionHypothesis =>
      exact ⟨weaker _ within.1, inductionHypothesis within.2⟩
  | act action next inductionHypothesis => exact ⟨weaker _ within.1, inductionHypothesis within.2⟩

theorem iterate {body : Program Reg Act Val (Option Result)} (within : body.Within allowed stops)
    (fuel : Nat) : (Program.iterate body fuel).Within allowed stops := by
  induction fuel with
  | zero => trivial
  | succ fuel inductionHypothesis =>
      refine within.bind fun result => ?_
      cases result with
      | none => exact inductionHypothesis
      | some result => trivial

end Within

end Program

/-- On a view of its state, a setting moves as a smaller one does, and keeps a frame, as long as
the program makes allowed accesses. -/
structure Setting.Framed (large : Setting Reg Act Val State) (small : Setting Reg Act Val View)
    (view : State → View) (allowed : Event Reg Act Val → Prop) (frame : State → Prop) :
    Prop where
  device : ∀ state event state', allowed event → frame state → large.device state event state' →
    small.device (view state) event (view state') ∧ frame state'
  rely : ∀ state state', frame state → large.rely state state' →
    ReflTransGen small.rely (view state) (view state') ∧ frame state'
  guarantee : ∀ state event state', allowed event → frame state →
    large.device state event state' → small.guarantee (view state) event (view state') →
      large.guarantee state event state'

namespace Setting

variable {large : Setting Reg Act Val State} {small : Setting Reg Act Val View}
variable {view : State → View} {allowed : Event Reg Act Val → Prop} {frame : State → Prop}

theorem Framed.closure (framed : large.Framed small view allowed frame) {state state' : State}
    (holds : frame state) (steps : ReflTransGen large.rely state state') :
    ReflTransGen small.rely (view state) (view state') ∧ frame state' := by
  induction steps with
  | refl => exact ⟨.refl, holds⟩
  | tail _ step inductionHypothesis =>
      obtain ⟨moved, framedNext⟩ := framed.rely _ _ inductionHypothesis.2 step
      exact ⟨inductionHypothesis.1.trans moved, framedNext⟩

/-- A contract of the smaller setting holds in the larger one, and the frame with it. -/
theorem Meets.framed {program : Program Reg Act Val Result} {post : Result → View → Prop}
    {fail : String → View → Prop} {state : State}
    {stops : String → Prop} (framed : large.Framed small view allowed frame)
    (within : program.Within allowed stops)
    (meets : small.Meets post fail program (view state)) (holds : frame state) :
    large.Meets (fun result state => post result (view state) ∧ frame state)
      (fun message state => fail message (view state) ∧ frame state) program state := by
  induction program generalizing state with
  | ret result =>
      intro last steps
      obtain ⟨moved, framedLast⟩ := framed.closure holds steps
      exact ⟨meets _ moved, framedLast⟩
  | panic message =>
      intro last steps
      obtain ⟨moved, framedLast⟩ := framed.closure holds steps
      exact ⟨meets _ moved, framedLast⟩
  | exhausted => trivial
  | read reg next inductionHypothesis =>
      intro last steps value state' device
      obtain ⟨moved, framedLast⟩ := framed.closure holds steps
      obtain ⟨device', framedNext⟩ := framed.device _ _ _ (within value).1 framedLast device
      obtain ⟨guarantee, rest⟩ := meets _ moved value _ device'
      exact ⟨framed.guarantee _ _ _ (within value).1 framedLast device guarantee,
        inductionHypothesis value (within value).2 rest framedNext⟩
  | write reg value next inductionHypothesis =>
      intro last steps state' device
      obtain ⟨moved, framedLast⟩ := framed.closure holds steps
      obtain ⟨device', framedNext⟩ := framed.device _ _ _ within.1 framedLast device
      obtain ⟨guarantee, rest⟩ := meets _ moved _ device'
      exact ⟨framed.guarantee _ _ _ within.1 framedLast device guarantee,
        inductionHypothesis within.2 rest framedNext⟩
  | act action next inductionHypothesis =>
      intro last steps state' device
      obtain ⟨moved, framedLast⟩ := framed.closure holds steps
      obtain ⟨device', framedNext⟩ := framed.device _ _ _ within.1 framedLast device
      obtain ⟨guarantee, rest⟩ := meets _ moved _ device'
      exact ⟨framed.guarantee _ _ _ within.1 framedLast device guarantee,
        inductionHypothesis within.2 rest framedNext⟩

theorem Meets.yields {setting : Setting Reg Act Val State} {program : Program Reg Act Val Result}
    {post : Result → State → Prop} {fail : String → State → Prop} {known : Result → Prop}
    {state : State} (meets : setting.Meets post fail program state)
    (yields : program.Yields known) :
    setting.Meets (fun result state => known result ∧ post result state) fail program state := by
  induction program generalizing state with
  | ret result => exact fun last steps => ⟨yields, meets last steps⟩
  | panic message => exact meets
  | exhausted => trivial
  | read reg next inductionHypothesis =>
      intro last steps value moved device
      obtain ⟨guarantee, rest⟩ := meets last steps value moved device
      exact ⟨guarantee, inductionHypothesis value rest (yields value)⟩
  | write reg value next inductionHypothesis =>
      intro last steps moved device
      obtain ⟨guarantee, rest⟩ := meets last steps moved device
      exact ⟨guarantee, inductionHypothesis rest yields⟩
  | act action next inductionHypothesis =>
      intro last steps moved device
      obtain ⟨guarantee, rest⟩ := meets last steps moved device
      exact ⟨guarantee, inductionHypothesis rest yields⟩

theorem Meets.stops {setting : Setting Reg Act Val State} {program : Program Reg Act Val Result}
    {post : Result → State → Prop} {fail : String → State → Prop} {stops : String → Prop}
    {state : State} (meets : setting.Meets post fail program state)
    (within : program.Within allowed stops) :
    setting.Meets post (fun message state => stops message ∧ fail message state) program
      state := by
  induction program generalizing state with
  | ret result => exact meets
  | panic message => exact fun last steps => ⟨within, meets last steps⟩
  | exhausted => trivial
  | read reg next inductionHypothesis =>
      intro last steps value moved device
      obtain ⟨guarantee, rest⟩ := meets last steps value moved device
      exact ⟨guarantee, inductionHypothesis value rest (within value).2⟩
  | write reg value next inductionHypothesis =>
      intro last steps moved device
      obtain ⟨guarantee, rest⟩ := meets last steps moved device
      exact ⟨guarantee, inductionHypothesis rest within.2⟩
  | act action next inductionHypothesis =>
      intro last steps moved device
      obtain ⟨guarantee, rest⟩ := meets last steps moved device
      exact ⟨guarantee, inductionHypothesis rest within.2⟩

theorem Meets.andThen {setting : Setting Reg Act Val State} {program : Program Reg Act Val Result}
    {after : Result → Program Reg Act Val Next} {middle : Result → State → Prop}
    {post : Next → State → Prop} {fail : String → State → Prop} {state : State}
    (first : setting.Meets middle fail program state)
    (rest : ∀ result state, middle result state → setting.Meets post fail (after result) state) :
    setting.Meets post fail (program >>= after) state :=
  .bind (first.mono rest fun _ _ failed => failed)

theorem Meets.followed {setting : Setting Reg Act Val State} {program : Program Reg Act Val Result}
    {after : Result → Program Reg Act Val Next} {middle : Result → State → Prop}
    {post : Next → State → Prop} {fail : String → State → Prop} {state : State}
    (first : setting.Meets middle (fun _ _ => False) program state)
    (rest : ∀ result state, middle result state → setting.Meets post fail (after result) state) :
    setting.Meets post fail (program >>= after) state :=
  .bind (first.mono rest fun _ _ impossible => impossible.elim)

theorem Meets.within {setting : Setting Reg Act Val State} {assertion : State → Prop}
    {program : Program Reg Act Val Result} {stops : String → Prop} {state : State}
    (within : program.Within allowed stops)
    (stable : setting.Stable assertion) (holds : assertion state)
    (access : ∀ state event state', allowed event → assertion state →
      setting.device state event state' →
        setting.guarantee state event state' ∧ assertion state') :
    setting.Meets (fun _ => assertion) (fun message state => stops message ∧ assertion state)
      program state := by
  induction program generalizing state with
  | ret result => exact .ret stable holds fun _ finish => finish
  | panic message => exact fun _ steps => ⟨within, stable.closure holds steps⟩
  | exhausted => trivial
  | read reg next inductionHypothesis =>
      refine .read stable holds fun state value state' holds moved => ?_
      obtain ⟨guarantee, holds⟩ := access _ _ _ (within value).1 holds moved
      exact ⟨guarantee, inductionHypothesis value (within value).2 holds⟩
  | write reg value next inductionHypothesis =>
      refine .write stable holds fun state state' holds moved => ?_
      obtain ⟨guarantee, holds⟩ := access _ _ _ within.1 holds moved
      exact ⟨guarantee, inductionHypothesis within.2 holds⟩
  | act action next inductionHypothesis =>
      refine .act stable holds fun state state' holds moved => ?_
      obtain ⟨guarantee, holds⟩ := access _ _ _ within.1 holds moved
      exact ⟨guarantee, inductionHypothesis within.2 holds⟩

end Setting

def Event.embed (place : Reg → Cell) : Event Reg Act Val → Event Cell Act Val
  | .read reg value => .read (place reg) value
  | .write reg value => .write (place reg) value
  | .act action => .act action

namespace Program

def embed (place : Reg → Cell) : Program Reg Act Val Result → Program Cell Act Val Result
  | .ret result => .ret result
  | .panic message => .panic message
  | .exhausted => .exhausted
  | .read reg next => .read (place reg) fun value => (next value).embed place
  | .write reg value next => .write (place reg) value (next.embed place)
  | .act action next => .act action (next.embed place)

section Embed

variable {place : Reg → Cell}

theorem Yields.embed {post : Result → Prop} {program : Program Reg Act Val Result}
    (yields : program.Yields post) : (program.embed place).Yields post := by
  induction program with
  | ret => exact yields
  | panic | exhausted => trivial
  | read reg next inductionHypothesis =>
      exact fun value => inductionHypothesis value (yields value)
  | write reg value next inductionHypothesis => exact inductionHypothesis yields
  | act action next inductionHypothesis => exact inductionHypothesis yields

end Embed

end Program

/-- A setting of the larger program, restricted to the cells of the smaller one. -/
def Setting.restrict (place : Reg → Cell) (setting : Setting Cell Act Val State) :
    Setting Reg Act Val State where
  device state event := setting.device state (event.embed place)
  rely := setting.rely
  guarantee state event := setting.guarantee state (event.embed place)

theorem Setting.Meets.embed {place : Reg → Cell} {setting : Setting Cell Act Val State}
    {program : Program Reg Act Val Result} {post : Result → State → Prop}
    {fail : String → State → Prop} {state : State}
    (meets : (setting.restrict place).Meets post fail program state) :
    setting.Meets post fail (program.embed place) state := by
  induction program generalizing state with
  | ret | panic => exact meets
  | exhausted => trivial
  | read reg next inductionHypothesis =>
      intro last steps value moved device
      obtain ⟨guarantee, rest⟩ := meets last steps value moved device
      exact ⟨guarantee, inductionHypothesis value rest⟩
  | write reg value next inductionHypothesis =>
      intro last steps moved device
      obtain ⟨guarantee, rest⟩ := meets last steps moved device
      exact ⟨guarantee, inductionHypothesis rest⟩
  | act action next inductionHypothesis =>
      intro last steps moved device
      obtain ⟨guarantee, rest⟩ := meets last steps moved device
      exact ⟨guarantee, inductionHypothesis rest⟩

end DirectLine.Interaction
