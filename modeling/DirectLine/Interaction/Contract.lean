import DirectLine.Interaction.Program

/-!
# Contracts of device programs

A `Setting` says how an access moves the device state, which steps the other
contexts may take between two accesses, and what every access has to guarantee
in return.  `Meets` is the weakest precondition of a program in a setting: it
holds of a state when every interleaving from there keeps the guarantee and
ends in the postcondition.  It is closed under the other contexts' steps, so an
assertion between two accesses has to be stable.

A `Monitor` is the sequential special case used for temporal properties: a
deterministic summary of the accesses made so far, with a condition on the next
one.
-/

namespace DirectLine.Interaction

open Relation

variable {Reg Act Val State Result Next : Type}

structure Setting (Reg Act Val State : Type) where
  /-- How an access moves the device, for each value a read may be answered with. -/
  device : State → Event Reg Act Val → State → Prop
  /-- A step another context may take before any access. -/
  rely : State → State → Prop
  /-- What an access of the program promises. -/
  guarantee : State → Event Reg Act Val → State → Prop

namespace Setting

variable (setting : Setting Reg Act Val State)

/-- Weakest precondition under interference.  A program cut short by its fuel promises
nothing beyond the guarantee of the accesses it made. -/
def Meets (post : Result → State → Prop) (fail : String → State → Prop) :
    Program Reg Act Val Result → State → Prop
  | .ret result, state => ∀ state', ReflTransGen setting.rely state state' → post result state'
  | .panic message, state =>
      ∀ state', ReflTransGen setting.rely state state' → fail message state'
  | .exhausted, _ => True
  | .read reg next, state =>
      ∀ state', ReflTransGen setting.rely state state' → ∀ value state'',
        setting.device state' (.read reg value) state'' →
          setting.guarantee state' (.read reg value) state'' ∧
            Meets post fail (next value) state''
  | .write reg value next, state =>
      ∀ state', ReflTransGen setting.rely state state' → ∀ state'',
        setting.device state' (.write reg value) state'' →
          setting.guarantee state' (.write reg value) state'' ∧ Meets post fail next state''
  | .act action next, state =>
      ∀ state', ReflTransGen setting.rely state state' → ∀ state'',
        setting.device state' (.act action) state'' →
          setting.guarantee state' (.act action) state'' ∧ Meets post fail next state''

/-- An assertion the other contexts cannot falsify. -/
def Stable (assertion : State → Prop) : Prop :=
  ∀ state state', assertion state → setting.rely state state' → assertion state'

variable {setting}
variable {post : Result → State → Prop} {fail : String → State → Prop}
variable {program : Program Reg Act Val Result} {state state' : State}

theorem Stable.closure {assertion : State → Prop} (stable : setting.Stable assertion)
    (holds : assertion state) (steps : ReflTransGen setting.rely state state') :
    assertion state' := by
  induction steps with
  | refl => exact holds
  | tail _ step inductionHypothesis => exact stable _ _ inductionHypothesis step

theorem Meets.relied (meets : setting.Meets post fail program state)
    (steps : ReflTransGen setting.rely state state') :
    setting.Meets post fail program state' := by
  cases program with
  | ret | panic => exact fun last more => meets last (steps.trans more)
  | exhausted => trivial
  | read | write | act => exact fun last more => meets last (steps.trans more)

/-- An access of a program that meets its contract keeps the guarantee and the contract. -/
theorem Meets.access {event : Event Reg Act Val} {next : Program Reg Act Val Result}
    (meets : setting.Meets post fail program state) (step : Program.Step program event next)
    (moved : setting.device state event state') :
    setting.guarantee state event state' ∧ setting.Meets post fail next state' := by
  cases step with
  | read => exact meets state .refl _ _ moved
  | write | act => exact meets state .refl _ moved

theorem Meets.returned {result : Result}
    (meets : setting.Meets post fail (.ret result) state) : post result state :=
  meets state .refl

theorem Meets.mono {post' : Result → State → Prop} {fail' : String → State → Prop}
    (meets : setting.Meets post fail program state)
    (posts : ∀ result state, post result state → post' result state)
    (fails : ∀ message state, fail message state → fail' message state) :
    setting.Meets post' fail' program state := by
  induction program generalizing state with
  | ret result => exact fun last more => posts _ _ (meets last more)
  | panic message => exact fun last more => fails _ _ (meets last more)
  | exhausted => trivial
  | read reg next inductionHypothesis =>
      intro last more value moved device
      obtain ⟨guarantee, rest⟩ := meets last more value moved device
      exact ⟨guarantee, inductionHypothesis value rest⟩
  | write reg value next inductionHypothesis =>
      intro last more moved device
      obtain ⟨guarantee, rest⟩ := meets last more moved device
      exact ⟨guarantee, inductionHypothesis rest⟩
  | act action next inductionHypothesis =>
      intro last more moved device
      obtain ⟨guarantee, rest⟩ := meets last more moved device
      exact ⟨guarantee, inductionHypothesis rest⟩

/-- The contract of a sequence is the contract of its first part whose postcondition is the
contract of the rest. -/
theorem Meets.bind {after : Result → Program Reg Act Val Next}
    {post : Next → State → Prop}
    (meets : setting.Meets (fun result => setting.Meets post fail (after result)) fail
      program state) :
    setting.Meets post fail (program >>= after) state := by
  induction program generalizing state with
  | ret result => exact meets state .refl
  | panic message => exact meets
  | exhausted => trivial
  | read reg next inductionHypothesis =>
      intro last more value moved device
      obtain ⟨guarantee, rest⟩ := meets last more value moved device
      exact ⟨guarantee, inductionHypothesis value rest⟩
  | write reg value next inductionHypothesis =>
      intro last more moved device
      obtain ⟨guarantee, rest⟩ := meets last more moved device
      exact ⟨guarantee, inductionHypothesis rest⟩
  | act action next inductionHypothesis =>
      intro last more moved device
      obtain ⟨guarantee, rest⟩ := meets last more moved device
      exact ⟨guarantee, inductionHypothesis rest⟩

section Outline

variable {assertion : State → Prop}

theorem Meets.ret {result : Result} (stable : setting.Stable assertion) (holds : assertion state)
    (posts : ∀ state, assertion state → post result state) :
    setting.Meets post fail (.ret result) state :=
  fun _ steps => posts _ (stable.closure holds steps)

theorem Meets.read {reg : Reg} {next : Val → Program Reg Act Val Result}
    (stable : setting.Stable assertion) (holds : assertion state)
    (access : ∀ state value state', assertion state →
      setting.device state (.read reg value) state' →
        setting.guarantee state (.read reg value) state' ∧
          setting.Meets post fail (next value) state') :
    setting.Meets post fail (.read reg next) state :=
  fun _ steps _ _ moved => access _ _ _ (stable.closure holds steps) moved

theorem Meets.write {reg : Reg} {value : Val} {next : Program Reg Act Val Result}
    (stable : setting.Stable assertion) (holds : assertion state)
    (access : ∀ state state', assertion state →
      setting.device state (.write reg value) state' →
        setting.guarantee state (.write reg value) state' ∧
          setting.Meets post fail next state') :
    setting.Meets post fail (.write reg value next) state :=
  fun _ steps _ moved => access _ _ (stable.closure holds steps) moved

theorem Meets.act {action : Act} {next : Program Reg Act Val Result}
    (stable : setting.Stable assertion) (holds : assertion state)
    (access : ∀ state state', assertion state →
      setting.device state (.act action) state' →
        setting.guarantee state (.act action) state' ∧
          setting.Meets post fail next state') :
    setting.Meets post fail (.act action next) state :=
  fun _ steps _ moved => access _ _ (stable.closure holds steps) moved

theorem Meets.confined {allowed : Event Reg Act Val → Prop} {stops : String → Prop}
    (confined : program.Confined allowed stops)
    (stable : setting.Stable assertion) (holds : assertion state)
    (access : ∀ state event state', allowed event → assertion state →
      setting.device state event state' →
        setting.guarantee state event state' ∧ assertion state')
    (posts : ∀ result state, assertion state → post result state)
    (fails : ∀ message state, stops message → assertion state → fail message state) :
    setting.Meets post fail program state := by
  induction program generalizing state with
  | ret result => exact .ret stable holds (posts result)
  | panic message => exact fun _ steps => fails message _ confined (stable.closure holds steps)
  | exhausted => exact confined.elim
  | read reg next inductionHypothesis =>
      refine .read stable holds fun state value state' holds moved => ?_
      obtain ⟨guarantee, holds⟩ := access _ _ _ (confined value).1 holds moved
      exact ⟨guarantee, inductionHypothesis value (confined value).2 holds⟩
  | write reg value next inductionHypothesis =>
      refine .write stable holds fun state state' holds moved => ?_
      obtain ⟨guarantee, holds⟩ := access _ _ _ confined.1 holds moved
      exact ⟨guarantee, inductionHypothesis confined.2 holds⟩
  | act action next inductionHypothesis =>
      refine .act stable holds fun state state' holds moved => ?_
      obtain ⟨guarantee, holds⟩ := access _ _ _ confined.1 holds moved
      exact ⟨guarantee, inductionHypothesis confined.2 holds⟩

end Outline

end Setting

/-- A deterministic summary of the accesses made so far. -/
structure Monitor (Reg Act Val State : Type) where
  after : State → Event Reg Act Val → State
  allowed : State → Event Reg Act Val → Prop

namespace Monitor

variable (monitor : Monitor Reg Act Val State)

/-- A monitor watches one context alone, over a device that may answer reads at will. -/
def setting : Setting Reg Act Val State where
  device state event state' := state' = monitor.after state event
  rely _ _ := False
  guarantee state event _ := monitor.allowed state event

def summary (state : State) (trace : List (Event Reg Act Val)) : State :=
  trace.foldl monitor.after state

@[simp] theorem summary_nil (state : State) : monitor.summary state [] = state := rfl

@[simp] theorem summary_cons (state : State) (event : Event Reg Act Val)
    (trace : List (Event Reg Act Val)) :
    monitor.summary state (event :: trace) =
      monitor.summary (monitor.after state event) trace := rfl

variable {monitor}
variable {post : Result → State → Prop} {fail : String → State → Prop} {state : State}

theorem alone {state state' : State} (steps : ReflTransGen monitor.setting.rely state state') :
    state' = state := by
  induction steps with
  | refl => rfl
  | tail _ step _ => exact step.elim

@[simp] theorem meets_ret_iff {result : Result} :
    monitor.setting.Meets post fail (.ret result) state ↔ post result state := by
  refine ⟨fun meets => meets state .refl, fun holds state' steps => ?_⟩
  rw [alone steps]
  exact holds

@[simp] theorem meets_panic_iff {message : String} :
    monitor.setting.Meets post fail (.panic message : Program Reg Act Val Result) state ↔
      fail message state := by
  refine ⟨fun meets => meets state .refl, fun holds state' steps => ?_⟩
  rw [alone steps]
  exact holds

@[simp] theorem meets_read_iff {reg : Reg} {next : Val → Program Reg Act Val Result} :
    monitor.setting.Meets post fail (.read reg next) state ↔
      ∀ value, monitor.allowed state (.read reg value) ∧
        monitor.setting.Meets post fail (next value)
          (monitor.after state (.read reg value)) := by
  refine ⟨fun meets value => meets state .refl value _ rfl, ?_⟩
  rintro holds state' steps value _ rfl
  rw [alone steps]
  exact holds value

@[simp] theorem meets_write_iff {reg : Reg} {value : Val} {next : Program Reg Act Val Result} :
    monitor.setting.Meets post fail (.write reg value next) state ↔
      monitor.allowed state (.write reg value) ∧
        monitor.setting.Meets post fail next (monitor.after state (.write reg value)) := by
  refine ⟨fun meets => meets state .refl _ rfl, ?_⟩
  rintro holds state' steps _ rfl
  rw [alone steps]
  exact holds

@[simp] theorem meets_act_iff {action : Act} {next : Program Reg Act Val Result} :
    monitor.setting.Meets post fail (.act action next) state ↔
      monitor.allowed state (.act action) ∧
        monitor.setting.Meets post fail next (monitor.after state (.act action)) := by
  refine ⟨fun meets => meets state .refl _ rfl, ?_⟩
  rintro holds state' steps _ rfl
  rw [alone steps]
  exact holds

/-- A monitored contract covers every execution: each access was allowed after the accesses
before it, and the rest of the program meets the contract after all of them. -/
theorem run_allowed {program last : Program Reg Act Val Result}
    {trace : List (Event Reg Act Val)} (run : Program.Run program trace last)
    (meets : monitor.setting.Meets post fail program state) :
    (∀ earlier event later, trace = earlier ++ event :: later →
        monitor.allowed (monitor.summary state earlier) event) ∧
      monitor.setting.Meets post fail last (monitor.summary state trace) := by
  induction run generalizing state with
  | nil => exact ⟨by simp, meets⟩
  | @cons program middle last event trace step _ inductionHypothesis =>
      obtain ⟨allowed, rest⟩ := meets.access step rfl
      obtain ⟨allowedLater, finally'⟩ := inductionHypothesis rest
      refine ⟨?_, finally'⟩
      intro earlier access later split
      cases earlier with
      | nil =>
          obtain ⟨rfl, -⟩ := List.cons.inj split
          exact allowed
      | cons first earlier =>
          obtain ⟨rfl, rfl⟩ := List.cons.inj split
          exact allowedLater earlier access later rfl

end Monitor

end DirectLine.Interaction
