import DirectLine.Firmware.TimerLine.Between

/-!
# The four timers under one foreground

All four timer lines with the single handler slot of the CPU: the handlers have
the same priority, so none preempts another.  The foreground may drive any of
the timers; each of its accesses is seen by every line, and each line sees it as
the machine of one timer does.
-/

namespace DirectLine.Firmware

open DirectLine.Interaction Relation TimerLine

structure TimerLines where
  hardware : Timer.Instance → Hardware
  /-- The active handler, with the timer it serves. -/
  handler : Option (Timer.Instance × Driver Unit)
  acknowledged : Timer.Instance → Nat

namespace TimerLines

variable {timer other : Timer.Instance} {lines lines' : TimerLines} {access : Access}

/-- What is left of a timer's handler while it is the active one. -/
def serving (timer : Timer.Instance) : Option (Timer.Instance × Driver Unit) → Option (Driver Unit)
  | some active => if active.1 = timer then some active.2 else none
  | none => none

def vacate (timer : Timer.Instance) :
    Option (Timer.Instance × Driver Unit) → Option (Timer.Instance × Driver Unit)
  | some active => if active.1 = timer then none else some active
  | none => none

/-- The line of one timer, with its handler while that is the active one. -/
def view (lines : TimerLines) (timer : Timer.Instance) : Shared where
  hardware := lines.hardware timer
  handler := serving timer lines.handler

def after (lines : TimerLines) (access : Access) : TimerLines :=
  { lines with hardware := fun timer => (lines.hardware timer).access timer false access }

def put (lines : TimerLines) (timer : Timer.Instance) (shared : Shared) (label : Label) :
    TimerLines where
  hardware := Function.update lines.hardware timer shared.hardware
  handler :=
    match shared.handler with
    | some code => some (timer, code)
    | none => vacate timer lines.handler
  acknowledged := Function.update lines.acknowledged timer
    (lines.acknowledged timer + if acknowledges timer label then 1 else 0)

/-- A step of the hardware or the handler of one timer.  A handler is entered only while none
is active. -/
inductive Disturbs : TimerLines → TimerLines → Prop where
  | line {lines : TimerLines} (timer : Timer.Instance) {label : Label} {shared : Shared} :
      (label = .enter → lines.handler = none) →
      Interference timer (lines.view timer) label shared →
      Disturbs lines (lines.put timer shared label)

/-- The foreground moves while no handler is active, and reads the counts as they are. -/
structure Moves (lines : TimerLines) (access : Access) (lines' : TimerLines) : Prop where
  idle : lines.handler = none
  after : lines' = lines.after access
  answer : ∀ timer : Timer.Instance, ∀ value, access = .read (.timerInterrupts timer.index) value →
    value = (lines.hardware timer).count

/-- Nothing is active and nothing has been acknowledged since the counts were cleared. -/
structure Fresh (lines : TimerLines) : Prop where
  idle : lines.handler = none
  count : ∀ timer, (lines.hardware timer).count = 0
  acknowledged : ∀ timer, lines.acknowledged timer = 0

theorem view_idle (idle : lines.handler = none) (timer : Timer.Instance) :
    lines.view timer = ⟨lines.hardware timer, none⟩ := by
  rw [view, idle]
  rfl

theorem view_after (idle : lines.handler = none) (timer : Timer.Instance) (access : Access) :
    (lines.after access).view timer = (lines.view timer).after timer access := by
  rw [view_idle idle, view_idle (show (lines.after access).handler = none from idle)]
  rfl

theorem serving_vacate (held : Option (Timer.Instance × Driver Unit)) :
    serving timer (vacate timer held) = none := by
  cases held with
  | none => rfl
  | some active => by_cases own : active.1 = timer <;> simp [serving, vacate, own]

theorem serving_vacate_ne (distinct : other ≠ timer)
    (held : Option (Timer.Instance × Driver Unit)) :
    serving other (vacate timer held) = serving other held := by
  cases held with
  | none => rfl
  | some active =>
      by_cases own : active.1 = timer
      · rw [vacate, if_pos own, serving, serving, own, if_neg (Ne.symm distinct)]
      · rw [vacate, if_neg own]

theorem serving_ne (distinct : other ≠ timer) {held : Option (Timer.Instance × Driver Unit)}
    (active : (serving timer held).isSome = true) : serving other held = none := by
  cases held with
  | none => rfl
  | some entered =>
      by_cases own : entered.1 = timer
      · rw [serving, own, if_neg (Ne.symm distinct)]
      · rw [serving, if_neg own] at active
        cases active

theorem view_put_self (lines : TimerLines) (timer : Timer.Instance) (shared : Shared)
    (label : Label) : (lines.put timer shared label).view timer = shared := by
  obtain ⟨hardware, handler⟩ := shared
  simp only [view, put, Function.update_self, Shared.mk.injEq, true_and]
  cases handler with
  | some code => exact if_pos rfl
  | none => exact serving_vacate _

theorem active_before {label : Label} {shared shared' : Shared}
    (step : Interference timer shared label shared') (active : shared'.handler.isSome = true) :
    label = .enter ∨ shared.handler.isSome = true := by
  cases step with
  | timeout | sample | synchronize | primask => exact .inr active
  | enter => exact .inl rfl
  | handler before =>
      rw [before]
      exact .inr rfl
  | leave => cases active

theorem view_put_ne {label : Label} {shared : Shared} (distinct : other ≠ timer)
    (vacant : label = .enter → lines.handler = none)
    (step : Interference timer (lines.view timer) label shared) :
    (lines.put timer shared label).view other = lines.view other := by
  simp only [view, put, Function.update_of_ne distinct, Shared.mk.injEq, true_and]
  cases active : shared.handler with
  | none => exact serving_vacate_ne distinct _
  | some code =>
      have unheld : serving other lines.handler = none := by
        rcases active_before step (by rw [active]; rfl) with rfl | before
        · rw [vacant rfl]
          rfl
        · exact serving_ne distinct before
      rw [unheld, serving, if_neg (Ne.symm distinct)]

/-- On each line, a step of the interference is a step of that line or none at all. -/
theorem Disturbs.view (disturbs : lines.Disturbs lines') (timer : Timer.Instance) :
    (lines'.view timer = lines.view timer ∧
      lines'.acknowledged timer = lines.acknowledged timer) ∨
    ∃ label, Interference timer (lines.view timer) label (lines'.view timer) ∧
      lines'.acknowledged timer =
        lines.acknowledged timer + if acknowledges timer label then 1 else 0 := by
  cases disturbs with
  | @line moving label shared vacant step =>
      by_cases own : timer = moving
      · subst own
        refine .inr ⟨label, ?_, ?_⟩
        · rwa [view_put_self]
        · exact Function.update_self ..
      · refine .inl ⟨view_put_ne own vacant step, ?_⟩
        exact Function.update_of_ne own ..

theorem Disturbs.acknowledged_le (disturbs : lines.Disturbs lines') (timer : Timer.Instance) :
    lines.acknowledged timer ≤ lines'.acknowledged timer := by
  rcases Disturbs.view disturbs timer with ⟨-, same⟩ | ⟨label, -, grown⟩
  · exact same.ge
  · rw [grown]
    exact Nat.le_add_right _ _

theorem Disturbs.of_line {labels : List Label} {shared shared' : Shared}
    (trace : Trace (Interference timer) shared labels shared') (lines : TimerLines)
    (view : lines.view timer = shared) (alone : lines.handler = shared.handler.map (timer, ·)) :
    ReflTransGen Disturbs lines
      { hardware := Function.update lines.hardware timer shared'.hardware
        handler := shared'.handler.map (timer, ·)
        acknowledged := Function.update lines.acknowledged timer
          (lines.acknowledged timer + acknowledgements timer labels) } := by
  induction trace generalizing lines with
  | nil =>
      have hardware : lines.hardware timer = _ := congrArg Shared.hardware view
      rw [← hardware, ← alone, Function.update_eq_self, acknowledgements, List.countP_nil,
        Nat.add_zero, Function.update_eq_self]
  | @cons shared middle last label labels step _ inductionHypothesis =>
      subst view
      have vacant : label = .enter → lines.handler = none := by
        rintro rfl
        cases step with
        | enter inactive => rw [alone, inactive, Option.map_none]
      have handler : (lines.put timer middle label).handler = middle.handler.map (timer, ·) := by
        rw [put]
        cases middle.handler with
        | some code => rfl
        | none =>
            dsimp only
            rw [alone]
            cases (lines.view timer).handler with
            | none => rfl
            | some code => exact if_pos rfl
      refine .head (.line timer vacant step) ?_
      have rest := inductionHypothesis (lines.put timer middle label) (view_put_self ..) handler
      simp only [put, Function.update_idem, Function.update_self] at rest
      rwa [show acknowledgements timer (label :: labels) =
        (if acknowledges timer label then 1 else 0) + acknowledgements timer labels by
          rw [acknowledgements, List.countP_cons, Nat.add_comm]
          rfl, ← Nat.add_assoc]

/-- The line takes the access as a step of its hardware, or not at all. -/
def Mild (timer : Timer.Instance) (access : Access) : Prop :=
  ∀ shared : Shared, shared.handler = none →
    ReflTransGen (fun first last => ∃ label, Interference timer first label last) shared
      (shared.after timer access)

theorem mild_of_same (same : ∀ hardware : Hardware,
    hardware.access timer false access = hardware) : Mild timer access := by
  intro shared _
  rw [Shared.after, same]

theorem mild_dsbIsb : Mild timer (.act .dsbIsb) := by
  intro shared _
  rw [Shared.after, Hardware.access_dsbIsb]
  exact .single ⟨_, .synchronize⟩

theorem mild_nopNop : Mild timer (.act .nopNop) := by
  intro shared idle
  rw [Shared.after, Hardware.access_nopNop]
  split
  · have sampled : Interference timer shared .sample
        { shared with hardware := shared.hardware.sample shared.handler.isSome } := .sample
    rw [show shared.handler.isSome = false by rw [idle]; rfl] at sampled
    exact .single ⟨_, sampled⟩
  · exact .refl

theorem registers_ne (distinct : timer ≠ other) : timer.registers ≠ other.registers := by
  cases timer <;> cases other <;> first | exact absurd rfl distinct | decide

theorem mild_gpt {block : GptBlock} (elsewhere : block ≠ timer.registers) (register : Gpt)
    (value : Word) : Mild timer (.write (.gpt block register) value) :=
  mild_of_same fun _ => if_neg elsewhere

theorem mild_read_gpt {block : GptBlock} (elsewhere : block ≠ timer.registers) (register : Gpt)
    (value : Word) : Mild timer (.read (.gpt block register) value) := by
  refine mild_of_same fun _ => ?_
  cases register with
  | mis => exact if_neg elsewhere
  | cfg | tamr | ctl | imr | iclr | tailr | tav => rfl

theorem getLsbD_irqMask_ne (distinct : timer ≠ other) :
    (Timer.ofInstance timer).irqMask.getLsbD other.irq = false := by
  cases timer <;> cases other <;> first | exact absurd rfl distinct | rfl

theorem mild_iser0 {value : Word} (clear : value.getLsbD timer.irq = false) :
    Mild timer (.write (.nvic .iser0) value) :=
  mild_of_same fun hardware => by rw [Hardware.access_iser0, clear, Bool.or_false]

theorem mild_icer0 {value : Word} (clear : value.getLsbD timer.irq = false) :
    Mild timer (.write (.nvic .icer0) value) :=
  mild_of_same fun hardware => by rw [Hardware.access_icer0, clear, Bool.not_false, Bool.and_true]

theorem mild_icpr0 {value : Word} (clear : value.getLsbD timer.irq = false) :
    Mild timer (.write (.nvic .icpr0) value) :=
  mild_of_same fun hardware => by rw [Hardware.access_icpr0, clear, if_neg Bool.false_ne_true]

end TimerLines

end DirectLine.Firmware
