import DirectLine.Firmware.TimerBank.Isolation
import DirectLine.Interaction.Transition

/-!
# Four timers at once

Each instance may have one operation in progress, and its handler may be entered
at any point.  Accesses of all of them interleave freely, except that the board
initialises one instance at a time.  Every step stays inside the view of its
instance.  As long as no instance has an operation and its handler in progress
at once, every interleaving of the same tasks ends in the same bank.
-/

namespace DirectLine.Firmware.TimerBank

open DirectLine.Interaction Relation

def Bank.enter (bank : Bank) (timer : Timer.Instance) : Bank :=
  { bank with pendings := bank.pendings &&& ~~~(Timer.ofInstance timer).irqMask }

structure Machine where
  bank : Bank
  operations : Timer.Instance → Option (Operation × Driver Unit)
  handlers : Timer.Instance → Option (Driver Unit)

def Machine.running (machine : Machine) (timer : Timer.Instance) : Option Operation :=
  (machine.operations timer).map Prod.fst

inductive Label where
  | begin (timer : Timer.Instance) (operation : Operation)
  | access (timer : Timer.Instance) (access : Access)
  | finish (timer : Timer.Instance)
  | enter (timer : Timer.Instance)
  | handle (timer : Timer.Instance) (access : Access)
  | leave (timer : Timer.Instance)
  | hardware (timer : Timer.Instance)

namespace Label

def timer : Label → Timer.Instance
  | begin timer _ | access timer _ | finish timer | enter timer | handle timer _ | leave timer
  | hardware timer => timer

def task : Label → Option Task
  | begin _ operation => some (.operation operation)
  | enter _ => some .vector
  | access _ _ | finish _ | handle _ _ | leave _ | hardware _ => none

end Label

inductive Step : Machine → Label → Machine → Prop where
  | begin {machine : Machine} (timer : Timer.Instance) (operation : Operation) :
      machine.operations timer = none →
      (operation.exclusive = true → ∀ other running,
        machine.running other = some running → running.exclusive = false) →
      Step machine (.begin timer operation)
        { machine with
          operations := Function.update machine.operations timer
            (some (operation, operation.code timer)) }
  | access {machine : Machine} (timer : Timer.Instance) {operation : Operation}
      {code rest : Driver Unit} {access : Access} :
      machine.operations timer = some (operation, code) → Program.Step code access rest →
      machine.bank.Answers access →
      Step machine (.access timer access)
        { machine with
          bank := machine.bank.access access
          operations := Function.update machine.operations timer (some (operation, rest)) }
  | finish {machine : Machine} (timer : Timer.Instance) {operation : Operation} :
      machine.operations timer = some (operation, .ret ()) →
      Step machine (.finish timer)
        { machine with operations := Function.update machine.operations timer none }
  | enter {machine : Machine} (timer : Timer.Instance) {code : Driver Unit} :
      machine.handlers timer = none → Startup.irqs timer.irq = .handler code →
      Step machine (.enter timer)
        { machine with
          bank := machine.bank.enter timer
          handlers := Function.update machine.handlers timer (some code) }
  | handle {machine : Machine} (timer : Timer.Instance) {code rest : Driver Unit}
      {access : Access} :
      machine.handlers timer = some code → Program.Step code access rest →
      machine.bank.Answers access →
      Step machine (.handle timer access)
        { machine with
          bank := machine.bank.access access
          handlers := Function.update machine.handlers timer (some rest) }
  | leave {machine : Machine} (timer : Timer.Instance) :
      machine.handlers timer = some (.ret ()) →
      Step machine (.leave timer)
        { machine with handlers := Function.update machine.handlers timer none }
  | hardware {machine : Machine} (timer : Timer.Instance) (bank : Bank) :
      Frame timer machine.bank bank → SameWords machine.bank bank →
      Step machine (.hardware timer) { machine with bank := bank }

def Idle (machine : Machine) : Prop :=
  (∀ timer, machine.operations timer = none) ∧ ∀ timer, machine.handlers timer = none

def Reachable (machine : Machine) : Prop :=
  ∃ first labels, Idle first ∧ Trace Step first labels machine

/-- An instance begins a task only when it has none in progress, and the hardware is still. -/
def Serial (machine : Machine) : Label → Prop
  | .begin timer _ => machine.handlers timer = none
  | .enter timer => machine.operations timer = none
  | .hardware _ => False
  | .access _ _ | .finish _ | .handle _ _ | .leave _ => True

/-- What each view will be once the task that a step begins has run. -/
def Label.advance (label : Label) (goal : Timer.Instance → View) : Timer.Instance → View :=
  match label.task with
  | some task => Function.update goal label.timer (task.effect (goal label.timer))
  | none => goal

/-- The contexts of one instance keep their contracts.  In a serial run, `goal` is what the view
will be once the task in progress finishes. -/
structure Kept (serial : Prop) (timer : Timer.Instance) (goal : View) (bank : Bank)
    (operation : Option (Operation × Driver Unit)) (handler : Option (Driver Unit)) : Prop where
  idle : operation = none → handler = none → Viewed timer serial goal bank
  operations : ∀ running code, operation = some (running, code) →
    (isolated timer running.exclusive serial).Meets
      (fun _ bank => Viewed timer serial goal bank) (fun _ _ => True) code bank
  handlers : ∀ code, handler = some code →
    (isolated timer false serial).Meets
      (fun _ bank => Viewed timer serial goal bank) (fun _ _ => True) code bank
  alone : serial → operation = none ∨ handler = none

/-- An exclusive operation runs beside non-exclusive ones only. -/
def Exclusive (running : Timer.Instance → Option Operation) : Prop :=
  ∀ first second one other, first ≠ second → running first = some one →
    running second = some other → one.exclusive = true → other.exclusive = false

structure Contained (serial : Prop) (goal : Timer.Instance → View) (machine : Machine) : Prop where
  kept : ∀ timer, Kept serial timer (goal timer) machine.bank (machine.operations timer)
    (machine.handlers timer)
  exclusive : Exclusive machine.running

section Contained

variable {serial : Prop} {goal goal' : Timer.Instance → View} {machine machine' : Machine}
variable {timer : Timer.Instance} {bank bank' : Bank} {view : View}
variable {operation : Option (Operation × Driver Unit)} {handler : Option (Driver Unit)}

theorem Kept.relied (kept : Kept serial timer view bank operation handler)
    (words : ∀ running code, operation = some (running, code) → running.exclusive = true →
      SameWords bank bank')
    (same : bank'.view timer = bank.view timer) :
    Kept serial timer view bank' operation handler where
  idle none' none'' alone := same.trans (kept.idle none' none'' alone)
  operations running code inProgress :=
    (kept.operations running code inProgress).relied
      (.single ⟨words running code inProgress, fun _ => same⟩)
  handlers code entered := (kept.handlers code entered).relied (.single ⟨nofun, fun _ => same⟩)
  alone := kept.alone

section Own

variable {running : Operation} {code rest : Driver Unit} {event : Access}

theorem Kept.begin (kept : Kept serial timer view bank none handler) (started : Operation)
    (still : serial → handler = none) :
    Kept serial timer (started.effect view) bank (some (started, started.code timer)) handler where
  idle := nofun
  operations _ _ inProgress := by
    cases inProgress
    exact meets_code started fun alone => kept.idle rfl (still alone) alone
  handlers code entered :=
    (kept.handlers code entered).mono
      (fun _ _ _ alone => by cases (still alone).symm.trans entered) fun _ _ same => same
  alone alone := .inr (still alone)

theorem Kept.access (kept : Kept serial timer view bank (some (running, code)) handler)
    (step : Program.Step code event rest) (answers : bank.Answers event) :
    (Frame timer bank (bank.access event) ∧
      (running.exclusive = false → SameWords bank (bank.access event))) ∧
      Kept serial timer view (bank.access event) (some (running, rest)) handler := by
  obtain ⟨inside, remaining⟩ := (kept.operations running code rfl).access step ⟨answers, rfl⟩
  refine ⟨inside, nofun, ?_, ?_, ?_⟩
  · rintro _ _ ⟨⟩
    exact remaining
  · intro entry entered
    refine (kept.handlers entry entered).relied (.single ⟨nofun, fun alone => ?_⟩)
    rcases kept.alone alone with none' | none'
    · cases none'
    · cases none'.symm.trans entered
  · exact fun alone => .inr ((kept.alone alone).resolve_left nofun)

theorem Kept.finish (kept : Kept serial timer view bank (some (running, .ret ())) handler) :
    Kept serial timer view bank none handler where
  idle _ _ := (kept.operations running _ rfl).returned
  operations := nofun
  handlers := kept.handlers
  alone _ := .inl rfl

theorem Kept.enter (kept : Kept serial timer view bank operation none)
    (still : serial → operation = none) :
    Kept serial timer view.enter.interrupt (bank.enter timer) operation
      (some (Timer.interrupt timer)) where
  idle := nofun
  operations running code inProgress :=
    ((kept.operations running code inProgress).mono
      (fun _ _ _ alone => by cases (still alone).symm.trans inProgress) fun _ _ same => same).relied
      (.single ⟨fun _ => (local_icpr0 timer).words bank,
        fun alone => by cases (still alone).symm.trans inProgress⟩)
  handlers _ entered := by
    cases entered
    refine meets_interrupt fun alone => ?_
    exact ((local_icpr0 timer).view bank).trans
      (congrArg View.enter (kept.idle (still alone) rfl alone))
  alone alone := .inl (still alone)

theorem Kept.handle (kept : Kept serial timer view bank operation (some code))
    (step : Program.Step code event rest) (answers : bank.Answers event) :
    (Frame timer bank (bank.access event) ∧ SameWords bank (bank.access event)) ∧
      Kept serial timer view (bank.access event) operation (some rest) := by
  obtain ⟨⟨inside, words⟩, remaining⟩ := (kept.handlers code rfl).access step ⟨answers, rfl⟩
  refine ⟨⟨inside, words rfl⟩, nofun, ?_, ?_, ?_⟩
  · intro running code inProgress
    refine (kept.operations running code inProgress).relied
      (.single ⟨fun _ => words rfl, fun alone => ?_⟩)
    rcases kept.alone alone with none' | none'
    · cases none'.symm.trans inProgress
    · cases none'
  · rintro _ ⟨⟩
    exact remaining
  · exact fun alone => .inl ((kept.alone alone).resolve_right nofun)

theorem Kept.leave (kept : Kept serial timer view bank operation (some (.ret ()))) :
    Kept serial timer view bank operation none where
  idle _ _ := (kept.handlers _ rfl).returned
  operations := kept.operations
  handlers := nofun
  alone _ := .inr rfl

theorem Kept.hardware (kept : Kept serial timer view bank operation handler)
    (words : SameWords bank bank') (moving : ¬serial) :
    Kept serial timer view bank' operation handler where
  idle _ _ := fun alone => absurd alone moving
  operations running code inProgress :=
    (kept.operations running code inProgress).relied
      (.single ⟨fun _ => words, fun alone => absurd alone moving⟩)
  handlers code entered :=
    (kept.handlers code entered).relied
      (.single ⟨nofun, fun alone => absurd alone moving⟩)
  alone := kept.alone

end Own

section Exclusive

variable {running : Timer.Instance → Option Operation}

theorem Exclusive.begin {started : Operation} (exclusive : Exclusive running)
    (serialised : started.exclusive = true → ∀ other operation,
      running other = some operation → operation.exclusive = false) :
    Exclusive (Function.update running timer (some started)) := by
  intro first second one other differs
  by_cases isFirst : first = timer
  · subst isFirst
    rw [Function.update_self, Function.update_of_ne differs.symm]
    rintro ⟨⟩ inProgress alone
    exact serialised alone second other inProgress
  · rw [Function.update_of_ne isFirst]
    intro inProgress
    by_cases isSecond : second = timer
    · subst isSecond
      rw [Function.update_self]
      rintro ⟨⟩ alone
      cases kind : started.exclusive with
      | false => rfl
      | true => cases alone.symm.trans (serialised kind first one inProgress)
    · rw [Function.update_of_ne isSecond]
      exact exclusive first second one other differs inProgress

theorem Exclusive.proceed {operation : Operation} (exclusive : Exclusive running)
    (inProgress : running timer = some operation) :
    Exclusive (Function.update running timer (some operation)) := by
  rw [← inProgress, Function.update_eq_self]
  exact exclusive

theorem Exclusive.finish (exclusive : Exclusive running) :
    Exclusive (Function.update running timer none) := by
  intro first second one other differs
  by_cases isFirst : first = timer
  · rw [isFirst, Function.update_self]
    nofun
  · rw [Function.update_of_ne isFirst]
    by_cases isSecond : second = timer
    · rw [isSecond, Function.update_self]
      nofun
    · rw [Function.update_of_ne isSecond]
      exact exclusive first second one other differs

end Exclusive

theorem running_update (operations : Timer.Instance → Option (Operation × Driver Unit))
    (handlers : Timer.Instance → Option (Driver Unit)) (bank : Bank) (timer : Timer.Instance)
    (next : Option (Operation × Driver Unit)) :
    (Machine.mk bank (Function.update operations timer next) handlers).running =
      Function.update (Machine.mk bank operations handlers).running timer (next.map Prod.fst) := by
  funext other
  by_cases same : other = timer
  · subst same
    simp [Machine.running]
  · simp [Machine.running, same]

theorem Contained.replaced (contained : Contained serial goal machine)
    (frame : Frame timer machine.bank machine'.bank)
    (others : ∀ other, other ≠ timer → goal' other = goal other ∧
      machine'.operations other = machine.operations other ∧
      machine'.handlers other = machine.handlers other)
    (words : ∀ other running, other ≠ timer → machine.running other = some running →
      running.exclusive = true → SameWords machine.bank machine'.bank)
    (own : Kept serial timer (goal' timer) machine'.bank (machine'.operations timer)
      (machine'.handlers timer))
    (exclusive : Exclusive machine'.running) :
    Contained serial goal' machine' where
  kept other := by
    by_cases same : other = timer
    · rw [same]
      exact own
    · obtain ⟨goals, operations, handlers⟩ := others other same
      rw [goals, operations, handlers]
      refine (contained.kept other).relied (fun running code inProgress => ?_) (frame.view same)
      exact words other running same (by rw [Machine.running, inProgress]; rfl)
  exclusive := exclusive

theorem Contained.of_idle (idle : Idle machine) :
    Contained serial (fun timer => machine.bank.view timer) machine where
  kept timer := by
    rw [idle.1 timer, idle.2 timer]
    exact ⟨fun _ _ _ => rfl, nofun, nofun, fun _ => .inl rfl⟩
  exclusive first _ _ _ _ running := by
    rw [Machine.running, idle.1 first] at running
    cases running

/-- What one step does: it stays inside the view of its instance, and a serial step moves the
view towards what the begun tasks make of it. -/
theorem Contained.step {label : Label} (contained : Contained serial goal machine)
    (quiet : serial → Serial machine label) (step : Step machine label machine') :
    Frame label.timer machine.bank machine'.bank ∧
      Contained serial (label.advance goal) machine' := by
  cases step with
  | @begin timer started free serialised =>
      have kept := contained.kept timer
      rw [free] at kept
      refine ⟨.refl timer _, contained.replaced (.refl timer _) ?_ ?_ ?_ ?_⟩
      · intro other differs
        exact ⟨Function.update_of_ne differs _ _, Function.update_of_ne differs _ _, rfl⟩
      · exact fun _ _ _ _ _ => .refl _
      · simpa [Label.advance, Label.task, Label.timer, Task.effect] using kept.begin started quiet
      · rw [running_update]
        exact contained.exclusive.begin serialised
  | @access timer operation code rest event inProgress step answers =>
      have kept := contained.kept timer
      rw [inProgress] at kept
      have running : machine.running timer = some operation := by
        rw [Machine.running, inProgress]
        rfl
      obtain ⟨⟨frame, words⟩, next⟩ := kept.access step answers
      refine ⟨frame, contained.replaced frame ?_ ?_ ?_ ?_⟩
      · exact fun other differs => ⟨rfl, Function.update_of_ne differs _ _, rfl⟩
      · intro other one differs runningOther exclusive
        exact words (contained.exclusive other timer one operation differs runningOther running
          exclusive)
      · simpa [Label.advance, Label.task, Label.timer] using next
      · rw [running_update]
        exact contained.exclusive.proceed running
  | @finish timer operation inProgress =>
      have kept := contained.kept timer
      rw [inProgress] at kept
      refine ⟨.refl timer _, contained.replaced (.refl timer _) ?_ ?_ ?_ ?_⟩
      · exact fun other differs => ⟨rfl, Function.update_of_ne differs _ _, rfl⟩
      · exact fun _ _ _ _ _ => .refl _
      · simpa [Label.advance, Label.task, Label.timer] using kept.finish
      · rw [running_update]
        exact contained.exclusive.finish
  | @enter timer code free installed =>
      have kept := contained.kept timer
      rw [free] at kept
      rw [Startup.irqs_irq] at installed
      cases installed
      have frame : Frame timer machine.bank (machine.bank.enter timer) :=
        (local_icpr0 timer).frame machine.bank
      refine ⟨frame, contained.replaced frame ?_ ?_ ?_ contained.exclusive⟩
      · intro other differs
        exact ⟨Function.update_of_ne differs _ _, rfl, Function.update_of_ne differs _ _⟩
      · exact fun _ _ _ _ _ => (local_icpr0 timer).words machine.bank
      · simpa [Label.advance, Label.task, Label.timer, Task.effect] using kept.enter quiet
  | @handle timer code rest event inProgress step answers =>
      have kept := contained.kept timer
      rw [inProgress] at kept
      obtain ⟨⟨frame, words⟩, next⟩ := kept.handle step answers
      refine ⟨frame, contained.replaced frame ?_ ?_ ?_ contained.exclusive⟩
      · exact fun other differs => ⟨rfl, rfl, Function.update_of_ne differs _ _⟩
      · exact fun _ _ _ _ _ => words
      · simpa [Label.advance, Label.task, Label.timer] using next
  | @leave timer inProgress =>
      have kept := contained.kept timer
      rw [inProgress] at kept
      refine ⟨.refl timer _, contained.replaced (.refl timer _) ?_ ?_ ?_ contained.exclusive⟩
      · exact fun other differs => ⟨rfl, rfl, Function.update_of_ne differs _ _⟩
      · exact fun _ _ _ _ _ => .refl _
      · simpa [Label.advance, Label.task, Label.timer] using kept.leave
  | @hardware timer bank frame words =>
      refine ⟨frame, contained.replaced frame ?_ ?_ ?_ contained.exclusive⟩
      · exact fun _ _ => ⟨rfl, rfl, rfl⟩
      · exact fun _ _ _ _ _ => words
      · exact (contained.kept timer).hardware words quiet

end Contained

end DirectLine.Firmware.TimerBank
