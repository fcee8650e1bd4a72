import DirectLine.Firmware.TimerLine.Foreground

/-!
# Accounting of timeouts

From the write that starts the timer, every entry of the handler is paid for by
a timeout of its own.  The budget is an invariant of the labels taken since: a
latched flag is one timeout no entry has taken yet, and an entry takes it by
clearing the flag before it counts.  The interrupt may only be pending while its
source still requests it, which is what the guarantee of the foreground keeps.
-/

namespace DirectLine.Firmware.TimerLine

open DirectLine.Interaction Relation

variable {timer : Timer.Instance}

/-- The call in progress keeps its guarantee from here on. -/
structure Located (timer : Timer.Instance) (machine : Machine) : Prop where
  serving : Serving timer machine.shared.handler
  foreground : ∀ call code, machine.foreground = some (call, code) →
    (setting timer call).Meets call.post (fun _ _ => False) code machine.shared

theorem Located.step {machine machine' : Machine} {label : Label}
    (located : Located timer machine) (step : Step timer machine label machine') :
    Located timer machine' := by
  cases step with
  | interference step =>
      refine ⟨located.serving.step step, fun call code running => ?_⟩
      exact (located.foreground call code running).relied (.single ⟨_, step⟩)
  | call call idle =>
      refine ⟨located.serving, ?_⟩
      rintro _ _ ⟨rfl, rfl⟩
      exact meets_code call located.serving
  | access idle step =>
      refine ⟨located.serving, ?_⟩
      rintro _ _ ⟨rfl, rfl⟩
      exact ((located.foreground _ _ rfl).access step ⟨idle, rfl⟩).2
  | returned idle => exact ⟨located.serving, fun _ _ running => by cases running⟩

theorem Reachable.located {machine : Machine} (reached : Reachable timer machine) :
    Located timer machine := by
  obtain ⟨first, labels, ⟨idle, unoccupied⟩, trace⟩ := reached
  refine trace.preserves (Located timer) (fun _ _ _ _ located step => located.step step) ?_
  refine ⟨⟨.idle, idle⟩, fun _ _ running => ?_⟩
  rw [unoccupied] at running
  cases running

theorem Located.guarded {machine machine' : Machine} {access : Access}
    (located : Located timer machine) (step : Step timer machine (.access access) machine') :
    ∃ call code, machine.foreground = some (call, code) ∧
      Guarded timer call machine.shared access := by
  cases step with
  | interference step => cases step
  | access idle step =>
      exact ⟨_, _, rfl, ((located.foreground _ _ rfl).access step ⟨idle, rfl⟩).1⟩

/-- `stop` returns with its source masked and nothing counting, requested or pending. -/
theorem Located.stopped {machine machine' : Machine} {result : Except TimerError Unit}
    (located : Located timer machine)
    (step : Step timer machine (.returned .stop result) machine') : Masked 6 machine'.shared := by
  cases step with
  | interference step => cases step
  | returned idle => exact (located.foreground _ _ rfl).returned

theorem Silent.access {shared : Shared} {access : Access} (silent : Silent shared)
    (unstarted : starts timer (.access access) = false) :
    Silent (shared.after timer access) := by
  rcases shared.hardware.touches_or_access_eq timer false access with touched | untouched
  · cases touched with
    | ctl value =>
        rw [Shared.after, Hardware.access_ctl]
        exact { silent with taen := by simpa [starts] using unstarted }
    | iclr value =>
        rw [Shared.after, Hardware.access_iclr]
        exact { silent with ris := by simp [silent.ris] }
    | icpr0 value =>
        rw [Shared.after, Hardware.access_icpr0]
        split
        · exact { silent with pending := by simp [silent.pending] }
        · exact silent
    | nopNop =>
        have low : shared.hardware.line = false := by simp [Hardware.line, silent.ris]
        rw [Shared.after, Hardware.access_nopNop]
        split
        · exact { silent with
            input := low
            pending := by simp [Hardware.sample, silent.pending, low] }
        · exact silent
    | tamr | imr | mis | iser0 | icer0 | dsbIsb | fetchAdd =>
        simp only [Shared.after, Hardware.access_tamr, Hardware.access_imr, Hardware.access_mis,
          Hardware.access_iser0, Hardware.access_icer0, Hardware.access_dsbIsb,
          Hardware.access_fetchAdd]
        exact { silent with }
  · rw [Shared.after, untouched]
    exact silent

/-- The request is up, at the timer and as the NVIC sees it. -/
def Hardware.Requested (hardware : Hardware) : Prop :=
  hardware.line = true ∧ hardware.input = true

def Phase.active : Phase → Bool
  | .idle => false
  | _ => true

theorem Phase.isSome_code (phase : Phase) : (phase.code timer).isSome = phase.active := by
  cases phase <;> rfl

/-- What the handler has established in each phase.  Past the settling instructions a high
input is a request that arrived since. -/
def Phase.Established : Phase → Hardware → Prop
  | .idle, _ => True
  | .entered, hardware => hardware.Requested ∧ hardware.pending = false
  | .cleared, _ => True
  | .drained, hardware => hardware.misRead = true
  | .settled, hardware => hardware.input = true → hardware.line = true
  | .counted, hardware => hardware.input = true → hardware.line = true

/-- What ties a pending interrupt to its source while the timer is armed. -/
structure Consistent (phase : Phase) (hardware : Hardware) : Prop where
  pended : hardware.Live → hardware.pending = true → hardware.Requested
  established : phase.Established hardware

namespace Consistent

variable {phase : Phase} {hardware : Hardware}

theorem start (cleared : hardware.pending = false) : Consistent .idle hardware where
  pended _ pending := by simp [cleared] at pending
  established := trivial

theorem timeout (consistent : Consistent phase hardware) : Consistent phase hardware.timeout := by
  have raised : hardware.line = true → hardware.timeout.line = true := by
    intro line
    simp only [Hardware.line, Bool.and_eq_true] at line
    simp [Hardware.line, Hardware.timeout, line.2]
  have established := consistent.established
  refine ⟨fun live pending => ?_, ?_⟩
  · obtain ⟨line, input⟩ := consistent.pended live pending
    exact ⟨raised line, input⟩
  · cases phase with
    | idle | cleared | drained => exact established
    | entered => exact ⟨⟨raised established.1.1, established.1.2⟩, established.2⟩
    | settled | counted => exact fun input => raised (established input)

theorem sample (consistent : Consistent phase hardware) :
    Consistent phase (hardware.sample phase.active) := by
  have established := consistent.established
  refine ⟨fun live pending => ?_, ?_⟩
  · have line : hardware.line = true := by
      simp only [Hardware.sample, Bool.or_eq_true, Bool.and_eq_true] at pending
      rcases pending with pending | ⟨line, -⟩
      · exact (consistent.pended live pending).1
      · exact line
    exact ⟨line, line⟩
  · cases phase with
    | idle | cleared | drained => exact established
    | entered =>
        obtain ⟨⟨line, input⟩, pending⟩ := established
        exact ⟨⟨line, line⟩, by simp [Hardware.sample, Phase.active, input, pending]⟩
    | settled | counted => exact id

theorem synchronize (consistent : Consistent phase hardware) :
    Consistent phase { hardware with gate := hardware.enabled } where
  pended live pending := consistent.pended (.inr (live.elim id id)) pending
  established := by
    cases phase <;> exact consistent.established

theorem primask (consistent : Consistent phase hardware) (masked : Bool) :
    Consistent phase { hardware with primask := masked } where
  pended := consistent.pended
  established := by
    cases phase <;> exact consistent.established

theorem enter (consistent : Consistent .idle hardware) (gate : hardware.gate = true)
    (pending : hardware.pending = true) :
    Consistent .entered { hardware with pending := false } where
  pended _ pending := by cases pending
  established := ⟨consistent.pended (.inl gate) pending, rfl⟩

theorem serves {next : Phase} {access : Access} (consistent : Consistent phase hardware)
    (served : Phase.Serves timer phase access next) :
    Consistent next (hardware.access timer true access) := by
  cases served with
  | clear =>
      rw [Hardware.access_iclr]
      refine ⟨fun _ pending => ?_, trivial⟩
      have acknowledged : hardware.pending = false := consistent.established.2
      simp [acknowledged] at pending
  | drain value =>
      rw [Hardware.access_mis]
      exact ⟨consistent.pended, rfl⟩
  | settle =>
      have read : hardware.misRead = true := consistent.established
      rw [Hardware.access_nopNop, if_pos read]
      exact ⟨consistent.sample.pended, id⟩
  | count =>
      rw [Hardware.access_fetchAdd]
      exact ⟨consistent.pended, consistent.established⟩

theorem leave (consistent : Consistent .counted hardware) :
    Consistent .idle { hardware with pending := hardware.pending || hardware.input } := by
  refine ⟨fun live pending => ?_, trivial⟩
  simp only [Bool.or_eq_true] at pending
  rcases pending with pending | input
  · exact consistent.pended live pending
  · exact ⟨consistent.established input, input⟩

theorem access {shared : Shared} {call : Call} {access : Access}
    (consistent : Consistent .idle shared.hardware)
    (guarded : Guarded timer call shared access) :
    Consistent .idle (shared.hardware.access timer false access) := by
  rcases shared.hardware.touches_or_access_eq timer false access with touched | untouched
  · cases touched with
    | ctl | tamr | mis =>
        simp only [Hardware.access_ctl, Hardware.access_tamr, Hardware.access_mis]
        exact ⟨consistent.pended, trivial⟩
    | iclr value =>
        rw [Hardware.access_iclr]
        exact ⟨fun live _ => absurd live (guarded rfl), trivial⟩
    | imr value =>
        rw [Hardware.access_imr]
        refine ⟨fun live pending => ?_, trivial⟩
        cases masked : value.getLsbD 0 with
        | false => exact absurd live (guarded rfl masked)
        | true =>
            obtain ⟨line, input⟩ := consistent.pended live pending
            simp only [Hardware.line, Bool.and_eq_true] at line
            exact ⟨by simp [Hardware.line, line.1], input⟩
    | iser0 value =>
        rw [Hardware.access_iser0]
        refine ⟨fun live pending => ?_, trivial⟩
        cases unmasked : value.getLsbD timer.irq with
        | false =>
            simp only [unmasked, Bool.or_false] at live
            exact consistent.pended live pending
        | true =>
            rw [guarded unmasked] at pending
            cases pending
    | icer0 value =>
        rw [Hardware.access_icer0]
        refine ⟨fun live pending => consistent.pended ?_ pending, trivial⟩
        exact live.imp_right fun enabled => (Bool.and_eq_true_iff.mp enabled).1
    | icpr0 value =>
        rw [Hardware.access_icpr0]
        split
        · exact ⟨fun live pending => consistent.pended live (Bool.and_eq_true_iff.mp pending).1,
            trivial⟩
        · exact consistent
    | dsbIsb =>
        rw [Hardware.access_dsbIsb]
        exact consistent.synchronize
    | nopNop =>
        rw [Hardware.access_nopNop]
        split
        · exact consistent.sample
        · exact consistent
    | fetchAdd => exact guarded.elim
  · rw [untouched]
    exact consistent

end Consistent

/-- How many acknowledgements the active handler still owes. -/
def Phase.owing : Phase → Nat
  | .entered | .cleared | .drained | .settled => 1
  | .idle | .counted => 0

/-- The timeout held by a raised flag.  The entry of a handler that has yet to clear the flag
has already taken it. -/
def Hardware.latched (phase : Phase) (hardware : Hardware) : Nat :=
  if hardware.ris = true ∧ phase ≠ .entered then 1 else 0

/-- The labels taken since the timer started, against the flag and the handler. -/
structure Ledger (timer : Timer.Instance) (past : List Label) (phase : Phase)
    (hardware : Hardware) : Prop where
  budget : entries past + hardware.latched phase ≤ timeouts past
  served : entries past = acknowledgements timer past + phase.owing

section Counts

variable (past : List Label) (label : Label)

@[simp] theorem timeouts_concat :
    timeouts (past ++ [label]) = timeouts past + if isTimeout label then 1 else 0 := by
  simp [timeouts, List.countP_append, List.countP_cons]

@[simp] theorem entries_concat :
    entries (past ++ [label]) = entries past + if isEnter label then 1 else 0 := by
  simp [entries, List.countP_append, List.countP_cons]

@[simp] theorem acknowledgements_concat :
    acknowledgements timer (past ++ [label]) =
      acknowledgements timer past + if acknowledges timer label then 1 else 0 := by
  simp [acknowledgements, List.countP_append, List.countP_cons]

end Counts

theorem Hardware.ris_access {active : Bool} {hardware : Hardware} {access : Access}
    (raised : (hardware.access timer active access).ris = true) : hardware.ris = true := by
  rcases hardware.touches_or_access_eq timer active access with touched | untouched
  · cases touched with
    | iclr value =>
        rw [access_iclr] at raised
        exact (Bool.and_eq_true_iff.mp raised).1
    | icpr0 value =>
        rw [access_icpr0] at raised
        split at raised <;> exact raised
    | nopNop =>
        rw [access_nopNop] at raised
        split at raised <;> exact raised
    | ctl | tamr | imr | mis | iser0 | icer0 | dsbIsb | fetchAdd =>
        simpa using raised
  · rw [untouched] at raised
    exact raised

theorem Hardware.latched_le {phase next : Phase} {hardware hardware' : Hardware}
    (entered : phase = .entered → next = .entered)
    (lowered : hardware'.ris = true → hardware.ris = true) :
    hardware'.latched next ≤ hardware.latched phase := by
  unfold Hardware.latched
  split
  · rename_i latched
    rw [if_pos ⟨lowered latched.1, fun same => latched.2 (entered same)⟩]
  · exact Nat.zero_le _

namespace Ledger

variable {past : List Label} {phase : Phase} {hardware hardware' : Hardware}

theorem start (lowered : hardware.ris = false) : Ledger timer [] .idle hardware where
  budget := by simp [entries, timeouts, Hardware.latched, lowered]
  served := rfl

theorem keep {label : Label} {next : Phase} (ledger : Ledger timer past phase hardware)
    (timeout : isTimeout label = false) (enter : isEnter label = false)
    (latched : hardware'.latched next ≤ hardware.latched phase)
    (owing : phase.owing = next.owing + if acknowledges timer label then 1 else 0) :
    Ledger timer (past ++ [label]) next hardware' where
  budget := by
    have budget := ledger.budget
    simp only [entries_concat, enter, timeouts_concat, timeout]
    omega
  served := by
    have served := ledger.served
    simp only [entries_concat, enter, acknowledgements_concat, Bool.false_eq_true, ↓reduceIte]
    omega

theorem timeout (ledger : Ledger timer past phase hardware) :
    Ledger timer (past ++ [.timeout]) phase hardware.timeout where
  budget := by
    have latched : hardware.timeout.latched phase ≤ 1 := by
      unfold Hardware.latched
      split <;> omega
    have budget := ledger.budget
    simp only [entries_concat, timeouts_concat, isTimeout, isEnter, Bool.false_eq_true,
      ↓reduceIte]
    omega
  served := by
    simp [isEnter, acknowledges, ledger.served]

theorem enter (ledger : Ledger timer past .idle hardware) (raised : hardware.ris = true) :
    Ledger timer (past ++ [.enter]) .entered { hardware with pending := false } where
  budget := by
    have held : hardware.latched .idle = 1 := if_pos ⟨raised, by decide⟩
    have budget := ledger.budget
    simp only [entries_concat, timeouts_concat, isTimeout, isEnter, Hardware.latched]
    simpa [held] using budget
  served := by
    simp [isEnter, acknowledges, ledger.served, Phase.owing]

theorem serves {next : Phase} {access : Access} (ledger : Ledger timer past phase hardware)
    (served : Phase.Serves timer phase access next) :
    Ledger timer (past ++ [.handler access]) next (hardware.access timer true access) := by
  cases served with
  | clear =>
      refine ledger.keep rfl rfl ?_ rfl
      rw [Hardware.access_iclr]
      simp [Hardware.latched]
  | drain | settle =>
      exact ledger.keep rfl rfl (Hardware.latched_le nofun Hardware.ris_access) rfl
  | count =>
      exact ledger.keep rfl rfl (Hardware.latched_le nofun Hardware.ris_access)
        (by simp [Phase.owing, acknowledges])

end Ledger

/-- The accounts of the labels taken since the timer started. -/
structure Accounted (timer : Timer.Instance) (past : List Label) (phase : Phase)
    (shared : Shared) : Prop where
  handler : shared.handler = phase.code timer
  consistent : Consistent phase shared.hardware
  ledger : Ledger timer past phase shared.hardware

namespace Accounted

variable {past : List Label} {phase : Phase} {shared shared' : Shared} {label : Label}

theorem start (idle : shared.handler = none) (pending : shared.hardware.pending = false)
    (lowered : shared.hardware.ris = false) : Accounted timer [] .idle shared :=
  ⟨idle, .start pending, .start lowered⟩

theorem idle_iff (accounted : Accounted timer past phase shared) :
    shared.handler = none ↔ phase = .idle := by
  rw [accounted.handler]
  cases phase <;> simp [Phase.code]

theorem interference (accounted : Accounted timer past phase shared)
    (step : Interference timer shared label shared') :
    ∃ next, Accounted timer (past ++ [label]) next shared' := by
  obtain ⟨handler, consistent, ledger⟩ := accounted
  cases step with
  | timeout => exact ⟨phase, handler, consistent.timeout, ledger.timeout⟩
  | sample =>
      refine ⟨phase, handler, ?_, ledger.keep rfl rfl le_rfl rfl⟩
      rw [handler, phase.isSome_code]
      exact consistent.sample
  | synchronize =>
      exact ⟨phase, handler, consistent.synchronize, ledger.keep rfl rfl le_rfl rfl⟩
  | primask masked =>
      exact ⟨phase, handler, consistent.primask masked, ledger.keep rfl rfl le_rfl rfl⟩
  | enter idle gate pending unmasked vector =>
      obtain rfl := (idle_iff ⟨handler, consistent, ledger⟩).mp idle
      rw [Startup.irqs_irq] at vector
      cases vector
      have requested := (consistent.pended (.inl gate) pending).1
      exact ⟨.entered, rfl, consistent.enter gate pending,
        ledger.enter (Bool.and_eq_true_iff.mp requested).1⟩
  | handler active code =>
      obtain ⟨next, served, step⟩ := phase.step (handler.symm.trans active) code
      exact ⟨next, served.symm, consistent.serves step, ledger.serves step⟩
  | leave active =>
      rw [handler] at active
      cases phase with
      | counted =>
          exact ⟨.idle, rfl, consistent.leave,
            ledger.keep rfl rfl (Hardware.latched_le nofun id) rfl⟩
      | idle | cleared | drained | settled => cases active
      | entered =>
          rw [Phase.code, Timer.interrupt_eq] at active
          cases active

theorem step {machine machine' : Machine} (accounted : Accounted timer past phase machine.shared)
    (located : Located timer machine) (step : Step timer machine label machine') :
    ∃ next, Accounted timer (past ++ [label]) next machine'.shared := by
  cases step with
  | interference step => exact accounted.interference step
  | call | returned =>
      exact ⟨phase, accounted.handler, accounted.consistent,
        accounted.ledger.keep rfl rfl le_rfl rfl⟩
  | access idle code =>
      obtain ⟨call, -, -, guarded⟩ := located.guarded (.access idle code)
      obtain rfl := accounted.idle_iff.mp idle
      exact ⟨.idle, idle, accounted.consistent.access guarded,
        accounted.ledger.keep rfl rfl (Hardware.latched_le id Hardware.ris_access) rfl⟩

end Accounted

end DirectLine.Firmware.TimerLine
