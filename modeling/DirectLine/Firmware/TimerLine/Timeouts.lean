import DirectLine.Firmware.TimerLine.Accounting

/-!
# Quiescence after `stop` and the meaning of `interrupts()`

Runs of the machine from the points the driver's callers see: the return of
`stop`, and the write of an accepted request that starts the timer.
-/

namespace DirectLine.Firmware.TimerLine

open DirectLine.Interaction Relation

variable {timer : Timer.Instance}

/-- Only the handler's increment changes the cell that `Timer::interrupts` reads. -/
theorem Located.count {machine machine' : Machine} {label : Label}
    (located : Located timer machine) (step : Step timer machine label machine') :
    machine'.shared.hardware.count = machine.shared.hardware.count +
      BitVec.ofNat 32 (if acknowledges timer label then 1 else 0) := by
  cases step with
  | interference step =>
      cases step with
      | timeout | sample | synchronize | primask | enter | leave =>
          exact (BitVec.add_zero _).symm
      | handler active code =>
          obtain ⟨phase, served⟩ := located.serving
          obtain ⟨next, -, taken⟩ := phase.step (served.symm.trans active) code
          cases taken with
          | clear | drain => simp [acknowledges]
          | settle =>
              rw [Hardware.access_nopNop]
              split <;> exact (BitVec.add_zero _).symm
          | count => simp [acknowledges]
  | call | returned => exact (BitVec.add_zero _).symm
  | @access shared _ _ _ access idle code =>
      obtain ⟨call, -, -, guarded⟩ := located.guarded (.access idle code)
      rw [show acknowledges timer (.access access) = false from rfl]
      refine Eq.trans ?_ (BitVec.add_zero _).symm
      rcases shared.hardware.touches_or_access_eq timer false access with touched | untouched
      · cases touched with
        | fetchAdd => exact guarded.elim
        | icpr0 | nopNop =>
            simp only [Hardware.access_icpr0, Hardware.access_nopNop]
            split <;> rfl
        | ctl | tamr | imr | iclr | mis | iser0 | icer0 | dsbIsb => simp
      · rw [untouched]

theorem Located.count_run {machine last : Machine} {labels : List Label}
    (located : Located timer machine) (later : Trace (Step timer) machine labels last) :
    last.shared.hardware.count = machine.shared.hardware.count +
      BitVec.ofNat 32 (acknowledgements timer labels) := by
  have invariant := later.invariant [] (fun past state => Located timer state ∧
    state.shared.hardware.count = machine.shared.hardware.count +
      BitVec.ofNat 32 (acknowledgements timer past)) ?_ ⟨located, (BitVec.add_zero _).symm⟩
  · exact invariant.2
  · rintro past state label state' - ⟨located, count⟩ step
    refine ⟨located.step step, ?_⟩
    rw [located.count step, count, acknowledgements_concat, BitVec.ofNat_add, BitVec.add_assoc]

theorem Hardware.access_running (hardware : Hardware) (active : Bool) {access : Access}
    (notCtl : ∀ value, access ≠ .write (.gpt timer.registers .ctl) value)
    (notTamr : ∀ value, access ≠ .write (.gpt timer.registers .tamr) value) :
    (hardware.access timer active access).taen = hardware.taen ∧
      (hardware.access timer active access).mode = hardware.mode := by
  rcases hardware.touches_or_access_eq timer active access with touched | untouched
  · cases touched with
    | ctl value => exact absurd rfl (notCtl value)
    | tamr value => exact absurd rfl (notTamr value)
    | icpr0 | nopNop =>
        simp only [access_icpr0, access_nopNop]
        split <;> exact ⟨rfl, rfl⟩
    | imr | iclr | mis | iser0 | icer0 | dsbIsb | fetchAdd => simp [mode]
  · rw [untouched]
    exact ⟨rfl, rfl⟩

theorem Phase.Serves.not_ctl {phase next : Phase} {access : Access}
    (served : Serves timer phase access next) (value : Word) :
    access ≠ .write (.gpt timer.registers .ctl) value := by
  cases served <;> simp

theorem Phase.Serves.not_tamr {phase next : Phase} {access : Access}
    (served : Serves timer phase access next) (value : Word) :
    access ≠ .write (.gpt timer.registers .tamr) value := by
  cases served <;> simp

/-- In one-shot mode a counting timer has not timed out yet. -/
structure Single (past : List Label) (hardware : Hardware) : Prop where
  counting : hardware.taen = true → hardware.mode = Timer.oneShot ∧ timeouts past = 0
  atMost : timeouts past ≤ 1

theorem Single.keep {past : List Label} {hardware hardware' : Hardware} {label : Label}
    (single : Single past hardware) (timeout : isTimeout label = false)
    (kept : hardware'.taen = true → hardware.taen = true ∧ hardware'.mode = hardware.mode) :
    Single (past ++ [label]) hardware' where
  counting running := by
    obtain ⟨running, mode⟩ := kept running
    rw [mode, timeouts_concat, timeout]
    exact single.counting running
  atMost := by
    rw [timeouts_concat, timeout]
    exact single.atMost

theorem Single.step {past : List Label} {machine machine' : Machine} {label : Label}
    (single : Single past machine.shared.hardware) (located : Located timer machine)
    (unstarted : starts timer label = false) (step : Step timer machine label machine') :
    Single (past ++ [label]) machine'.shared.hardware := by
  cases step with
  | @interference shared _ _ _ step =>
      cases step with
      | timeout running =>
          obtain ⟨mode, none⟩ := single.counting running
          refine ⟨fun still => ?_, ?_⟩
          · simp [Hardware.timeout, mode] at still
          · rw [timeouts_concat, none]
            exact le_rfl
      | sample | synchronize | primask | enter | leave =>
          exact single.keep rfl fun running => ⟨running, rfl⟩
      | handler active code =>
          obtain ⟨phase, served⟩ := located.serving
          obtain ⟨next, -, taken⟩ := phase.step (served.symm.trans active) code
          have unwritten := shared.hardware.access_running true taken.not_ctl taken.not_tamr
          exact single.keep rfl fun running => ⟨unwritten.1.symm.trans running, unwritten.2⟩
  | call | returned => exact single.keep rfl fun running => ⟨running, rfl⟩
  | @access shared _ _ _ access idle code =>
      obtain ⟨call, -, -, guarded⟩ := located.guarded (.access idle code)
      refine single.keep rfl fun running => ?_
      by_cases ctl : ∃ value, access = .write (.gpt timer.registers .ctl) value
      · obtain ⟨value, rfl⟩ := ctl
        simp only [starts, decide_true, Bool.true_and] at unstarted
        rw [Hardware.access_ctl, unstarted] at running
        cases running
      · by_cases tamr : ∃ value, access = .write (.gpt timer.registers .tamr) value
        · obtain ⟨value, rfl⟩ := tamr
          rw [Hardware.access_tamr, guarded rfl] at running
          cases running
        · have unwritten := shared.hardware.access_running false
            (not_exists.mp ctl) (not_exists.mp tamr)
          exact ⟨unwritten.1.symm.trans running, unwritten.2⟩

/-- While the foreground leaves the hardware alone, a timeout stays latched until an entry. -/
structure Noticed (past : List Label) (hardware : Hardware) : Prop where
  imr : hardware.imr = true
  noticed : 0 < timeouts past → hardware.ris = true ∨ 0 < entries past

theorem Noticed.keep {past : List Label} {hardware hardware' : Hardware} {label : Label}
    (noticed : Noticed past hardware) (timeout : isTimeout label = false)
    (imr : hardware'.imr = hardware.imr) (ris : hardware'.ris = hardware.ris) :
    Noticed (past ++ [label]) hardware' where
  imr := imr.trans noticed.imr
  noticed some := by
    rw [timeouts_concat, timeout] at some
    rw [ris, entries_concat]
    exact (noticed.noticed some).imp_right fun entered => by omega

theorem Noticed.step {past : List Label} {phase : Phase} {machine machine' : Machine}
    {label : Label} (noticed : Noticed past machine.shared.hardware)
    (accounted : Accounted timer past phase machine.shared)
    (untouched : ∀ access, label ≠ .access access) (step : Step timer machine label machine') :
    Noticed (past ++ [label]) machine'.shared.hardware := by
  cases step with
  | interference step =>
      cases step with
      | timeout => exact ⟨noticed.imr, fun _ => .inl rfl⟩
      | sample | synchronize | primask | leave => exact noticed.keep rfl rfl rfl
      | enter => exact ⟨noticed.imr, fun _ => .inr (by simp [isEnter])⟩
      | handler active code =>
          obtain ⟨next, -, taken⟩ := phase.step (accounted.handler.symm.trans active) code
          cases taken with
          | clear =>
              have served := accounted.ledger.served
              refine ⟨by simpa using noticed.imr, fun _ => .inr ?_⟩
              simp only [Phase.owing] at served
              rw [entries_concat]
              omega
          | drain | count => exact noticed.keep rfl (by simp) (by simp)
          | settle =>
              rw [Hardware.access_nopNop]
              split <;> exact noticed.keep rfl rfl rfl
  | call | returned => exact noticed.keep rfl rfl rfl
  | access => exact absurd rfl (untouched _)

theorem starts_iff {access : Access} :
    starts timer (.access access) = true ↔
      ∃ value, access = .write (.gpt timer.registers .ctl) value ∧ value.getLsbD 0 = true := by
  constructor
  · intro start
    unfold starts at start
    split at start
    · rename_i block value same
      cases same
      simp only [Bool.and_eq_true, decide_eq_true_eq] at start
      obtain ⟨rfl, set⟩ := start
      exact ⟨value, rfl, set⟩
    · cases start
  · rintro ⟨value, rfl, set⟩
    simp only [starts, decide_true, Bool.true_and]
    exact set

structure Started (call : Call) (shared : Shared) : Prop where
  handler : shared.handler = none
  pending : shared.hardware.pending = false
  ris : shared.hardware.ris = false
  imr : shared.hardware.imr = true
  mode : shared.hardware.mode = call.mode

theorem Located.started {machine armed : Machine} {access : Access}
    (located : Located timer machine) (start : starts timer (.access access) = true)
    (step : Step timer machine (.access access) armed) :
    ∃ call code, machine.foreground = some (call, code) ∧ Started call armed.shared := by
  obtain ⟨call, code, running, guarded⟩ := located.guarded step
  obtain ⟨value, rfl, set⟩ := starts_iff.mp start
  obtain ⟨silent, imr, -, mode⟩ := guarded rfl set
  refine ⟨call, code, running, ?_⟩
  cases step with
  | interference step => cases step
  | access idle step =>
      rw [Hardware.access_ctl]
      exact ⟨idle, silent.pending, silent.ris, imr, mode⟩

/-- No step but the start of a new interval ends the silence, and none enters the handler. -/
theorem Silent.machine {machine machine' : Machine} {label : Label}
    (silent : Silent machine.shared) (unstarted : starts timer label = false)
    (step : Step timer machine label machine') :
    Silent machine'.shared ∧ isEnter label = false ∧ acknowledges timer label = false := by
  cases step with
  | interference step =>
      refine ⟨silent.step step, ?_⟩
      cases step with
      | timeout | sample | synchronize | primask | leave => exact ⟨rfl, rfl⟩
      | enter _ _ pending =>
          rw [silent.pending] at pending
          cases pending
      | handler active =>
          rw [silent.handler] at active
          cases active
  | call | returned => exact ⟨silent, rfl, rfl⟩
  | access => exact ⟨silent.access unstarted, rfl, rfl⟩

theorem Located.quiet {machine last : Machine} {labels : List Label}
    (located : Located timer machine) (silent : Silent machine.shared)
    (later : Trace (Step timer) machine labels last)
    (unstarted : ∀ label ∈ labels, starts timer label = false) :
    entries labels = 0 ∧ last.shared.hardware.count = machine.shared.hardware.count := by
  have invariant := later.invariant [] (fun past state => Silent state.shared ∧
    entries past = 0 ∧ acknowledgements timer past = 0) ?_ ⟨silent, rfl, rfl⟩
  · obtain ⟨-, entered, acknowledged⟩ := invariant
    simp only [List.nil_append] at entered acknowledged
    refine ⟨entered, ?_⟩
    rw [located.count_run later, acknowledged]
    exact BitVec.add_zero _
  · rintro past state label state' member ⟨silent, entered, acknowledged⟩ step
    obtain ⟨silent', enter, acknowledge⟩ := silent.machine (unstarted label member) step
    refine ⟨silent', ?_, ?_⟩
    · simp [entered, enter]
    · simp [acknowledged, acknowledge]

theorem Located.accounted {call : Call} {machine last : Machine} {labels : List Label}
    (located : Located timer machine) (started : Started call machine.shared)
    (later : Trace (Step timer) machine labels last) :
    ∃ phase, Accounted timer labels phase last.shared := by
  have invariant := later.invariant [] (fun past state => Located timer state ∧
    ∃ phase, Accounted timer past phase state.shared) ?_
    ⟨located, .idle, .start started.handler started.pending started.ris⟩
  · exact invariant.2
  · rintro past state label state' - ⟨located, phase, accounted⟩ step
    exact ⟨located.step step, accounted.step located step⟩

/-- A one-shot interval has at most one timeout. -/
theorem Located.single {microseconds : Word} {machine last : Machine} {labels : List Label}
    (located : Located timer machine)
    (started : Started (.startOnceUs microseconds) machine.shared)
    (later : Trace (Step timer) machine labels last)
    (unstarted : ∀ label ∈ labels, starts timer label = false) : timeouts labels ≤ 1 := by
  have invariant := later.invariant [] (fun past state => Located timer state ∧
    Single past state.shared.hardware) ?_
    ⟨located, fun _ => ⟨started.mode, rfl⟩, Nat.zero_le _⟩
  · exact invariant.2.atMost
  · rintro past state label state' member ⟨located, single⟩ step
    exact ⟨located.step step, single.step located (unstarted label member) step⟩

/-- A timeout no access of the foreground discarded is latched or has been served. -/
theorem Located.noticed {call : Call} {machine last : Machine} {labels : List Label}
    (located : Located timer machine) (started : Started call machine.shared)
    (later : Trace (Step timer) machine labels last)
    (untouched : ∀ access, .access access ∉ labels) : Noticed labels last.shared.hardware := by
  have invariant := later.invariant [] (fun past state => Located timer state ∧
    (∃ phase, Accounted timer past phase state.shared) ∧ Noticed past state.shared.hardware) ?_
    ⟨located, ⟨.idle, .start started.handler started.pending started.ris⟩, started.imr,
      fun some => absurd some (Nat.lt_irrefl 0)⟩
  · exact invariant.2.2
  · rintro past state label state' member ⟨located, ⟨phase, accounted⟩, noticed⟩ step
    refine ⟨located.step step, accounted.step located step, noticed.step accounted ?_ step⟩
    rintro access rfl
    exact untouched access member

/-- The accesses of `stop`, with the value its read is answered with. -/
def stopAccesses (timer : Timer.Instance) (mis : Word) : List Access :=
  [.write (.nvic .icer0) (Timer.ofInstance timer).irqMask, .act .dsbIsb,
    .write (.gpt timer.registers .ctl) 0, .write (.gpt timer.registers .imr) 0,
    .write (.gpt timer.registers .iclr) 1, .read (.gpt timer.registers .mis) mis, .act .nopNop,
    .write (.nvic .icpr0) (Timer.ofInstance timer).irqMask]

def armAccesses (timer : Timer.Instance) (ticks mode : Word) : List Access :=
  [.write (.gpt timer.registers .cfg) 0,
    .write (.gpt timer.registers .tamr) (Word.setFlag (Word.setField 0 0 2 mode) 8 true),
    .write (.gpt timer.registers .tailr) (ticks - 1), .write (.gpt timer.registers .imr) 1,
    .write (.nvic .iser0) (Timer.ofInstance timer).irqMask]

theorem run_arm {microseconds ticks : Word} (mis mode : Word)
    (accepted : Timer.acceptedTicks microseconds = some ticks) :
    Program.Run ((Timer.ofInstance timer).arm microseconds mode)
      (stopAccesses timer mis ++ armAccesses timer ticks mode)
      (.write (.gpt timer.registers .ctl) 1 (.ret (.ok ()))) := by
  rw [Timer.arm, accepted]
  repeat
    first
    | exact .nil _
    | refine .cons (.read _ _ mis) ?_
    | refine .cons (.write _ _ _) ?_
    | refine .cons (.act _ _) ?_

theorem undisturbed {shared : Shared} {call : Call} {code rest : Driver (Except TimerError Unit)}
    {trace : List Access} (idle : shared.handler = none) (run : Program.Run code trace rest) :
    Trace (Step timer) ⟨shared, some (call, code)⟩ (trace.map .access)
      ⟨{ shared with hardware := trace.foldl (Hardware.access timer false) shared.hardware },
        some (call, rest)⟩ := by
  induction run generalizing shared with
  | nil => exact .nil _
  | cons step _ inductionHypothesis => exact .cons (.access idle step) (inductionHypothesis idle)

def starting (timer : Timer.Instance) (microseconds ticks : Word) : Machine :=
  ⟨⟨(stopAccesses timer 0 ++ armAccesses timer ticks Timer.oneShot).foldl
      (Hardware.access timer false) default, none⟩,
    some (.startOnceUs microseconds, .write (.gpt timer.registers .ctl) 1 (.ret (.ok ())))⟩

theorem reachable_starting {microseconds ticks : Word} (timer : Timer.Instance)
    (accepted : Timer.acceptedTicks microseconds = some ticks) :
    Reachable timer (starting timer microseconds ticks) :=
  ⟨⟨⟨default, none⟩, none⟩, _, ⟨rfl, rfl⟩,
    .cons (.call (.startOnceUs microseconds) rfl)
      (undisturbed rfl (run_arm 0 Timer.oneShot accepted))⟩

/-- A periodic timer that runs with its flag latched and its interrupt pending. -/
def running : Hardware :=
  { (default : Hardware) with
    tamr := Timer.periodic, taen := true, ris := true, imr := true, input := true
    enabled := true, gate := true, pending := true }

/-- Its handler preempts `stop` after the write to the enable bit, and it times out again. -/
def preempted : List Label :=
  [.call .stop, .access (.write (.nvic .icer0) (Timer.ofInstance .gpt0).irqMask), .enter,
    .handler (.write (.gpt .gpt0 .iclr) 1), .handler (.read (.gpt .gpt0 .mis) 0),
    .handler (.act .nopNop), .handler (.act (.fetchAdd 0)), .leave, .access (.act .dsbIsb),
    .timeout, .sample, .access (.write (.gpt .gpt0 .ctl) 0), .access (.write (.gpt .gpt0 .imr) 0),
    .access (.write (.gpt .gpt0 .iclr) 1), .access (.read (.gpt .gpt0 .mis) 0),
    .access (.act .nopNop), .access (.write (.nvic .icpr0) (Timer.ofInstance .gpt0).irqMask)]

theorem trace_stopped :
    ∃ machine stopped last, Reachable .gpt0 machine ∧
      Step .gpt0 machine (.returned .stop (.ok ())) stopped ∧
      stopped.shared.hardware.count = 1 ∧
      Trace (Step .gpt0) stopped [.sample, .primask false] last := by
  have run : Trace (Step .gpt0) ⟨⟨running, none⟩, none⟩ preempted _ :=
    .cons (.call .stop rfl) <| .cons (.access rfl (.write _ _ _)) <|
    .cons (.interference (.enter rfl rfl rfl rfl rfl)) <|
    .cons (.interference (.handler rfl (.write _ _ _))) <|
    .cons (.interference (.handler rfl (.read _ _ _))) <|
    .cons (.interference (.handler rfl (.act _ _))) <|
    .cons (.interference (.handler rfl (.act _ _))) <| .cons (.interference (.leave rfl)) <|
    .cons (.access rfl (.act _ _)) <| .cons (.interference (.timeout rfl)) <|
    .cons (.interference .sample) <| .cons (.access rfl (.write _ _ _)) <|
    .cons (.access rfl (.write _ _ _)) <| .cons (.access rfl (.write _ _ _)) <|
    .cons (.access rfl (.read _ _ 0)) <| .cons (.access rfl (.act _ _)) <|
    .cons (.access rfl (.write _ _ _)) (.nil _)
  exact ⟨_, _, _, ⟨_, _, ⟨rfl, rfl⟩, run⟩, .returned rfl, rfl,
    .cons (.interference .sample) (.cons (.interference (.primask false)) (.nil _))⟩

def served (timer : Timer.Instance) : List Label :=
  [.timeout, .synchronize, .sample, .enter, .handler (.write (.gpt timer.registers .iclr) 1),
    .handler (.read (.gpt timer.registers .mis) 0), .handler (.act .nopNop),
    .handler (.act (.fetchAdd timer.index)), .leave]

theorem trace_served :
    ∃ armed last, Step .gpt0 (starting .gpt0 1 48) (.access (.write (.gpt .gpt0 .ctl) 1)) armed ∧
      Trace (Step .gpt0) armed (served .gpt0) last ∧ last.shared.hardware.line = false ∧
        last.shared.hardware.pending = false ∧ last.shared.handler = none :=
  ⟨_, _, .access rfl (.write _ _ _),
    .cons (.interference (.timeout rfl)) <| .cons (.interference .synchronize) <|
    .cons (.interference .sample) <| .cons (.interference (.enter rfl rfl rfl rfl rfl)) <|
    .cons (.interference (.handler rfl (.write _ _ _))) <|
    .cons (.interference (.handler rfl (.read _ _ _))) <|
    .cons (.interference (.handler rfl (.act _ _))) <|
    .cons (.interference (.handler rfl (.act _ _))) <| .cons (.interference (.leave rfl)) (.nil _),
    rfl, rfl, rfl⟩

/-- From the return of `stop` to the next start of an interval the handler is never entered
and `interrupts()` is constant.  From the start of an interval on, no run has more entries
than timeouts: no entry is left over from before. -/
theorem stop_quiescent (timer : Timer.Instance) :
    (∀ machine stopped last result labels, Reachable timer machine →
      Step timer machine (.returned .stop result) stopped →
      Trace (Step timer) stopped labels last →
      (∀ label ∈ labels, starts timer label = false) →
        entries labels = 0 ∧
          last.shared.hardware.count = stopped.shared.hardware.count) ∧
    ∀ machine armed last access labels, Reachable timer machine →
      starts timer (.access access) = true → Step timer machine (.access access) armed →
      Trace (Step timer) armed labels last → entries labels ≤ timeouts labels := by
  constructor
  · intro machine stopped last result labels reached returned later unstarted
    have silent := (reached.located.stopped returned).silent le_rfl
    exact (reached.located.step returned).quiet silent later unstarted
  · intro machine armed last access labels reached start step later
    obtain ⟨call, -, -, started⟩ := reached.located.started start step
    obtain ⟨phase, accounted⟩ := (reached.located.step step).accounted started later
    exact le_trans (Nat.le_add_right _ _) accounted.ledger.budget

theorem stop_quiescent_gpt0 :
    (∃ stopped last, Trace (Step .gpt0) stopped [.sample, .primask false] last ∧
      stopped.shared.hardware.count = 1 ∧
        last.shared.hardware.count = stopped.shared.hardware.count) ∧
    ∃ armed last, Trace (Step .gpt0) armed (served .gpt0) last ∧
      entries (served .gpt0) ≤ timeouts (served .gpt0) := by
  constructor
  · obtain ⟨machine, stopped, last, reached, returned, count, later⟩ := trace_stopped
    exact ⟨stopped, last, later, count,
      ((stop_quiescent .gpt0).1 _ _ _ _ _ reached returned later (by simp [starts])).2⟩
  · obtain ⟨armed, last, step, later, -⟩ := trace_served
    exact ⟨armed, last, later, (stop_quiescent .gpt0).2 _ _ _ _ _
      (reachable_starting .gpt0 rfl) rfl step later⟩

/-- In an interval, from its starting write to the next, `interrupts()` advances by the
acknowledgements, modulo 2^32: at most one for each timeout, at most one in one-shot mode,
and at least one once an idle state is reached after a timeout.  No access of the foreground
changes it. -/
theorem interrupts_accounted (timer : Timer.Instance) :
    (∀ machine armed last access call code labels, Reachable timer machine →
      machine.foreground = some (call, code) → starts timer (.access access) = true →
      Step timer machine (.access access) armed → Trace (Step timer) armed labels last →
      (∀ label ∈ labels, starts timer label = false) →
        last.shared.hardware.count = armed.shared.hardware.count +
          BitVec.ofNat 32 (acknowledgements timer labels) ∧
        acknowledgements timer labels ≤ timeouts labels ∧
        (∀ microseconds, call = .startOnceUs microseconds →
          acknowledgements timer labels ≤ 1) ∧
        ((∀ access, .access access ∉ labels) → 0 < timeouts labels →
          last.shared.hardware.line = false → last.shared.hardware.pending = false →
          last.shared.handler = none → 0 < acknowledgements timer labels)) ∧
    ∀ machine machine' access, Reachable timer machine →
      Step timer machine (.access access) machine' →
        machine'.shared.hardware.count = machine.shared.hardware.count := by
  constructor
  · intro machine armed last access call code labels reached running start step later unstarted
    have located := reached.located.step step
    obtain ⟨call', code', running', started⟩ := reached.located.started start step
    obtain ⟨rfl, rfl⟩ := Prod.mk.inj (Option.some.inj (running'.symm.trans running))
    obtain ⟨phase, accounted⟩ := located.accounted started later
    have served := accounted.ledger.served
    have budget : entries labels ≤ timeouts labels :=
      le_trans (Nat.le_add_right _ _) accounted.ledger.budget
    have bounded : acknowledgements timer labels ≤ timeouts labels := by omega
    refine ⟨located.count_run later, bounded, ?_, ?_⟩
    · rintro microseconds rfl
      exact bounded.trans (located.single started later unstarted)
    · intro untouched some line pending idle
      obtain ⟨imr, noticed⟩ := located.noticed started later untouched
      obtain rfl := accounted.idle_iff.mp idle
      simp only [Hardware.line, imr, Bool.and_true] at line
      simp only [Phase.owing, Nat.add_zero] at served
      rw [← served]
      -- A flag still latched would keep the line up.
      rcases noticed some with raised | entered
      · rw [line] at raised
        cases raised
      · exact entered
  · intro machine machine' access reached step
    rw [reached.located.count step]
    exact BitVec.add_zero _

theorem interrupts_accounted_gpt0 :
    ∃ armed last, Trace (Step .gpt0) armed (served .gpt0) last ∧
      last.shared.hardware.count = armed.shared.hardware.count +
        BitVec.ofNat 32 (acknowledgements .gpt0 (served .gpt0)) ∧
      acknowledgements .gpt0 (served .gpt0) ≤ 1 ∧ 0 < acknowledgements .gpt0 (served .gpt0) := by
  obtain ⟨armed, last, step, later, line, pending, idle⟩ := trace_served
  obtain ⟨count, -, single, noticed⟩ := (interrupts_accounted .gpt0).1 _ armed last _ _ _ _
    (reachable_starting .gpt0 rfl) rfl rfl step later (by decide)
  exact ⟨armed, last, later, count, single 1 rfl,
    noticed (by simp [served]) (by decide) line pending idle⟩

end DirectLine.Firmware.TimerLine
