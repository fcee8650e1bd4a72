import DirectLine.Firmware.Outputs

/-!
# Runs of several contexts

The latches are the fold of the calls over the initial word, in the order in
which they acted; bit by bit, each pin sees its own calls alone.  Between the
write that lowers a pin and the write that enables it, nobody else can raise it.
-/

namespace DirectLine.Firmware.Outputs

open DirectLine.Interaction

section Bits

variable {first second dio : Nat} {call : Call} {dout : Word}

theorem getLsbD_bit_valid (valid : dio < 32) :
    (Word.bit 32 first).getLsbD dio = decide (first = dio) := by
  rw [Word.getLsbD_bit]
  exact decide_eq_decide.mpr ⟨fun both => both.2.symm, fun same => ⟨valid, same.symm⟩⟩

theorem bit_inj (valid : first < 32) (same : Word.bit 32 first = Word.bit 32 second) :
    first = second := by
  have set := congrArg (BitVec.getLsbD · first) same
  simp only [getLsbD_bit_valid valid, decide_true, Bool.true_eq, decide_eq_true_eq] at set
  exact set.symm

theorem names_pin {pin : OutputPin} (handle : call.pin = some pin) :
    call.names dio = decide (pin = ⟨Word.bit 32 dio⟩) := by
  cases call <;> cases handle <;> rfl

theorem names_bit (valid : first < 32) (handle : call.pin = some ⟨Word.bit 32 first⟩) :
    call.names dio = decide (first = dio) := by
  rw [names_pin handle, decide_eq_decide, OutputPin.mk.injEq]
  exact ⟨bit_inj valid, fun same => same ▸ rfl⟩

theorem getLsbD_act (proper : ∀ pin, call.pin = some pin → ∃ dio < 32, pin = ⟨Word.bit 32 dio⟩)
    (valid : dio < 32) :
    (call.act dout).getLsbD dio =
      if call.names dio then call.level (dout.getLsbD dio) else dout.getLsbD dio := by
  cases call with
  | configureOutput other =>
      simp only [Call.act, Call.names, Call.level, BitVec.getLsbD_and, BitVec.getLsbD_not,
        getLsbD_bit_valid valid, valid, decide_true, Bool.true_and]
      by_cases same : other = dio <;> simp [same]
  | set pin high =>
      obtain ⟨other, inside, rfl⟩ := proper pin rfl
      rw [names_bit inside rfl]
      cases high with
      | true =>
          simp only [Call.act, Call.level, if_true, BitVec.getLsbD_or, getLsbD_bit_valid valid]
          by_cases same : other = dio <;> simp [same]
      | false =>
          simp only [Call.act, Call.level, Bool.false_eq_true, if_false, BitVec.getLsbD_and,
            BitVec.getLsbD_not, getLsbD_bit_valid valid, valid, decide_true, Bool.true_and]
          by_cases same : other = dio <;> simp [same]
  | toggle pin =>
      obtain ⟨other, inside, rfl⟩ := proper pin rfl
      rw [names_bit inside rfl]
      simp only [Call.act, Call.level, BitVec.getLsbD_xor, getLsbD_bit_valid valid]
      by_cases same : other = dio <;> simp [same]

/-- Each pin sees its own calls alone. -/
theorem getLsbD_foldl_act {calls : List Call}
    (proper : ∀ call ∈ calls, ∀ pin, call.pin = some pin → ∃ dio < 32, pin = ⟨Word.bit 32 dio⟩)
    (valid : dio < 32) :
    (calls.foldl (fun dout call => call.act dout) dout).getLsbD dio =
      (calls.filter (Call.names dio)).foldl (fun level call => call.level level)
        (dout.getLsbD dio) := by
  induction calls generalizing dout with
  | nil => rfl
  | cons call calls inductionHypothesis =>
      rw [List.foldl_cons, inductionHypothesis fun other member =>
        proper other (List.mem_cons_of_mem _ member),
        getLsbD_act (proper call List.mem_cons_self) valid, List.filter_cons]
      split <;> rfl

end Bits

section Others

variable {ports ports' : Ports} {call other : Call} {todo : List Call}
variable {code : Driver (Option OutputPin)} {access : Access} {dio : Nat}

theorem Effect.low (effect : Effect ports call access ports') (handle : call.configures = false)
    (valid : dio < 32) (low : Low ports dio) : ports'.doe = ports.doe ∧ Low ports' dio := by
  have same : ports'.doe = ports.doe := by
    rcases effect.doe with ⟨same, -⟩ | ⟨_, -, rfl, -⟩
    · exact same
    · cases handle
  refine ⟨same, fun disabled => ?_⟩
  rw [same] at disabled
  rw [effect.dout]
  cases loud : acts access with
  | false =>
      rw [if_neg Bool.false_ne_true]
      exact low disabled
  | true =>
      rw [if_pos rfl]
      have proper : ∀ pin, call.pin = some pin → ∃ dio < 32, pin = ⟨Word.bit 32 dio⟩ := by
        intro pin given
        obtain ⟨dio, inside, rfl, -⟩ := effect.held pin given loud
        exact ⟨dio, inside, rfl⟩
      have unnamed : call.names dio = false := by
        obtain ⟨pin, given⟩ : ∃ pin, call.pin = some pin := by
          cases call with
          | configureOutput => cases handle
          | set pin | toggle pin => exact ⟨pin, rfl⟩
        obtain ⟨enabled, inside, rfl, set⟩ := effect.held pin given loud
        rw [names_bit inside given, decide_eq_false_iff_not]
        rintro rfl
        cases disabled.symm.trans set
      rw [getLsbD_act proper valid, unnamed, if_neg Bool.false_ne_true]
      exact low disabled

theorem Stage.spared (stage : Stage ports other todo code)
    (effect : Effect ports call access ports')
    (exclusive : other.configures = true → call.configures = false) :
    Stage ports' other todo code := by
  cases stage with
  | called handle held => exact .called handle (effect.held_mono held)
  | done handle => exact .done handle
  | refused => exact .refused
  | supplying valid confined => exact .supplying valid confined
  | lowered valid low => exact .lowered valid (effect.low (exclusive rfl) valid low).2
  | routed valid low => exact .routed valid (effect.low (exclusive rfl) valid low).2
  | enabling valid low =>
      obtain ⟨same, low⟩ := effect.low (exclusive rfl) valid low
      rw [← same]
      exact .enabling valid low
  | enabled valid enabled => exact .enabled valid (effect.enabled enabled)

end Others

section Contexts

variable {Context : Type} {past : List (Label Context)} {label : Label Context}

theorem acted_concat : acted (past ++ [label]) = acted past ++ label.acted := by
  simp [acted]

theorem acted_silent (unacted : label.acted = []) : acted (past ++ [label]) = acted past := by
  rw [acted_concat, unacted, List.append_nil]

variable [DecidableEq Context] {context other : Context} {call : Call}

theorem begun_concat :
    begun context (past ++ [label]) = begun context past ++ label.begun context := by
  simp [begun]

theorem mem_begun : call ∈ begun context past ↔ .begin context call ∈ past := by
  simp only [begun, List.mem_flatMap]
  constructor
  · rintro ⟨label, member, belongs⟩
    cases label with
    | access | finish => cases belongs
    | begin other started =>
        rw [Label.begun] at belongs
        split at belongs
        · rename_i same
          subst same
          cases List.mem_singleton.mp belongs
          exact member
        · cases belongs
  · intro member
    exact ⟨_, member, by simp [Label.begun]⟩

theorem callsOf_append (earlier later : List (Context × Call)) :
    callsOf context (earlier ++ later) = callsOf context earlier ++ callsOf context later := by
  simp [callsOf]

abbrev Task := Option (Call × Driver (Option OutputPin))

def Task.configures : Task → Bool
  | some (call, _) => call.configures
  | none => false

/-- The calls of a context have acted in the order in which they were made, but for the one in
progress. -/
def Served (past : List (Label Context)) (ports : Ports) (context : Context) : Task → Prop
  | none => begun context past = callsOf context (acted past)
  | some (call, code) => call ∈ begun context past ∧ ∃ todo, Stage ports call todo code ∧
      begun context past = callsOf context (acted past) ++ todo

/-- At most one configuration is in progress. -/
def Exclusive (running : Context → Task) : Prop :=
  ∀ context other, (running context).configures = true → (running other).configures = true →
    context = other

theorem Exclusive.update {running : Context → Task} (exclusive : Exclusive running) {task : Task}
    (alone : task.configures = true → ∀ other, other ≠ context →
      (running other).configures = false) :
    Exclusive (Function.update running context task) := by
  intro one another configures configures'
  by_cases same : one = context
  · by_cases same' : another = context
    · rw [same, same']
    · subst same
      rw [Function.update_self] at configures
      rw [Function.update_of_ne same', alone configures another same'] at configures'
      cases configures'
  · rw [Function.update_of_ne same] at configures
    by_cases same' : another = context
    · subst same'
      rw [Function.update_self] at configures'
      rw [alone configures' one same] at configures
      cases configures
    · rw [Function.update_of_ne same'] at configures'
      exact exclusive one another configures configures'

theorem Served.update {ports : Ports} {running : Context → Task} {task : Task}
    (here : Served past ports context task)
    (others : ∀ other, other ≠ context → Served past ports other (running other)) (any : Context) :
    Served past ports any (Function.update running context task any) := by
  by_cases same : any = context
  · subst same
    rw [Function.update_self]
    exact here
  · rw [Function.update_of_ne same]
    exact others any same

theorem Served.spared {ports ports' : Ports} {task : Task} (served : Served past ports context task)
    (unbegun : label.begun context = []) (unacted : callsOf context label.acted = [])
    (stages : ∀ call todo code, task = some (call, code) → Stage ports call todo code →
      Stage ports' call todo code) :
    Served (past ++ [label]) ports' context task := by
  cases task with
  | none =>
      rw [Served, begun_concat, acted_concat, callsOf_append, unbegun, unacted, List.append_nil,
        List.append_nil]
      exact served
  | some task =>
      obtain ⟨call, code⟩ := task
      obtain ⟨member, todo, stage, split⟩ := served
      rw [Served, begun_concat, acted_concat, callsOf_append, unbegun, unacted, List.append_nil,
        List.append_nil]
      exact ⟨member, todo, stages call todo code rfl stage, split⟩

theorem Served.begin {ports : Ports} (served : Served past ports context none)
    (pins : ∀ pin, call.pin = some pin → Held ports pin) :
    Served (past ++ [.begin context call]) ports context (some (call, call.code)) := by
  refine ⟨mem_begun.mpr (by simp), [call], stage_begin pins, ?_⟩
  have before : begun context past = callsOf context (acted past) := served
  rw [begun_concat, acted_concat, before]
  simp [Label.begun, Label.acted]

theorem Served.access {ports : Ports} {code next : Driver (Option OutputPin)} {access : Access}
    (served : Served past ports context (some (call, code)))
    (step : Program.Step code access next) (answers : ports.Answers access) :
    Effect ports call access (ports.access access) ∧
      Served (past ++ [.access context call access]) (ports.access access) context
        (some (call, next)) := by
  obtain ⟨member, todo, stage, split⟩ := served
  obtain ⟨effect, left, rfl, remaining⟩ := stage.step step answers
  refine ⟨effect, ?_, left, remaining, ?_⟩
  · rw [begun_concat]
    exact List.mem_append_left _ member
  · rw [begun_concat, acted_concat, split, callsOf_append]
    cases loud : acts access <;> simp [Label.begun, Label.acted, callsOf, loud]

theorem Served.finish {ports : Ports} {pin : Option OutputPin}
    (served : Served past ports context (some (call, .ret pin))) :
    Served (past ++ [.finish context call]) ports context none ∧
      (∀ handle ∈ pin, Held ports handle) ∧
      ∀ dio, call = .configureOutput dio → dio < 32 ∧ ports.doe.getLsbD dio = true := by
  obtain ⟨-, todo, stage, split⟩ := served
  obtain ⟨rfl, held, configured⟩ := stage.returned
  refine ⟨?_, held, configured⟩
  rw [Served, begun_concat, acted_concat, split]
  simp [Label.begun, Label.acted]

end Contexts

section Runs

variable {Context : Type} {past : List (Label Context)} {label : Label Context} {context : Context}
variable {machine machine' : Machine Context} {first : Ports}

/-- A context has written the output enables for a configuration of a pin. -/
def EnabledBy (context : Context) (dio : Nat) (past : List (Label Context)) : Prop :=
  ∃ value, .access context (.configureOutput dio) (.write (.gpio .doe) value) ∈ past

theorem enabledBy_silent {dio : Nat}
    (other : ∀ value, label ≠ .access context (.configureOutput dio) (.write (.gpio .doe) value)) :
    EnabledBy context dio (past ++ [label]) ↔ EnabledBy context dio past := by
  refine exists_congr fun value => ?_
  rw [List.mem_append, List.mem_singleton]
  exact or_iff_left (other value).symm

/-- An access enables a pin when it is the last write of a configuration of that pin. -/
theorem Effect.doe_iff {ports ports' : Ports} {call : Call} {access : Access}
    (effect : Effect ports call access ports') (dio : Nat)
    (before : ports.doe.getLsbD dio = true ↔
      first.doe.getLsbD dio = true ∨ ∃ context, EnabledBy context dio past) :
    ports'.doe.getLsbD dio = true ↔ first.doe.getLsbD dio = true ∨
      ∃ other, EnabledBy other dio (past ++ [.access context call access]) := by
  rcases effect.doe with ⟨same, other⟩ | ⟨configured, valid, rfl, ⟨value, rfl⟩, -, grown⟩
  · have silent : ∀ one value, Label.access context call access ≠
        .access one (.configureOutput dio) (.write (.gpio .doe) value) := by
      intro one value equal
      injection equal with _ _ written
      exact other value written
    simp only [enabledBy_silent (silent _)]
    rw [same]
    exact before
  · by_cases same : configured = dio
    · subst same
      have set : ports'.doe.getLsbD configured = true := by
        rw [grown, BitVec.getLsbD_or, getLsbD_bit_valid valid, decide_eq_true rfl, Bool.or_true]
      exact iff_of_true set (.inr ⟨context, value, by simp⟩)
    · have silent : ∀ one word, Label.access context (.configureOutput configured)
          (.write (.gpio .doe) value) ≠
            .access one (.configureOutput dio) (.write (.gpio .doe) word) := by
        intro one word equal
        injection equal with _ named
        exact same (Call.configureOutput.inj named)
      simp only [enabledBy_silent (silent _)]
      rw [grown, BitVec.getLsbD_or, Word.getLsbD_bit,
        decide_eq_false (fun both => same both.2.symm), Bool.or_false]
      exact before

variable [DecidableEq Context]

/-- What holds of the ports and the contexts after a run. -/
structure Standing (first : Ports) (past : List (Label Context)) (machine : Machine Context) :
    Prop where
  dout : machine.ports.dout =
    ((acted past).map Prod.snd).foldl (fun dout call => call.act dout) first.dout
  proper : ∀ call ∈ (acted past).map Prod.snd, ∀ pin, call.pin = some pin →
    ∃ dio < 32, pin = ⟨Word.bit 32 dio⟩
  doe : ∀ dio, machine.ports.doe.getLsbD dio = true ↔
    first.doe.getLsbD dio = true ∨ ∃ context, EnabledBy context dio past
  accessed : ∀ context call access, .access context call access ∈ past → .begin context call ∈ past
  configured : ∀ context dio, .finish context (.configureOutput dio) ∈ past →
    dio < 32 ∧ machine.ports.doe.getLsbD dio = true
  handles : ∀ pin ∈ machine.handles, Held machine.ports pin
  served : ∀ context, Served past machine.ports context (machine.running context)
  exclusive : Exclusive machine.running

theorem Standing.effect {call : Call} {code next : Driver (Option OutputPin)} {access : Access}
    (standing : Standing first past machine)
    (inProgress : machine.running context = some (call, code))
    (step : Program.Step code access next) (answers : machine.ports.Answers access) :
    Effect machine.ports call access (machine.ports.access access) := by
  have served := standing.served context
  rw [inProgress] at served
  exact (served.access step answers).1

theorem Standing.start (idle : Idle machine) : Standing machine.ports [] machine where
  dout := rfl
  proper _ member := by cases member
  doe _ := by simp [EnabledBy]
  accessed _ _ _ member := by cases member
  configured _ _ member := by cases member
  handles := idle.handles
  served context := by
    rw [idle.running context]
    rfl
  exclusive context _ configures := by
    rw [idle.running context] at configures
    cases configures

theorem Standing.others (standing : Standing first past machine)
    (unacted : label.acted = []) (unbegun : ∀ other, other ≠ context → label.begun other = [])
    (other : Context) (different : other ≠ context) :
    Served (past ++ [label]) machine.ports other (machine.running other) := by
  refine (standing.served other).spared (unbegun other different) ?_ fun _ _ _ _ stage => stage
  rw [unacted]
  rfl

theorem Standing.begin {call : Call} (standing : Standing first past machine)
    (idle : machine.running context = none)
    (pins : ∀ pin, call.pin = some pin → pin ∈ machine.handles)
    (alone : call.configures = true → ∀ other running code,
      machine.running other = some (running, code) → running.configures = false) :
    Standing first (past ++ [.begin context call])
      { machine with
        running := Function.update machine.running context (some (call, call.code)) } where
  dout := by
    rw [acted_silent rfl]
    exact standing.dout
  proper := by
    rw [acted_silent rfl]
    exact standing.proper
  doe dio := by
    have silent : ∀ other value, Label.begin context call ≠
        .access other (.configureOutput dio) (.write (.gpio .doe) value) :=
      fun _ _ => nofun
    simp only [enabledBy_silent (silent _)]
    exact standing.doe dio
  accessed other call access member := by
    rcases List.mem_append.mp member with member | member
    · exact List.mem_append_left _ (standing.accessed other call access member)
    · cases List.mem_singleton.mp member
  configured other dio member := by
    rcases List.mem_append.mp member with member | member
    · exact standing.configured other dio member
    · cases List.mem_singleton.mp member
  handles := standing.handles
  served := by
    have served := standing.served context
    rw [idle] at served
    refine Served.update (served.begin fun pin given => standing.handles pin (pins pin given)) ?_
    exact standing.others rfl fun other different => if_neg different.symm
  exclusive := by
    refine standing.exclusive.update fun configures other _ => ?_
    cases inProgress : machine.running other with
    | none => rfl
    | some task => exact alone configures other task.1 task.2 inProgress

theorem Standing.access {call : Call} {code next : Driver (Option OutputPin)} {access : Access}
    (standing : Standing first past machine)
    (inProgress : machine.running context = some (call, code))
    (step : Program.Step code access next) (answers : machine.ports.Answers access) :
    Standing first (past ++ [.access context call access])
      { machine with
        ports := machine.ports.access access
        running := Function.update machine.running context (some (call, next)) } := by
  have effect := standing.effect inProgress step answers
  have served := standing.served context
  rw [inProgress] at served
  refine
    { dout := ?_
      proper := ?_
      doe := fun dio => ?_
      accessed := fun other running event member => ?_
      configured := fun other dio member => ?_
      handles := fun pin member => effect.held_mono (standing.handles pin member)
      served := Served.update (served.access step answers).2 fun other different => ?_
      exclusive := standing.exclusive.update fun configures other different => ?_ }
  · rw [acted_concat, List.map_append, List.foldl_append, ← standing.dout, effect.dout]
    cases loud : acts access <;> simp [Label.acted, loud]
  · rw [acted_concat, List.map_append]
    intro other member pin given
    rcases List.mem_append.mp member with member | member
    · exact standing.proper other member pin given
    · cases loud : acts access with
      | false => simp [Label.acted, loud] at member
      | true =>
          have same : other = call := by simpa [Label.acted, loud] using member
          subst same
          obtain ⟨dio, valid, rfl, -⟩ := effect.held pin given loud
          exact ⟨dio, valid, rfl⟩
  · exact effect.doe_iff dio (standing.doe dio)
  · rcases List.mem_append.mp member with member | member
    · exact List.mem_append_left _ (standing.accessed other running event member)
    · cases List.mem_singleton.mp member
      exact List.mem_append_left _ (mem_begun.mp served.1)
  · rcases List.mem_append.mp member with member | member
    · obtain ⟨valid, set⟩ := standing.configured other dio member
      exact ⟨valid, effect.enabled set⟩
    · cases List.mem_singleton.mp member
  · refine (standing.served other).spared rfl ?_ fun running todo rest working stage => ?_
    · cases loud : acts access <;> simp [Label.acted, callsOf, loud, different.symm]
    · refine stage.spared effect fun configures => ?_
      by_contra busy
      refine different (standing.exclusive other context ?_ ?_)
      · rw [working]
        exact configures
      · rw [inProgress]
        exact eq_true_of_ne_false busy
  · have configures : call.configures = true := configures
    by_contra busy
    refine different (standing.exclusive other context (eq_true_of_ne_false busy) ?_)
    rw [inProgress]
    exact configures

theorem Standing.finish {call : Call} {pin : Option OutputPin}
    (standing : Standing first past machine)
    (inProgress : machine.running context = some (call, .ret pin)) :
    Standing first (past ++ [.finish context call])
      { machine with
        handles := machine.handles ++ pin.toList
        running := Function.update machine.running context none } := by
  have served := standing.served context
  rw [inProgress] at served
  obtain ⟨served, held, configured⟩ := served.finish
  refine
    { dout := ?_
      proper := ?_
      doe := fun dio => ?_
      accessed := fun other running event member => ?_
      configured := fun other dio member => ?_
      handles := fun handle member => ?_
      served := Served.update served (standing.others rfl fun _ _ => rfl)
      exclusive := standing.exclusive.update fun configures => by cases configures }
  · rw [acted_silent rfl]
    exact standing.dout
  · rw [acted_silent rfl]
    exact standing.proper
  · have silent : ∀ other value, Label.finish context call ≠
        .access other (.configureOutput dio) (.write (.gpio .doe) value) :=
      fun _ _ => nofun
    simp only [enabledBy_silent (silent _)]
    exact standing.doe dio
  · rcases List.mem_append.mp member with member | member
    · exact List.mem_append_left _ (standing.accessed other running event member)
    · cases List.mem_singleton.mp member
  · rcases List.mem_append.mp member with member | member
    · exact standing.configured other dio member
    · cases List.mem_singleton.mp member
      exact configured dio rfl
  · rcases List.mem_append.mp member with member | member
    · exact standing.handles handle member
    · exact held handle (Option.mem_toList.mp member)

theorem Standing.step (standing : Standing first past machine)
    (taken : Step machine label machine') : Standing first (past ++ [label]) machine' := by
  cases taken with
  | begin context call idle pins alone => exact standing.begin idle pins alone
  | access context inProgress step answers => exact standing.access inProgress step answers
  | finish context inProgress => exact standing.finish inProgress

theorem Standing.run {labels : List (Label Context)} (standing : Standing first past machine)
    (trace : Trace Step machine labels machine') : Standing first (past ++ labels) machine' :=
  trace.invariant past (Standing first)
    (fun _ _ _ _ _ standing taken => standing.step taken) standing

theorem Standing.begun_of_acted {acting : Context × Call} (standing : Standing first past machine)
    (member : acting ∈ acted past) : .begin acting.1 acting.2 ∈ past := by
  have own : acting.2 ∈ callsOf acting.1 (acted past) :=
    List.mem_map_of_mem (List.mem_filter.mpr ⟨member, by simp⟩)
  have served := standing.served acting.1
  refine mem_begun.mp ?_
  cases inProgress : machine.running acting.1 with
  | none =>
      rw [inProgress] at served
      have all : begun acting.1 past = callsOf acting.1 (acted past) := served
      rw [all]
      exact own
  | some task =>
      rw [inProgress] at served
      obtain ⟨-, todo, -, all⟩ := served
      rw [all]
      exact List.mem_append_left _ own

theorem act_toggle_toggle (pin : OutputPin) (dout : Word) :
    (Call.toggle pin).act ((Call.toggle pin).act dout) = dout := by
  simp only [Call.act, BitVec.xor_assoc, BitVec.xor_self, BitVec.xor_zero]

/-- The order in which the calls of a context acted is the order in which they were made; the
last may have yet to act. -/
theorem Standing.order (standing : Standing first past machine) (context : Context) :
    ∃ pending, begun context past = callsOf context (acted past) ++ pending ∧
      (pending = [] ∨ ∃ call code, machine.running context = some (call, code) ∧
        pending = [call]) := by
  have served := standing.served context
  cases inProgress : machine.running context with
  | none =>
      rw [inProgress] at served
      exact ⟨[], (served : begun _ _ = _).trans (List.append_nil _).symm, .inl rfl⟩
  | some task =>
      rw [inProgress] at served
      obtain ⟨call, code⟩ := task
      obtain ⟨-, todo, stage, all⟩ := served
      refine ⟨todo, all, ?_⟩
      cases stage with
      | done | lowered | routed | enabling | enabled => exact .inl rfl
      | called | refused | supplying => exact .inr ⟨_, _, rfl, rfl⟩

/-- A step disables no pin, and enables one by the last write of its configuration, its latch
being low. -/
theorem Standing.enables {dio : Nat} (standing : Standing first past machine)
    (taken : Step machine label machine') :
    (machine.ports.doe.getLsbD dio = true → machine'.ports.doe.getLsbD dio = true) ∧
      (machine.ports.doe.getLsbD dio = false → machine'.ports.doe.getLsbD dio = true →
        (∃ context value,
          label = .access context (.configureOutput dio) (.write (.gpio .doe) value)) ∧
        machine.ports.dout.getLsbD dio = false ∧ machine'.ports.dout.getLsbD dio = false) := by
  cases taken with
  | begin | finish => exact ⟨id, fun clear set => absurd set (by rw [clear]; exact nofun)⟩
  | @access context call code rest access inProgress step answers =>
      have effect := standing.effect inProgress step answers
      refine ⟨effect.enabled, fun clear set => ?_⟩
      have set : (machine.ports.access access).doe.getLsbD dio = true := set
      rcases effect.doe with ⟨same, -⟩ | ⟨configured, -, rfl, ⟨value, rfl⟩, low, grown⟩
      · rw [same, clear] at set
        cases set
      · rw [grown, BitVec.getLsbD_or, clear, Bool.false_or, Word.getLsbD_bit,
          decide_eq_true_eq] at set
        obtain ⟨-, rfl⟩ := set
        exact ⟨⟨context, value, rfl⟩, low clear, low clear⟩

/-- What a run does to the pins. -/
structure Independent (first : Machine Context) (labels : List (Label Context))
    (last : Machine Context) : Prop where
  /-- Each pin is the fold of the calls that name it. -/
  level : ∀ dio < 32, last.ports.dout.getLsbD dio =
    (((acted labels).map Prod.snd).filter (Call.names dio)).foldl
      (fun level call => call.level level) (first.ports.dout.getLsbD dio)
  order : ∀ context, ∃ pending,
    begun context labels = callsOf context (acted labels) ++ pending ∧
      (pending = [] ∨ ∃ call code, last.running context = some (call, code) ∧ pending = [call])
  unnamed : ∀ dio < 32, (∀ context call, .begin context call ∈ labels → call.names dio = false) →
    last.ports.dout.getLsbD dio = first.ports.dout.getLsbD dio ∧
      last.ports.doe.getLsbD dio = first.ports.doe.getLsbD dio
  enabled : ∀ dio, last.ports.doe.getLsbD dio = true ↔
    first.ports.doe.getLsbD dio = true ∨ ∃ context, EnabledBy context dio labels
  configured : ∀ context dio, .finish context (.configureOutput dio) ∈ labels →
    dio < 32 ∧ last.ports.doe.getLsbD dio = true
  enables : ∀ label next, Step last label next → ∀ dio,
    (last.ports.doe.getLsbD dio = true → next.ports.doe.getLsbD dio = true) ∧
      (last.ports.doe.getLsbD dio = false → next.ports.doe.getLsbD dio = true →
        (∃ context value,
          label = .access context (.configureOutput dio) (.write (.gpio .doe) value)) ∧
        last.ports.dout.getLsbD dio = false ∧ next.ports.dout.getLsbD dio = false)
  toggled : ∀ earlier later middle, labels = earlier ++ later → Trace Step first earlier middle →
    Trace Step middle later last → ∀ one other pin,
      acted later = [(one, .toggle pin), (other, .toggle pin)] →
        last.ports.dout = middle.ports.dout

theorem Standing.unnamed {labels : List (Label Context)} {dio : Nat}
    (standing : Standing first labels machine) (valid : dio < 32)
    (unnamed : ∀ context call, .begin context call ∈ labels → call.names dio = false) :
    machine.ports.dout.getLsbD dio = first.dout.getLsbD dio ∧
      machine.ports.doe.getLsbD dio = first.doe.getLsbD dio := by
  constructor
  · have none : ((acted labels).map Prod.snd).filter (Call.names dio) = [] := by
      refine List.filter_eq_nil_iff.mpr fun call member => ?_
      obtain ⟨acting, present, rfl⟩ := List.mem_map.mp member
      rw [unnamed acting.1 acting.2 (standing.begun_of_acted present)]
      exact Bool.false_ne_true
    rw [standing.dout, getLsbD_foldl_act standing.proper valid, none, List.foldl_nil]
  · rw [Bool.eq_iff_iff, standing.doe dio]
    refine or_iff_left ?_
    rintro ⟨context, value, member⟩
    have named := unnamed context _ (standing.accessed _ _ _ member)
    simp [Call.names] at named

theorem pins_independent {first last : Machine Context} {labels : List (Label Context)}
    (idle : Idle first) (trace : Trace Step first labels last) :
    Independent first labels last := by
  have standing : Standing first.ports labels last := (Standing.start idle).run trace
  refine
    { level := fun dio valid => ?_
      order := standing.order
      unnamed := fun dio => standing.unnamed
      enabled := standing.doe
      configured := standing.configured
      enables := fun label next taken dio => standing.enables taken
      toggled := ?_ }
  · rw [standing.dout, getLsbD_foldl_act standing.proper valid]
  · rintro earlier later middle rfl start - one other pin toggles
    have before : Standing first.ports earlier middle := (Standing.start idle).run start
    have split : acted (earlier ++ later) = acted earlier ++ acted later := List.flatMap_append
    rw [standing.dout, split, List.map_append, List.foldl_append, ← before.dout, toggles]
    exact act_toggle_toggle pin _

/-- One context configures pin 6, preempted by another that toggles pin 3 and sets it. -/
def overlapped : List (Label Bool) :=
  [.begin false (.configureOutput 6), .access false (.configureOutput 6) (.read (.prcm .pdctl0) 0),
    .access false (.configureOutput 6) (.write (.prcm .pdctl0) 4),
    .access false (.configureOutput 6) (.read (.prcm .pdstat0) 4),
    .access false (.configureOutput 6) (.read (.prcm .gpioclkgr) 0),
    .access false (.configureOutput 6) (.write (.prcm .gpioclkgr) 1),
    .access false (.configureOutput 6) (.write (.prcm .clkloadctl) 1),
    .access false (.configureOutput 6) (.read (.prcm .clkloadctl) 2),
    .access false (.configureOutput 6) (.write (.gpio .doutclr) 0x40),
    .begin true (.toggle ⟨8⟩), .access true (.toggle ⟨8⟩) (.write (.gpio .douttgl) 8),
    .finish true (.toggle ⟨8⟩),
    .access false (.configureOutput 6) (.write (.iocfg 6) 0xc000),
    .access false (.configureOutput 6) (.read (.gpio .doe) 8),
    .begin true (.set ⟨8⟩ true), .access true (.set ⟨8⟩ true) (.write (.gpio .doutset) 8),
    .access false (.configureOutput 6) (.write (.gpio .doe) 0x48),
    .finish false (.configureOutput 6)]

/-- Pin 6 was latched high and is low once it is enabled; pin 3 ends high. -/
theorem pins_independent_overlapped : ∃ last : Machine Bool,
    last.ports = ⟨9, 0x48⟩ ∧ last.handles = [⟨8⟩, ⟨0x40⟩] ∧
      Independent ⟨⟨0x49, 8⟩, [⟨8⟩], fun _ => none⟩ overlapped last := by
  have given {call : Call} (named : call.pin = some ⟨8⟩) :
      ∀ pin, call.pin = some pin → pin ∈ [(⟨8⟩ : OutputPin)] :=
    fun pin same => List.mem_singleton.mpr (Option.some.inj (same.symm.trans named))
  have trace : Trace Step ⟨⟨0x49, 8⟩, [⟨8⟩], fun _ => none⟩ overlapped _ :=
    .cons (.begin false (.configureOutput 6) rfl nofun
      fun _ _ _ _ impossible => (by cases impossible)) <|
    .cons (.access false rfl (.read _ _ _) trivial) <|
    .cons (.access false rfl (.write _ _ _) trivial) <|
    .cons (.access false rfl (.read _ _ _) trivial) <|
    .cons (.access false rfl (.read _ _ _) trivial) <|
    .cons (.access false rfl (.write _ _ _) trivial) <|
    .cons (.access false rfl (.write _ _ _) trivial) <|
    .cons (.access false rfl (.read _ _ _) trivial) <|
    .cons (.access false rfl (.write _ _ _) trivial) <|
    .cons (.begin true (.toggle ⟨8⟩) rfl (given rfl) nofun) <|
    .cons (.access true rfl (.write _ _ _) trivial) <| .cons (.finish true rfl) <|
    .cons (.access false rfl (.write _ _ _) trivial) <|
    .cons (.access false rfl (.read _ _ _) rfl) <|
    .cons (.begin true (.set ⟨8⟩ true) rfl (given rfl) nofun) <|
    .cons (.access true rfl (.write _ _ _) trivial) <|
    .cons (.access false rfl (.write _ _ _) trivial) <| .single (.finish false rfl)
  refine ⟨_, ?_, ?_, pins_independent ⟨fun _ => rfl, ?_⟩ trace⟩
  · rfl
  · rfl
  · intro pin member
    cases List.mem_singleton.mp member
    exact ⟨3, by decide, rfl, rfl⟩

end Runs

end DirectLine.Firmware.Outputs
