import DirectLine.Arithmetic.Checked
import DirectLine.Firmware.TimerLine.Timeouts
import DirectLine.Interaction.Script

/-!
# Requests of an interval

One call of `start_periodic_us` or `start_once_us` on a timer in any state, with
the hardware and the handler stepping between its accesses.  A register that the
handler leaves alone holds what the call has last written to it.
-/

namespace DirectLine.Firmware.TimerLine

open DirectLine.Interaction DirectLine.Arithmetic Relation

/-- The two methods that start a timer. -/
inductive Method where
  | startPeriodicUs
  | startOnceUs
  deriving DecidableEq, Repr

def Method.code (timer : Timer.Instance) (microseconds : Word) :
    Method → Driver (Except TimerError Unit)
  | .startPeriodicUs => (Timer.ofInstance timer).startPeriodicUs microseconds
  | .startOnceUs => (Timer.ofInstance timer).startOnceUs microseconds

def Method.mode : Method → Word
  | .startPeriodicUs => Timer.periodic
  | .startOnceUs => Timer.oneShot

/-- The interval is zero or exceeds 32 bits of ticks. -/
def Refused (microseconds : Word) : Prop :=
  microseconds.toNat = 0 ∨ 2 ^ 32 ≤ 48 * microseconds.toNat

section Ticks

variable {microseconds : Word}

theorem ticksFromUs_eq (microseconds : Word) :
    Timer.ticksFromUs microseconds = Checked.mul 48 microseconds := by
  rw [Timer.ticksFromUs, Nat.mul_comm]
  change (if 48 * microseconds.toNat < 2 ^ 32 then _ else _) = _
  by_cases fits : 48 * microseconds.toNat < 2 ^ 32
  · have product : (48 : Word).toNat * microseconds.toNat < 2 ^ 32 := fits
    rw [if_pos fits, Checked.mul_eq_some product]
    rfl
  · rw [if_neg fits, Checked.mul_eq_none (Nat.le_of_not_lt fits)]

theorem acceptedTicks_refused (refused : Refused microseconds) :
    Timer.acceptedTicks microseconds = none := by
  rw [Timer.acceptedTicks, ticksFromUs_eq]
  rcases refused with zero | exceeds
  · have none : microseconds = 0 := BitVec.eq_of_toNat_eq zero
    rw [none]
    rfl
  · rw [Checked.mul_eq_none exceeds]
    rfl

theorem toNat_ticks (accepted : ¬Refused microseconds) :
    (48 * microseconds).toNat = 48 * microseconds.toNat := by
  rw [BitVec.toNat_mul, show (48 : Word).toNat = 48 from rfl]
  apply Nat.mod_eq_of_lt
  apply Nat.lt_of_not_le
  exact fun exceeds => accepted (.inr exceeds)

theorem toNat_interval (accepted : ¬Refused microseconds) :
    (48 * microseconds - 1).toNat = 48 * microseconds.toNat - 1 := by
  have ticks := toNat_ticks accepted
  have positive : microseconds.toNat ≠ 0 := fun zero => accepted (.inl zero)
  have least : (1 : Word) ≤ 48 * microseconds := by
    rw [BitVec.le_def, ticks]
    change 1 ≤ 48 * microseconds.toNat
    omega
  rw [BitVec.toNat_sub_of_le least, ticks]
  rfl

theorem acceptedTicks_accepted (accepted : ¬Refused microseconds) :
    Timer.acceptedTicks microseconds = some (48 * microseconds) := by
  have fits : (48 : Word).toNat * microseconds.toNat < 2 ^ 32 :=
    Nat.lt_of_not_le fun exceeds => accepted (.inr exceeds)
  have nonzero : 48 * microseconds ≠ 0 := by
    intro zero
    have ticks := toNat_ticks accepted
    rw [zero] at ticks
    apply accepted
    left
    change 0 = 48 * microseconds.toNat at ticks
    omega
  rw [Timer.acceptedTicks, ticksFromUs_eq, Checked.mul_eq_some fits]
  exact Option.filter_some_pos (by simpa using nonzero)

end Ticks

def writes (timer : Timer.Instance) (register : Gpt) : Access → Option Word
  | .write (.gpt block target) value =>
      if block = timer.registers ∧ target = register then some value else none
  | _ => none

def written (timer : Timer.Instance) (register : Gpt) (past : List Access) : Option Word :=
  past.foldl (fun last access => (writes timer register access).or last) none

/-- A timer with the two registers that its interrupt line does not depend on. -/
structure Programmed where
  shared : Shared
  cfg : Word
  tailr : Word

namespace Programmed

def Stored (timer : Timer.Instance) (state : Programmed) (access : Access) (state' : Programmed) :
    Prop :=
  state'.cfg = (writes timer .cfg access).getD state.cfg ∧
    state'.tailr = (writes timer .tailr access).getD state.tailr

def access (timer : Timer.Instance) (state : Programmed) (access : Access)
    (state' : Programmed) : Prop :=
  state.shared.handler = none ∧ state'.shared = state.shared.after timer access ∧
    state.Stored timer access state'

def Interferes (timer : Timer.Instance) (state state' : Programmed) : Prop :=
  ∃ label, Interference timer state.shared label state'.shared ∧
    match label with
    | .handler access => state.Stored timer access state'
    | _ => state'.cfg = state.cfg ∧ state'.tailr = state.tailr

/-- The register holds a value.  One-shot timeouts clear `TAEN` on their own. -/
def Holds (state : Programmed) (value : Word) : Gpt → Prop
  | .cfg => state.cfg = value
  | .tailr => state.tailr = value
  | .tamr => state.shared.hardware.tamr = value
  | .imr => state.shared.hardware.imr = value.getLsbD 0
  | .ctl => value.getLsbD 0 = false → state.shared.hardware.taen = false
  | _ => True

end Programmed

def requesting (timer : Timer.Instance) :
    Process Register Instruction Word (Recorded Register Instruction Word Programmed)
      (Except TimerError Unit) :=
  .single (Programmed.access timer) (Programmed.Interferes timer)

section Holds

variable {timer : Timer.Instance} {state state' : Programmed} {register : Gpt} {access : Access}
variable {value : Word} {past : List Access}

theorem writes_eq_some_iff :
    writes timer register access = some value ↔
      access = .write (.gpt timer.registers register) value := by
  constructor
  · intro write
    unfold writes at write
    split at write
    · split at write
      · rename_i own
        obtain ⟨rfl, rfl⟩ := own
        cases write
        rfl
      · cases write
    · cases write
  · rintro rfl
    exact if_pos ⟨rfl, rfl⟩

theorem written_concat (past : List Access) (access : Access) :
    written timer register (past ++ [access]) =
      (writes timer register access).or (written timer register past) := by
  rw [written, List.foldl_append]
  rfl

theorem Hardware.access_unwritten (hardware : Hardware) (active : Bool)
    (unwritten : writes timer register access = none) :
    (register = .tamr → (hardware.access timer active access).tamr = hardware.tamr) ∧
    (register = .imr → (hardware.access timer active access).imr = hardware.imr) ∧
    (register = .ctl → (hardware.access timer active access).taen = hardware.taen) := by
  have elsewhere : ∀ value, access ≠ .write (.gpt timer.registers register) value := by
    intro value write
    rw [writes_eq_some_iff.mpr write] at unwritten
    cases unwritten
  rcases hardware.touches_or_access_eq timer active access with touched | untouched
  · refine ⟨?_, ?_, ?_⟩
    all_goals
      rintro rfl
      cases touched with
      | ctl value | tamr value | imr value =>
          first
          | exact absurd rfl (elsewhere value)
          | simp
      | icpr0 | nopNop =>
          simp only [access_icpr0, access_nopNop]
          split <;> rfl
      | iclr | mis | iser0 | icer0 | dsbIsb | fetchAdd => simp
  · rw [untouched]
    exact ⟨fun _ => rfl, fun _ => rfl, fun _ => rfl⟩

theorem Interference.registers {shared shared' : Shared} {label : Label}
    (step : Interference timer shared label shared') :
    (∃ access code rest, label = .handler access ∧ shared.handler = some code ∧
      Program.Step code access rest ∧
        shared'.hardware = shared.hardware.access timer true access) ∨
    (∀ access, label ≠ .handler access) ∧ shared'.hardware.tamr = shared.hardware.tamr ∧
      shared'.hardware.imr = shared.hardware.imr ∧
        (shared.hardware.taen = false → shared'.hardware.taen = false) := by
  cases step with
  | handler active code => exact .inl ⟨_, _, _, rfl, active, code, rfl⟩
  | timeout =>
      refine .inr ⟨fun _ => Label.noConfusion, rfl, rfl, ?_⟩
      intro stopped
      rw [Hardware.timeout, stopped]
      rfl
  | sample | synchronize | primask | enter | leave =>
      exact .inr ⟨fun _ => Label.noConfusion, rfl, rfl, id⟩

namespace Programmed

theorem Holds.unwritten {active : Bool} (holds : state.Holds value register)
    (unwritten : writes timer register access = none)
    (moved : state'.shared.hardware = state.shared.hardware.access timer active access)
    (stored : state.Stored timer access state') : state'.Holds value register := by
  obtain ⟨tamr, imr, ctl⟩ := state.shared.hardware.access_unwritten active unwritten
  obtain ⟨cfg, tailr⟩ := stored
  rw [← moved] at tamr imr ctl
  cases register with
  | cfg =>
      rw [unwritten] at cfg
      exact cfg.trans holds
  | tailr =>
      rw [unwritten] at tailr
      exact tailr.trans holds
  | tamr => exact (tamr rfl).trans holds
  | imr => exact (imr rfl).trans holds
  | ctl => exact fun clear => (ctl rfl).trans (holds clear)
  | iclr | mis | tav => trivial

theorem holds_written (moved : state'.shared = state.shared.after timer access)
    (stored : state.Stored timer access state')
    (write : writes timer register access = some value) : state'.Holds value register := by
  obtain ⟨cfg, tailr⟩ := stored
  have hardware := congrArg Shared.hardware moved
  rw [Shared.after, writes_eq_some_iff.mp write] at hardware
  cases register with
  | cfg =>
      rw [write] at cfg
      exact cfg
  | tailr =>
      rw [write] at tailr
      exact tailr
  | tamr | imr =>
      rw [Holds, hardware]
      simp
  | ctl =>
      intro clear
      rw [hardware]
      simpa using clear
  | iclr | mis | tav => trivial

theorem Holds.interferes (holds : state.Holds value register) (shown : register ≠ .iclr)
    (serving : Serving timer state.shared.handler) (step : state.Interferes timer state') :
    state'.Holds value register := by
  obtain ⟨label, step, stored⟩ := step
  rcases step.registers with ⟨access, code, rest, rfl, active, taken, moved⟩ |
    ⟨unhandled, tamr, imr, taen⟩
  · obtain ⟨phase, served⟩ := serving
    obtain ⟨next, -, serves⟩ := phase.step (served.symm.trans active) taken
    refine holds.unwritten ?_ moved stored
    cases serves with
    | clear => exact if_neg fun own => shown own.2.symm
    | drain | settle | count => rfl
  · have kept : state'.cfg = state.cfg ∧ state'.tailr = state.tailr := by
      cases label with
      | handler access => exact absurd rfl (unhandled access)
      | _ => exact stored
    obtain ⟨cfg, tailr⟩ := kept
    cases register with
    | cfg => exact cfg.trans holds
    | tailr => exact tailr.trans holds
    | tamr => exact tamr.trans holds
    | imr => exact imr.trans holds
    | ctl => exact fun clear => taen (holds clear)
    | iclr | mis | tav => trivial

end Programmed

/-- Every register that the handler leaves alone holds what was last written to it. -/
structure Mirrors (timer : Timer.Instance) (past : List Access) (state : Programmed) : Prop where
  serving : Serving timer state.shared.handler
  holds : ∀ register value, register ≠ .iclr → written timer register past = some value →
    state.Holds value register

namespace Mirrors

theorem start (serving : Serving timer state.shared.handler) : Mirrors timer [] state :=
  ⟨serving, nofun⟩

theorem accessed (mirrors : Mirrors timer past state) (moved : state.access timer access state') :
    Mirrors timer (past ++ [access]) state' where
  serving := by
    obtain ⟨idle, moved, -⟩ := moved
    rw [moved]
    exact mirrors.serving
  holds register value shown last := by
    obtain ⟨-, moved, stored⟩ := moved
    rw [written_concat] at last
    cases write : writes timer register access with
    | some value =>
        rw [write] at last
        cases last
        exact Programmed.holds_written moved stored write
    | none =>
        rw [write] at last
        exact (mirrors.holds register value shown last).unwritten write
          (congrArg Shared.hardware moved) stored

theorem interferes (mirrors : Mirrors timer past state) (step : state.Interferes timer state') :
    Mirrors timer past state' where
  serving := by
    obtain ⟨label, step, -⟩ := step
    exact mirrors.serving.step step
  holds register value shown last :=
    (mirrors.holds register value shown last).interferes shown mirrors.serving step

end Mirrors

theorem mirrors_reached {code : Driver (Except TimerError Unit)}
    {point : Point Register Instruction Word
      (Recorded Register Instruction Word Programmed) (Except TimerError Unit)}
    (serving : Serving timer state.shared.handler)
    (reaches : (requesting timer).Reaches ⟨code, ⟨state, []⟩⟩ point) :
    Mirrors timer point.state.past point.state.current :=
  Process.single_invariant (Mirrors timer) (fun _ _ _ _ mirrors moved => mirrors.accessed moved)
    (fun _ _ _ mirrors step => mirrors.interferes step) (.start serving) reaches

end Holds

def requestAccesses (timer : Timer.Instance) (ticks mode : Word) : List Access :=
  stopAccesses timer 0 ++ (armAccesses timer ticks mode ++
    [.write (.gpt timer.registers .ctl) 1])

section Accesses

variable {timer : Timer.Instance} {ticks mode : Word} {register : Gpt} {access : Access}
variable {done rest past : List Access}

theorem Method.code_refused {microseconds : Word} (method : Method)
    (refused : Refused microseconds) : method.code timer microseconds = .ret (.error ⟨⟩) := by
  have arms : ∀ mode, (Timer.ofInstance timer).arm microseconds mode = .ret (.error ⟨⟩) := by
    intro mode
    rw [Timer.arm, acceptedTicks_refused refused]
    rfl
  cases method with
  | startPeriodicUs => exact arms _
  | startOnceUs => exact arms _

theorem Method.code_accepted {microseconds : Word} (method : Method)
    (accepted : ¬Refused microseconds) :
    method.code timer microseconds =
      .script (.ok ()) (requestAccesses timer (48 * microseconds) method.mode) := by
  have arms : ∀ mode, (Timer.ofInstance timer).arm microseconds mode =
      .script (.ok ()) (requestAccesses timer (48 * microseconds) mode) := by
    intro mode
    rw [Timer.arm, acceptedTicks_accepted accepted]
    rfl
  cases method with
  | startPeriodicUs => exact arms _
  | startOnceUs => exact arms _

theorem writes_alike {listed : Access} (alike : listed.Alike access) :
    writes timer register access = writes timer register listed := by
  cases alike <;> rfl

theorem written_alike (alike : List.Forall₂ Event.Alike done past) :
    written timer register past = written timer register done := by
  unfold written
  generalize (none : Option Word) = last
  induction alike generalizing last with
  | nil => rfl
  | cons head _ inductionHypothesis =>
      rw [List.foldl_cons, List.foldl_cons, writes_alike head]
      exact inductionHypothesis _

theorem written_append_unwritten {earlier later : List Access}
    (unwritten : ∀ access ∈ later, writes timer register access = none) :
    written timer register (earlier ++ later) = written timer register earlier := by
  induction later using List.reverseRecOn with
  | nil => rw [List.append_nil]
  | append_singleton later access inductionHypothesis =>
      rw [← List.append_assoc, written_concat, unwritten access (by simp), Option.none_or]
      exact inductionHypothesis fun other member => unwritten other (by simp [member])

theorem not_mem_stopAccesses (configures : access ∈ armAccesses timer ticks mode) :
    access ∉ stopAccesses timer 0 := by
  simp only [armAccesses, List.mem_cons, List.not_mem_nil, or_false] at configures
  rcases configures with rfl | rfl | rfl | rfl | rfl <;> simp [stopAccesses]

theorem writes_ctl_armAccesses (configures : access ∈ armAccesses timer ticks mode) :
    writes timer .ctl access = none := by
  simp only [armAccesses, List.mem_cons, List.not_mem_nil, or_false] at configures
  rcases configures with rfl | rfl | rfl | rfl | rfl <;> simp [writes]

theorem exists_write_armAccesses (configures : access ∈ armAccesses timer ticks mode) :
    ∃ register value, access = .write register value := by
  simp only [armAccesses, List.mem_cons, List.not_mem_nil, or_false] at configures
  rcases configures with rfl | rfl | rfl | rfl | rfl <;> exact ⟨_, _, rfl⟩

theorem written_ctl_armAccesses :
    written timer .ctl (stopAccesses timer 0 ++ armAccesses timer ticks mode) = some 0 := by
  rw [written_append_unwritten fun access => writes_ctl_armAccesses]
  simp [written, stopAccesses, writes]

theorem disabled_before (split : requestAccesses timer ticks mode = done ++ access :: rest)
    (configures : access ∈ armAccesses timer ticks mode) :
    written timer .ctl done = some 0 := by
  obtain ⟨middle, rfl, tail⟩ := append_eq_append_cons split (not_mem_stopAccesses configures)
  rw [written_append_unwritten]
  · simp [written, stopAccesses, writes]
  · intro other member
    exact writes_ctl_armAccesses (mem_of_concat_eq tail member)

theorem started_after (split : requestAccesses timer ticks mode = done ++ access :: rest)
    (starting : starts timer (.access access) = true) :
    done = stopAccesses timer 0 ++ armAccesses timer ticks mode := by
  obtain ⟨value, rfl, set⟩ := starts_iff.mp starting
  have outside : .write (.gpt timer.registers .ctl) value ∉ stopAccesses timer 0 := by
    intro listed
    have clear : value = 0 := by simpa [stopAccesses] using listed
    rw [clear] at set
    cases set
  obtain ⟨middle, rfl, tail⟩ := append_eq_append_cons split outside
  have unconfigured : .write (.gpt timer.registers .ctl) value ∉ armAccesses timer ticks mode := by
    intro configures
    have unwritten := writes_ctl_armAccesses configures
    rw [writes_eq_some_iff.mpr rfl] at unwritten
    cases unwritten
  obtain ⟨rfl, -, -⟩ := eq_of_concat_eq tail unconfigured
  rfl

theorem mem_of_alike {register : Register} {value : Word}
    (alike : List.Forall₂ Event.Alike done past) (listed : .write register value ∈ done) :
    .write register value ∈ past := by
  induction alike with
  | nil => cases listed
  | cons head _ inductionHypothesis =>
      rcases List.mem_cons.mp listed with rfl | later
      · cases head
        exact List.mem_cons_self
      · exact List.mem_cons_of_mem _ (inductionHypothesis later)

theorem Mirrors.disabled {state : Programmed} (mirrors : Mirrors timer past state)
    (alike : List.Forall₂ Event.Alike done past) (clear : written timer .ctl done = some 0) :
    state.shared.hardware.taen = false :=
  mirrors.holds .ctl 0 nofun ((written_alike alike).trans clear) rfl

theorem Mirrors.requested {state : Programmed} (mirrors : Mirrors timer past state)
    (alike : List.Forall₂ Event.Alike (requestAccesses timer ticks mode) past) :
    state.cfg = 0 ∧ state.tailr = ticks - 1 ∧
      state.shared.hardware.tamr = Word.setFlag (Word.setField 0 0 2 mode) 8 true ∧
      state.shared.hardware.imr = true := by
  have holds : ∀ register value, register ≠ .iclr →
      written timer register (requestAccesses timer ticks mode) = some value →
        state.Holds value register :=
    fun register value shown last =>
      mirrors.holds register value shown ((written_alike alike).trans last)
  refine ⟨holds .cfg 0 nofun ?_, holds .tailr (ticks - 1) nofun ?_, holds .tamr _ nofun ?_,
    holds .imr 1 nofun ?_⟩
  all_goals simp [written, requestAccesses, stopAccesses, armAccesses, writes]

end Accesses

/-- A request is refused exactly when its interval is zero or too long, and then leaves the timer
to the hardware and the handler.  Any other request makes the accesses of `stop`, configures the
disabled timer, starts it, and leaves the exact interval and the mode of its method. -/
theorem requests_exact (timer : Timer.Instance) (method : Method) (microseconds : Word)
    (first : Programmed) (serving : Serving timer first.shared.handler)
    (program : Driver (Except TimerError Unit)) (state : Programmed) (past : List Access)
    (reaches : (requesting timer).Reaches ⟨method.code timer microseconds, ⟨first, []⟩⟩
      ⟨program, ⟨state, past⟩⟩) :
    (Refused microseconds →
      program = .ret (.error ⟨⟩) ∧ past = [] ∧
        ReflTransGen (Programmed.Interferes timer) first state) ∧
    (¬Refused microseconds →
      (∃ done todo, requestAccesses timer (48 * microseconds) method.mode = done ++ todo ∧
        List.Forall₂ Event.Alike done past ∧ program = .script (.ok ()) todo) ∧
      (∀ access next, Program.Step program access next →
        (access ∈ armAccesses timer (48 * microseconds) method.mode →
          state.shared.hardware.taen = false) ∧
        (starts timer (.access access) = true →
          state.shared.hardware.taen = false ∧
            ∀ configured ∈ armAccesses timer (48 * microseconds) method.mode,
              configured ∈ past)) ∧
      ∀ result, program = .ret result →
        result = .ok () ∧ state.tailr.toNat = 48 * microseconds.toNat - 1 ∧
          state.tailr.toNat + 1 = 48 * microseconds.toNat ∧ state.cfg = 0 ∧
          state.shared.hardware.mode = method.mode ∧ state.shared.hardware.imr = true) := by
  constructor
  · intro refused
    rw [method.code_refused refused] at reaches
    exact Process.single_returned reaches
  · intro accepted
    have mirrors : Mirrors timer past state := mirrors_reached serving reaches
    rw [method.code_accepted accepted] at reaches
    obtain ⟨done, todo, split, alike, rfl⟩ := (Process.single_run reaches).script
    refine ⟨⟨done, todo, split, alike, rfl⟩, ?_, ?_⟩
    · intro access next step
      obtain ⟨listed, rest, rfl, same, -⟩ := step.script
      constructor
      · intro configures
        obtain ⟨register, value, rfl⟩ := exists_write_armAccesses configures
        cases same.eq_write
        exact mirrors.disabled alike (disabled_before split configures)
      · intro starting
        obtain ⟨value, rfl, set⟩ := starts_iff.mp starting
        cases same.eq_write
        cases started_after split starting
        refine ⟨mirrors.disabled alike written_ctl_armAccesses, ?_⟩
        intro configured member
        obtain ⟨register, value, rfl⟩ := exists_write_armAccesses member
        exact mem_of_alike alike (List.mem_append_right _ member)
    · intro result returned
      obtain ⟨rfl, rfl⟩ := Program.script_eq_ret_iff.mp returned
      rw [List.append_nil] at split
      rw [← split] at alike
      obtain ⟨cfg, tailr, tamr, imr⟩ := mirrors.requested alike
      have interval : state.tailr.toNat = 48 * microseconds.toNat - 1 := by
        rw [tailr, toNat_interval accepted]
      have positive : microseconds.toNat ≠ 0 := fun zero => accepted (.inl zero)
      refine ⟨rfl, interval, ?_, cfg, ?_, imr⟩
      · omega
      · rw [Hardware.mode, tamr]
        apply field_config
        cases method with
        | startPeriodicUs => exact .inl rfl
        | startOnceUs => exact .inr rfl

def Programmed.next (timer : Timer.Instance) (state : Programmed) (access : Access) : Programmed :=
  ⟨state.shared.after timer access, (writes timer .cfg access).getD state.cfg,
    (writes timer .tailr access).getD state.tailr⟩

theorem trace_next {timer : Timer.Instance} {state : Programmed}
    (idle : state.shared.handler = none)
    (accesses : List Access) :
    Trace (Programmed.access timer) state accesses
      (accesses.foldl (Programmed.next timer) state) := by
  induction accesses generalizing state with
  | nil => exact .nil _
  | cons access accesses inductionHypothesis =>
      exact .cons ⟨idle, rfl, rfl, rfl⟩ (inductionHypothesis idle)

def expired : Programmed where
  shared := ⟨{ (default : Hardware) with
    tamr := 0x101, ris := true, imr := true, input := true, enabled := true, gate := true,
    pending := true }, none⟩
  cfg := 0
  tailr := 479

theorem requests_exact_expired :
    let state := (requestAccesses .gpt0 (48 * 1000) Timer.periodic).foldl
      (Programmed.next .gpt0) expired
    state.tailr.toNat = 48 * 1000 - 1 ∧ state.shared.hardware.mode = Timer.periodic := by
  have accepted : ¬Refused 1000 := by
    rintro (zero | exceeds)
    · exact absurd zero (by decide)
    · exact absurd exceeds (by decide)
  have run : Program.Run (Method.startPeriodicUs.code .gpt0 1000)
      (requestAccesses .gpt0 (48 * 1000) Timer.periodic) (.ret (.ok ())) := by
    rw [Method.code_accepted _ accepted]
    exact Program.run_script _ _
  have moves : Trace (Programmed.access .gpt0) expired
      (requestAccesses .gpt0 (48 * 1000) Timer.periodic) _ := trace_next rfl _
  have reaches : (requesting .gpt0).Reaches _ _ := .of_run run (Recorded.trace moves [])
  have exact := requests_exact .gpt0 .startPeriodicUs 1000 expired ⟨.idle, rfl⟩ _ _ _ reaches
  obtain ⟨-, interval, -, -, mode, -⟩ := (exact.2 accepted).2.2 _ rfl
  exact ⟨interval, mode⟩

end DirectLine.Firmware.TimerLine
