import DirectLine.Firmware.Bringup.Contracts

/-!
# Runs of startup

A failed check stops startup within four reads.  Otherwise every access comes
after what it has to wait for, and what returns is what `main` needs.
-/

namespace DirectLine.Firmware.Bringup

open DirectLine.Interaction

theorem Chip.follows_write (chip : Chip) (register : Register) (value : Word) :
    ∃ chip', chip.access (.write register value) chip' := by
  cases register with
  | ddi register => cases register <;> exact ⟨_, rfl⟩
  | aonPmctl register => cases register <;> exact ⟨_, rfl⟩
  | aonRtc register => cases register <;> exact ⟨_, rfl⟩
  | auxSysif register => cases register <;> exact ⟨_, rfl⟩
  | nvic register => cases register <;> exact ⟨_, rfl⟩
  | _ => exact ⟨_, rfl⟩

theorem Chip.follows_act (chip : Chip) (action : Instruction) :
    ∃ chip', chip.access (.act action) chip' := by
  cases action with
  | setupTrimDevice => exact ⟨chip, trivial⟩
  | _ => exact ⟨_, rfl⟩

theorem Startup.follows {startup : Startup} {access : Access}
    (follows : ∃ chip', startup.chip.access access chip') :
    ∃ startup', startup.device access startup' := by
  obtain ⟨chip', moved⟩ := follows
  let trimmed := if access = .act .setupTrimDevice then some chip' else startup.trimmed
  exact ⟨⟨chip', startup.past ++ [access], trimmed⟩, moved, rfl, rfl⟩

section Runs

variable {chip : Chip} {point : Point Register Instruction Word Startup Unit}

theorem meets_reached
    (reaches : starting.Reaches ⟨Setup.initializeSetup, .reset chip⟩ point) :
    (bringing chip.words).Meets (fun _ startup => ∃ left, Brought startup left)
      (Stopped chip.words) point.program point.state :=
  reaches.meets (fun _ _ _ _ => False.elim) (meets_initializeSetup ⟨rfl, rfl, rfl⟩)

theorem due_access (reaches : starting.Reaches ⟨Setup.initializeSetup, .reset chip⟩ point)
    {access : Access} {next : Driver Unit} {startup : Startup}
    (taken : Program.Step point.program access next)
    (moved : starting.device point.state access startup) : Due chip.words point.state access :=
  ((meets_reached reaches).access taken moved).1

abbrev Uncut {Result : Type} (program : Driver Result) : Prop :=
  program.Confined (fun _ => True) fun _ => True

section Uncut

variable {Result : Type}

theorem uncut_read {register : Register} {next : Word → Driver Result}
    (rest : ∀ value, Uncut (next value)) : Uncut (.read register next) :=
  fun value => ⟨trivial, rest value⟩

theorem uncut_write {register : Register} {value : Word} {next : Driver Result}
    (rest : Uncut next) : Uncut (.write register value next) :=
  ⟨trivial, rest⟩

theorem uncut_act {action : Instruction} {next : Driver Result} (rest : Uncut next) :
    Uncut (.act action next) :=
  ⟨trivial, rest⟩

theorem uncut_waitFor {register : Register} {ready : Word → Bool} {iterations : Nat}
    {after : Unit → Driver Result} (rest : Uncut (after ())) :
    Uncut (waitFor (.read register fun value => .ret (ready value)) iterations >>= after) := by
  have uncut : Uncut (.read register fun value => .ret (ready value)) :=
    uncut_read fun _ => trivial
  exact .bind (confined_waitFor uncut trivial iterations) fun _ => rest

theorem uncut_assert {condition : Bool} {message : String} {after : Unit → Driver Result}
    (rest : Uncut (after ())) : Uncut (Program.assert condition message >>= after) :=
  .bind (.assert condition trivial) fun _ => rest

end Uncut

theorem uncut_initializeRtc : Uncut Rtc.initializeRtc := by
  simp only [Rtc.initializeRtc, Rtc.sync, Rtc.acknowledged, Program.readReg_bind,
    Program.read_bind, Program.ret_bind, Program.pure_eq, Program.writeReg_bind]
  exact uncut_write <| uncut_read fun _ => uncut_write <| uncut_write <| uncut_write <|
    uncut_waitFor <| uncut_write <| uncut_waitFor <| uncut_write <| uncut_read fun _ =>
    uncut_waitFor <| uncut_write <| uncut_write <| uncut_read fun _ => uncut_write <|
    uncut_write <| uncut_read fun _ => trivial

theorem uncut_initializeSetup : Uncut Setup.initializeSetup := by
  simp only [Setup.initializeSetup, Clock.validateConfiguration, Clock.finishLfStartup,
    Clock.enableClockLossReset, Ddi.setBits, Rtc.sync, bind_assoc, Program.readReg_bind,
    Program.read_bind, Program.write_bind, Program.perform_bind, Program.ret_bind,
    Program.pure_eq, Program.writeReg_bind]
  exact uncut_read fun _ => uncut_read fun _ => uncut_assert <| uncut_assert <|
    uncut_read fun _ => uncut_assert <| uncut_assert <| uncut_read fun _ => uncut_assert <|
    uncut_act <| uncut_waitFor <| uncut_write <| uncut_write <| uncut_read fun _ =>
    uncut_write <| uncut_read fun _ => uncut_initializeRtc

theorem uncut_reached
    (reaches : starting.Reaches ⟨Setup.initializeSetup, .reset chip⟩ point) :
    Uncut point.program := by
  induction reaches with
  | refl => exact uncut_initializeSetup
  | tail _ step inductionHypothesis =>
      cases step with
      | access taken => exact (inductionHypothesis.step taken).2
      | relied => exact inductionHypothesis
      | follow next => exact next.elim

/-- A failed check leaves startup with nothing but reads. -/
theorem refused_reached (refused : ¬chip.words.Accepted)
    (reaches : starting.Reaches ⟨Setup.initializeSetup, .reset chip⟩ point) :
    point.state.trimmed = none ∧ point.state.past.length ≤ 4 ∧
      ∀ access ∈ point.state.past, ∃ register value, access = .read register value := by
  induction reaches with
  | refl => exact ⟨rfl, Nat.zero_le 4, nofun⟩
  | tail reaches step inductionHypothesis =>
      obtain ⟨untrimmed, brief, reads⟩ := inductionHypothesis
      cases step with
      | @access _ _ access _ _ taken moved =>
          have due := due_access reaches taken moved
          obtain ⟨-, past, kept⟩ := moved
          cases access with
          | read register value =>
              refine ⟨kept.trans untrimmed, ?_, ?_⟩
              · have few := due.brief register value rfl untrimmed
                rw [past, List.length_append, List.length_singleton]
                exact few
              · rw [past]
                intro access member
                rcases List.mem_append.mp member with member | member
                · exact reads access member
                · exact ⟨register, value, List.mem_singleton.mp member⟩
          | write register value =>
              have some := due.written register value rfl
              rw [untrimmed] at some
              cases some
          | act action => exact absurd (due.checked action rfl) refused
      | relied step =>
          obtain ⟨-, past, kept⟩ := step
          rw [past]
          exact ⟨kept.trans untrimmed, brief, reads⟩
      | follow next => exact next.elim

theorem refused_left (refused : ¬chip.words.Accepted)
    (reaches : starting.Reaches ⟨Setup.initializeSetup, .reset chip⟩ point) :
    (∃ register next, point.program = .read register next) ∨
      ∃ message, point.program = .panic message := by
  have untrimmed := (refused_reached refused reaches).1
  have uncut := uncut_reached reaches
  have meets := meets_reached reaches
  obtain ⟨program, startup⟩ := point
  cases program with
  | ret result =>
      obtain ⟨left, brought⟩ := meets.returned
      rw [brought.trimmed] at untrimmed
      cases untrimmed
  | panic message => exact .inr ⟨message, rfl⟩
  | exhausted => exact uncut.elim
  | read register next => exact .inl ⟨register, next, rfl⟩
  | write register value next =>
      obtain ⟨_, moved⟩ := Startup.follows (startup.chip.follows_write register value)
      have some := (due_access reaches (.write register value next) moved).written _ _ rfl
      rw [untrimmed] at some
      cases some
  | act action next =>
      obtain ⟨_, moved⟩ := Startup.follows (startup.chip.follows_act action)
      exact absurd ((due_access reaches (.act action next) moved).checked _ rfl) refused

end Runs

/-- Startup panics within four reads when a check fails.  Every access comes after what it has to
wait for, whatever the vendor's setup left behind and however the handshakes are answered; what
returns is what `main` needs; and after the checks only an exhausted handshake can stop it. -/
theorem startup_gate (chip : Chip) (point : Point Register Instruction Word Startup Unit)
    (reaches : starting.Reaches ⟨Setup.initializeSetup, .reset chip⟩ point) :
    (¬chip.words.Accepted →
      (∀ access ∈ point.state.past, ∃ register value, access = .read register value) ∧
      point.state.past.length ≤ 4 ∧
      ((∃ register next, point.program = .read register next) ∨
        ∃ message, point.program = .panic message)) ∧
    (∀ access next startup, Program.Step point.program access next →
      point.state.device access startup → Due chip.words point.state access) ∧
    (point.program = .ret () → ∃ left, Brought point.state left) ∧
    ∀ message, point.program = .panic message → Stopped chip.words message point.state := by
  have meets := meets_reached reaches
  refine ⟨fun refused => ?_, fun _ _ _ => due_access reaches, fun returned => ?_,
    fun message stopped => ?_⟩
  · obtain ⟨-, brief, reads⟩ := refused_reached refused reaches
    exact ⟨reads, brief, refused_left refused reaches⟩
  · rw [returned] at meets
    exact meets.returned
  · rw [stopped] at meets
    exact meets _ .refl

def delivered : Chip where
  words := ⟨0xbb78000, 0x2800000, 0x880000, 0⟩
  ctl0 := 0
  resetctl := 0xe0
  rtcCtl := 0
  chctl := 0
  evflags := 0
  pending := false
  subsecinc0 := 0
  subsecinc1 := 0

def trimmed : Chip :=
  { delivered with
    ctl0 := 0x1000000
    resetctl := 0xc0
    rtcCtl := 1
    chctl := 0x101
    evflags := 0x100
    pending := true }

def resetting : Chip :=
  { trimmed with
    ctl0 := 0x31000200
    resetctl := 0xe0
    rtcCtl := 0x80
    subsecinc1 := 0x80 }

def brought : Chip :=
  { resetting with
    rtcCtl := 1
    chctl := 0
    evflags := 0
    pending := false }

def checks : List Access :=
  [.read (.configuration .icepickDeviceId) 0xbb78000, .read (.configuration .userId) 0x2800000,
    .read (.configuration .modeConf) 0x880000, .read (.aonPmctl .pwrctl) 0]

def installs : List Access :=
  [.read (.ddi .stat0) 0x60000000, .write (.ddi .ctl0Set) 0x30000000,
    .write (.ddi .ctl0Set) 0x200, .read (.aonPmctl .resetctl) 0xc0,
    .write (.aonPmctl .resetctl) 0xe0, .read (.aonRtc .sync) 0, .write (.aonRtc .ctl) 0,
    .read (.aonRtc .sync) 0, .write (.auxSysif .rtcsubsecinc0) 0,
    .write (.auxSysif .rtcsubsecinc1) 0x80, .write (.auxSysif .rtcsubsecincctl) 1,
    .read (.auxSysif .rtcsubsecincctl) 3, .write (.auxSysif .rtcsubsecincctl) 0,
    .read (.auxSysif .rtcsubsecincctl) 0, .write (.aonRtc .ctl) 0x80, .read (.aonRtc .sync) 0]

def restarts : List Access :=
  [.read (.aonRtc .ctl) 0, .write (.aonRtc .chctl) 0, .write (.aonRtc .evflags) 0x10101,
    .read (.aonRtc .sync) 0, .write (.nvic .icpr0) 0x10, .write (.aonRtc .ctl) 1,
    .read (.aonRtc .sync) 0]

/-- Accesses other than the vendor's setup keep what it left. -/
theorem trace_startup {chip chip' : Chip} {events : List Access} (past : List Access)
    (left : Option Chip) (others : .act .setupTrimDevice ∉ events)
    (moves : Trace Chip.access chip events chip') :
    Trace Startup.device ⟨chip, past, left⟩ events ⟨chip', past ++ events, left⟩ := by
  induction moves generalizing past with
  | nil =>
      rw [List.append_nil]
      exact .nil _
  | @cons chip middle _ event events moved _ inductionHypothesis =>
      obtain ⟨other, others⟩ := not_or.mp (fun member => others (List.mem_cons.mpr member))
      have rest := inductionHypothesis (past ++ [event]) others
      rw [List.append_assoc, List.singleton_append] at rest
      have step : Startup.device ⟨chip, past, left⟩ event ⟨middle, past ++ [event], left⟩ :=
        ⟨moved, rfl, (if_neg (Ne.symm other)).symm⟩
      exact .cons step rest

theorem trace_checks : Trace Chip.access delivered checks delivered :=
  .cons ⟨rfl, rfl⟩ (.cons ⟨rfl, rfl⟩ (.cons ⟨rfl, rfl⟩ (.cons ⟨rfl, rfl⟩ (.nil _))))

theorem trace_installs : Trace Chip.access trimmed installs resetting :=
  .cons rfl (.cons rfl (.cons rfl (.cons ⟨rfl, rfl⟩ (.cons rfl (.cons rfl (.cons rfl (.cons rfl
    (.cons rfl (.cons rfl (.cons rfl (.cons rfl (.cons rfl (.cons rfl (.cons rfl (.cons rfl
      (.nil _))))))))))))))))

theorem trace_restarts : Trace Chip.access { resetting with rtcCtl := 0 } restarts brought :=
  .cons ⟨rfl, rfl⟩ (.cons rfl (.cons rfl (.cons rfl (.cons rfl (.cons rfl (.cons rfl (.nil _)))))))

set_option maxRecDepth 4000 in
/-- A run that returns. -/
theorem startup_gate_brought :
    ∃ left, Brought ⟨brought, checks ++ .act .setupTrimDevice :: installs ++ restarts, some trimmed⟩
      left := by
  have begun : Trace Startup.device (.reset delivered)
      (checks ++ .act .setupTrimDevice :: installs)
      ⟨resetting, checks ++ .act .setupTrimDevice :: installs, some trimmed⟩ := by
    have setup : Startup.device ⟨delivered, checks, none⟩ (.act .setupTrimDevice)
        ⟨trimmed, checks ++ [.act .setupTrimDevice], some trimmed⟩ := ⟨trivial, rfl, rfl⟩
    exact (trace_startup [] none (by decide) trace_checks).append
      (.cons setup (trace_startup _ (some trimmed) (by decide) trace_installs))
  let middle := (Setup.initializeSetup.replay
    [0xbb78000, 0x2800000, 0x880000, 0, 0x60000000, 0xc0, 0, 0, 3, 0, 0]).2
  have first : starting.Reaches ⟨Setup.initializeSetup, .reset delivered⟩ ⟨middle, _⟩ :=
    .of_run (Program.run_replay Setup.initializeSetup
      [0xbb78000, 0x2800000, 0x880000, 0, 0x60000000, 0xc0, 0, 0, 3, 0, 0]) begun
  have cleared : starting.rely
      ⟨resetting, checks ++ .act .setupTrimDevice :: installs, some trimmed⟩
      ⟨{ resetting with rtcCtl := 0 }, checks ++ .act .setupTrimDevice :: installs,
        some trimmed⟩ := ⟨.reset, rfl, rfl⟩
  have last : starting.Reaches ⟨middle, _⟩ ⟨.ret (), _⟩ :=
    .of_run (Program.run_replay middle [0, 0, 0])
      (trace_startup (checks ++ .act .setupTrimDevice :: installs) (some trimmed) (by decide)
        trace_restarts)
  obtain ⟨-, -, returned, -⟩ := startup_gate delivered _ ((first.tail (.relied cleared)).trans last)
  exact returned rfl

end DirectLine.Firmware.Bringup
