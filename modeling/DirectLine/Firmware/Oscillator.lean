import DirectLine.Firmware.Clock
import DirectLine.Interaction.Process

/-!
# The switch to the crystal

The oscillator becomes ready to switch some time after the crystal is requested,
and switches in the ROM routine.  A client may call the operations of `Clocks`
in any order; between any two accesses the oscillator may become ready.
-/

namespace DirectLine.Firmware

open DirectLine.Interaction

structure Oscillator where
  crystal : Bool
  /-- The oscillator is ready to switch. -/
  pending : Bool
  ctl0 : Word
  masked : Bool

namespace Oscillator

/-- The effect of an access.  The ROM routine completes a pending switch; nothing is known of
it otherwise. -/
def access (oscillator : Oscillator) : Access → Oscillator → Prop
  | .read (.ddi .stat0) status, oscillator' =>
      oscillator' = oscillator ∧ Word.flag status sclkHfSrc = oscillator.crystal ∧
        Word.flag status pendingSclkHfSwitching = oscillator.pending
  | .write (.ddi .ctl0Set) bits, oscillator' =>
      oscillator' = { oscillator with ctl0 := oscillator.ctl0 ||| bits }
  | .write (.ddi .ctl0Clr) bits, oscillator' =>
      oscillator' = { oscillator with ctl0 := oscillator.ctl0 &&& ~~~bits }
  | .read .primask mask, oscillator' =>
      oscillator' = oscillator ∧ Word.flag mask 0 = oscillator.masked
  | .write .primask mask, oscillator' =>
      oscillator' = { oscillator with masked := Word.flag mask 0 }
  | .act .disableInterrupts, oscillator' => oscillator' = { oscillator with masked := true }
  | .act .enableInterrupts, oscillator' => oscillator' = { oscillator with masked := false }
  | .act .hfSourceSafeSwitch, oscillator' =>
      oscillator.pending = true →
        oscillator' = { oscillator with crystal := true, pending := false }
  | _, oscillator' => oscillator' = oscillator

/-- The oscillator becomes ready after a request, and stays so until it switches. -/
def Raises (oscillator oscillator' : Oscillator) : Prop :=
  Word.flag oscillator.ctl0 sclkHfSrcSel = true ∧
    oscillator' = { oscillator with pending := true }

inductive Call where
  | requestHfCrystal
  | hfCrystalReady
  | trySwitchToHfCrystal
  deriving DecidableEq, Repr

def Call.code : Call → Driver (Option Bool)
  | .requestHfCrystal => do
      Clocks.requestHfCrystal
      return none
  | .hfCrystalReady => return some (← Clocks.hfCrystalReady)
  | .trySwitchToHfCrystal => return some (← Clocks.trySwitchToHfCrystal)

abbrev Watched := Recorded Register Instruction Word Oscillator

def switching :
    Process Register Instruction Word Watched (List (Completed Watched Call (Option Bool))) :=
  client (Recorded.device access) (Recorded.rely Raises) Call.code

def entries (past : List Access) : Nat := past.count (.act .hfSourceSafeSwitch)

/-- What holds when the ROM routine is entered. -/
structure Commits (watched : Watched) : Prop where
  masked : watched.current.masked = true
  pending : watched.current.pending = true
  inactive : watched.current.crystal = false
  first : entries watched.past = 0
  observed : ∃ earlier status later,
    watched.past = earlier ++ .read (.ddi .stat0) status :: later ∧
      Word.flag status pendingSclkHfSwitching = true ∧ Word.flag status sclkHfSrc = false ∧
      ∀ other, .read (.ddi .stat0) other ∉ later

structure Kept (watched : Watched) (access : Access) (watched' : Watched) : Prop where
  others : ∀ bit, bit ≠ sclkHfSrcSel → bit ≠ clkDcdcSrcSel →
    watched'.current.ctl0.getLsbD bit = watched.current.ctl0.getLsbD bit
  commits : access = .act .hfSourceSafeSwitch → Commits watched

/-- What holds between two calls. -/
structure Settled (start : Oscillator) (watched : Watched) : Prop where
  masked : watched.current.masked = start.masked
  entered : entries watched.past = if watched.current.crystal then 1 else 0
  source : Word.flag watched.current.ctl0 clkDcdcSrcSel = !watched.current.crystal

/-- What a call has done when it returns. -/
def Answers (before : Watched) : Call → Option Bool → Watched → Prop
  | .requestHfCrystal, _, watched => Word.flag watched.current.ctl0 sclkHfSrcSel = true
  | .hfCrystalReady, _, _ => True
  | .trySwitchToHfCrystal, result, watched =>
      result = some watched.current.crystal ∧
        (result = some false →
          ∃ status, watched.past = before.past ++ [.read (.ddi .stat0) status])

structure Boundary (start : Oscillator) (completed : List (Completed Watched Call (Option Bool)))
    (watched : Watched) : Prop where
  settled : Settled start watched
  answered : ∀ earlier last, completed = earlier ++ [last] →
    Answers last.before last.call last.result watched

abbrev guarding : Setting Register Instruction Word Watched := switching.setting Kept

def At (crystal masked : Bool) (ctl0 : Word) (past : List Access) (watched : Watched) : Prop :=
  ∃ pending, watched = ⟨⟨crystal, pending, ctl0, masked⟩, past⟩

section Calls

variable {crystal masked : Bool} {ctl0 : Word} {past : List Access} {watched : Watched}

theorem stable_at : guarding.Stable (At crystal masked ctl0 past) := by
  rintro _ ⟨current, past⟩ ⟨pending, rfl⟩ ⟨⟨-, raised⟩, same⟩
  cases raised
  cases same
  exact ⟨true, rfl⟩

theorem stable_pending :
    guarding.Stable fun watched => watched = ⟨⟨crystal, true, ctl0, masked⟩, past⟩ := by
  rintro _ ⟨current, past⟩ rfl ⟨⟨-, raised⟩, same⟩
  cases raised
  cases same
  rfl

theorem Kept.of_ctl0 {watched' : Watched} {access : Access}
    (other : access ≠ .act .hfSourceSafeSwitch)
    (same : watched'.current.ctl0 = watched.current.ctl0) : Kept watched access watched' :=
  ⟨fun _ _ _ => by rw [same], fun entry => absurd entry other⟩

theorem entries_append {access : Access} (other : access ≠ .act .hfSourceSafeSwitch) :
    entries (past ++ [access]) = entries past := by
  rw [entries, entries, List.count_append, List.count_singleton, if_neg (by simpa using other)]
  rfl

theorem entries_append_switch :
    entries (past ++ [.act .hfSourceSafeSwitch]) = entries past + 1 := by
  rw [entries, entries, List.count_append, List.count_singleton_self]

variable {start : Oscillator} {before : Watched}

theorem Settled.of_at (here : At crystal start.masked ctl0 past watched)
    (entered : entries past = if crystal then 1 else 0)
    (source : Word.flag ctl0 clkDcdcSrcSel = !crystal) : Settled start watched := by
  obtain ⟨pending, rfl⟩ := here
  exact ⟨rfl, entered, source⟩

theorem Settled.at (settled : Settled start before) :
    At before.current.crystal start.masked before.current.ctl0 before.past before :=
  ⟨before.current.pending, by rw [← settled.masked]⟩

abbrev Serves (start : Oscillator) (before : Watched) (call : Call)
    (program : Driver (Option Bool)) (watched : Watched) : Prop :=
  guarding.Meets
    (fun result watched => Settled start watched ∧ Answers before call result watched)
    (fun _ _ => False) program watched

theorem serves_requestHfCrystal (settled : Settled start before) :
    Serves start before .requestHfCrystal (Call.code .requestHfCrystal) before := by
  refine .write stable_at settled.at ?_
  rintro _ ⟨current, past⟩ ⟨pending, rfl⟩ ⟨moved, recorded⟩
  cases moved
  cases recorded
  refine ⟨⟨fun bit other _ => ?_, nofun⟩, ?_⟩
  · rw [BitVec.getLsbD_or, Word.getLsbD_bit, decide_eq_false (fun same => other same.2),
      Bool.or_false]
  · have kept : Word.flag (before.current.ctl0 ||| Word.bit 32 sclkHfSrcSel) clkDcdcSrcSel =
        Word.flag before.current.ctl0 clkDcdcSrcSel := by
      rw [Word.flag, BitVec.getLsbD_or, Word.getLsbD_bit]
      exact Bool.or_false _
    have counted : entries
        (before.past ++ [.write (.ddi .ctl0Set) (Word.bit 32 sclkHfSrcSel)]) =
          entries before.past := entries_append nofun
    refine .ret stable_at ⟨pending, rfl⟩ ?_
    rintro _ ⟨pending, rfl⟩
    refine ⟨.of_at ⟨pending, rfl⟩ (counted.trans settled.entered) (kept.trans settled.source), ?_⟩
    rw [Answers, Word.flag, BitVec.getLsbD_or, Word.getLsbD_bit]
    exact Bool.or_true _

theorem meets_status {Result : Type} {post : Result → Watched → Prop}
    {fail : String → Watched → Prop} {next : Word → Driver Result}
    (here : At crystal masked ctl0 past watched)
    (rest : ∀ status, Word.flag status sclkHfSrc = crystal →
      guarding.Meets post fail (next status)
        ⟨⟨crystal, Word.flag status pendingSclkHfSwitching, ctl0, masked⟩,
          past ++ [.read (.ddi .stat0) status]⟩) :
    guarding.Meets post fail (.read (.ddi .stat0) next) watched := by
  refine .read stable_at here ?_
  rintro _ status ⟨current, past⟩ ⟨pending, rfl⟩ ⟨⟨moved, active, shown⟩, recorded⟩
  cases moved
  cases recorded
  refine ⟨.of_ctl0 nofun rfl, ?_⟩
  have rest := rest status active
  rwa [shown] at rest

theorem settled_status {status : Word} (settled : Settled start before)
    (here : At before.current.crystal start.masked before.current.ctl0
      (before.past ++ [.read (.ddi .stat0) status]) watched) : Settled start watched := by
  have counted : entries (before.past ++ [.read (.ddi .stat0) status]) = entries before.past :=
    entries_append nofun
  exact .of_at here (counted.trans settled.entered) settled.source

theorem serves_hfCrystalReady (settled : Settled start before) :
    Serves start before .hfCrystalReady (Call.code .hfCrystalReady) before := by
  refine meets_status settled.at fun status _ => ?_
  exact .ret stable_at ⟨_, rfl⟩ fun watched here => ⟨settled_status settled here, trivial⟩

section Commit

variable {Result : Type} {post : Result → Watched → Prop} {fail : String → Watched → Prop}
variable {next : Driver Result}

theorem meets_saveAndDisable {after : Word → Driver Result}
    (rest : ∀ mask, Word.flag mask 0 = masked →
      guarding.Meets post fail (after mask)
        ⟨⟨crystal, true, ctl0, true⟩, past ++ [.read .primask mask, .act .disableInterrupts]⟩) :
    guarding.Meets post fail (.read .primask fun mask => .act .disableInterrupts (after mask))
      ⟨⟨crystal, true, ctl0, masked⟩, past⟩ := by
  refine .read stable_pending rfl ?_
  rintro _ mask ⟨current, _⟩ rfl ⟨⟨moved, saved⟩, recorded⟩
  obtain rfl : current = ⟨crystal, true, ctl0, masked⟩ := moved
  obtain rfl := recorded
  refine ⟨.of_ctl0 nofun rfl, .act stable_pending rfl ?_⟩
  rintro _ ⟨current, _⟩ rfl ⟨moved, recorded⟩
  obtain rfl : current = ⟨crystal, true, ctl0, true⟩ := moved
  obtain rfl := recorded
  have rest := rest mask saved
  rw [← List.singleton_append, ← List.append_assoc] at rest
  exact ⟨.of_ctl0 nofun rfl, rest⟩

theorem meets_hfSourceSafeSwitch
    (commits : Commits ⟨⟨crystal, true, ctl0, masked⟩, past⟩)
    (rest : guarding.Meets post fail next
      ⟨⟨true, false, ctl0, masked⟩, past ++ [.act .hfSourceSafeSwitch]⟩) :
    guarding.Meets post fail (.act .hfSourceSafeSwitch next)
      ⟨⟨crystal, true, ctl0, masked⟩, past⟩ := by
  refine .act stable_pending rfl ?_
  rintro _ ⟨current, _⟩ rfl ⟨moved, recorded⟩
  obtain rfl : current = ⟨true, false, ctl0, masked⟩ := moved rfl
  obtain rfl := recorded
  exact ⟨⟨fun _ _ _ => rfl, fun _ => commits⟩, rest⟩

theorem meets_clearBits (here : At crystal masked ctl0 past watched)
    (rest : ∀ watched,
      At crystal masked (ctl0 &&& ~~~Word.bit 32 clkDcdcSrcSel)
        (past ++ [.write (.ddi .ctl0Clr) (Word.bit 32 clkDcdcSrcSel)]) watched →
      guarding.Meets post fail next watched) :
    guarding.Meets post fail (.write (.ddi .ctl0Clr) (Word.bit 32 clkDcdcSrcSel) next)
      watched := by
  refine .write stable_at here ?_
  rintro _ ⟨current, _⟩ ⟨pending, rfl⟩ ⟨moved, recorded⟩
  obtain rfl : current = ⟨crystal, pending, ctl0 &&& ~~~Word.bit 32 clkDcdcSrcSel, masked⟩ := moved
  obtain rfl := recorded
  refine ⟨⟨fun bit _ other => ?_, nofun⟩, rest _ ⟨pending, rfl⟩⟩
  rw [BitVec.getLsbD_and, BitVec.getLsbD_not, Word.getLsbD_bit,
    decide_eq_false (fun same : bit < 32 ∧ bit = clkDcdcSrcSel => other same.2), Bool.not_false,
    Bool.and_true]
  by_cases inside : bit < 32
  · rw [decide_eq_true inside, Bool.and_true]
  · rw [BitVec.getLsbD_of_ge _ _ (Nat.le_of_not_lt inside), Bool.false_and]

theorem meets_restore {mask : Word} (here : At crystal masked ctl0 past watched)
    (rest : ∀ watched,
      At crystal (Word.flag mask 0) ctl0 (past ++ [.write .primask mask]) watched →
      guarding.Meets post fail next watched) :
    guarding.Meets post fail (.write .primask mask next) watched := by
  refine .write stable_at here ?_
  rintro _ ⟨current, _⟩ ⟨pending, rfl⟩ ⟨moved, recorded⟩
  obtain rfl : current = ⟨crystal, pending, ctl0, Word.flag mask 0⟩ := moved
  obtain rfl := recorded
  exact ⟨.of_ctl0 nofun rfl, rest _ ⟨pending, rfl⟩⟩

end Commit

/-- The critical section: the ROM routine runs masked, and the mask is restored after the DC/DC
source is released. -/
theorem serves_commit {status : Word} (settled : Settled start before)
    (inactive : before.current.crystal = false) (shown : Word.flag status sclkHfSrc = false)
    (pending : Word.flag status pendingSclkHfSwitching = true) :
    Serves start before .trySwitchToHfCrystal
      (.read .primask fun mask => .act .disableInterrupts (.act .hfSourceSafeSwitch
        (.write (.ddi .ctl0Clr) (Word.bit 32 clkDcdcSrcSel) (.write .primask mask
          (.ret (some true))))))
      ⟨⟨false, true, before.current.ctl0, start.masked⟩,
        before.past ++ [.read (.ddi .stat0) status]⟩ := by
  have entered : entries before.past = 0 := by
    rw [settled.entered, inactive]
    rfl
  refine meets_saveAndDisable fun mask saved => ?_
  have first : entries (before.past ++ [.read (.ddi .stat0) status] ++
      [.read .primask mask, .act .disableInterrupts]) = 0 := by
    simpa [entries, List.count_append] using entered
  refine meets_hfSourceSafeSwitch ⟨rfl, rfl, rfl, first, ?_⟩ ?_
  · exact ⟨before.past, status, [.read .primask mask, .act .disableInterrupts], by simp, pending,
      shown, by simp⟩
  · refine meets_clearBits ⟨_, rfl⟩ fun watched here => meets_restore here fun watched here => ?_
    rw [saved] at here
    refine .ret stable_at here ?_
    rintro _ ⟨pending, rfl⟩
    refine ⟨.of_at ⟨pending, rfl⟩ ?_ ?_, rfl, nofun⟩
    · simpa [entries, List.count_append] using entered
    · rw [Word.flag, BitVec.getLsbD_and, BitVec.getLsbD_not, Word.getLsbD_bit]
      exact Bool.and_false _

theorem serves_trySwitchToHfCrystal (settled : Settled start before) :
    Serves start before .trySwitchToHfCrystal (Call.code .trySwitchToHfCrystal) before := by
  simp only [Call.code, Clocks.trySwitchToHfCrystal, Interrupts.saveAndDisable,
    Interrupts.restore, Ddi.clearBits, Program.readReg_bind, Program.read_bind,
    Program.writeReg_bind, Program.perform_bind, Program.act_bind, Program.ret_bind,
    Program.pure_eq]
  refine meets_status settled.at fun status active => ?_
  cases shown : Word.flag status sclkHfSrc with
  | true =>
      rw [if_pos rfl]
      refine .ret stable_at ⟨_, rfl⟩ fun watched here => ⟨settled_status settled here, ?_⟩
      obtain ⟨_, rfl⟩ := here
      exact ⟨congrArg some (shown.symm.trans active), nofun⟩
  | false =>
      rw [if_neg Bool.false_ne_true]
      have inactive : before.current.crystal = false := active.symm.trans shown
      cases pending : Word.flag status pendingSclkHfSwitching with
      | false =>
          rw [Bool.not_false, if_pos rfl]
          refine .ret stable_at ⟨_, rfl⟩ fun watched here => ⟨settled_status settled here, ?_⟩
          obtain ⟨_, rfl⟩ := here
          exact ⟨congrArg some inactive.symm, fun _ => ⟨status, rfl⟩⟩
      | true =>
          rw [Bool.not_true, if_neg Bool.false_ne_true, inactive]
          exact serves_commit settled inactive shown pending

theorem serves_code (settled : Settled start before) (call : Call) :
    Serves start before call call.code before := by
  cases call with
  | requestHfCrystal => exact serves_requestHfCrystal settled
  | hfCrystalReady => exact serves_hfCrystalReady settled
  | trySwitchToHfCrystal => exact serves_trySwitchToHfCrystal settled

end Calls

section Runs

variable {start : Oscillator} {point : Point Register Instruction Word Watched
  (List (Completed Watched Call (Option Bool)))}

theorem stable_served {before : Watched} {call : Call} {result : Option Bool} :
    guarding.Stable fun watched => Settled start watched ∧ Answers before call result watched := by
  rintro ⟨current, past⟩ ⟨current', past'⟩ ⟨settled, answers⟩ ⟨⟨-, raised⟩, same⟩
  obtain rfl : current' = { current with pending := true } := raised
  obtain rfl : past' = past := same
  refine ⟨⟨settled.masked, settled.entered, settled.source⟩, ?_⟩
  cases call with
  | requestHfCrystal | hfCrystalReady | trySwitchToHfCrystal => exact answers

theorem meets_follow {completed : List (Completed Watched Call (Option Bool))}
    {before : Watched} {program : Driver (List (Completed Watched Call (Option Bool)))}
    (boundary : Boundary start completed before)
    (follows : switching.next completed before program) :
    guarding.Meets (Boundary start) (fun _ _ => False) program before := by
  obtain ⟨call, rfl⟩ := follows
  refine .bind ((serves_code boundary.settled call).mono (fun result watched served => ?_)
    fun _ _ => id)
  refine .ret stable_served served fun watched served => ⟨served.1, fun earlier last same => ?_⟩
  obtain ⟨-, same⟩ := List.append_inj' same rfl
  obtain rfl := List.singleton_injective same
  exact served.2

theorem meets_reached (inactive : start.crystal = false)
    (source : Word.flag start.ctl0 clkDcdcSrcSel = true)
    (reaches : switching.Reaches ⟨.ret [], ⟨start, []⟩⟩ point) :
    guarding.Meets (Boundary start) (fun _ _ => False) point.program point.state := by
  refine reaches.meets (fun _ _ _ => meets_follow) ?_
  have settled : Settled start ⟨start, []⟩ := by
    refine ⟨rfl, ?_, ?_⟩
    · rw [inactive]
      rfl
    · rw [source, inactive]
      rfl
  have served : Settled start ⟨start, []⟩ ∧ Answers ⟨start, []⟩ .hfCrystalReady none ⟨start, []⟩ :=
    ⟨settled, trivial⟩
  refine .ret stable_served served fun watched served => ⟨served.1, fun earlier last same => ?_⟩
  exact absurd same (by simp)

theorem kept_access (inactive : start.crystal = false)
    (source : Word.flag start.ctl0 clkDcdcSrcSel = true)
    (reaches : switching.Reaches ⟨.ret [], ⟨start, []⟩⟩ point) {event : Access}
    {next : Driver (List (Completed Watched Call (Option Bool)))} {watched : Watched}
    (taken : Program.Step point.program event next)
    (moved : switching.device point.state event watched) : Kept point.state event watched :=
  ((meets_reached inactive source reaches).access taken moved).1

theorem kept_reached (inactive : start.crystal = false)
    (source : Word.flag start.ctl0 clkDcdcSrcSel = true)
    (reaches : switching.Reaches ⟨.ret [], ⟨start, []⟩⟩ point) :
    entries point.state.past ≤ 1 ∧
      ∀ bit, bit ≠ sclkHfSrcSel → bit ≠ clkDcdcSrcSel →
        point.state.current.ctl0.getLsbD bit = start.ctl0.getLsbD bit := by
  induction reaches with
  | refl => exact ⟨Nat.zero_le 1, fun _ _ _ => rfl⟩
  | tail reaches step inductionHypothesis =>
      obtain ⟨bounded, unchanged⟩ := inductionHypothesis
      cases step with
      | @access _ _ event _ _ taken moved =>
          obtain ⟨others, commits⟩ := kept_access inactive source reaches taken moved
          refine ⟨?_, fun bit one other => (others bit one other).trans (unchanged bit one other)⟩
          rw [moved.2]
          by_cases entry : event = .act .hfSourceSafeSwitch
          · rw [entry, entries_append_switch, (commits entry).first]
          · rwa [entries_append entry]
      | relied raised =>
          obtain ⟨⟨-, raised⟩, same⟩ := raised
          rw [same, raised]
          exact ⟨bounded, unchanged⟩
      | follow => exact ⟨bounded, unchanged⟩

end Runs

/-- Whatever calls are made, whenever the oscillator becomes ready: the ROM routine is entered
once at most, masked, with a switch pending that the last status read has shown; each call
restores the mask; `trySwitchToHfCrystal` tells whether the crystal is active, and has only read
the status when it is not; and the DC/DC source is released exactly with the switch. -/
theorem switch_protocol (start : Oscillator) (inactive : start.crystal = false)
    (source : Word.flag start.ctl0 clkDcdcSrcSel = true)
    (point : Point Register Instruction Word Watched
      (List (Completed Watched Call (Option Bool))))
    (reaches : switching.Reaches ⟨.ret [], ⟨start, []⟩⟩ point) :
    entries point.state.past ≤ 1 ∧
    (∀ next, Program.Step point.program (.act .hfSourceSafeSwitch) next → Commits point.state) ∧
    (∀ bit, bit ≠ sclkHfSrcSel → bit ≠ clkDcdcSrcSel →
      point.state.current.ctl0.getLsbD bit = start.ctl0.getLsbD bit) ∧
    ∀ completed, point.program = .ret completed →
      point.state.current.masked = start.masked ∧
      (Word.flag point.state.current.ctl0 clkDcdcSrcSel = false ↔
        point.state.current.crystal = true) ∧
      ∀ earlier before result,
        completed = earlier ++ [⟨.trySwitchToHfCrystal, before, some result⟩] →
        (result = true ↔ point.state.current.crystal = true) ∧
        (result = false →
          ∃ status, point.state.past = before.past ++ [.read (.ddi .stat0) status]) := by
  obtain ⟨bounded, unchanged⟩ := kept_reached inactive source reaches
  refine ⟨bounded, fun next taken => ?_, unchanged, fun completed returned => ?_⟩
  · have moved : switching.device point.state (.act .hfSourceSafeSwitch)
        ⟨{ point.state.current with crystal := true, pending := false },
          point.state.past ++ [.act .hfSourceSafeSwitch]⟩ := ⟨fun _ => rfl, rfl⟩
    exact (kept_access inactive source reaches taken moved).commits rfl
  · have meets := meets_reached inactive source reaches
    rw [returned] at meets
    obtain ⟨settled, answered⟩ := meets.returned
    refine ⟨settled.masked, ?_, fun earlier before result last => ?_⟩
    · rw [settled.source, Bool.not_eq_false']
    · obtain ⟨same, unwritten⟩ := answered _ _ last
      rw [← Option.some.inj same]
      exact ⟨Iff.rfl, fun rejected => unwritten (congrArg some rejected)⟩

def booted : Oscillator := ⟨false, false, 0x1000000, false⟩

def switchAccesses : List Access :=
  [.read (.ddi .stat0) 1, .read .primask 0, .act .disableInterrupts, .act .hfSourceSafeSwitch,
    .write (.ddi .ctl0Clr) 0x1000000, .write .primask 0]

theorem trace_switches :
    Trace access ⟨false, true, 0x1000001, false⟩ switchAccesses ⟨true, false, 1, false⟩ :=
  .cons ⟨rfl, rfl, rfl⟩ (.cons ⟨rfl, rfl⟩ (.cons rfl (.cons (fun _ => rfl)
    (.cons rfl (.cons rfl (.nil _))))))

/-- The crystal is requested, becomes ready and is switched to. -/
theorem switch_protocol_switched :
    entries (.write (.ddi .ctl0Set) 1 :: switchAccesses) ≤ 1 ∧
      Word.flag (1 : Word) clkDcdcSrcSel = false := by
  let asked : Watched := ⟨⟨false, false, 0x1000001, false⟩, [.write (.ddi .ctl0Set) 1]⟩
  let ready : Watched := ⟨⟨false, true, 0x1000001, false⟩, [.write (.ddi .ctl0Set) 1]⟩
  let first : Completed Watched Call (Option Bool) := ⟨.requestHfCrystal, ⟨booted, []⟩, none⟩
  let second : Completed Watched Call (Option Bool) := ⟨.trySwitchToHfCrystal, ready, some true⟩
  have request : switching.Reaches
      ⟨Call.requestHfCrystal.code >>= fun result =>
        .ret ([] ++ [⟨.requestHfCrystal, ⟨booted, []⟩, result⟩]), ⟨booted, []⟩⟩
      ⟨.ret [first], asked⟩ :=
    .of_run (Program.run_replay (Call.requestHfCrystal.code >>= _) [])
      (Recorded.trace (.cons rfl (.nil _)) [])
  have switch : switching.Reaches
      ⟨Call.trySwitchToHfCrystal.code >>= fun result =>
        .ret ([first] ++ [⟨.trySwitchToHfCrystal, ready, result⟩]), ready⟩
      ⟨.ret [first, second],
        ⟨⟨true, false, 1, false⟩, .write (.ddi .ctl0Set) 1 :: switchAccesses⟩⟩ :=
    .of_run (Program.run_replay (Call.trySwitchToHfCrystal.code >>= _) [1, 0])
      (Recorded.trace trace_switches _)
  have raised : switching.Step ⟨.ret [first], asked⟩ ⟨.ret [first], ready⟩ :=
    .relied ⟨⟨show Word.flag (0x1000001 : Word) sclkHfSrcSel = true by decide, rfl⟩, rfl⟩
  have reaches := Relation.ReflTransGen.head (.follow ⟨.requestHfCrystal, rfl⟩)
    ((request.tail raised).trans (.head (.follow ⟨.trySwitchToHfCrystal, rfl⟩) switch))
  obtain ⟨bounded, -, -, returned⟩ := switch_protocol booted rfl rfl _ reaches
  obtain ⟨-, released, -⟩ := returned _ rfl
  exact ⟨bounded, released.mpr rfl⟩

end Oscillator

end DirectLine.Firmware
