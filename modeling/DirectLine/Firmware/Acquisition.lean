import DirectLine.Firmware.Device

/-!
# What has been prepared before an access

A peripheral register may be accessed once its power domain has been observed on
and its clock gate, as last written, has been loaded.  `Observed` and `Loaded`
say so of the accesses made so far.  `Progress` is the summary of them that the
contracts of the drivers run on, and `Recorded` is what a summary remembers of
the accesses it stands for.
-/

namespace DirectLine.Firmware.Acquisition

open DirectLine.Interaction

/-- A power-domain bit of `PDSTAT0` has been read as set. -/
def Observed (on : Nat) (past : List Access) : Prop :=
  ∃ value, .read (.prcm .pdstat0) value ∈ past ∧ Word.flag value on = true

/-- The last write to a clock setting has been followed by `LOAD` and an observed
`LOAD_DONE`. -/
def Loaded (setting : Prcm) (value : Word) (past : List Access) : Prop :=
  ∃ before between waiting status after,
    past = before ++ .write (.prcm setting) value :: between ++
      .write (.prcm .clkloadctl) Prcm.load :: waiting ++
      .read (.prcm .clkloadctl) status :: after ∧
    Word.flag status Prcm.loadDone = true ∧
    ∀ other, .write (.prcm setting) other ∉ between ++ waiting ++ after

/-- The two writes that give up pad and latch retention. -/
def releases : Access → Bool
  | .write .sleepctl _ => true
  | .write .ioclatch _ => true
  | _ => false

def unmasks : Access → Bool
  | .act .enableInterrupts => true
  | _ => false

def Configured (dio : Nat) (past : List Access) : Prop :=
  ∃ value, .write (.iocfg dio) value ∈ past

def Latched (dio : Nat) (past : List Access) : Prop :=
  ∃ value, (.write (.gpio .doutclr) value ∈ past ∨ .write (.gpio .doutset) value ∈ past) ∧
    Word.flag value dio = true

def reachesTimer : Access → Bool
  | .read (.gpt _ _) _ => true
  | .write (.gpt _ _) _ => true
  | _ => false

/-- The clock settings that take effect on `LOAD`. -/
def isClock : Prcm → Bool
  | .gpioclkgr | .gptclkgr | .uartclkgr | .gptclkdiv => true
  | .pdctl0 | .pdstat0 | .clkloadctl => false

/-- How far a clock setting has come since it was last written. -/
inductive Staged where
  | unwritten
  | written (value : Word)
  | requested (value : Word)
  | loaded (value : Word)
  deriving DecidableEq

namespace Staged

def request : Staged → Staged
  | .written value => .requested value
  | staged => staged

def done : Staged → Staged
  | .requested value => .loaded value
  | staged => staged

def Traced (setting : Prcm) (past : List Access) : Staged → Prop
  | .unwritten => True
  | .written value => ∃ before after, past = before ++ .write (.prcm setting) value :: after ∧
      ∀ other, .write (.prcm setting) other ∉ after
  | .requested value => ∃ before between after,
      past = before ++ .write (.prcm setting) value :: between ++
        .write (.prcm .clkloadctl) Prcm.load :: after ∧
      ∀ other, .write (.prcm setting) other ∉ between ++ after
  | .loaded value => Loaded setting value past

end Staged

structure Progress where
  observed : Nat → Bool
  staged : Prcm → Staged
  pins : Nat → Bool
  latches : Nat → Bool
  timers : Bool
  released : Bool
  unmasked : Bool

namespace Progress

def start : Progress where
  observed _ := false
  staged _ := .unwritten
  pins _ := false
  latches _ := false
  timers := false
  released := false
  unmasked := false

def after (progress : Progress) : Access → Progress
  | .read (.prcm .pdstat0) value =>
      { progress with observed := fun on => progress.observed on || Word.flag value on }
  | .read (.prcm .clkloadctl) value =>
      if Word.flag value Prcm.loadDone then
        { progress with staged := fun setting => (progress.staged setting).done }
      else progress
  | .write (.prcm .clkloadctl) value =>
      if value = Prcm.load then
        { progress with staged := fun setting => (progress.staged setting).request }
      else progress
  | .write (.prcm setting) value =>
      if isClock setting then
        { progress with staged := Function.update progress.staged setting (.written value) }
      else progress
  | .write (.iocfg dio) _ => { progress with pins := Function.update progress.pins dio true }
  | .write (.gpio .doutclr) value =>
      { progress with latches := fun dio => progress.latches dio || Word.flag value dio }
  | .write (.gpio .doutset) value =>
      { progress with latches := fun dio => progress.latches dio || Word.flag value dio }
  | .read (.gpt _ _) _ => { progress with timers := true }
  | .write (.gpt _ _) _ => { progress with timers := true }
  | .write .sleepctl _ => { progress with released := true }
  | .write .ioclatch _ => { progress with released := true }
  | .act .enableInterrupts => { progress with unmasked := true }
  | _ => progress

section After

variable (progress : Progress) (value : Word)

@[simp] theorem after_loadDone :
    progress.after (.read (.prcm .clkloadctl) value) =
      if Word.flag value Prcm.loadDone then
        { progress with staged := fun setting => (progress.staged setting).done }
      else progress := rfl

theorem after_clock {setting : Prcm} (clock : isClock setting = true) :
    progress.after (.write (.prcm setting) value) =
      { progress with staged := Function.update progress.staged setting (.written value) } := by
  cases setting <;> first | rfl | cases clock

@[simp] theorem after_iocfg (dio : Nat) :
    progress.after (.write (.iocfg dio) value) =
      { progress with pins := Function.update progress.pins dio true } := rfl

@[simp] theorem after_doutclr :
    progress.after (.write (.gpio .doutclr) value) =
      { progress with latches := fun dio => progress.latches dio || Word.flag value dio } := rfl

@[simp] theorem after_read_gpt (block : GptBlock) (register : Gpt) :
    progress.after (.read (.gpt block register) value) = { progress with timers := true } := rfl

@[simp] theorem after_write_gpt (block : GptBlock) (register : Gpt) :
    progress.after (.write (.gpt block register) value) = { progress with timers := true } := rfl

@[simp] theorem after_sleepctl :
    progress.after (.write .sleepctl value) = { progress with released := true } := rfl

@[simp] theorem after_ioclatch :
    progress.after (.write .ioclatch value) = { progress with released := true } := rfl

@[simp] theorem after_enableInterrupts :
    progress.after (.act .enableInterrupts) = { progress with unmasked := true } := rfl

inductive Records : Access → Prop where
  | pdstat0 (value : Word) : Records (.read (.prcm .pdstat0) value)
  | loadDone (value : Word) : Records (.read (.prcm .clkloadctl) value)
  | clock (setting : Prcm) (value : Word) : isClock setting = true →
      Records (.write (.prcm setting) value)
  | load : Records (.write (.prcm .clkloadctl) Prcm.load)
  | iocfg (dio : Nat) (value : Word) : Records (.write (.iocfg dio) value)
  | doutclr (value : Word) : Records (.write (.gpio .doutclr) value)
  | doutset (value : Word) : Records (.write (.gpio .doutset) value)
  | readGpt (block : GptBlock) (register : Gpt) (value : Word) :
      Records (.read (.gpt block register) value)
  | writeGpt (block : GptBlock) (register : Gpt) (value : Word) :
      Records (.write (.gpt block register) value)
  | sleepctl (value : Word) : Records (.write .sleepctl value)
  | ioclatch (value : Word) : Records (.write .ioclatch value)
  | enableInterrupts : Records (.act .enableInterrupts)

/-- An access that prepares nothing. -/
structure Ignored (access : Access) : Prop where
  after : progress.after access = progress
  unwritten : ∀ setting, isClock setting = true → ∀ value, access ≠ .write (.prcm setting) value
  timer : reachesTimer access = false
  release : releases access = false
  unmask : unmasks access = false

theorem records_or_ignored (access : Access) : Records access ∨ Ignored progress access := by
  cases access with
  | read register value =>
      cases register with
      | prcm register =>
          cases register with
          | pdstat0 => exact .inl (.pdstat0 value)
          | clkloadctl => exact .inl (.loadDone value)
          | _ => exact .inr ⟨rfl, nofun, rfl, rfl, rfl⟩
      | gpt block register => exact .inl (.readGpt block register value)
      | _ => exact .inr ⟨rfl, nofun, rfl, rfl, rfl⟩
  | write register value =>
      cases register with
      | prcm register =>
          by_cases clock : isClock register = true
          · exact .inl (.clock register value clock)
          · have unwritten : ∀ setting, isClock setting = true → ∀ other,
                (.write (.prcm register) value : Access) ≠ .write (.prcm setting) other := by
              rintro setting set other same
              cases same
              exact clock set
            cases register with
            | clkloadctl =>
                by_cases load : value = Prcm.load
                · subst load
                  exact .inl .load
                · exact .inr ⟨if_neg load, unwritten, rfl, rfl, rfl⟩
            | gpioclkgr | gptclkgr | uartclkgr | gptclkdiv => exact absurd rfl clock
            | pdctl0 | pdstat0 => exact .inr ⟨rfl, unwritten, rfl, rfl, rfl⟩
      | iocfg dio => exact .inl (.iocfg dio value)
      | gpio register =>
          cases register with
          | doutclr => exact .inl (.doutclr value)
          | doutset => exact .inl (.doutset value)
          | _ => exact .inr ⟨rfl, nofun, rfl, rfl, rfl⟩
      | gpt block register => exact .inl (.writeGpt block register value)
      | sleepctl => exact .inl (.sleepctl value)
      | ioclatch => exact .inl (.ioclatch value)
      | _ => exact .inr ⟨rfl, nofun, rfl, rfl, rfl⟩
  | act action =>
      cases action with
      | enableInterrupts => exact .inl .enableInterrupts
      | _ => exact .inr ⟨rfl, nofun, rfl, rfl, rfl⟩

end After

end Progress

section Append

variable {past : List Access} {access : Access}

theorem Observed.append {on : Nat} (observed : Observed on past) :
    Observed on (past ++ [access]) := by
  obtain ⟨value, member, set⟩ := observed
  exact ⟨value, List.mem_append_left _ member, set⟩

theorem unwritten_append {register : Register}
    (unwritten : ∀ value, .write register value ∉ past)
    (other : ∀ value, access ≠ .write register value) (value : Word) :
    .write register value ∉ past ++ [access] := by
  intro member
  rcases List.mem_append.mp member with member | member
  · exact unwritten value member
  · exact other value (List.mem_singleton.mp member).symm

theorem Staged.Traced.append {setting : Prcm} {staged : Staged}
    (traced : staged.Traced setting past)
    (unwritten : ∀ value, access ≠ .write (.prcm setting) value) :
    staged.Traced setting (past ++ [access]) := by
  cases staged with
  | unwritten => trivial
  | written value =>
      obtain ⟨before, after, rfl, last⟩ := traced
      exact ⟨before, after ++ [access], by simp, unwritten_append last unwritten⟩
  | requested value =>
      obtain ⟨before, between, after, rfl, last⟩ := traced
      refine ⟨before, between, after ++ [access], by simp, ?_⟩
      rw [← List.append_assoc]
      exact unwritten_append last unwritten
  | loaded value =>
      obtain ⟨before, between, waiting, status, after, rfl, done, last⟩ := traced
      refine ⟨before, between, waiting, status, after ++ [access], by simp, done, ?_⟩
      rw [← List.append_assoc]
      exact unwritten_append last unwritten

theorem Staged.Traced.write {setting : Prcm} (value : Word) :
    (Staged.written value).Traced setting (past ++ [.write (.prcm setting) value]) :=
  ⟨past, [], rfl, fun _ => List.not_mem_nil⟩

theorem Staged.Traced.request {setting : Prcm} {staged : Staged}
    (traced : staged.Traced setting past) (clock : isClock setting = true) :
    staged.request.Traced setting (past ++ [.write (.prcm .clkloadctl) Prcm.load]) := by
  cases staged with
  | unwritten | requested | loaded =>
      exact traced.append fun value same => by
        cases same
        cases clock
  | written value =>
      obtain ⟨before, after, rfl, last⟩ := traced
      exact ⟨before, after, [], by simp, by simpa using last⟩

theorem Staged.Traced.done {setting : Prcm} {staged : Staged} {status : Word}
    (traced : staged.Traced setting past) (done : Word.flag status Prcm.loadDone = true) :
    staged.done.Traced setting (past ++ [.read (.prcm .clkloadctl) status]) := by
  cases staged with
  | unwritten | written | loaded => exact traced.append fun value same => by cases same
  | requested value =>
      obtain ⟨before, between, after, rfl, last⟩ := traced
      exact ⟨before, between, after, status, [], by simp, done, by simpa using last⟩

end Append

theorem Configured.append {past : List Access} {access : Access} {dio : Nat}
    (configured : Configured dio past) : Configured dio (past ++ [access]) := by
  obtain ⟨value, member⟩ := configured
  exact ⟨value, List.mem_append_left _ member⟩

theorem Latched.append {past : List Access} {access : Access} {dio : Nat}
    (latched : Latched dio past) : Latched dio (past ++ [access]) := by
  obtain ⟨value, member, set⟩ := latched
  exact ⟨value, member.imp (List.mem_append_left _) (List.mem_append_left _), set⟩

structure Recorded (past : List Access) (progress : Progress) : Prop where
  observed : ∀ on, progress.observed on = true → Observed on past
  staged : ∀ setting, isClock setting = true → (progress.staged setting).Traced setting past
  pins : ∀ dio, progress.pins dio = true → Configured dio past
  latches : ∀ dio, progress.latches dio = true → Latched dio past
  timers : progress.timers = past.any reachesTimer
  released : progress.released = past.any releases
  unmasked : progress.unmasked = past.any unmasks

namespace Recorded

variable {past : List Access} {progress : Progress}

theorem start : Recorded [] Progress.start :=
  ⟨nofun, fun _ _ => trivial, nofun, nofun, rfl, rfl, rfl⟩

/-- An access that is no write to a clock setting, before what it newly prepares. -/
theorem keep (recorded : Recorded past progress) (access : Access)
    (unwritten : ∀ setting, isClock setting = true → ∀ value,
      access ≠ .write (.prcm setting) value) :
    Recorded (past ++ [access])
      { progress with
        timers := progress.timers || reachesTimer access
        released := progress.released || releases access
        unmasked := progress.unmasked || unmasks access } where
  observed on set := (recorded.observed on set).append
  staged setting clock := (recorded.staged setting clock).append (unwritten setting clock)
  pins dio set := (recorded.pins dio set).append
  latches dio set := (recorded.latches dio set).append
  timers := by simp [recorded.timers]
  released := by simp [recorded.released]
  unmasked := by simp [recorded.unmasked]

theorem plain (recorded : Recorded past progress) (access : Access)
    (unwritten : ∀ setting, isClock setting = true → ∀ value,
      access ≠ .write (.prcm setting) value)
    (timer : reachesTimer access = false) (release : releases access = false)
    (unmask : unmasks access = false) : Recorded (past ++ [access]) progress := by
  have kept := recorded.keep access unwritten
  simpa only [timer, release, unmask, Bool.or_false] using kept

theorem mark (recorded : Recorded past progress) (access : Access)
    (unwritten : ∀ setting, isClock setting = true → ∀ value,
      access ≠ .write (.prcm setting) value)
    (marked : progress.after access =
      { progress with
        timers := progress.timers || reachesTimer access
        released := progress.released || releases access
        unmasked := progress.unmasked || unmasks access }) :
    Recorded (past ++ [access]) (progress.after access) := by
  rw [marked]
  exact recorded.keep access unwritten

theorem clock (recorded : Recorded past progress) {setting : Prcm}
    (clock : isClock setting = true) (value : Word) :
    Recorded (past ++ [.write (.prcm setting) value])
      { progress with staged := Function.update progress.staged setting (.written value) } where
  observed on set := (recorded.observed on set).append
  staged other otherClock := by
    by_cases same : other = setting
    · subst same
      simp only [Function.update_self]
      exact .write value
    · simp only [Function.update_of_ne same]
      exact (recorded.staged other otherClock).append fun _ written => same (by cases written; rfl)
  pins dio set := (recorded.pins dio set).append
  latches dio set := (recorded.latches dio set).append
  timers := by simp [recorded.timers, reachesTimer]
  released := by simp [recorded.released, releases]
  unmasked := by simp [recorded.unmasked, unmasks]

theorem latched (recorded : Recorded past progress) {register : Gpio} (value : Word)
    (output : register = .doutclr ∨ register = .doutset) :
    Recorded (past ++ [.write (.gpio register) value])
      { progress with latches := fun dio => progress.latches dio || Word.flag value dio } := by
  have kept := recorded.plain (.write (.gpio register) value) nofun rfl rfl rfl
  refine { kept with latches := fun dio set => ?_ }
  rcases Bool.or_eq_true_iff.mp set with set | set
  · exact kept.latches dio set
  · refine ⟨value, ?_, set⟩
    rcases output with rfl | rfl
    · exact .inl (by simp)
    · exact .inr (by simp)

theorem after (recorded : Recorded past progress) (access : Access) :
    Recorded (past ++ [access]) (progress.after access) := by
  rcases progress.records_or_ignored access with records | ignored
  · cases records with
    | clock setting value clock =>
        rw [Progress.after_clock progress value clock]
        exact recorded.clock clock value
    | doutclr value => exact recorded.latched value (.inl rfl)
    | doutset value => exact recorded.latched value (.inr rfl)
    | pdstat0 value =>
        have kept := recorded.plain (.read (.prcm .pdstat0) value) nofun rfl rfl rfl
        refine { kept with observed := fun on set => ?_ }
        rcases Bool.or_eq_true_iff.mp set with set | set
        · exact kept.observed on set
        · exact ⟨value, by simp, set⟩
    | loadDone status =>
        have kept := recorded.plain (.read (.prcm .clkloadctl) status) nofun rfl rfl rfl
        rw [Progress.after_loadDone]
        split
        · rename_i done
          exact { kept with
            staged := fun setting clock => (recorded.staged setting clock).done done }
        · exact kept
    | load =>
        have unwritten : ∀ setting, isClock setting = true → ∀ value,
            (.write (.prcm .clkloadctl) Prcm.load : Access) ≠ .write (.prcm setting) value := by
          intro setting clock value same
          cases same
          cases clock
        have kept := recorded.plain (.write (.prcm .clkloadctl) Prcm.load) unwritten rfl rfl rfl
        exact { kept with
          staged := fun setting clock => (recorded.staged setting clock).request clock }
    | iocfg dio value =>
        have kept := recorded.plain (.write (.iocfg dio) value) nofun rfl rfl rfl
        refine { kept with pins := fun other set => ?_ }
        by_cases same : other = dio
        · subst same
          exact ⟨value, by simp⟩
        · rw [Progress.after_iocfg] at set
          simp only [Function.update_of_ne same] at set
          exact kept.pins other set
    | readGpt | writeGpt | sleepctl | ioclatch | enableInterrupts =>
        apply recorded.mark
        · exact nofun
        · simp [reachesTimer, releases, unmasks]
  · rw [ignored.after]
    exact recorded.plain access ignored.unwritten ignored.timer ignored.release ignored.unmask

end Recorded

end DirectLine.Firmware.Acquisition
