import DirectLine.Firmware.Bringup

/-!
# Contracts of startup

What each step of startup needs and leaves behind, up to what `main` gets.
-/

namespace DirectLine.Firmware.Bringup

open DirectLine.Interaction

/-- Startup stops before the vendor's setup when a check fails, and after it when a handshake
is exhausted. -/
def Stopped (words : Words) (message : String) (startup : Startup) : Prop :=
  (startup.trimmed = none ∧ ¬words.Accepted) ∨
    (startup.trimmed.isSome = true ∧ message = "hardware handshake iteration budget exhausted")

abbrev bringing (words : Words) : Setting Register Instruction Word Startup :=
  starting.setting fun startup access _ => Due words startup access

structure Checking (words : Words) (reads : Nat) (startup : Startup) : Prop where
  trimmed : startup.trimmed = none
  reads : startup.past.length = reads
  words : startup.chip.words = words

section Contracts

variable {Result : Type} {words : Words} {reads level : Nat} {startup : Startup}
variable {left : Chip} {ctl0 resetctl : Word} {passed : List Access}
variable {post : Result → Startup → Prop}

theorem stable_checking : (bringing words).Stable (Checking words reads) := by
  rintro startup startup' ⟨trimmed, reads, same⟩ ⟨moves, past, kept⟩
  exact ⟨kept.trans trimmed, by rw [past, reads], moves.keeps.1.trans same⟩

theorem stable_stage : (bringing words).Stable (Stage left ctl0 resetctl passed level) := by
  rintro startup startup' ⟨trimmed, source, losses, passed, configured⟩ ⟨moves, past, kept⟩
  obtain ⟨-, ctl0, resetctl⟩ := moves.keeps
  exact ⟨kept.trans trimmed, ctl0.trans source, resetctl.trans losses, past ▸ passed,
    configured.moves moves⟩

theorem meets_check {register : Register} {next : Word → Driver Result} (word : Words → Word)
    (here : Checking words reads startup) (few : reads < 4)
    (answers : ∀ chip value chip', Chip.access chip (.read register value) chip' →
      chip' = chip ∧ value = word chip.words)
    (rest : ∀ startup, Checking words (reads + 1) startup →
      (bringing words).Meets post (Stopped words) (next (word words)) startup) :
    (bringing words).Meets post (Stopped words) (.read register next) startup := by
  refine .read stable_checking here fun startup value startup' here moved => ?_
  obtain ⟨moved, past, trimmed⟩ := moved
  obtain ⟨same, rfl⟩ := answers _ _ _ moved
  refine ⟨⟨nofun, nofun, fun _ _ _ _ => here.reads ▸ few, nofun, nofun, nofun⟩, ?_⟩
  rw [here.words]
  refine rest startup' ⟨trimmed.trans here.trimmed, ?_, by rw [same, here.words]⟩
  rw [past, List.length_append, here.reads, List.length_singleton]

theorem meets_refused {condition : Bool} {message : String} {next : Driver Result}
    (here : Checking words reads startup) (needs : words.Accepted → condition = true)
    (rest : condition = true → (bringing words).Meets post (Stopped words) next startup) :
    (bringing words).Meets post (Stopped words)
      (Program.assert condition message >>= fun _ => next) startup := by
  cases passes : condition with
  | true => exact rest passes
  | false =>
      refine fun startup' steps => .inl ⟨(stable_checking.closure here steps).trimmed, ?_⟩
      intro accepted
      exact absurd (passes.symm.trans (needs accepted)) Bool.false_ne_true

theorem Stage.after {access : Access} {startup' : Startup} {passed' : List Access} {level' : Nat}
    {ctl0' resetctl' : Word} (stage : Stage left ctl0 resetctl passed level startup)
    (moved : startup.device access startup') (other : access ≠ .act .setupTrimDevice)
    (sources : startup'.chip.ctl0 = ctl0') (losses : startup'.chip.resetctl = resetctl')
    (passes : passed'.Sublist (passed ++ [access]))
    (configured : Configured level' startup'.chip) :
    Stage left ctl0' resetctl' passed' level' startup' := by
  obtain ⟨-, past, kept⟩ := moved
  rw [if_neg other] at kept
  refine ⟨kept.trans stage.trimmed, sources, losses, ?_, configured⟩
  rw [past]
  exact passes.trans (stage.passed.append (.refl _))

theorem Stage.after_read {register : Register} {value : Word} {startup' : Startup}
    {passed' : List Access} (stage : Stage left ctl0 resetctl passed level startup)
    (moved : startup.device (.read register value) startup')
    (same : startup'.chip = startup.chip)
    (passes : passed'.Sublist (passed ++ [.read register value])) :
    Stage left ctl0 resetctl passed' level startup' := by
  refine stage.after moved nofun ?_ ?_ passes ?_
  · rw [same, stage.ctl0]
  · rw [same, stage.resetctl]
  · rw [same]
    exact stage.configured

/-- After the vendor's setup only the clock sources and the epoch have to wait. -/
theorem Due.of_stage {access : Access} (stage : Stage left ctl0 resetctl passed level startup)
    (acts : ∀ action, access ≠ .act action)
    (sources : ∀ bits, access = .write (.ddi .ctl0Set) bits → Selected passed)
    (losses : ∀ value, access = .write (.aonPmctl .resetctl) value → Selected passed)
    (epoch : ∀ value, access = .write (.aonRtc .ctl) value → Word.flag value Rtc.reset = true →
      Installed passed) : Due words startup access where
  written _ _ _ := by rw [stage.trimmed]; rfl
  checked action same := absurd same (acts action)
  brief _ _ _ none := by rw [stage.trimmed] at none; cases none
  sources bits same := (sources bits same).mono stage.passed
  losses value same := (losses value same).mono stage.passed
  epoch value same resets := (epoch value same resets).mono stage.passed

/-- Only the oscillators and power management change the clock sources. -/
theorem write_keeps {register : Register} {value : Word} {chip chip' : Chip}
    (clocks : ∀ ddi, register ≠ .ddi ddi) (losses : ∀ pmctl, register ≠ .aonPmctl pmctl)
    (moved : chip.access (.write register value) chip') :
    chip'.ctl0 = chip.ctl0 ∧ chip'.resetctl = chip.resetctl := by
  cases register with
  | ddi => exact absurd rfl (clocks _)
  | aonPmctl => exact absurd rfl (losses _)
  | aonRtc register | auxSysif register | nvic register =>
      cases register <;> cases moved <;> exact ⟨rfl, rfl⟩
  | _ =>
      cases moved
      exact ⟨rfl, rfl⟩

theorem meets_configure {register : Register} {value : Word} {next : Driver Result}
    (passed' : List Access) (level' : Nat)
    (stage : Stage left ctl0 resetctl passed level startup)
    (passes : passed'.Sublist (passed ++ [.write register value]))
    (clocks : ∀ ddi, register ≠ .ddi ddi) (losses : ∀ pmctl, register ≠ .aonPmctl pmctl)
    (epoch : register = .aonRtc .ctl → Word.flag value Rtc.reset = true → Installed passed)
    (configures : ∀ chip chip' : Chip, Configured level chip →
      chip.access (.write register value) chip' → Configured level' chip')
    (rest : ∀ startup, Stage left ctl0 resetctl passed' level' startup →
      (bringing words).Meets post (Stopped words) next startup) :
    (bringing words).Meets post (Stopped words) (.write register value next) startup := by
  refine .write stable_stage stage fun startup startup' stage moved => ⟨?_, rest _ ?_⟩
  · refine .of_stage stage nofun (fun bits same => ?_) (fun value same => ?_)
      fun value same resets => ?_
    · exact absurd (Event.write.inj same).1 (clocks _)
    · exact absurd (Event.write.inj same).1 (losses _)
    · obtain ⟨rfl, rfl⟩ := Event.write.inj same
      exact epoch rfl resets
  · obtain ⟨sources, losses⟩ := write_keeps clocks losses moved.1
    exact stage.after moved nofun (sources.trans stage.ctl0) (losses.trans stage.resetctl) passes
      (configures _ _ stage.configured moved.1)

theorem meets_read {register : Register} {next : Word → Driver Result}
    (stage : Stage left ctl0 resetctl passed level startup)
    (reads : ∀ chip value chip', Chip.access chip (.read register value) chip' → chip' = chip)
    (rest : ∀ value startup, Stage left ctl0 resetctl passed level startup →
      (bringing words).Meets post (Stopped words) (next value) startup) :
    (bringing words).Meets post (Stopped words) (.read register next) startup := by
  refine .read stable_stage stage fun startup value startup' stage moved => ?_
  refine ⟨.of_stage stage nofun nofun nofun nofun, rest value startup' ?_⟩
  exact stage.after_read moved (reads _ _ _ moved.1) (List.sublist_append_left _ _)

theorem meets_handshake (register : Register) (ready : Word → Bool) {iterations : Nat}
    {after : Unit → Driver Result} (stage : Stage left ctl0 resetctl passed level startup)
    (reads : ∀ chip value chip', Chip.access chip (.read register value) chip' → chip' = chip)
    (rest : ∀ value startup, ready value = true →
      Stage left ctl0 resetctl (passed ++ [.read register value]) level startup →
      (bringing words).Meets post (Stopped words) (after ()) startup) :
    (bringing words).Meets post (Stopped words)
      (waitFor (do return ready (← Program.readReg register)) iterations >>= after) startup := by
  have stays : (bringing words).Stable fun startup => ∃ value, ready value = true ∧
      Stage left ctl0 resetctl (passed ++ [.read register value]) level startup := by
    rintro startup startup' ⟨value, success, stage⟩ step
    exact ⟨value, success, stable_stage _ _ stage step⟩
  refine .bind (meets_waitFor_register register ready stable_stage stays ?_ ?_ ?_ iterations stage)
  · intro startup value startup' stage moved
    have next : Stage left ctl0 resetctl (passed ++ [.read register value]) level startup' :=
      stage.after_read moved (reads _ _ _ moved.1) (.refl _)
    refine ⟨.of_stage stage nofun nofun nofun nofun, ?_⟩
    split
    · rename_i success
      exact ⟨value, success, next⟩
    · exact { next with passed := (List.sublist_append_left _ _).trans next.passed }
  · rintro startup ⟨value, success, stage⟩
    exact rest value startup success stage
  · exact fun startup stage => .inr ⟨by rw [stage.trimmed]; rfl, rfl⟩

theorem configures_ctl {value : Word} (few : level < 6) (chip chip' : Chip)
    (configured : Configured level chip)
    (moved : chip.access (.write (.aonRtc .ctl) value) chip') : Configured level chip' := by
  obtain rfl : chip' = { chip with rtcCtl := value } := moved
  obtain ⟨low, high, disabled, flags, pending, -⟩ := configured
  exact ⟨low, high, disabled, flags, pending, by omega⟩

/-- The counter is stopped, and the increment is installed by the handshake. -/
theorem meets_install {next : Driver Result} {iterations : Nat} {status : Word}
    (stage : Stage left ctl0 resetctl [.read (.ddi .stat0) status] 0 startup)
    (rest : ∀ acknowledged released startup, Word.flag acknowledged Rtc.updAck = true →
      Word.flag released Rtc.updAck = false →
      Stage left ctl0 resetctl
        [.read (.ddi .stat0) status, .write (.auxSysif .rtcsubsecincctl) 1,
          .read (.auxSysif .rtcsubsecincctl) acknowledged, .write (.auxSysif .rtcsubsecincctl) 0,
          .read (.auxSysif .rtcsubsecincctl) released] 2 startup →
      (bringing words).Meets post (Stopped words) next startup) :
    (bringing words).Meets post (Stopped words)
      (.write (.aonRtc .ctl) 0 (.read (.aonRtc .sync) fun _ =>
        .write (.auxSysif .rtcsubsecinc0) 0 (.write (.auxSysif .rtcsubsecinc1) 0x80
          (.write (.auxSysif .rtcsubsecincctl) 1
            (waitFor (.read (.auxSysif .rtcsubsecincctl) fun value =>
              .ret (Word.flag value Rtc.updAck)) iterations >>= fun _ =>
              .write (.auxSysif .rtcsubsecincctl) 0
                (waitFor (.read (.auxSysif .rtcsubsecincctl) fun value =>
                  .ret (!Word.flag value Rtc.updAck)) iterations >>= fun _ => next))))))
      startup := by
  refine meets_configure _ 0 stage (List.sublist_append_left _ _) nofun nofun (fun _ => nofun)
    (configures_ctl (by decide)) fun _ stage => ?_
  refine meets_read stage (fun _ _ _ => id) fun _ _ stage => ?_
  refine meets_configure _ 1 stage (List.sublist_append_left _ _) nofun nofun nofun ?_
    fun _ stage => ?_
  · rintro chip _ - rfl
    exact ⟨fun _ => rfl, by omega, by omega, by omega, by omega, by omega⟩
  refine meets_configure _ 2 stage (List.sublist_append_left _ _) nofun nofun nofun ?_
    fun _ stage => ?_
  · rintro chip _ configured rfl
    exact ⟨fun _ => configured.low (by decide), fun _ => rfl, by omega, by omega, by omega,
      by omega⟩
  refine meets_configure _ 2 stage (.refl _) nofun nofun nofun ?_ fun _ stage => ?_
  · rintro chip _ configured rfl
    exact configured
  refine meets_handshake (.auxSysif .rtcsubsecincctl) (fun value => Word.flag value Rtc.updAck)
    stage (fun _ _ _ => id) fun acknowledged _ acked stage => ?_
  refine meets_configure _ 2 stage (.refl _) nofun nofun nofun ?_ fun _ stage => ?_
  · rintro chip _ configured rfl
    exact configured
  refine meets_handshake (.auxSysif .rtcsubsecincctl) (fun value => !Word.flag value Rtc.updAck)
    stage (fun _ _ _ => id) fun released _ freed stage => ?_
  exact rest acknowledged released _ acked (by simpa using freed) stage

/-- A fresh epoch is started, with every channel and its interrupt quiet. -/
theorem meets_restart {iterations : Nat} {status acknowledged released : Word}
    (selected : Word.field status Clock.sclkLfSrc 2 = Clock.sclkLfSrcXoscLf)
    (acked : Word.flag acknowledged Rtc.updAck = true)
    (freed : Word.flag released Rtc.updAck = false)
    (stage : Stage left ctl0 resetctl
      [.read (.ddi .stat0) status, .write (.auxSysif .rtcsubsecincctl) 1,
        .read (.auxSysif .rtcsubsecincctl) acknowledged, .write (.auxSysif .rtcsubsecincctl) 0,
        .read (.auxSysif .rtcsubsecincctl) released] 2 startup) :
    (bringing words).Meets
      (fun _ startup => ∃ passed, Stage left ctl0 resetctl passed 6 startup ∧ Selected passed ∧
        Restarted passed)
      (Stopped words)
      (.write (.aonRtc .ctl) 0x80 (.read (.aonRtc .sync) fun _ =>
        (waitFor (.read (.aonRtc .ctl) fun value => .ret (!Word.flag value Rtc.reset))
          iterations >>= fun _ =>
            .write (.aonRtc .chctl) 0 (.write (.aonRtc .evflags) Rtc.channels
              (.read (.aonRtc .sync) fun _ =>
                .write (.nvic .icpr0) (Word.bit 32 Interrupts.aonRtcComb)
                  (.write (.aonRtc .ctl) 1 (.read (.aonRtc .sync) fun _ => .ret ())))))))
      startup := by
  have installed : Installed
      [.read (.ddi .stat0) status, .write (.auxSysif .rtcsubsecincctl) 1,
        .read (.auxSysif .rtcsubsecincctl) acknowledged, .write (.auxSysif .rtcsubsecincctl) 0,
        .read (.auxSysif .rtcsubsecincctl) released] :=
    ⟨acknowledged, released, List.sublist_cons_self _ _, acked, freed⟩
  refine meets_configure _ 2 stage (.refl _) nofun nofun (fun _ _ => installed)
    (configures_ctl (by decide)) fun _ stage => ?_
  refine meets_read stage (fun _ _ _ => id) fun _ _ stage => ?_
  refine meets_handshake (.aonRtc .ctl) (fun value => !Word.flag value Rtc.reset) stage
    (fun _ _ _ => And.left) fun done _ restarted stage => ?_
  refine meets_configure _ 3 stage (List.sublist_append_left _ _) nofun nofun nofun ?_
    fun _ stage => ?_
  · rintro chip _ configured rfl
    exact ⟨fun _ => configured.low (by decide), fun _ => configured.high (by decide), fun _ => rfl,
      by omega, by omega, by omega⟩
  refine meets_configure _ 4 stage (List.sublist_append_left _ _) nofun nofun nofun ?_
    fun _ stage => ?_
  · rintro chip _ configured rfl
    refine ⟨fun _ => configured.low (by decide), fun _ => configured.high (by decide),
      fun _ => configured.disabled (by decide), fun _ => ?_, by omega, by omega⟩
    rw [BitVec.and_assoc, BitVec.and_comm (~~~Rtc.channels), BitVec.and_not_self]
    exact BitVec.and_zero
  refine meets_read stage (fun _ _ _ => id) fun _ _ stage => ?_
  refine meets_configure _ 5 stage (List.sublist_append_left _ _) nofun nofun nofun ?_
    fun _ stage => ?_
  · rintro chip _ configured rfl
    refine ⟨fun _ => configured.low (by decide), fun _ => configured.high (by decide),
      fun _ => configured.disabled (by decide), fun _ => configured.flags (by decide), fun _ => ?_,
      by omega⟩
    exact Bool.and_false _
  refine meets_configure _ 6 stage (List.sublist_append_left _ _) nofun nofun (fun _ => nofun) ?_
    fun _ stage => ?_
  · rintro chip _ configured rfl
    exact ⟨fun _ => configured.low (by decide), fun _ => configured.high (by decide),
      fun _ => configured.disabled (by decide), fun _ => configured.flags (by decide),
      fun _ => configured.pending (by decide), fun _ => rfl⟩
  refine meets_read stage (fun _ _ _ => id) fun _ _ stage => ?_
  refine .ret stable_stage stage fun startup stage => ⟨_, stage, ⟨status, ?_, selected⟩, ?_⟩
  · exact (List.nil_sublist _).cons_cons _
  · exact ⟨acknowledged, released, 0x80, done, List.sublist_cons_self _ _, acked, freed, rfl,
      by simpa using restarted⟩

theorem meets_initializeRtc {status : Word}
    (selected : Word.field status Clock.sclkLfSrc 2 = Clock.sclkLfSrcXoscLf)
    (stage : Stage left ctl0 resetctl [.read (.ddi .stat0) status] 0 startup) :
    (bringing words).Meets
      (fun _ startup => ∃ passed, Stage left ctl0 resetctl passed 6 startup ∧ Selected passed ∧
        Restarted passed)
      (Stopped words) Rtc.initializeRtc startup := by
  simp only [Rtc.initializeRtc, Rtc.sync, Rtc.acknowledged, Program.readReg_bind,
    Program.read_bind, Program.ret_bind, Program.pure_eq, Program.writeReg_bind]
  exact meets_install stage fun acknowledged released _ acked freed stage =>
    meets_restart selected acked freed stage

theorem meets_setBits {bits : Word} {next : Driver Result} (selected : Selected passed)
    (stage : Stage left ctl0 resetctl passed level startup)
    (rest : ∀ startup, Stage left (ctl0 ||| bits) resetctl passed level startup →
      (bringing words).Meets post (Stopped words) next startup) :
    (bringing words).Meets post (Stopped words) (.write (.ddi .ctl0Set) bits next) startup := by
  refine .write stable_stage stage fun startup startup' stage moved => ?_
  refine ⟨.of_stage stage nofun (fun _ _ => selected) nofun nofun, rest startup' ?_⟩
  have chip : startup'.chip = { startup.chip with ctl0 := startup.chip.ctl0 ||| bits } := moved.1
  refine stage.after moved nofun ?_ ?_ (List.sublist_append_left _ _) ?_
  · rw [chip, stage.ctl0]
  · rw [chip, stage.resetctl]
  · obtain ⟨low, high, disabled, flags, pending, running⟩ := stage.configured
    rw [chip]
    exact ⟨low, high, disabled, flags, pending, running⟩

theorem meets_resetctl {next : Driver Result} (selected : Selected passed)
    (stage : Stage left ctl0 resetctl passed level startup)
    (rest : ∀ startup,
      Stage left ctl0 (resetctl ||| Word.bit 32 Clock.resetClkLossEn) passed level startup →
      (bringing words).Meets post (Stopped words) next startup) :
    (bringing words).Meets post (Stopped words)
      (.read (.aonPmctl .resetctl) fun reset =>
        .write (.aonPmctl .resetctl) (Word.setFlag reset Clock.resetClkLossEn true) next)
      startup := by
  refine .read stable_stage stage fun startup reset startup' stage moved => ?_
  obtain ⟨same, answer⟩ : startup'.chip = startup.chip ∧ reset = startup.chip.resetctl := moved.1
  rw [answer.trans stage.resetctl]
  have next := stage.after_read moved same (List.sublist_append_left _ _)
  refine ⟨.of_stage stage nofun nofun nofun nofun, ?_⟩
  refine .write stable_stage next fun startup startup' stage moved => ?_
  refine ⟨.of_stage stage nofun nofun (fun _ _ => selected) nofun, rest startup' ?_⟩
  have chip : startup'.chip =
      { startup.chip with
        resetctl := (startup.chip.resetctl &&& ~~~resetctlWritable) |||
          (Word.setFlag resetctl Clock.resetClkLossEn true &&& resetctlWritable) } := moved.1
  refine stage.after moved nofun ?_ ?_ (List.sublist_append_left _ _) ?_
  · rw [chip, stage.ctl0]
  · rw [chip, stage.resetctl, Word.setFlag_true]
    exact Word.and_not_or_and resetctl (by decide)
  · obtain ⟨low, high, disabled, flags, pending, running⟩ := stage.configured
    rw [chip]
    exact ⟨low, high, disabled, flags, pending, running⟩

/-- The crystal is awaited before its qualifiers are bypassed and its loss is guarded. -/
theorem meets_finishLfStartup {after : Unit → Driver Result}
    (stage : Stage left ctl0 resetctl [] 0 startup)
    (rest : ∀ status startup, Word.field status Clock.sclkLfSrc 2 = Clock.sclkLfSrcXoscLf →
      Stage left
        (ctl0 ||| (Word.bit 32 Clock.bypassXoscLfClkQual |||
          Word.bit 32 Clock.bypassRcoscLfClkQual) ||| Word.bit 32 Clock.clkLossEn)
        (resetctl ||| Word.bit 32 Clock.resetClkLossEn) [.read (.ddi .stat0) status] 0 startup →
      (bringing words).Meets post (Stopped words) (after ()) startup) :
    (bringing words).Meets post (Stopped words) (Clock.finishLfStartup >>= after) startup := by
  simp only [Clock.finishLfStartup, Clock.enableClockLossReset, Ddi.setBits, Rtc.sync, bind_assoc,
    Program.readReg_bind, Program.read_bind, Program.write_bind, Program.ret_bind,
    Program.pure_eq, Program.writeReg_bind]
  refine meets_handshake (.ddi .stat0)
    (fun status => Word.field status Clock.sclkLfSrc 2 == Clock.sclkLfSrcXoscLf) stage
    (fun _ _ _ => id) fun status _ source stage => ?_
  have source := eq_of_beq source
  have selected : Selected ([] ++ [.read (.ddi .stat0) status]) := ⟨status, .refl _, source⟩
  refine meets_setBits selected stage fun _ stage => ?_
  refine meets_setBits selected stage fun _ stage => ?_
  refine meets_resetctl selected stage fun _ stage => ?_
  exact meets_read stage (fun _ _ _ => id) fun _ _ stage => rest status _ source stage

/-- The vendor's setup runs once every check has passed. -/
theorem meets_setupTrimDevice {next : Driver Result} (here : Checking words reads startup)
    (accepted : words.Accepted)
    (rest : ∀ left startup, Stage left left.ctl0 left.resetctl [] 0 startup →
      (bringing words).Meets post (Stopped words) next startup) :
    (bringing words).Meets post (Stopped words) (.act .setupTrimDevice next) startup := by
  refine .act stable_checking here fun startup startup' here moved => ?_
  obtain ⟨-, past, trimmed⟩ := moved
  refine ⟨⟨nofun, fun _ _ => accepted, nofun, nofun, nofun, nofun⟩, rest startup'.chip _ ?_⟩
  exact ⟨trimmed, rfl, rfl, List.nil_sublist _,
    ⟨by omega, by omega, by omega, by omega, by omega, by omega⟩⟩

theorem Stage.brought {startup : Startup}
    (stage : Stage left
      (left.ctl0 ||| (Word.bit 32 Clock.bypassXoscLfClkQual |||
        Word.bit 32 Clock.bypassRcoscLfClkQual) ||| Word.bit 32 Clock.clkLossEn)
      (left.resetctl ||| Word.bit 32 Clock.resetClkLossEn) passed 6 startup)
    (selected : Selected passed) (restarted : Restarted passed) : Brought startup left where
  trimmed := stage.trimmed
  ctl0 := by rw [stage.ctl0, BitVec.or_assoc]
  resetctl := stage.resetctl
  selected := selected.mono stage.passed
  restarted := restarted.mono stage.passed
  running := stage.configured.running (by decide)
  disabled := stage.configured.disabled (by decide)
  flags := stage.configured.flags (by decide)
  pending := stage.configured.pending (by decide)
  increment := by
    rw [stage.configured.low (by decide), stage.configured.high (by decide)]
    rfl

theorem meets_initializeSetup (here : Checking words 0 startup) :
    (bringing words).Meets (fun _ startup => ∃ left, Brought startup left) (Stopped words)
      Setup.initializeSetup startup := by
  simp only [Setup.initializeSetup, Clock.validateConfiguration, bind_assoc, Program.readReg_bind,
    Program.read_bind, Program.perform_bind]
  refine meets_check Words.icepickDeviceId here (by decide) (fun _ _ _ => id) fun _ here => ?_
  refine meets_check Words.userId here (by decide) (fun _ _ _ => id) fun _ here => ?_
  refine meets_refused here (fun accepted => beq_iff_eq.mpr accepted.waferId) fun waferId => ?_
  refine meets_refused here (fun accepted => beq_iff_eq.mpr accepted.userId) fun userId => ?_
  refine meets_check Words.modeConf here (by decide) (fun _ _ _ => id) fun _ here => ?_
  refine meets_refused here (fun accepted => beq_iff_eq.mpr accepted.xoscFreq) fun xoscFreq => ?_
  refine meets_refused here (fun accepted => beq_iff_eq.mpr accepted.sclkLfOption)
    fun sclkLfOption => ?_
  refine meets_check Words.pwrctl here (by decide) (fun _ _ _ => id) fun _ here => ?_
  refine meets_refused here (fun accepted => by rw [accepted.supply]; rfl) fun supply => ?_
  have accepted : words.Accepted := by
    refine ⟨eq_of_beq waferId, eq_of_beq userId, eq_of_beq xoscFreq, eq_of_beq sclkLfOption, ?_⟩
    simpa using supply
  refine meets_setupTrimDevice here accepted fun left _ stage => ?_
  refine meets_finishLfStartup stage fun status _ source stage => ?_
  refine (meets_initializeRtc source stage).mono ?_ fun _ _ => id
  rintro _ startup ⟨passed, stage, selected, restarted⟩
  exact ⟨left, stage.brought selected restarted⟩

end Contracts

end DirectLine.Firmware.Bringup
