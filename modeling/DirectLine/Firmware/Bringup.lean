import DirectLine.Firmware.Setup
import DirectLine.Interaction.Process

/-!
# Bring-up before `main`

The chip as startup finds it, as the vendor's routine leaves it and as `main`
gets it.  Nothing is assumed of what the routine leaves behind, nor of the
answers to the handshakes.
-/

namespace DirectLine.Firmware.Bringup

open DirectLine.Interaction

structure Words where
  icepickDeviceId : Word
  userId : Word
  modeConf : Word
  pwrctl : Word

/-- The silicon, the crystals and the supply are those of the board. -/
structure Words.Accepted (words : Words) : Prop where
  waferId : Setup.waferId words.icepickDeviceId = Setup.cc13x4Cc26x4WaferId
  userId : words.userId &&& Setup.cc13WithPa = Setup.cc13WithPa
  xoscFreq : Clock.xoscFreq words.modeConf = Clock.ccfgXoscFreq48M
  sclkLfOption : Clock.sclkLfOption words.modeConf = Clock.ccfgSclkLfOptionXoscLf
  supply : Word.flag words.pwrctl Setup.extRegMode = false

structure Chip where
  words : Words
  ctl0 : Word
  resetctl : Word
  rtcCtl : Word
  chctl : Word
  evflags : Word
  pending : Bool
  subsecinc0 : Word
  subsecinc1 : Word

/-- The bits of `RESETCTL` that a write replaces. -/
def resetctlWritable : Word := Word.mask 32 4 8

namespace Chip

/-- The effect of an access.  Statuses and acknowledgements may be answered at will, and the
vendor's setup may leave anything behind. -/
def access (chip : Chip) : Access → Chip → Prop
  | .read (.configuration .icepickDeviceId) value, chip' =>
      chip' = chip ∧ value = chip.words.icepickDeviceId
  | .read (.configuration .userId) value, chip' => chip' = chip ∧ value = chip.words.userId
  | .read (.configuration .modeConf) value, chip' => chip' = chip ∧ value = chip.words.modeConf
  | .read (.aonPmctl .pwrctl) value, chip' => chip' = chip ∧ value = chip.words.pwrctl
  | .read (.aonPmctl .resetctl) value, chip' => chip' = chip ∧ value = chip.resetctl
  | .read (.aonRtc .ctl) value, chip' => chip' = chip ∧ value = chip.rtcCtl
  | .write (.ddi .ctl0Set) bits, chip' => chip' = { chip with ctl0 := chip.ctl0 ||| bits }
  | .write (.ddi .ctl0Clr) bits, chip' => chip' = { chip with ctl0 := chip.ctl0 &&& ~~~bits }
  | .write (.aonPmctl .resetctl) value, chip' =>
      chip' =
        { chip with
          resetctl := (chip.resetctl &&& ~~~resetctlWritable) ||| (value &&& resetctlWritable) }
  | .write (.aonRtc .ctl) value, chip' => chip' = { chip with rtcCtl := value }
  | .write (.aonRtc .chctl) value, chip' => chip' = { chip with chctl := value }
  | .write (.aonRtc .evflags) value, chip' =>
      chip' = { chip with evflags := chip.evflags &&& ~~~value }
  | .write (.nvic .icpr0) value, chip' =>
      chip' = { chip with pending := chip.pending && !Word.flag value Interrupts.aonRtcComb }
  | .write (.auxSysif .rtcsubsecinc0) value, chip' => chip' = { chip with subsecinc0 := value }
  | .write (.auxSysif .rtcsubsecinc1) value, chip' => chip' = { chip with subsecinc1 := value }
  | .act .setupTrimDevice, _ => True
  | _, chip' => chip' = chip

inductive Moves (chip : Chip) : Chip → Prop where
  | reset : Moves chip { chip with rtcCtl := Word.setFlag chip.rtcCtl Rtc.reset false }
  | event (channel : Nat) : Word.flag Rtc.channels channel = true →
      Word.flag chip.chctl channel = true →
      Moves chip { chip with evflags := chip.evflags ||| Word.bit 32 channel }
  | interrupt : chip.evflags &&& Rtc.channels ≠ 0 → Moves chip { chip with pending := true }

theorem Moves.keeps {chip chip' : Chip} (moves : chip.Moves chip') :
    chip'.words = chip.words ∧ chip'.ctl0 = chip.ctl0 ∧ chip'.resetctl = chip.resetctl := by
  cases moves with
  | reset | event | interrupt => exact ⟨rfl, rfl, rfl⟩

end Chip

structure Startup where
  chip : Chip
  past : List Access
  /-- The chip as the vendor's setup left it, once it has run. -/
  trimmed : Option Chip

namespace Startup

def device (startup : Startup) (access : Access) (startup' : Startup) : Prop :=
  startup.chip.access access startup'.chip ∧ startup'.past = startup.past ++ [access] ∧
    startup'.trimmed =
      if access = .act .setupTrimDevice then some startup'.chip else startup.trimmed

def rely (startup startup' : Startup) : Prop :=
  startup.chip.Moves startup'.chip ∧ startup'.past = startup.past ∧
    startup'.trimmed = startup.trimmed

def reset (chip : Chip) : Startup := ⟨chip, [], none⟩

end Startup

def starting : Process Register Instruction Word Startup Unit where
  device := Startup.device
  rely := Startup.rely
  next _ _ _ := False

/-- The low-frequency crystal was observed as the active source. -/
def Selected (past : List Access) : Prop :=
  ∃ status, List.Sublist [.read (.ddi .stat0) status] past ∧
    Word.field status Clock.sclkLfSrc 2 = Clock.sclkLfSrcXoscLf

/-- The increment was requested, acknowledged and released, in this order. -/
def Installed (past : List Access) : Prop :=
  ∃ acknowledged released,
    List.Sublist
      [.write (.auxSysif .rtcsubsecincctl) 1, .read (.auxSysif .rtcsubsecincctl) acknowledged,
        .write (.auxSysif .rtcsubsecincctl) 0, .read (.auxSysif .rtcsubsecincctl) released]
      past ∧
    Word.flag acknowledged Rtc.updAck = true ∧ Word.flag released Rtc.updAck = false

/-- What every access has to come after. -/
structure Due (words : Words) (startup : Startup) (access : Access) : Prop where
  written : ∀ register value, access = .write register value → startup.trimmed.isSome = true
  checked : ∀ action, access = .act action → words.Accepted
  /-- Four reads decide whether the vendor's setup runs. -/
  brief : ∀ register value, access = .read register value → startup.trimmed = none →
    startup.past.length < 4
  sources : ∀ bits, access = .write (.ddi .ctl0Set) bits → Selected startup.past
  losses : ∀ value, access = .write (.aonPmctl .resetctl) value → Selected startup.past
  epoch : ∀ value, access = .write (.aonRtc .ctl) value → Word.flag value Rtc.reset = true →
    Installed startup.past

/-- The counter reset was requested and observed complete, after the increment was installed. -/
def Restarted (past : List Access) : Prop :=
  ∃ acknowledged released request done,
    List.Sublist
      [.write (.auxSysif .rtcsubsecincctl) 1, .read (.auxSysif .rtcsubsecincctl) acknowledged,
        .write (.auxSysif .rtcsubsecincctl) 0, .read (.auxSysif .rtcsubsecincctl) released,
        .write (.aonRtc .ctl) request, .read (.aonRtc .ctl) done] past ∧
    Word.flag acknowledged Rtc.updAck = true ∧ Word.flag released Rtc.updAck = false ∧
    Word.flag request Rtc.reset = true ∧ Word.flag done Rtc.reset = false

theorem Selected.mono {earlier later : List Access} (selected : Selected earlier)
    (extends' : earlier.Sublist later) : Selected later := by
  obtain ⟨status, observed, source⟩ := selected
  exact ⟨status, observed.trans extends', source⟩

theorem Installed.mono {earlier later : List Access} (installed : Installed earlier)
    (extends' : earlier.Sublist later) : Installed later := by
  obtain ⟨acknowledged, released, observed, flags⟩ := installed
  exact ⟨acknowledged, released, observed.trans extends', flags⟩

theorem Restarted.mono {earlier later : List Access} (restarted : Restarted earlier)
    (extends' : earlier.Sublist later) : Restarted later := by
  obtain ⟨acknowledged, released, request, done, observed, flags⟩ := restarted
  exact ⟨acknowledged, released, request, done, observed.trans extends', flags⟩

/-- How far the RTC has been configured; each level keeps those below it. -/
structure Configured (level : Nat) (chip : Chip) : Prop where
  low : 1 ≤ level → chip.subsecinc0 = 0
  high : 2 ≤ level → chip.subsecinc1 = 0x80
  disabled : 3 ≤ level → chip.chctl = 0
  flags : 4 ≤ level → chip.evflags &&& Rtc.channels = 0
  pending : 5 ≤ level → chip.pending = false
  running : 6 ≤ level → chip.rtcCtl = 1

theorem Configured.moves {level : Nat} {chip chip' : Chip} (configured : Configured level chip)
    (moves : chip.Moves chip') : Configured level chip' := by
  obtain ⟨low, high, disabled, flags, pending, running⟩ := configured
  cases moves with
  | reset =>
      refine ⟨low, high, disabled, flags, pending, fun reached => ?_⟩
      rw [running reached]
      rfl
  | event channel within enabled =>
      -- With every channel disabled no event is flagged.
      refine ⟨low, high, disabled, fun reached => ?_, pending, running⟩
      rw [disabled (by omega)] at enabled
      simp [Word.flag] at enabled
  | interrupt flagged =>
      exact ⟨low, high, disabled, flags, fun reached => absurd (flags (by omega)) flagged, running⟩

/-- After the vendor's setup: the clock sources, the milestones passed, and how far the RTC has
been configured. -/
structure Stage (trimmed : Chip) (ctl0 resetctl : Word) (passed : List Access) (level : Nat)
    (startup : Startup) : Prop where
  trimmed : startup.trimmed = some trimmed
  ctl0 : startup.chip.ctl0 = ctl0
  resetctl : startup.chip.resetctl = resetctl
  passed : passed.Sublist startup.past
  configured : Configured level startup.chip

/-- What `main` gets of the chip that the vendor's setup left. -/
structure Brought (startup : Startup) (left : Chip) : Prop where
  trimmed : startup.trimmed = some left
  ctl0 : startup.chip.ctl0 = left.ctl0 |||
    (Word.bit 32 Clock.bypassXoscLfClkQual ||| Word.bit 32 Clock.bypassRcoscLfClkQual |||
      Word.bit 32 Clock.clkLossEn)
  resetctl : startup.chip.resetctl = left.resetctl ||| Word.bit 32 Clock.resetClkLossEn
  selected : Selected startup.past
  restarted : Restarted startup.past
  running : startup.chip.rtcCtl = Word.bit 32 Rtc.en
  disabled : startup.chip.chctl = 0
  flags : startup.chip.evflags &&& Rtc.channels = 0
  pending : startup.chip.pending = false
  increment : Word.field startup.chip.subsecinc1 0 8 <<< 16 |||
    Word.field startup.chip.subsecinc0 0 16 = (0x800000 : Word)

end DirectLine.Firmware.Bringup
