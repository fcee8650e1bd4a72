import DirectLine.Firmware.Clock

/-!
# Chip setup

`setup.rs`: the silicon, the crystals and the supply are checked before the
vendor's setup routine runs; LF selection and the RTC epoch come after it.
-/

namespace DirectLine.Firmware.Setup

open DirectLine.Interaction DirectLine.Interaction.Program

def cc13x4Cc26x4WaferId : Word := 0xbb78

/-- `USER_ID` bits `CC13` and `PA`. -/
def cc13WithPa : Word := Word.bit 32 23 ||| Word.bit 32 25

/-- `ICEPICK_DEVICE_ID.WAFER_ID`. -/
def waferId (identity : Word) : Word := Word.field identity 12 16

/-- `PWRCTL.EXT_REG_MODE`. -/
def extRegMode : Nat := 1

def initializeSetup : Driver Unit := do
  let identity ← readReg (.configuration .icepickDeviceId)
  let user ← readReg (.configuration .userId)
  assert (waferId identity == cc13x4Cc26x4WaferId) "unsupported silicon family"
  assert (user &&& cc13WithPa == cc13WithPa) "requires CC1354P"
  Clock.validateConfiguration
  let power ← readReg (.aonPmctl .pwrctl)
  assert (!Word.flag power extRegMode) "unsupported supply wiring"
  perform .setupTrimDevice
  Clock.finishLfStartup
  Rtc.initializeRtc

end DirectLine.Firmware.Setup
