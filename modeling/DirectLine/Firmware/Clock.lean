import DirectLine.Firmware.Rtc

/-!
# Clock sources

`clock.rs`, with the bit operations of `ddi.rs` and the interrupt mask of
`interrupts.rs`.  The crystal is requested, and committed to by a ROM routine
once the hardware is ready to switch.
-/

namespace DirectLine.Firmware

open DirectLine.Interaction DirectLine.Interaction.Program

namespace Ddi

/-- `set_bits` on the oscillator's `CTL0`, the only register it is used on. -/
def setBits (bits : Word) : Driver Unit := writeReg (.ddi .ctl0Set) bits

def clearBits (bits : Word) : Driver Unit := writeReg (.ddi .ctl0Clr) bits

end Ddi

namespace Interrupts

def saveAndDisable : Driver Word := do
  let mask ← readReg .primask
  perform .disableInterrupts
  return mask

def restore (mask : Word) : Driver Unit := writeReg .primask mask

end Interrupts

/-- `STAT0.SCLK_HF_SRC`: the crystal is active. -/
def sclkHfSrc : Nat := 28

def pendingSclkHfSwitching : Nat := 0

def sclkHfSrcSel : Nat := 0

def clkDcdcSrcSel : Nat := 24

namespace Clocks

def requestHfCrystal : Driver Unit := Ddi.setBits (Word.bit 32 sclkHfSrcSel)

def hfCrystalReady : Driver Bool := do
  let status ← readReg (.ddi .stat0)
  return Word.flag status sclkHfSrc || Word.flag status pendingSclkHfSwitching

def trySwitchToHfCrystal : Driver Bool := do
  let status ← readReg (.ddi .stat0)
  if Word.flag status sclkHfSrc then
    return true
  if !Word.flag status pendingSclkHfSwitching then
    return false
  let primask ← Interrupts.saveAndDisable
  perform .hfSourceSafeSwitch
  Ddi.clearBits (Word.bit 32 clkDcdcSrcSel)
  Interrupts.restore primask
  return true

end Clocks

namespace Clock

/-- `STAT0.SCLK_LF_SRC`, two bits from here. -/
def sclkLfSrc : Nat := 29

def sclkLfSrcXoscLf : Word := 3

def ccfgXoscFreq48M : Word := 2

def ccfgSclkLfOptionXoscLf : Word := 2

def bypassXoscLfClkQual : Nat := 29

def bypassRcoscLfClkQual : Nat := 28

def clkLossEn : Nat := 9

def resetClkLossEn : Nat := 5

def xoscFreq (config : Word) : Word := Word.field config 18 2

def sclkLfOption (config : Word) : Word := Word.field config 22 2

def validateConfiguration : Driver Unit := do
  let config ← readReg (.configuration .modeConf)
  assert (xoscFreq config == ccfgXoscFreq48M) "requires 48 MHz HF crystal"
  assert (sclkLfOption config == ccfgSclkLfOptionXoscLf) "requires 32.768 kHz LF crystal"

def enableClockLossReset : Driver Unit := do
  Ddi.setBits (Word.bit 32 clkLossEn)
  let reset ← readReg (.aonPmctl .resetctl)
  writeReg (.aonPmctl .resetctl) (Word.setFlag reset resetClkLossEn true)
  Rtc.sync

def finishLfStartup : Driver Unit := do
  waitFor (do return Word.field (← readReg (.ddi .stat0)) sclkLfSrc 2 == sclkLfSrcXoscLf) 48000000
  Ddi.setBits (Word.bit 32 bypassXoscLfClkQual ||| Word.bit 32 bypassRcoscLfClkQual)
  enableClockLossReset

end Clock

end DirectLine.Firmware
