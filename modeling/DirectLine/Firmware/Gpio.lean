import DirectLine.Firmware.Prcm

/-!
# Pins and fixed outputs

`ioc.rs` and `gpio.rs`: the checked lookup of a pin's configuration register,
the release of the shared I/O retention, and push-pull outputs.
-/

namespace DirectLine.Firmware

open DirectLine.Interaction DirectLine.Interaction.Program

namespace Ioc

/-- `IOCFG.PORT_ID` selections the drivers use. -/
def gpio : Word := 0

def uart0Rx : Word := 15

def uart0Tx : Word := 16

def uart1Rx : Word := 19

def uart1Tx : Word := 20

def uart2Rx : Word := 65

def uart2Tx : Word := 66

def uart3Rx : Word := 69

def uart3Tx : Word := 70

def noPull : Word := 3

def setPortId (value port : Word) : Word := Word.setField value 0 7 port

def setPullCtl (value pull : Word) : Word := Word.setField value 14 2 pull

def setIe (value : Word) (enabled : Bool) : Word := Word.setFlag value 29 enabled

/-- The configuration register of a pin; no hardware is accessed here. -/
def config (dio : Nat) : Driver Register := do
  assert (dio < 32) "only DIO0–31 are supported"
  return .iocfg dio

def releaseRetention : Driver Unit := do
  let sleep ← readReg .sleepctl
  writeReg .sleepctl (Word.setFlag sleep 0 true)
  writeReg .ioclatch (Word.setFlag 0 0 true)

end Ioc

structure OutputPin where
  mask : Word
  deriving DecidableEq

namespace Gpio

def configureOutput (dio : Nat) : Driver OutputPin := do
  let config ← Ioc.config dio
  let mask := Word.bit 32 dio
  let value := Ioc.setPullCtl (Ioc.setPortId 0 Ioc.gpio) Ioc.noPull
  Prcm.powerPeriph
  Prcm.enableGpioClock
  -- The initial level is loaded before the output is enabled.
  writeReg (.gpio .doutclr) mask
  writeReg config value
  let doe ← readReg (.gpio .doe)
  writeReg (.gpio .doe) (doe ||| mask)
  return ⟨mask⟩

theorem yields_configureOutput (dio : Nat) :
    (configureOutput dio).Yields fun pin => pin = ⟨Word.bit 32 dio⟩ :=
  .after fun _ => .after fun _ => .after fun _ _ => rfl

/-- The output latches after one access; the aliases act on the bits written as one. -/
def latches (dout : Word) : Access → Word
  | .write (.gpio .doutset) value => dout ||| value
  | .write (.gpio .doutclr) value => dout &&& ~~~value
  | .write (.gpio .douttgl) value => dout ^^^ value
  | _ => dout

end Gpio

namespace OutputPin

def set (pin : OutputPin) (high : Bool) : Driver Unit :=
  if high then writeReg (.gpio .doutset) pin.mask else writeReg (.gpio .doutclr) pin.mask

def toggle (pin : OutputPin) : Driver Unit := writeReg (.gpio .douttgl) pin.mask

end OutputPin

end DirectLine.Firmware
