import DirectLine.Firmware.Registers

/-!
# Power and clock control

The shared operations of `prcm.rs`.  Every one is a read-modify-write of one
PRCM word followed by a bounded handshake.
-/

namespace DirectLine.Firmware.Prcm

open DirectLine.Interaction DirectLine.Interaction.Program

def periphOn : Nat := 2

def serialOn : Nat := 1

def load : Word := 1

def loadDone : Nat := 1

/-- Width of the `CLK_EN` fields of `GPTCLKGR` and `UARTCLKGR`. -/
def clkEnWidth : Nat := 4

def statusFlag (status : Prcm) (bit : Nat) : Driver Bool := do
  return Word.flag (← readReg (.prcm status)) bit

def applyClockSettings : Driver Unit := do
  writeReg (.prcm .clkloadctl) load
  waitFor (statusFlag .clkloadctl loadDone) 1000000

/-- Request one power domain and wait for its status bit; the other requests are kept. -/
def powerDomain (on : Nat) : Driver Unit := do
  let power ← readReg (.prcm .pdctl0)
  writeReg (.prcm .pdctl0) (Word.setFlag power on true)
  waitFor (statusFlag .pdstat0 on) 1000000

def powerPeriph : Driver Unit := powerDomain periphOn

def powerSerial : Driver Unit := powerDomain serialOn

/-- Add clocks to the `CLK_EN` field of a gate register and load the settings. -/
def enableClocks (gate : Prcm) (mask : Word) (message : String) : Driver Unit := do
  assert (mask &&& ~~~0xf == 0) message
  let clocks ← readReg (.prcm gate)
  writeReg (.prcm gate)
    (Word.setField clocks 0 clkEnWidth (Word.field clocks 0 clkEnWidth ||| mask))
  applyClockSettings

def enableUartClocks (mask : Word) : Driver Unit :=
  enableClocks .uartclkgr mask "only UART0–UART3 exist"

def enableTimerClocks (mask : Word) : Driver Unit :=
  enableClocks .gptclkgr mask "only GPT0–GPT3 exist"

def enableGpioClock : Driver Unit := do
  let gpio ← readReg (.prcm .gpioclkgr)
  writeReg (.prcm .gpioclkgr) (Word.setFlag gpio 0 true)
  applyClockSettings

def initializeTimerClock : Driver Unit := do
  writeReg (.prcm .gptclkdiv) 0
  applyClockSettings

theorem run_exhausted {Result : Type} {program last : Driver Result} {earlier : List Access}
    {status : Prcm} {bit : Nat} {values : List Word} {after : Unit → Driver Result}
    (poll : Run program earlier (waitFor (statusFlag status bit) values.length >>= after))
    (failed : ∀ value ∈ values, Word.flag value bit = false)
    (run : Run program (earlier ++ values.map (.read (.prcm status))) last) :
    last = .panic "hardware handshake iteration budget exhausted" := by
  have exhausted := run_waitFor_exhausted (.prcm status) (fun value => Word.flag value bit) after
    values failed
  exact run.unique (poll.append exhausted)

end DirectLine.Firmware.Prcm
