import DirectLine.Firmware.Timer

/-!
# The RTC at startup

`rtc.rs`: the increment of the fixed 32.768 kHz crystal is installed by a
request handshake before a fresh epoch is started.
-/

namespace DirectLine.Firmware

open DirectLine.Interaction DirectLine.Interaction.Program

namespace Interrupts

def aonRtcComb : Nat := 4

end Interrupts

namespace Rtc

def updReq : Nat := 0

def updAck : Nat := 1

def en : Nat := 0

def reset : Nat := 7

/-- The event flags of channels 0 to 2. -/
def channels : Word := Word.bit 32 0 ||| Word.bit 32 8 ||| Word.bit 32 16

/-- The read stalls until earlier writes have completed. -/
def sync : Driver Unit := do
  let _ ← readReg (.aonRtc .sync)
  return ()

def acknowledged : Driver Bool := do
  return Word.flag (← readReg (.auxSysif .rtcsubsecincctl)) updAck

def initializeRtc : Driver Unit := do
  writeReg (.aonRtc .ctl) 0
  sync
  writeReg (.auxSysif .rtcsubsecinc0) 0
  writeReg (.auxSysif .rtcsubsecinc1) 0x80
  let request : Word := Word.setFlag 0 updReq true
  writeReg (.auxSysif .rtcsubsecincctl) request
  waitFor acknowledged 48000000
  let request := Word.setFlag request updReq false
  writeReg (.auxSysif .rtcsubsecincctl) request
  waitFor (do return !(← acknowledged)) 48000000
  -- The epoch starts only after the final clock and increment are installed.
  let control : Word := Word.setFlag 0 reset true
  writeReg (.aonRtc .ctl) control
  sync
  waitFor (do return !Word.flag (← readReg (.aonRtc .ctl)) reset) 48000000
  writeReg (.aonRtc .chctl) 0
  writeReg (.aonRtc .evflags) channels
  sync
  writeReg (.nvic .icpr0) (Word.bit 32 Interrupts.aonRtcComb)
  let control := Word.setFlag (Word.setFlag control reset false) en true
  writeReg (.aonRtc .ctl) control
  sync

end Rtc

end DirectLine.Firmware
