import DirectLine.Firmware.Gpio
import DirectLine.Firmware.Timer

/-!
# Polling UARTs

`uart.rs`.  The two retry loops of `write_timeout` are decided by the device, so
`writeTimeout` takes a fuel that bounds the polls spent on one byte.
-/

namespace DirectLine.Firmware

open DirectLine.Interaction DirectLine.Interaction.Program

namespace Uart

def hfClockHz : Word := 48000000

inductive Instance where
  | uart0 | uart1 | uart2 | uart3
  deriving DecidableEq, Repr

namespace Instance

def registers : Instance → UartBlock
  | .uart0 => .uart0
  | .uart1 => .uart1
  | .uart2 => .uart2
  | .uart3 => .uart3

def index : Instance → Fin 4
  | .uart0 => 0
  | .uart1 => 1
  | .uart2 => 2
  | .uart3 => 3

/-- UART0 is in the SERIAL domain, UART1 to UART3 in PERIPH. -/
def enablePower : Instance → Driver Unit
  | .uart0 => Prcm.powerSerial
  | .uart1 | .uart2 | .uart3 => Prcm.powerPeriph

def ports : Instance → Word × Word
  | .uart0 => (Ioc.uart0Rx, Ioc.uart0Tx)
  | .uart1 => (Ioc.uart1Rx, Ioc.uart1Tx)
  | .uart2 => (Ioc.uart2Rx, Ioc.uart2Tx)
  | .uart3 => (Ioc.uart3Rx, Ioc.uart3Tx)

def clockMask (self : Instance) : Word := Word.bit 32 self.index

end Instance

structure BaudError where
  deriving DecidableEq, Repr

structure WouldBlock where
  deriving DecidableEq, Repr

structure Timeout where
  deriving DecidableEq, Repr

structure RxError where
  framing : Bool
  parity : Bool
  breakDetected : Bool
  overrun : Bool
  deriving DecidableEq, Repr

end Uart

structure Uart where
  registers : UartBlock
  deriving DecidableEq

namespace Uart

/-- Divisor clock/(16*baud) with six fractional bits, rounded before it is split. -/
def baudDivisors (baud : Word) : Option (Word × Word) :=
  if baud == 0 || decide (baud > hfClockHz / 16) then
    none
  else
    let scaled := (hfClockHz * 4 + baud / 2) / baud
    let integer := scaled / 64
    let fraction := scaled % 64
    if integer == 0 || decide (integer > 65535) || (integer == 65535 && fraction != 0) then
      none
    else
      some (integer, fraction)

/-- `LCRH` with eight data bits and FIFOs, no parity and one stop bit. -/
def format : Word :=
  let eightBits : Word := 3
  Word.setFlag (Word.setField 0 5 2 eightBits) 4 true

/-- `CTL` with receiver, transmitter and UART enabled. -/
def control : Word := Word.setFlag (Word.setFlag (Word.setFlag 0 9 true) 8 true) 0 true

def configureUart (registers : UartBlock) (divisors : Word × Word) : Driver Unit := do
  let (integer, fraction) := divisors
  writeReg (.uart registers .ctl) 0
  writeReg (.uart registers .lcrh) 0
  writeReg (.uart registers .dmactl) 0
  writeReg (.uart registers .imsc) 0
  writeReg (.uart registers .ibrd) integer
  writeReg (.uart registers .fbrd) fraction
  writeReg (.uart registers .lcrh) format
  writeReg (.uart registers .ctl) control

def initializeUart (uart : Instance) (rxDio txDio : Nat) (baud : Word) :
    Driver (Except BaudError Uart) :=
  match baudDivisors baud with
  | none => return .error ⟨⟩
  | some divisors => do
      let rxPin ← Ioc.config rxDio
      let txPin ← Ioc.config txDio
      assert (rxDio != txDio) "UART RX and TX need distinct pins"
      let (rxPort, txPort) := uart.ports
      let registers := uart.registers
      uart.enablePower
      Prcm.enableUartClocks uart.clockMask
      let rx := Ioc.setIe (Ioc.setPullCtl (Ioc.setPortId 0 rxPort) Ioc.noPull) true
      writeReg rxPin rx
      let tx := Ioc.setPullCtl (Ioc.setPortId 0 txPort) Ioc.noPull
      writeReg txPin tx
      configureUart registers divisors
      return .ok ⟨registers⟩

theorem yields_initializeUart (uart : Instance) (rxDio txDio : Nat) (baud : Word) :
    (initializeUart uart rxDio txDio baud).Yields fun result =>
      result = if (baudDivisors baud).isSome then .ok ⟨uart.registers⟩ else .error ⟨⟩ := by
  unfold initializeUart
  cases baudDivisors baud with
  | none => exact rfl
  | some divisors =>
      exact .after fun _ => .after fun _ => .after fun _ => .after fun _ => .after fun _ => rfl

/-- `FR.TXFF`. -/
def txff : Nat := 5

/-- `FR.RXFE`. -/
def rxfe : Nat := 4

/-- The error flags of a `DR` read. -/
def dataFe : Nat := 8

def dataPe : Nat := 9

def dataBe : Nat := 10

def dataOe : Nat := 11

def tryWrite (uart : Uart) (byte : Byte) : Driver (Except WouldBlock Unit) := do
  if Word.flag (← readReg (.uart uart.registers .fr)) txff then
    return .error ⟨⟩
  writeReg (.uart uart.registers .dr) (byte.setWidth 32)
  return .ok ()

def tryRead (uart : Uart) : Driver (Except RxError (Option Byte)) := do
  if Word.flag (← readReg (.uart uart.registers .fr)) rxfe then
    return .ok none
  let data ← readReg (.uart uart.registers .dr)
  if Word.flag data dataFe || Word.flag data dataPe || Word.flag data dataBe ||
      Word.flag data dataOe then
    -- Any write clears the receive status.
    writeReg (.uart uart.registers .ecr) 0
    return .error ⟨Word.flag data dataFe, Word.flag data dataPe, Word.flag data dataBe,
      Word.flag data dataOe⟩
  return .ok (some (data.setWidth 8))

/-- `i32::MAX as u32`. -/
def maxTimeout : Word := 0x7fffffff

/-- One turn of the retry loop: a poll of the counter, then an attempt to enqueue. -/
def poll (uart : Uart) (counter : Counter) (start timeoutTicks : Word) (byte : Byte) :
    Driver (Option (Except Timeout Unit)) := do
  if (← counter.elapsedSince start) ≥ timeoutTicks then
    return some (.error ⟨⟩)
  match ← uart.tryWrite byte with
  | .ok () => return some (.ok ())
  | .error _ => return none

def enqueue (uart : Uart) (counter : Counter) (start timeoutTicks : Word) (fuel : Nat) :
    List Byte → Driver (Except Timeout Unit)
  | [] => return .ok ()
  | byte :: bytes => do
      match ← iterate (uart.poll counter start timeoutTicks byte) fuel with
      | .error timeout => return .error timeout
      | .ok () => enqueue uart counter start timeoutTicks fuel bytes

def writeTimeout (uart : Uart) (bytes : List Byte) (counter : Counter) (timeoutTicks : Word)
    (fuel : Nat) : Driver (Except Timeout Unit) := do
  if timeoutTicks > maxTimeout then
    return .error ⟨⟩
  let start ← counter.now
  enqueue uart counter start timeoutTicks fuel bytes

end Uart

end DirectLine.Firmware
