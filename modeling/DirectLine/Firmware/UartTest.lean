import DirectLine.Firmware.Loopback
import DirectLine.Firmware.TimerTest

/-!
# The UART test

`uart_test.rs`: one of the four UARTs is configured, put into its loop-back mode
and made to send every byte to itself.
-/

namespace DirectLine.Firmware.UartTest

open DirectLine.Interaction DirectLine.Interaction.Program Uart
open Main (timeout)
open TimerTest (debugArray)

/-- `assert_eq!`, with the `Debug` text of its operands. -/
def assertEqual {Value : Type} [DecidableEq Value] (debug : Value → String)
    (left right : Value) : Driver Unit :=
  if left = right then return ()
  else .panic ("assertion `left == right` failed\n  left: " ++ debug left ++ "\n right: " ++
    debug right)

def debugWord (value : Word) : String := toString value.toNat

def debugByte (value : Byte) : String := toString value.toNat

def debugBool : Bool → String
  | true => "true"
  | false => "false"

def debugError (error : RxError) : String :=
  "RxError \x7b framing: " ++ debugBool error.framing ++ ", parity: " ++ debugBool error.parity ++
    ", break_detected: " ++ debugBool error.breakDetected ++ ", overrun: " ++
      debugBool error.overrun ++ " \x7d"

def debugRead : Except RxError (Option Byte) → String
  | .ok none => "Ok(None)"
  | .ok (some byte) => "Ok(Some(" ++ debugByte byte ++ "))"
  | .error error => "Err(" ++ debugError error ++ ")"

def debugWrite : Except Timeout Unit → String
  | .ok () => "Ok(())"
  | .error _ => "Err(Timeout)"

def unwrapUart : Except BaudError Uart → Driver Uart
  | .ok uart => return uart
  | .error _ => .panic "called `Result::unwrap()` on an `Err` value: BaudError"

def unwrapWrite : Except WouldBlock Unit → Driver Unit
  | .ok () => return ()
  | .error _ => .panic "called `Result::unwrap()` on an `Err` value: WouldBlock"

def unwrapRead : Except RxError (Option Byte) → Driver (Option Byte)
  | .ok byte => return byte
  | .error error => .panic ("called `Result::unwrap()` on an `Err` value: " ++ debugError error)

structure Selection where
  uart : Uart.Instance
  baud : Word
  divisors : Word × Word
  ports : Word × Word

def selection : Fin 4 → Selection
  | 0 => ⟨.uart0, 9600, (312, 32), (15, 16)⟩
  | 1 => ⟨.uart1, 115200, (26, 3), (19, 20)⟩
  | 2 => ⟨.uart2, 1000000, (3, 0), (65, 66)⟩
  | 3 => ⟨.uart3, 3000000, (1, 0), (69, 70)⟩

def rxDio : Nat := 12

def txDio : Nat := 13

def initializationState : Driver (List Word) := do
  let pdctl0 ← readReg (.prcm .pdctl0)
  let uartclkgr ← readReg (.prcm .uartclkgr)
  let iocfg12 ← readReg (.iocfg rxDio)
  let iocfg13 ← readReg (.iocfg txDio)
  return [pdctl0, uartclkgr, iocfg12, iocfg13]

def invalidBauds : List Word := [0, 45, 3000001, BitVec.allOnes 32]

/-- Invalid requests leave the domain requests, clock gates and pins untouched. -/
def refuse (uart : Uart.Instance) (before : List Word) : List Word → Driver Unit
  | [] => return ()
  | invalid :: others => do
      match ← initializeUart uart rxDio txDio invalid with
      | .ok _ =>
          .panic "assertion failed: Uart::initialize(instance, 12, 13, invalid).is_err()"
      | .error _ => do
          assertEqual debugArray (← initializationState) before
          refuse uart before others

/-- The field `CLK_EN` of `UARTCLKGR`. -/
def clkEn : Driver Word := do
  return Word.field (← readReg (.prcm .uartclkgr)) 0 Prcm.clkEnWidth

def powerUp (selected : Selection) : Driver Uart := do
  let powerBefore ← readReg (.prcm .pdstat0)
  let gatesBefore ← clkEn
  let uart ← unwrapUart (← initializeUart selected.uart rxDio txDio selected.baud)
  let power ← readReg (.prcm .pdstat0)
  assertEqual debugBool (Word.flag power Prcm.serialOn)
    (Word.flag powerBefore Prcm.serialOn || selected.uart = .uart0)
  assertEqual debugBool (Word.flag power Prcm.periphOn)
    (Word.flag powerBefore Prcm.periphOn || selected.uart ≠ .uart0)
  assertEqual debugWord (← clkEn) (gatesBefore ||| Word.bit 32 selected.uart.index)
  return uart

/-- `IOCFG.PORT_ID`. -/
def portId (config : Word) : Word := Word.field config 0 7

/-- `IOCFG.IE`. -/
def ie (config : Word) : Bool := Word.flag config 29

/-- `IOCFG.PULL_CTL`. -/
def pullCtl (config : Word) : Word := Word.field config 14 2

def checkRegisters (selected : Selection) : Driver Unit := do
  let registers := selected.uart.registers
  assertEqual debugWord (Word.field (← readReg (.uart registers .ibrd)) 0 16) selected.divisors.1
  assertEqual debugWord (Word.field (← readReg (.uart registers .fbrd)) 0 6) selected.divisors.2
  assertEqual debugWord (portId (← readReg (.iocfg rxDio))) selected.ports.1
  assertEqual debugWord (portId (← readReg (.iocfg txDio))) selected.ports.2
  assert (ie (← readReg (.iocfg rxDio))) "assertion failed: r::IOC.iocfg12.read().ie()"
  assert (!ie (← readReg (.iocfg txDio))) "assertion failed: !r::IOC.iocfg13.read().ie()"
  assertEqual debugWord (pullCtl (← readReg (.iocfg rxDio))) 3
  assertEqual debugWord (pullCtl (← readReg (.iocfg txDio))) 3
  assertEqual debugWord (← readReg (.uart registers .lcrh)) (BitVec.ofNat 32 (3 <<< 5 ||| 1 <<< 4))
  assertEqual debugWord (← readReg (.uart registers .imsc)) 0
  assertEqual debugWord (← readReg (.uart registers .dmactl)) 0

/-- Loop-back is selected while the UART is disabled, with its FIFOs emptied. -/
def loopBack (registers : UartBlock) : Driver Unit := do
  let control ← readReg (.uart registers .ctl)
  assert (Word.flag control ctlUarten && Word.flag control ctlRxe && Word.flag control ctlTxe)
    "assertion failed: control.uarten() && control.rxe() && control.txe()"
  let control := Word.setFlag control ctlUarten false
  writeReg (.uart registers .ctl) control
  let format ← readReg (.uart registers .lcrh)
  let format := Word.setFlag format lcrhFen false
  writeReg (.uart registers .lcrh) format
  let format := Word.setFlag format lcrhFen true
  writeReg (.uart registers .lcrh) format
  let control := Word.setFlag control ctlLbe true
  writeReg (.uart registers .ctl) control
  let control := Word.setFlag control ctlUarten true
  writeReg (.uart registers .ctl) control

def configure (selected : Selection) : Driver (Counter × Uart) := do
  let before ← initializationState
  refuse selected.uart before invalidBauds
  let uart ← powerUp selected
  Prcm.initializeTimerClock
  let counter ← Counter.initializeCounter .gpt1
  checkRegisters selected
  loopBack selected.uart.registers
  return (counter, uart)

/-- One attempt of the wait for a byte to come back. -/
def received (counter : Counter) (uart : Uart) (start : Word) (byte : Byte) : Driver Bool := do
  assert (decide ((← counter.elapsedSince start) < timeout))
    "assertion failed: counter.elapsed_since(start) < GPT_CLOCK_HZ"
  match ← unwrapRead (← uart.tryRead) with
  | some received => do
      assertEqual debugByte received byte
      return true
  | none => return false

def exchange (counter : Counter) (uart : Uart) : List Byte → Driver Unit
  | [] => return ()
  | byte :: bytes => do
      unwrapWrite (← uart.tryWrite byte)
      let start ← counter.now
      waitFor (received counter uart start byte) Timer.gptClockHz
      assertEqual debugRead (← uart.tryRead) (.ok none)
      exchange counter uart bytes

def everyByte : List Byte := (List.range 256).map (BitVec.ofNat 8)

/-- The checks of the configured UART; a zero timeout is over at the first poll. -/
def communicate (counter : Counter) (uart : Uart) : Driver Unit := do
  Clocks.requestHfCrystal
  waitFor Clocks.hfCrystalReady 2000000
  waitFor Clocks.trySwitchToHfCrystal 2000000
  assertEqual debugRead (← uart.tryRead) (.ok none)
  assertEqual debugWrite (← uart.writeTimeout [0x55] counter 0 1) (.error ⟨⟩)
  exchange counter uart everyByte

def run (index : Fin 4) : Driver Unit := do
  let made ← configure (selection index)
  communicate made.1 made.2

end DirectLine.Firmware.UartTest
