import DirectLine.Interaction.Program
import DirectLine.Interaction.Contract
import DirectLine.Interaction.Frame
import DirectLine.Interaction.Process
import DirectLine.Interaction.Word
import DirectLine.Interaction.Transition
import DirectLine.Interaction.Lock
import DirectLine.Interaction.Scan
import DirectLine.Interaction.Loop
import DirectLine.Interaction.Script
import DirectLine.Interaction.Rehearsal
import DirectLine.Arithmetic.Checked
import DirectLine.Arithmetic.Nearest
import DirectLine.Arithmetic.Placement
import DirectLine.Firmware.Registers
import DirectLine.Firmware.Prcm
import DirectLine.Firmware.Gpio
import DirectLine.Firmware.Outputs
import DirectLine.Firmware.Outputs.Runs
import DirectLine.Firmware.Timer
import DirectLine.Firmware.Priorities
import DirectLine.Firmware.Uart
import DirectLine.Firmware.Uart.Baud
import DirectLine.Foundation.Deadline
import DirectLine.Firmware.Enqueue
import DirectLine.Firmware.Deadline
import DirectLine.Firmware.Deadline.Sharp
import DirectLine.Firmware.Device
import DirectLine.Firmware.TimerLine
import DirectLine.Firmware.TimerLine.Foreground
import DirectLine.Firmware.TimerLine.Accounting
import DirectLine.Firmware.TimerLine.Timeouts
import DirectLine.Firmware.TimerLine.Requests
import DirectLine.Firmware.TimerLine.Between
import DirectLine.Firmware.TimerLines
import DirectLine.Firmware.TimerLines.Contracts
import DirectLine.Firmware.TimerLines.Rehearsal
import DirectLine.Firmware.Acquisition
import DirectLine.Firmware.Acquisition.Order
import DirectLine.Firmware.Acquisition.Runs
import DirectLine.Firmware.Uart.Initialization
import DirectLine.Firmware.TimerBank
import DirectLine.Firmware.TimerBank.Isolation
import DirectLine.Firmware.TimerBank.Concurrent
import DirectLine.Firmware.TimerBank.Runs
import DirectLine.Firmware.Fifo
import DirectLine.Firmware.Fifo.Calls
import DirectLine.Firmware.Fifo.Reads
import DirectLine.Firmware.Loopback
import DirectLine.Firmware.Main
import DirectLine.Firmware.Echo
import DirectLine.Firmware.Supply
import DirectLine.Firmware.Supply.Constructions
import DirectLine.Firmware.Supply.Rehearsal
import DirectLine.Firmware.Startup
import DirectLine.Firmware.Link
import DirectLine.Firmware.Diagnostic
import DirectLine.Firmware.Diagnostic.Boot
import DirectLine.Firmware.Rtc
import DirectLine.Firmware.Clock
import DirectLine.Firmware.Oscillator
import DirectLine.Firmware.Setup
import DirectLine.Firmware.Bringup
import DirectLine.Firmware.Bringup.Contracts
import DirectLine.Firmware.Bringup.Runs
import DirectLine.Firmware.Main.Prologue
import DirectLine.Firmware.Main.Accesses
import DirectLine.Firmware.Main.SelfTest
import DirectLine.Firmware.Main.Verdict
import DirectLine.Firmware.Main.Session
import DirectLine.Firmware.Main.Transcript
import DirectLine.Firmware.TimerLines.Joint
import DirectLine.Firmware.TimerTest
import DirectLine.Firmware.TimerTest.Checks
import DirectLine.Firmware.TimerTest.Construction
import DirectLine.Firmware.TimerTest.Runs
import DirectLine.Firmware.UartTest
import DirectLine.Firmware.UartTest.Exchange
import DirectLine.Firmware.UartTest.Construction
import DirectLine.Firmware.UartTest.Runs
import DirectLine.Text.CodePoint
import DirectLine.Text.Transducer
import DirectLine.Text.Lines
import DirectLine.Text.Utf8
import DirectLine.Text.Segments
import DirectLine.Text.Parts
import DirectLine.Text.Surrogates
import DirectLine.Host.Python
import DirectLine.Host.Events
import DirectLine.Host.Grammar
import DirectLine.Host.Runner
import DirectLine.Host.CommandLine
import DirectLine.Host.Verdict
import DirectLine.Host.Failures
import DirectLine.Host.Sessions
import DirectLine.Host.Stream
import DirectLine.Host.Stream.Runs
import DirectLine.Host.Stream.Origins
import DirectLine.Host.Display
import DirectLine.Host.Display.Agreement
import DirectLine.Host.Escapes
import DirectLine.Firmware.HilTest
