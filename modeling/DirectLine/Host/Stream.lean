import DirectLine.Host.Python
import DirectLine.Interaction.Transition
import DirectLine.Text.Segments
import Mathlib.Data.Finset.Basic

/-!
# Streaming a child process

`stream_process` of `output.py` as a machine that runs against its child: the
select loop over both channels, the line buffer of stdout, the incremental
decoder of stderr, and the clean-up on every way out.
-/

namespace DirectLine.Host

open Text Interaction

inductive Channel where
  | stdout | stderr
  deriving DecidableEq, Repr

def eio : Int := 5

inductive Reading where
  | bytes (chunk : Bytes)
  | osError (errno : Int) (message : Text)
  | interrupted

/-- The chunk to use, empty at the end of the channel. -/
def Reading.chunk (progress : Bool) (channel : Channel) : Reading → Except Raised Bytes
  | .bytes chunk => .ok chunk
  | .osError errno message =>
      -- Linux PTYs signal their final slave close with EIO instead of EOF.
      if progress && channel = .stderr && errno = eio then .ok [] else .error (.os message)
  | .interrupted => .error .keyboardInterrupt

/-- The arguments of `stream_process`.  A call of `on_line` or a write to `sys.stderr` may raise,
depending on those before it. -/
structure Call where
  progress : Bool
  timeout : Nat
  onLine : List Text → Text → Option Raised
  relay : List Text → Text → Option Raised

/-- The two transcripts, the local variables of the loop, and what was passed on: the arguments
of `on_line` and of `sys.stderr.write`. -/
structure Streaming where
  registered : Finset Channel
  output : Bytes
  diagnostics : Bytes
  pending : Bytes
  decoding : Decoding
  lines : List Text
  relayed : List Text

namespace Streaming

def begin : Streaming where
  registered := {.stdout, .stderr}
  output := []
  diagnostics := []
  pending := []
  decoding := .start
  lines := []
  relayed := []

def file (streaming : Streaming) : Channel → Bytes
  | .stdout => streaming.output
  | .stderr => streaming.diagnostics

variable (call : Call)

/-- `while b"\n" in pending`. -/
def deliver (streaming : Streaming) : Streaming × Option Raised :=
  match _cut : splitOnce 0x0a streaming.pending with
  | none => (streaming, none)
  | some (line, pending) =>
      let called :=
        { streaming with pending := pending, lines := streaming.lines ++ [decode line] }
      match call.onLine streaming.lines (decode line) with
      | some raised => (called, some raised)
      | none => deliver called
termination_by streaming.pending.length
decreasing_by
  apply splitOnce_length
  assumption

/-- `sys.stderr.write`, with the state of the decoder after it. -/
def relay (streaming : Streaming) (decoded : Decoding × Text) : Streaming × Option Raised :=
  ({ streaming with decoding := decoded.1, relayed := streaming.relayed ++ [decoded.2] },
    call.relay streaming.relayed decoded.2)

/-- The body of the `for` loop. -/
def serve (streaming : Streaming) (channel : Channel) (reading : Reading) :
    Streaming × Option Raised :=
  match reading.chunk call.progress channel with
  | .error raised => (streaming, some raised)
  | .ok [] => ({ streaming with registered := streaming.registered.erase channel }, none)
  | .ok chunk =>
      match channel with
      | .stdout =>
          deliver call { streaming with
            output := streaming.output ++ chunk
            pending := streaming.pending ++ chunk }
      | .stderr =>
          relay call { streaming with diagnostics := streaming.diagnostics ++ chunk }
            (utf8.feed streaming.decoding chunk)

/-- What follows the loop: the unterminated line, and the end of the decoder. -/
def flush (streaming : Streaming) : Streaming × Option Raised :=
  let rest := (.start, utf8.finish streaming.decoding)
  if streaming.pending = [] then relay call streaming rest
  else
    let called := { streaming with lines := streaming.lines ++ [decode streaming.pending] }
    match call.onLine streaming.lines (decode streaming.pending) with
    | some raised => (called, some raised)
    | none => relay call called rest

end Streaming

inductive Child where
  | running
  | killed
  | exited (status : Int)
  | reaped (status : Int)
  deriving DecidableEq, Repr

/-- `process.poll()`, which reaps a child that has exited. -/
def Child.poll : Child → Child × Option Int
  | .exited status => (.reaped status, some status)
  | .reaped status => (.reaped status, some status)
  | child => (child, none)

/-- `process.kill()`, which polls before it signals. -/
def Child.kill (child : Child) : Child :=
  match child.poll with
  | (polled, some _) => polled
  | (_, none) => .killed

inductive Location where
  | looping
  | serving (ready : List Channel)
  /-- In `process.wait` with a timeout, after both channels. -/
  | waiting
  | unwinding (outcome : Except Raised Int)
  | killing (outcome : Except Raised Int)
  /-- In the last `process.wait`. -/
  | reaping (outcome : Except Raised Int)
  | finished (outcome : Except Raised Int)

inductive Label where
  | select (elapsed : Nat) (ready : List Channel)
  | deadline (elapsed : Nat)
  | interrupt (elapsed : Nat) (raised : Raised)
  | read (channel : Channel) (reading : Reading)
  | next
  | flush
  | wait (outcome : Except Raised Int)
  | poll (result : Option Int)
  | kill
  | reap
  | exit (status : Int)

structure Machine where
  streaming : Streaming
  child : Child
  location : Location

def Machine.start : Machine := ⟨.begin, .running, .looping⟩

def Location.after (location : Location) : Option Raised → Location
  | none => location
  | some raised => .unwinding (.error raised)

inductive Step (call : Call) : Machine → Label → Machine → Prop where
  | select {streaming child elapsed ready} :
      streaming.registered.Nonempty → elapsed < call.timeout → ready.Nodup →
        (∀ channel ∈ ready, channel ∈ streaming.registered) →
          Step call ⟨streaming, child, .looping⟩ (.select elapsed ready)
            ⟨streaming, child, .serving ready⟩
  | deadline {streaming child elapsed} :
      streaming.registered.Nonempty → call.timeout ≤ elapsed →
        Step call ⟨streaming, child, .looping⟩ (.deadline elapsed)
          ⟨streaming, child, .unwinding (.error .timeoutExpired)⟩
  | interrupt {streaming child elapsed raised} :
      streaming.registered.Nonempty → elapsed < call.timeout →
        Step call ⟨streaming, child, .looping⟩ (.interrupt elapsed raised)
          ⟨streaming, child, .unwinding (.error raised)⟩
  | read {streaming child channel ready reading streaming' raised} :
      streaming.serve call channel reading = (streaming', raised) →
        Step call ⟨streaming, child, .serving (channel :: ready)⟩ (.read channel reading)
          ⟨streaming', child, (Location.serving ready).after raised⟩
  | next {streaming child} :
      Step call ⟨streaming, child, .serving []⟩ .next ⟨streaming, child, .looping⟩
  | flush {streaming child streaming' raised} :
      streaming.registered = ∅ → streaming.flush call = (streaming', raised) →
        Step call ⟨streaming, child, .looping⟩ .flush
          ⟨streaming', child, Location.waiting.after raised⟩
  | waited {streaming status} :
      Step call ⟨streaming, .exited status, .waiting⟩ (.wait (.ok status))
        ⟨streaming, .reaped status, .unwinding (.ok status)⟩
  -- An interrupted wait may still have reaped the child.
  | unwaited {streaming child child' raised} :
      child' = child ∨ child' = child.poll.1 →
        Step call ⟨streaming, child, .waiting⟩ (.wait (.error raised))
          ⟨streaming, child', .unwinding (.error raised)⟩
  | pollRunning {streaming child outcome} :
      child.poll.2 = none →
        Step call ⟨streaming, child, .unwinding outcome⟩ (.poll none)
          ⟨streaming, child.poll.1, .killing outcome⟩
  | pollExited {streaming child outcome status} :
      child.poll.2 = some status →
        Step call ⟨streaming, child, .unwinding outcome⟩ (.poll (some status))
          ⟨streaming, child.poll.1, .reaping outcome⟩
  | kill {streaming child outcome} :
      Step call ⟨streaming, child, .killing outcome⟩ .kill
        ⟨streaming, child.kill, .reaping outcome⟩
  | reap {streaming child outcome status} :
      child.poll = (.reaped status, some status) →
        Step call ⟨streaming, child, .reaping outcome⟩ .reap
          ⟨streaming, .reaped status, .finished outcome⟩
  | exit {streaming child location status} :
      child = .running ∨ child = .killed →
        Step call ⟨streaming, child, location⟩ (.exit status)
          ⟨streaming, .exited status, location⟩

end DirectLine.Host
