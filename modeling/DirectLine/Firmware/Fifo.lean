import DirectLine.Firmware.Enqueue
import DirectLine.Interaction.Process

/-!
# FIFOs of a UART

The receive and the transmit FIFO of a UART, each with `depth` entries, as the
description of `DR` states them.  Each keeps its history: the characters taken
in and the characters given out.
-/

namespace DirectLine.Firmware.Uart

open DirectLine.Interaction DirectLine.Interaction.Program

/-- A character in the receive FIFO, with the status that travels with it. -/
structure Entry where
  data : Byte
  framing : Bool
  parity : Bool
  breakDetected : Bool
  deriving DecidableEq, Repr

/-- What a read of `DR` consumed, and whether it reported an overrun. -/
structure Received where
  entry : Entry
  overrun : Bool
  deriving DecidableEq, Repr

def Entry.erroneous (entry : Entry) : Bool := entry.framing || entry.parity || entry.breakDetected

def Received.clean (received : Received) : Bool := !received.entry.erroneous && !received.overrun

def Received.flags (received : Received) : RxError where
  framing := received.entry.framing
  parity := received.entry.parity
  breakDetected := received.entry.breakDetected
  overrun := received.overrun

/-- What `try_read` makes of an entry. -/
def Received.outcome (received : Received) : Except RxError (Option Byte) :=
  if received.clean then .ok (some received.entry.data) else .error received.flags

/-- The value of `DR`; its reserved bits may be anything. -/
structure Received.Shows (received : Received) (value : Word) : Prop where
  data : value.setWidth 8 = received.entry.data
  framing : Word.flag value dataFe = received.entry.framing
  parity : Word.flag value dataPe = received.entry.parity
  breakDetected : Word.flag value dataBe = received.entry.breakDetected
  overrun : Word.flag value dataOe = received.overrun

structure Receiver where
  /-- The entries, oldest first. -/
  queue : List Entry
  /-- A character has been discarded. -/
  overrun : Bool
  accepted : List Entry
  consumed : List Received

namespace Receiver

def holding (queue : List Entry) (overrun : Bool) : Receiver := ⟨queue, overrun, queue, []⟩

/-- A character arrives.  A full FIFO keeps its contents and the character is discarded. -/
def arrive (depth : Nat) (receiver : Receiver) (entry : Entry) : Receiver :=
  if receiver.queue.length < depth then
    { receiver with
      queue := receiver.queue ++ [entry]
      accepted := receiver.accepted ++ [entry] }
  else { receiver with overrun := true }

def Arrives (depth : Nat) (receiver receiver' : Receiver) : Prop :=
  ∃ entry, receiver' = receiver.arrive depth entry

/-- A read of `DR` consumes the oldest entry.  An overrun may be reported with any later entry,
since clearing the status does not reach the FIFO; an empty FIFO answers at will. -/
inductive Consumes (receiver : Receiver) (value : Word) : Receiver → Prop where
  | entry (received : Received) (queue : List Entry) :
      receiver.queue = received.entry :: queue →
      (received.overrun = true → receiver.overrun = true) → received.Shows value →
      Consumes receiver value
        { receiver with queue := queue, consumed := receiver.consumed ++ [received] }
  | empty : receiver.queue = [] → Consumes receiver value receiver

def access (block : UartBlock) (receiver : Receiver) : Access → Receiver → Prop
  | .read (.uart other .fr) flags, receiver' =>
      receiver' = receiver ∧ (other = block → Word.flag flags rxfe = receiver.queue.isEmpty)
  | .read (.uart other .dr) value, receiver' =>
      if other = block then receiver.Consumes value receiver' else receiver' = receiver
  | _, receiver' => receiver' = receiver

/-- Entries leave in the order in which they came, each once. -/
def Ordered (receiver : Receiver) : Prop :=
  receiver.accepted = receiver.consumed.map Received.entry ++ receiver.queue

variable {block : UartBlock} {depth : Nat} {receiver receiver' : Receiver}

theorem ordered_holding (queue : List Entry) (overrun : Bool) : (holding queue overrun).Ordered :=
  rfl

theorem Ordered.arrives (ordered : receiver.Ordered) (arrives : receiver.Arrives depth receiver') :
    receiver'.Ordered := by
  obtain ⟨entry, rfl⟩ := arrives
  unfold arrive
  split
  · simp only [Ordered] at ordered ⊢
    rw [ordered, List.append_assoc]
  · exact ordered

theorem Ordered.access {event : Access} (ordered : receiver.Ordered)
    (moved : receiver.access block event receiver') : receiver'.Ordered := by
  unfold Receiver.access at moved
  split at moved
  · exact moved.1 ▸ ordered
  · split at moved
    · cases moved with
      | entry received queue front _ _ =>
          simp only [Ordered] at ordered ⊢
          rw [ordered, front, List.map_append, List.append_assoc]
          rfl
      | empty => exact ordered
    · exact moved ▸ ordered
  · exact moved ▸ ordered

theorem Consumes.taken {value : Word} (consumes : receiver.Consumes value receiver')
    (nonempty : receiver.queue ≠ []) :
    ∃ received : Received, receiver'.consumed = receiver.consumed ++ [received] ∧
      received.Shows value := by
  cases consumes with
  | entry received queue _ _ shows => exact ⟨received, rfl, shows⟩
  | empty none => exact absurd none nonempty

theorem Arrives.consumed (arrives : receiver.Arrives depth receiver') :
    receiver'.consumed = receiver.consumed := by
  obtain ⟨entry, rfl⟩ := arrives
  unfold arrive
  split <;> rfl

theorem Arrives.nonempty (arrives : receiver.Arrives depth receiver')
    (nonempty : receiver.queue ≠ []) : receiver'.queue ≠ [] := by
  obtain ⟨entry, rfl⟩ := arrives
  unfold arrive
  split
  · exact List.append_ne_nil_of_left_ne_nil nonempty _
  · exact nonempty

end Receiver

structure Transmitter where
  level : Nat
  sent : List Byte

namespace Transmitter

def Drains (transmitter transmitter' : Transmitter) : Prop :=
  transmitter' = { transmitter with level := transmitter.level - 1 }

/-- A byte written to a full FIFO is lost. -/
def access (block : UartBlock) (depth : Nat) (transmitter : Transmitter) :
    Access → Transmitter → Prop
  | .read (.uart other .fr) flags, transmitter' =>
      transmitter' = transmitter ∧
        (other = block → Word.flag flags txff = decide (depth ≤ transmitter.level))
  | .write (.uart other .dr) value, transmitter' =>
      transmitter' =
        if other = block ∧ transmitter.level < depth then
          ⟨transmitter.level + 1, transmitter.sent ++ [value.setWidth 8]⟩
        else transmitter
  | _, transmitter' => transmitter' = transmitter

end Transmitter

end DirectLine.Firmware.Uart
