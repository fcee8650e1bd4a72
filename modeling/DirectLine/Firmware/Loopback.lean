import DirectLine.Firmware.Fifo.Calls

/-!
# A UART with its shift registers

The registers and both FIFOs of one UART, the character it sends and the one it
receives.  A disabled UART completes the character it is at, and clearing
`LCRH.FEN` empties the FIFOs, so a character can outlive a flush.  In the
loop-back mode what is sent is received and the pin is not listened to.
-/

namespace DirectLine.Firmware.Uart

open DirectLine.Interaction

def ctlUarten : Nat := 0

def ctlLbe : Nat := 7

def ctlTxe : Nat := 8

def ctlRxe : Nat := 9

def lcrhFen : Nat := 4

def Entry.good (byte : Byte) : Entry := ⟨byte, false, false, false⟩

def Received.good (byte : Byte) : Received := ⟨.good byte, false⟩

/-- A register that reads as it was written. -/
def readable : UartRegister → Bool
  | .dr | .fr | .ecr => false
  | .ibrd | .fbrd | .lcrh | .ctl | .imsc | .dmactl => true

structure Line where
  words : UartRegister → Word
  /-- The transmit FIFO, oldest first. -/
  outgoing : List Byte
  shifting : Option Byte
  /-- The character being received from the pin. -/
  arriving : Option Entry
  receiver : Receiver
  /-- The FIFOs were emptied while a character was being received. -/
  caught : Bool

namespace Line

/-- Without FIFOs there is one holding register each way. -/
def capacity (depth : Nat) (line : Line) : Nat :=
  if Word.flag (line.words .lcrh) lcrhFen then depth else 1

inductive Reads (depth : Nat) (line : Line) (value : Word) : UartRegister → Line → Prop where
  | flags : Word.flag value txff = decide (line.capacity depth ≤ line.outgoing.length) →
      Word.flag value rxfe = line.receiver.queue.isEmpty → Reads depth line value .fr line
  | data {receiver : Receiver} : line.receiver.Consumes value receiver →
      Reads depth line value .dr { line with receiver := receiver }
  /-- The receive status, at the address of `ECR`. -/
  | status : Reads depth line value .ecr line
  | stored {register : UartRegister} : readable register = true → value = line.words register →
      Reads depth line value register line

/-- Clearing the status does not reach the FIFO, and `FR` is read only. -/
def write (depth : Nat) (line : Line) (value : Word) : UartRegister → Line
  | .fr | .ecr => line
  | .dr =>
      if line.outgoing.length < line.capacity depth then
        { line with outgoing := line.outgoing ++ [value.setWidth 8] }
      else line
  | .lcrh =>
      if Word.flag value lcrhFen then
        { line with words := Function.update line.words .lcrh value }
      else
        { line with
          words := Function.update line.words .lcrh value
          outgoing := []
          receiver := .holding [] false
          caught := line.caught || line.arriving.isSome }
  | register => { line with words := Function.update line.words register value }

def access (block : UartBlock) (depth : Nat) (line : Line) : Access → Line → Prop
  | .read (.uart other register) value, line' =>
      if other = block then line.Reads depth value register line' else line' = line
  | .write (.uart other register) value, line' =>
      if other = block then line' = line.write depth value register else line' = line
  | _, line' => line' = line

def enabled (line : Line) : Bool := Word.flag (line.words .ctl) ctlUarten

def loops (line : Line) : Bool := Word.flag (line.words .ctl) ctlLbe

def sends (line : Line) : Bool := Word.flag (line.words .ctl) ctlTxe

def receives (line : Line) : Bool := Word.flag (line.words .ctl) ctlRxe

inductive Shifts (depth : Nat) : Line → Line → Prop where
  | listen {line : Line} (entry : Entry) : line.enabled = true → line.receives = true →
      line.loops = false → line.arriving = none →
      Shifts depth line { line with arriving := some entry }
  | arrive {line : Line} {entry : Entry} : line.arriving = some entry →
      Shifts depth line
        { line with
          arriving := none
          receiver := line.receiver.arrive (line.capacity depth) entry }
  | send {line : Line} {byte : Byte} {bytes : List Byte} : line.enabled = true →
      line.sends = true → line.shifting = none → line.outgoing = byte :: bytes →
      Shifts depth line { line with shifting := some byte, outgoing := bytes }
  | sent {line : Line} {byte : Byte} : line.shifting = some byte →
      (line.loops && line.receives) = false → Shifts depth line { line with shifting := none }
  | looped {line : Line} {byte : Byte} : line.shifting = some byte →
      (line.loops && line.receives) = true →
      Shifts depth line
        { line with
          shifting := none
          receiver := line.receiver.arrive (line.capacity depth) (.good byte) }

/-- The registers are known, and nothing is being sent. -/
structure Programmed (file : UartRegister → Word) (line : Line) : Prop where
  words : line.words = file
  outgoing : line.outgoing = []
  shifting : line.shifting = none

/-- Nothing is being received either, and the UART is disabled. -/
structure Unused (file : UartRegister → Word) (line : Line) : Prop extends
    Programmed file line where
  silent : line.arriving = none
  disabled : Word.flag (file .ctl) ctlUarten = false

structure Flushed (file : UartRegister → Word) (line : Line) : Prop extends
    Unused file line where
  receiver : line.receiver = .holding [] false

/-- It listens to itself, and has read so much. -/
structure Linked (history : List Received) (line : Line) : Prop where
  loops : line.loops = true
  receives : line.receives = true
  fifos : Word.flag (line.words .lcrh) lcrhFen = true
  silent : line.arriving = none
  overrun : line.receiver.overrun = false
  consumed : line.receiver.consumed = history

structure Settled (history : List Received) (queue : List Entry) (line : Line) : Prop extends
    Linked history line where
  outgoing : line.outgoing = []
  shifting : line.shifting = none
  queue : line.receiver.queue = queue

/-- Where a single character is. -/
inductive Place (byte : Byte) : List Byte → Option Byte → List Entry → Prop where
  | outgoing : Place byte [byte] none []
  | shifting : Place byte [] (some byte) []
  | queue : Place byte [] none [.good byte]

/-- A single character is on its way. -/
structure Carries (byte : Byte) (history : List Received) (line : Line) : Prop extends
    Linked history line where
  place : Place byte line.outgoing line.shifting line.receiver.queue

section Shifts

variable {depth : Nat} {line line' : Line} {file : UartRegister → Word} {byte : Byte}
variable {history : List Received}

theorem Shifts.words_eq (shifts : line.Shifts depth line') : line'.words = line.words := by
  cases shifts <;> rfl

theorem Shifts.caught_eq (shifts : line.Shifts depth line') : line'.caught = line.caught := by
  cases shifts <;> rfl

theorem Programmed.shifts (programmed : Programmed file line) (shifts : line.Shifts depth line') :
    Programmed file line' := by
  have same := shifts.words_eq.trans programmed.words
  cases shifts with
  | listen | arrive => exact ⟨same, programmed.outgoing, programmed.shifting⟩
  | send _ _ _ first =>
      rw [programmed.outgoing] at first
      cases first
  | sent first | looped first =>
      rw [programmed.shifting] at first
      cases first

theorem Unused.still (unused : Unused file line) : ¬line.Shifts depth line' := by
  intro shifts
  cases shifts with
  | listen _ enabled =>
      rw [Line.enabled, unused.words, unused.disabled] at enabled
      cases enabled
  | arrive arrives =>
      rw [unused.silent] at arrives
      cases arrives
  | send _ _ _ first =>
      rw [unused.outgoing] at first
      cases first
  | sent first | looped first =>
      rw [unused.shifting] at first
      cases first

theorem Settled.still {queue : List Entry} (settled : Settled history queue line) :
    ¬line.Shifts depth line' := by
  intro shifts
  cases shifts with
  | listen _ _ _ apart =>
      rw [settled.loops] at apart
      cases apart
  | arrive arrives =>
      rw [settled.silent] at arrives
      cases arrives
  | send _ _ _ first =>
      rw [settled.outgoing] at first
      cases first
  | sent first | looped first =>
      rw [settled.shifting] at first
      cases first

theorem Place.sent {first : Byte} {bytes : List Byte} {shifting : Option Byte} {queue : List Entry}
    (place : Place byte (first :: bytes) shifting queue) :
    first = byte ∧ bytes = [] ∧ queue = [] := by
  cases place
  exact ⟨rfl, rfl, rfl⟩

theorem Place.shifted {first : Byte} {outgoing : List Byte} {queue : List Entry}
    (place : Place byte outgoing (some first) queue) :
    outgoing = [] ∧ first = byte ∧ queue = [] := by
  cases place
  exact ⟨rfl, rfl, rfl⟩

theorem arrive_empty {receiver : Receiver} {room : Nat} {entry : Entry}
    (empty : receiver.queue = []) (some' : 0 < room) :
    receiver.arrive room entry =
      { receiver with queue := [entry], accepted := receiver.accepted ++ [entry] } := by
  rw [Receiver.arrive, empty, List.length_nil, if_pos some', List.nil_append]

theorem capacity_pos (room : 0 < depth) : 0 < line.capacity depth := by
  rw [capacity]
  split
  · exact room
  · exact Nat.one_pos

theorem Carries.shifts (carries : Carries byte history line) (room : 0 < depth)
    (shifts : line.Shifts depth line') : Carries byte history line' := by
  have place := carries.place
  cases shifts with
  | listen _ _ _ apart =>
      rw [carries.loops] at apart
      cases apart
  | arrive arrives =>
      rw [carries.silent] at arrives
      cases arrives
  | send _ _ idle first =>
      rw [first] at place
      obtain ⟨rfl, rfl, empty⟩ := place.sent
      refine { carries with place := ?_ }
      dsimp only
      rw [empty]
      exact .shifting
  | sent first apart =>
      rw [carries.loops, carries.receives] at apart
      cases apart
  | looped first _ =>
      rw [first] at place
      obtain ⟨none, rfl, empty⟩ := place.shifted
      rw [arrive_empty empty (capacity_pos room)]
      refine { carries with place := ?_ }
      dsimp only
      rw [none]
      exact .queue

theorem Carries.arrived (carries : Carries byte history line) :
    line.receiver.queue = [] ∨ Settled history [.good byte] line := by
  obtain ⟨linked, place⟩ := carries
  generalize outgoing : line.outgoing = bytes at place
  generalize shifting : line.shifting = first at place
  generalize queue : line.receiver.queue = entries at place
  cases place with
  | outgoing | shifting => exact .inl rfl
  | queue => exact .inr ⟨linked, outgoing, shifting, queue⟩

theorem Settled.write (settled : Settled history [] line) (room : 0 < depth) :
    Carries byte history (line.write depth (byte.setWidth 32) .dr) := by
  have free : line.outgoing.length < line.capacity depth := by
    rw [settled.outgoing]
    exact capacity_pos room
  rw [Line.write, if_pos free, BitVec.setWidth_setWidth_of_le _ (by decide), BitVec.setWidth_eq]
  refine { settled with place := ?_ }
  dsimp only
  rw [settled.outgoing, settled.shifting, settled.queue]
  exact .outgoing

end Shifts

section Writes

variable {depth : Nat} {line : Line} {file : UartRegister → Word} {register : UartRegister}
variable {value : Word}

theorem write_words (kept : readable register = true) :
    (line.write depth value register).words = Function.update line.words register value := by
  cases register with
  | dr | fr | ecr => cases kept
  | lcrh =>
      rw [Line.write]
      split <;> rfl
  | ibrd | fbrd | ctl | imsc | dmactl => rfl

theorem write_arriving : (line.write depth value register).arriving = line.arriving := by
  cases register with
  | lcrh | dr =>
      rw [Line.write]
      split <;> rfl
  | fr | ecr | ibrd | fbrd | ctl | imsc | dmactl => rfl

theorem write_caught (caught : line.caught = true) :
    (line.write depth value register).caught = true := by
  cases register with
  | lcrh =>
      rw [Line.write]
      split
      · exact caught
      · exact Bool.or_eq_true_iff.mpr (.inl caught)
  | dr =>
      rw [Line.write]
      split <;> exact caught
  | fr | ecr | ibrd | fbrd | ctl | imsc | dmactl => exact caught

theorem access_caught {block : UartBlock} {access : Access} {line' : Line}
    (moved : line.access block depth access line') (caught : line.caught = true) :
    line'.caught = true := by
  unfold Line.access at moved
  split at moved
  · split at moved
    · cases moved <;> exact caught
    · exact moved ▸ caught
  · split at moved
    · exact moved ▸ write_caught caught
    · exact moved ▸ caught
  · exact moved ▸ caught

theorem Programmed.write (programmed : Programmed file line) (kept : readable register = true) :
    Programmed (Function.update file register value) (line.write depth value register) := by
  have words : (line.write depth value register).words =
      Function.update file register value := by
    rw [write_words kept, programmed.words]
  cases register with
  | dr | fr | ecr => cases kept
  | lcrh =>
      rw [Line.write] at words ⊢
      split at words
      · rw [if_pos ‹_›]
        exact ⟨words, programmed.outgoing, programmed.shifting⟩
      · rw [if_neg ‹_›]
        exact ⟨words, rfl, programmed.shifting⟩
  | ibrd | fbrd | ctl | imsc | dmactl =>
      exact ⟨words, programmed.outgoing, programmed.shifting⟩

theorem Unused.write (unused : Unused file line) (kept : readable register = true)
    (off : register = .ctl → Word.flag value ctlUarten = false) :
    Unused (Function.update file register value) (line.write depth value register) := by
  refine { unused.toProgrammed.write kept with
    silent := write_arriving.trans unused.silent
    disabled := ?_ }
  by_cases control : register = .ctl
  · subst control
    rw [Function.update_self]
    exact off rfl
  · rw [Function.update_of_ne (Ne.symm control)]
    exact unused.disabled

/-- A character that is being received outlives the flush. -/
theorem Programmed.flush (programmed : Programmed file line)
    (disabled : Word.flag (file .ctl) ctlUarten = false)
    (clears : Word.flag value lcrhFen = false) :
    (line.write depth value .lcrh).caught = true ∨
      Flushed (Function.update file .lcrh value) (line.write depth value .lcrh) := by
  have written : Programmed (Function.update file .lcrh value) (line.write depth value .lcrh) :=
    programmed.write rfl
  rw [Line.write, clears, if_neg Bool.false_ne_true] at written ⊢
  cases silent : line.arriving with
  | some entry => exact .inl (Bool.or_true _)
  | none =>
      rw [silent] at written
      refine .inr { written with silent := rfl, disabled := ?_, receiver := rfl }
      rw [Function.update_of_ne (by decide)]
      exact disabled

theorem Flushed.write (flushed : Flushed file line) (kept : readable register = true)
    (off : register = .ctl → Word.flag value ctlUarten = false) :
    Flushed (Function.update file register value) (line.write depth value register) := by
  refine { flushed.toUnused.write kept off with receiver := ?_ }
  cases register with
  | dr | fr | ecr => cases kept
  | lcrh =>
      rw [Line.write]
      split
      · exact flushed.receiver
      · rfl
  | ibrd | fbrd | ctl | imsc | dmactl => exact flushed.receiver

theorem Flushed.link (flushed : Flushed file line) (loops : Word.flag value ctlLbe = true)
    (receives : Word.flag value ctlRxe = true) (fifos : Word.flag (file .lcrh) lcrhFen = true) :
    Settled [] [] (line.write depth value .ctl) where
  loops := by
    rw [Line.loops, write_words rfl, Function.update_self]
    exact loops
  receives := by
    rw [Line.receives, write_words rfl, Function.update_self]
    exact receives
  fifos := by
    rw [write_words rfl, Function.update_of_ne (by decide), flushed.words]
    exact fifos
  silent := write_arriving.trans flushed.silent
  overrun := congrArg Receiver.overrun flushed.receiver
  consumed := congrArg Receiver.consumed flushed.receiver
  outgoing := flushed.outgoing
  shifting := flushed.shifting
  queue := congrArg Receiver.queue flushed.receiver

end Writes

end Line

end DirectLine.Firmware.Uart
