import DirectLine.Firmware.Fifo.Calls

/-!
# Reading a UART

What a caller of `try_read` gets of the characters that arrive, over every
interleaving of arrivals and calls.  The status of an overrun travels with a
later character, which the call then consumes without returning its byte.
-/

namespace DirectLine.Firmware.Uart

open DirectLine.Interaction DirectLine.Interaction.Program Relation

abbrev Read := Completed Receiver Unit (Except RxError (Option Byte))

/-- A caller reads a UART while characters arrive. -/
def reading (uart : Uart) (depth : Nat) :
    Process Register Instruction Word Receiver (List Read) :=
  client (Receiver.access uart.registers) (Receiver.Arrives depth) fun _ => uart.tryRead

def returnedByte : Except RxError (Option Byte) → Option Byte
  | .ok byte => byte
  | .error _ => none

def reportedFlags : Except RxError (Option Byte) → Option RxError
  | .ok _ => none
  | .error flags => some flags

def consumes : Except RxError (Option Byte) → Bool
  | .ok none => false
  | .ok (some _) | .error _ => true

def results (reads : List Read) : List (Except RxError (Option Byte)) :=
  reads.map Completed.result

/-- What was returned answers what was consumed. -/
structure Answers (reads : List Read) (receiver : Receiver) : Prop where
  outcomes : (results reads).filter consumes = receiver.consumed.map Received.outcome
  ordered : receiver.Ordered

section Reading

variable {uart : Uart} {depth : Nat} {reads : List Read} {receiver : Receiver}

abbrev receiving (uart : Uart) (depth : Nat) : Setting Register Instruction Word Receiver :=
  (reading uart depth).setting fun _ _ _ => True

theorem reception (uart : Uart) (depth : Nat) :
    Reception (receiving uart depth) uart.registers depth id Receiver.Ordered where
  access _ _ _ _ moved := moved
  kept _ _ _ _ ordered moved := ⟨trivial, ordered.access moved⟩
  rely _ _ arrives := .inr arrives
  stable _ _ ordered arrives := ordered.arrives arrives

theorem results_append (reads : List Read) (read : Read) :
    (results (reads ++ [read])).filter consumes =
      (results reads).filter consumes ++ if consumes read.result then [read.result] else [] := by
  rw [results, List.map_append, List.filter_append, results, List.map_singleton,
    List.filter_singleton]
  cases consumes read.result <;> rfl

theorem consumes_outcome (received : Received) : consumes received.outcome = true := by
  unfold Received.outcome
  split <;> rfl

/-- A call that has returned stays answered while characters arrive. -/
theorem meets_answered {consumed : List Received} (framed : receiver.Ordered)
    (same : receiver.consumed = consumed)
    (outcomes : (results reads).filter consumes = consumed.map Received.outcome) :
    (receiving uart depth).Meets Answers (fun _ _ => True) (.ret reads) receiver := by
  refine .ret ((reception uart depth).stable_consumed consumed) ⟨framed, same⟩ ?_
  intro last finish
  have consumed : last.consumed = consumed := finish.2
  exact ⟨by rw [outcomes, consumed], finish.1⟩

/-- One more call answers one more entry, or found none. -/
theorem meets_read (answers : Answers reads receiver) {program : Driver (List Read)}
    (follows : (reading uart depth).next reads receiver program) :
    (receiving uart depth).Meets Answers (fun _ _ => True) program receiver := by
  obtain ⟨call, rfl⟩ := follows
  apply Setting.Meets.bind
  apply (reception uart depth).meets_tryRead answers.ordered rfl
  · intro receiver' ordered consumed
    apply meets_answered ordered consumed
    rw [results_append, answers.outcomes]
    exact List.append_nil _
  · intro receiver' received ordered consumed
    apply meets_answered ordered consumed
    rw [results_append, answers.outcomes, consumes_outcome, if_pos rfl, List.map_append]
    rfl

/-- Between two calls every entry consumed has been answered. -/
theorem answers_reached {queue : List Entry} {overrun : Bool}
    (reaches : (reading uart depth).Reaches ⟨.ret [], .holding queue overrun⟩
      ⟨.ret reads, receiver⟩) : Answers reads receiver := by
  have start : (receiving uart depth).Meets Answers (fun _ _ => True) (.ret [])
      (.holding queue overrun) := meets_answered (Receiver.ordered_holding _ _) rfl rfl
  have meets : (receiving uart depth).Meets Answers (fun _ _ => True) (.ret reads) receiver :=
    reaches.meets (fun _ _ _ answers follows => meets_read answers follows) start
  exact meets.returned

end Reading

theorem filterMap_consumes {α : Type} (f : Except RxError (Option Byte) → Option α)
    (nothing : f (.ok none) = none) (results : List (Except RxError (Option Byte))) :
    (results.filter consumes).filterMap f = results.filterMap f := by
  rw [List.filterMap_filter]
  congr
  funext result
  match result with
  | .ok none => exact nothing.symm
  | .ok (some _) => rfl
  | .error _ => rfl

theorem filterMap_outcomes {α : Type} {f : Except RxError (Option Byte) → Option α}
    {kept : Received → Bool} {value : Received → α}
    (selects : ∀ received, f received.outcome =
      if kept received then some (value received) else none) (consumed : List Received) :
    (consumed.map Received.outcome).filterMap f = (consumed.filter kept).map value := by
  induction consumed with
  | nil => rfl
  | cons received consumed inductionHypothesis =>
      rw [List.map_cons, List.filterMap_cons, List.filter_cons, selects]
      cases kept received with
      | true => simpa using inductionHypothesis
      | false => simpa using inductionHypothesis

theorem bytes_outcomes (consumed : List Received) :
    (consumed.map Received.outcome).filterMap returnedByte =
      (consumed.filter Received.clean).map fun received => received.entry.data := by
  apply filterMap_outcomes
  intro received
  rw [Received.outcome]
  cases received.clean <;> rfl

theorem flags_outcomes (consumed : List Received) :
    (consumed.map Received.outcome).filterMap reportedFlags =
      (consumed.filter fun received => !received.clean).map Received.flags := by
  apply filterMap_outcomes
  intro received
  rw [Received.outcome]
  cases received.clean <;> rfl

/-- Entries are consumed in the order of their arrival, each once and each by one call, which
returns its byte when the read shows no flag and otherwise exactly its flags. -/
theorem reads_answered (uart : Uart) (depth : Nat) (queue : List Entry) (overrun : Bool)
    (reads : List Read) (receiver : Receiver)
    (reaches : (reading uart depth).Reaches ⟨.ret [], .holding queue overrun⟩
      ⟨.ret reads, receiver⟩) :
    (results reads).filter consumes = receiver.consumed.map Received.outcome ∧
    (results reads).filterMap returnedByte =
      (receiver.consumed.filter Received.clean).map (fun received => received.entry.data) ∧
    (results reads).filterMap reportedFlags =
      (receiver.consumed.filter fun received => !received.clean).map Received.flags ∧
    receiver.accepted = receiver.consumed.map Received.entry ++ receiver.queue := by
  obtain ⟨outcomes, ordered⟩ := answers_reached reaches
  refine ⟨outcomes, ?_, ?_, ordered⟩
  · rw [← filterMap_consumes returnedByte rfl, outcomes, bytes_outcomes]
  · rw [← filterMap_consumes reportedFlags rfl, outcomes, flags_outcomes]

section Overrun

variable {uart : Uart} {reads : List Read}

theorem reaches_filled {depth count : Nat} (entry : Entry) (room : count ≤ depth) :
    (reading uart depth).Reaches ⟨.ret reads, .holding [] false⟩
      ⟨.ret reads, .holding (List.replicate count entry) false⟩ := by
  induction count with
  | zero => exact .refl
  | succ count inductionHypothesis =>
      refine .tail (inductionHypothesis (Nat.le_of_succ_le room)) (.relied ⟨entry, ?_⟩)
      have free : (List.replicate count entry).length < depth := by
        rw [List.length_replicate]
        exact room
      rw [Receiver.arrive, if_pos (show (Receiver.holding _ false).queue.length < depth from free)]
      simp only [Receiver.holding, List.replicate_succ']

/-- The receiver whose FIFO is full and has discarded a character. -/
abbrev overrunning (depth : Nat) (entry : Entry) : Receiver :=
  .holding (List.replicate depth entry) true

theorem reaches_overrunning {depth : Nat} (entry : Entry) :
    (reading uart depth).Reaches ⟨.ret reads, .holding [] false⟩
      ⟨.ret reads, overrunning depth entry⟩ := by
  apply (reaches_filled entry le_rfl).tail
  refine .relied ⟨entry, ?_⟩
  have full : ¬(List.replicate depth entry).length < depth := by
    rw [List.length_replicate]
    exact Nat.lt_irrefl depth
  rw [Receiver.arrive, if_neg (show ¬(Receiver.holding _ false).queue.length < depth from full)]
  rfl

abbrev letter : Entry := ⟨0x41, false, false, false⟩

abbrev overrunRead (depth : Nat) : Read :=
  ⟨(), overrunning (depth + 1) letter, .error ⟨false, false, false, true⟩⟩

/-- The read that reports the overrun consumes a good character. -/
theorem reaches_overrunRead (depth : Nat) :
    (reading uart (depth + 1)).Reaches ⟨.ret [], .holding [] false⟩
      ⟨.ret [overrunRead depth],
        { overrunning (depth + 1) letter with
          queue := List.replicate depth letter
          consumed := [⟨letter, true⟩] }⟩ := by
  apply (reaches_overrunning letter).trans
  apply ReflTransGen.head (.follow ⟨(), rfl⟩)
  have shows : Received.Shows ⟨letter, true⟩ 0x841 := ⟨rfl, rfl, rfl, rfl, rfl⟩
  have run : Run
      (uart.tryRead >>= fun result =>
        .ret ([] ++ [⟨(), overrunning (depth + 1) letter, result⟩]))
      [.read (.uart uart.registers .fr) 0, .read (.uart uart.registers .dr) 0x841,
        .write (.uart uart.registers .ecr) 0]
      (.ret [overrunRead depth]) :=
    .cons (.read _ _ _) (.cons (.read _ _ _) (.cons (.write _ _ _) (.nil _)))
  apply Process.Reaches.of_run run
  refine .cons ⟨rfl, fun _ => rfl⟩ (.cons ?_ (.cons rfl (.nil _)))
  change if uart.registers = uart.registers then _ else _
  rw [if_pos rfl]
  exact .entry ⟨letter, true⟩ _ rfl (fun _ => rfl) shows

end Overrun

/-- A FIFO of 32 entries is filled and overrun; the next call consumes an `A` that was received
without error and returns no byte. -/
theorem overrun_drops_byte :
    ¬∀ (reads : List Read) (receiver : Receiver),
      (reading ⟨.uart0⟩ 32).Reaches ⟨.ret [], .holding [] false⟩ ⟨.ret reads, receiver⟩ →
        (results reads).filterMap returnedByte =
          (receiver.consumed.filter fun received => !received.entry.erroneous).map
            fun received => received.entry.data := by
  intro returned
  have bytes := returned _ _ (reaches_overrunRead 31)
  exact absurd bytes (by decide)

theorem reads_answered_overrun :
    let reads := [overrunRead 31]
    (results reads).filter consumes = [Received.outcome ⟨letter, true⟩] ∧
    (results reads).filterMap returnedByte = [] ∧
    (results reads).filterMap reportedFlags = [⟨false, false, false, true⟩] ∧
    List.replicate 32 letter = letter :: List.replicate 31 letter :=
  reads_answered ⟨.uart0⟩ 32 [] false _ _ (reaches_overrunRead 31)

end DirectLine.Firmware.Uart
