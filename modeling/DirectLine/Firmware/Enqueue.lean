import DirectLine.Firmware.Uart

/-!
# Enqueueing within a deadline

The executions of `write_timeout`.  `Reaches` relates the heads of its retry
loop: it lists the accesses made between two heads, whatever the counter and
the FIFO answered, without the fuel.
-/

namespace DirectLine.Firmware.Uart

open DirectLine.Interaction DirectLine.Interaction.Program

variable (uart : Uart) (counter : Counter) (start timeoutTicks : Word)

def pollRead (counter : Counter) (reading : Word) : Access :=
  .read (.gpt counter.registers .tav) reading

def flagRead (uart : Uart) (flags : Word) : Access := .read (.uart uart.registers .fr) flags

def dataWrite (uart : Uart) (byte : Byte) : Access :=
  .write (.uart uart.registers .dr) (byte.setWidth 32)

/-- From one head of the retry loop to a later one, with the bytes left at each. -/
inductive Reaches : List Byte → List Access → List Byte → Prop where
  | refl (bytes : List Byte) : Reaches bytes [] bytes
  | full {byte : Byte} {bytes remaining : List Byte} {trace : List Access}
      (reading flags : Word) :
      reading - start < timeoutTicks → Word.flag flags txff = true →
      Reaches (byte :: bytes) trace remaining →
      Reaches (byte :: bytes) (pollRead counter reading :: flagRead uart flags :: trace) remaining
  | sent {byte : Byte} {bytes remaining : List Byte} {trace : List Access}
      (reading flags : Word) :
      reading - start < timeoutTicks → Word.flag flags txff = false →
      Reaches bytes trace remaining →
      Reaches (byte :: bytes)
        (pollRead counter reading :: flagRead uart flags :: dataWrite uart byte :: trace) remaining

/-- The head of the retry loop with `turns` polls left for the first byte. -/
def head (fuel : Nat) : Nat → List Byte → Driver (Except Timeout Unit)
  | _, [] => .ret (.ok ())
  | turns, byte :: bytes => do
      match ← iterate (uart.poll counter start timeoutTicks byte) turns with
      | .error timeout => return .error timeout
      | .ok () => uart.enqueue counter start timeoutTicks fuel bytes

theorem enqueue_eq_head (fuel : Nat) (bytes : List Byte) :
    uart.enqueue counter start timeoutTicks fuel bytes =
      uart.head counter start timeoutTicks fuel fuel bytes := by
  cases bytes <;> rfl

def turn (fuel turns : Nat) (byte : Byte) (bytes : List Byte) (reading : Word) :
    Driver (Except Timeout Unit) :=
  if timeoutTicks ≤ reading - start then .ret (.error ⟨⟩)
  else
    .read (.uart uart.registers .fr) fun flags =>
      if Word.flag flags txff then uart.head counter start timeoutTicks fuel turns (byte :: bytes)
      else
        .write (.uart uart.registers .dr) (byte.setWidth 32)
          (uart.head counter start timeoutTicks fuel fuel bytes)

theorem poll_eq (byte : Byte) :
    uart.poll counter start timeoutTicks byte =
      .read (.gpt counter.registers .tav) fun reading =>
        if timeoutTicks ≤ reading - start then .ret (some (.error ⟨⟩))
        else
          .read (.uart uart.registers .fr) fun flags =>
            if Word.flag flags txff then .ret none
            else .write (.uart uart.registers .dr) (byte.setWidth 32) (.ret (some (.ok ()))) := by
  simp only [poll, Counter.elapsedSince, Counter.now, tryWrite, readReg_bind, pure_eq, ret_bind,
    read_bind, ge_iff_le]
  congr 1
  funext reading
  split
  · rfl
  · congr 1
    funext flags
    cases Word.flag flags txff <;> rfl

theorem head_succ (fuel turns : Nat) (byte : Byte) (bytes : List Byte) :
    uart.head counter start timeoutTicks fuel (turns + 1) (byte :: bytes) =
      .read (.gpt counter.registers .tav)
        (uart.turn counter start timeoutTicks fuel turns byte bytes) := by
  rw [head, iterate, poll_eq, read_bind, read_bind]
  congr 1
  funext reading
  unfold turn
  split
  · rfl
  · rw [read_bind, read_bind]
    congr 1
    funext flags
    cases Word.flag flags txff with
    | true =>
        rw [if_pos rfl, if_pos rfl, head, poll_eq]
        rfl
    | false =>
        rw [← enqueue_eq_head]
        rfl

section Runs

variable {uart : Uart} {counter : Counter} {start timeoutTicks : Word}
variable {fuel turns : Nat} {byte : Byte} {bytes remaining : List Byte}
variable {trace earlier later : List Access} {reading : Word}
variable {last : Driver (Except Timeout Unit)}

/-- What a turn does after its poll: it gives up late, and otherwise reads the flags and then
retries or sends.  Cut short in between, it has not returned. -/
theorem run_turn
    (run : Run (uart.turn counter start timeoutTicks fuel turns byte bytes reading) trace last) :
    (timeoutTicks ≤ reading - start ∧ trace = [] ∧ last = .ret (.error ⟨⟩)) ∨
      reading - start < timeoutTicks ∧
        ((trace = [] ∧ ∀ result, last ≠ .ret result) ∨
          ∃ flags rest, trace = flagRead uart flags :: rest ∧
            ((Word.flag flags txff = true ∧
                Run (uart.head counter start timeoutTicks fuel turns (byte :: bytes)) rest last) ∨
              (Word.flag flags txff = false ∧
                ((rest = [] ∧ ∀ result, last ≠ .ret result) ∨
                  ∃ rest', rest = dataWrite uart byte :: rest' ∧
                    Run (uart.head counter start timeoutTicks fuel fuel bytes) rest' last)))) := by
  unfold turn at run
  by_cases late : timeoutTicks ≤ reading - start
  · rw [if_pos late] at run
    exact .inl ⟨late, run_ret_iff.mp run⟩
  · rw [if_neg late] at run
    refine .inr ⟨BitVec.not_le.mp late, ?_⟩
    rcases run_read_iff.mp run with ⟨rfl, rfl⟩ | ⟨flags, rest, rfl, afterFlags⟩
    · exact .inl ⟨rfl, nofun⟩
    · refine .inr ⟨flags, rest, rfl, ?_⟩
      cases full : Word.flag flags txff with
      | true =>
          rw [full, if_pos rfl] at afterFlags
          exact .inl ⟨rfl, afterFlags⟩
      | false =>
          rw [full, if_neg Bool.false_ne_true] at afterFlags
          rcases run_write_iff.mp afterFlags with ⟨rfl, rfl⟩ | ⟨rest', rfl, afterData⟩
          · exact .inr ⟨rfl, .inl ⟨rfl, nofun⟩⟩
          · exact .inr ⟨rfl, .inr ⟨rest', rfl, afterData⟩⟩

theorem writeTimeout_eq_refused (bytes : List Byte) (above : maxTimeout < timeoutTicks) :
    uart.writeTimeout bytes counter timeoutTicks fuel = .ret (.error ⟨⟩) := by
  simp only [writeTimeout, gt_iff_lt, above, if_true, pure_eq]

theorem writeTimeout_eq_head (bytes : List Byte) (within : timeoutTicks ≤ maxTimeout) :
    uart.writeTimeout bytes counter timeoutTicks fuel =
      .read (.gpt counter.registers .tav) fun start =>
        uart.head counter start timeoutTicks fuel fuel bytes := by
  have accepted : ¬timeoutTicks > maxTimeout := BitVec.not_lt.mpr within
  simp only [writeTimeout, Counter.now, accepted, if_false, readReg_bind, enqueue_eq_head]

theorem head_zero (byte : Byte) (bytes : List Byte) :
    uart.head counter start timeoutTicks fuel 0 (byte :: bytes) = .exhausted := rfl

theorem append_cons_poll {event : Access} {rest : List Access}
    (other : ∀ reading, event ≠ pollRead counter reading)
    (split : earlier ++ pollRead counter reading :: later = event :: rest) :
    ∃ earlier', earlier = event :: earlier' ∧
      earlier' ++ pollRead counter reading :: later = rest := by
  cases earlier with
  | nil => exact absurd (List.cons.inj split).1.symm (other reading)
  | cons first earlier' =>
      obtain ⟨rfl, tail⟩ := List.cons.inj split
      exact ⟨earlier', rfl, tail⟩

/-- Every poll of an execution starts a turn at a head it reached. -/
theorem run_head_poll
    (run : Run (uart.head counter start timeoutTicks fuel turns bytes)
      (earlier ++ pollRead counter reading :: later) last) :
    ∃ turns' byte rest, Reaches uart counter start timeoutTicks bytes earlier (byte :: rest) ∧
      Run (uart.turn counter start timeoutTicks fuel turns' byte rest reading) later last := by
  induction bytes generalizing turns earlier with
  | nil =>
      have silent := (run_ret_iff.mp run).1
      simp at silent
  | cons byte bytes onBytes =>
      induction turns generalizing earlier with
      | zero =>
          rw [head_zero] at run
          have silent := (run_exhausted_iff.mp run).1
          simp at silent
      | succ turns onTurns =>
          rw [head_succ] at run
          rcases run_read_iff.mp run with ⟨silent, -⟩ | ⟨first, trace, split, afterPoll⟩
          · simp at silent
          · cases earlier with
            | nil =>
                simp only [List.nil_append, pollRead, List.cons.injEq, Event.read.injEq] at split
                obtain ⟨⟨-, rfl⟩, rfl⟩ := split
                exact ⟨turns, byte, bytes, .refl _, afterPoll⟩
            | cons access earlier =>
                obtain ⟨rfl, rfl⟩ := List.cons.inj split
                rcases run_turn afterPoll with ⟨-, silent, -⟩ |
                  ⟨inTime, ⟨silent, -⟩ | ⟨flags, trace, split, answered⟩⟩
                · simp at silent
                · simp at silent
                · obtain ⟨earlier, rfl, rfl⟩ :=
                    append_cons_poll (by simp [flagRead, pollRead]) split
                  rcases answered with ⟨full, afterFlags⟩ |
                    ⟨free, ⟨silent, -⟩ | ⟨trace, split, afterData⟩⟩
                  · obtain ⟨turns', next, rest, reaches, turn⟩ := onTurns afterFlags
                    exact ⟨turns', next, rest, .full first flags inTime full reaches, turn⟩
                  · simp at silent
                  · obtain ⟨earlier, rfl, rfl⟩ :=
                      append_cons_poll (by simp [dataWrite, pollRead]) split
                    obtain ⟨turns', next, rest, reaches, turn⟩ := onBytes afterData
                    exact ⟨turns', next, rest, .sent first flags inTime free reaches, turn⟩

/-- A completed enqueue has sent every byte, or gave up at a late poll with some left. -/
theorem returns_head {result : Except Timeout Unit}
    (run : Returns (uart.head counter start timeoutTicks fuel turns bytes) trace result) :
    (Reaches uart counter start timeoutTicks bytes trace [] ∧ result = .ok ()) ∨
      ∃ earlier reading byte rest, trace = earlier ++ [pollRead counter reading] ∧
        Reaches uart counter start timeoutTicks bytes earlier (byte :: rest) ∧
        timeoutTicks ≤ reading - start ∧ result = .error ⟨⟩ := by
  induction bytes generalizing turns trace with
  | nil =>
      obtain ⟨rfl, returned⟩ := run_ret_iff.mp run
      cases returned
      exact .inl ⟨.refl [], rfl⟩
  | cons byte bytes onBytes =>
      induction turns generalizing trace with
      | zero =>
          rw [head_zero] at run
          cases (run_exhausted_iff.mp run).2
      | succ turns onTurns =>
          rw [head_succ] at run
          rcases run_read_iff.mp run with ⟨-, ⟨⟩⟩ | ⟨reading, trace, rfl, afterPoll⟩
          rcases run_turn afterPoll with ⟨late, rfl, returned⟩ |
            ⟨inTime, ⟨-, unreturned⟩ | ⟨flags, trace, rfl, answered⟩⟩
          · cases returned
            exact .inr ⟨[], reading, byte, bytes, rfl, .refl _, late, rfl⟩
          · exact absurd rfl (unreturned result)
          · rcases answered with ⟨full, afterFlags⟩ |
              ⟨free, ⟨-, unreturned⟩ | ⟨trace, rfl, afterData⟩⟩
            · rcases onTurns afterFlags with ⟨reaches, rfl⟩ |
                ⟨earlier, lateReading, next, rest, rfl, reaches, late, rfl⟩
              · exact .inl ⟨.full reading flags inTime full reaches, rfl⟩
              · exact .inr ⟨_, lateReading, next, rest, rfl,
                  .full reading flags inTime full reaches, late, rfl⟩
            · exact absurd rfl (unreturned result)
            · rcases onBytes afterData with ⟨reaches, rfl⟩ |
                ⟨earlier, lateReading, next, rest, rfl, reaches, late, rfl⟩
              · exact .inl ⟨.sent reading flags inTime free reaches, rfl⟩
              · exact .inr ⟨_, lateReading, next, rest, rfl,
                  .sent reading flags inTime free reaches, late, rfl⟩

end Runs

def enqueued (uart : Uart) (trace : List Access) : List Word :=
  trace.filterMap fun
    | .write (.uart block .dr) value => if block = uart.registers then some value else none
    | _ => none

def readings (counter : Counter) (trace : List Access) : List Word :=
  trace.filterMap fun
    | .read (.gpt block .tav) value => if block = counter.registers then some value else none
    | _ => none

def flagReadings (uart : Uart) (trace : List Access) : List Word :=
  trace.filterMap fun
    | .read (.uart block .fr) value => if block = uart.registers then some value else none
    | _ => none

section Readings

variable (uart : Uart) (counter : Counter) (value : Word) (byte : Byte) (trace : List Access)

@[simp] theorem readings_append (later : List Access) :
    readings counter (trace ++ later) = readings counter trace ++ readings counter later :=
  List.filterMap_append

@[simp] theorem flagReadings_append (later : List Access) :
    uart.flagReadings (trace ++ later) = uart.flagReadings trace ++ uart.flagReadings later :=
  List.filterMap_append

@[simp] theorem readings_nil : readings counter [] = [] := rfl

@[simp] theorem flagReadings_nil : uart.flagReadings [] = [] := rfl

@[simp] theorem readings_pollRead :
    readings counter (pollRead counter value :: trace) = value :: readings counter trace := by
  simp [readings, pollRead]

@[simp] theorem readings_flagRead :
    readings counter (flagRead uart value :: trace) = readings counter trace := by
  simp [readings, flagRead]

@[simp] theorem readings_dataWrite :
    readings counter (dataWrite uart byte :: trace) = readings counter trace := by
  simp [readings, dataWrite]

@[simp] theorem flagReadings_pollRead :
    uart.flagReadings (pollRead counter value :: trace) = uart.flagReadings trace := by
  simp [flagReadings, pollRead]

@[simp] theorem flagReadings_flagRead :
    uart.flagReadings (flagRead uart value :: trace) = value :: uart.flagReadings trace := by
  simp [flagReadings, flagRead]

@[simp] theorem flagReadings_dataWrite :
    uart.flagReadings (dataWrite uart byte :: trace) = uart.flagReadings trace := by
  simp [flagReadings, dataWrite]

end Readings

namespace Reaches

variable {uart : Uart} {counter : Counter} {start timeoutTicks : Word}
variable {bytes remaining : List Byte} {trace : List Access}

/-- The bytes before those that are left have been written, each once and in order. -/
theorem enqueued (reaches : Reaches uart counter start timeoutTicks bytes trace remaining) :
    ∃ sent, bytes = sent ++ remaining ∧
      uart.enqueued trace = sent.map fun byte => byte.setWidth 32 := by
  induction reaches with
  | refl bytes => exact ⟨[], rfl, rfl⟩
  | full reading flags _ _ _ inductionHypothesis =>
      obtain ⟨sent, split, written⟩ := inductionHypothesis
      exact ⟨sent, split, written⟩
  | @sent byte bytes remaining trace reading flags _ _ _ inductionHypothesis =>
      obtain ⟨sent, rfl, written⟩ := inductionHypothesis
      refine ⟨byte :: sent, rfl, ?_⟩
      rw [List.map_cons, ← written]
      simp [Uart.enqueued, pollRead, flagRead, dataWrite]

theorem inTime (reaches : Reaches uart counter start timeoutTicks bytes trace remaining) :
    ∀ reading ∈ readings counter trace, reading - start < timeoutTicks := by
  induction reaches with
  | refl => simp [readings]
  | full reading flags early _ _ inductionHypothesis
  | sent reading flags early _ _ inductionHypothesis =>
      intro other member
      simp only [readings_pollRead, readings_flagRead, readings_dataWrite, List.mem_cons] at member
      rcases member with rfl | member
      · exact early
      · exact inductionHypothesis other member

theorem unmoved (reaches : Reaches uart counter start timeoutTicks bytes trace remaining)
    (zero : timeoutTicks = 0) : remaining = bytes := by
  subst zero
  cases reaches with
  | refl => rfl
  | full reading flags early | sent reading flags early => exact absurd early BitVec.not_lt_zero

/-- Every write follows a poll in time and a reading of flags with room in the FIFO. -/
theorem guarded (reaches : Reaches uart counter start timeoutTicks bytes trace remaining)
    {earlier later : List Access} {register : Register} {value : Word}
    (split : trace = earlier ++ .write register value :: later) :
    register = .uart uart.registers .dr ∧
      ∃ before reading flags, earlier = before ++ [pollRead counter reading, flagRead uart flags] ∧
        reading - start < timeoutTicks ∧ Word.flag flags txff = false := by
  induction reaches generalizing earlier with
  | refl => simp at split
  | full reading flags _ _ _ inductionHypothesis =>
      rcases earlier with _ | ⟨first, _ | ⟨second, earlier⟩⟩
      · cases split
      · cases split
      · obtain ⟨rfl, rfl, rest⟩ : first = _ ∧ second = _ ∧ _ := by simpa using split.symm
        obtain ⟨data, before, last, lastFlags, rfl, early, free⟩ := inductionHypothesis rest.symm
        exact ⟨data, pollRead counter reading :: flagRead uart flags :: before, last, lastFlags,
          rfl, early, free⟩
  | @sent byte bytes remaining trace reading flags early free _ inductionHypothesis =>
      rcases earlier with _ | ⟨first, _ | ⟨second, _ | ⟨third, earlier⟩⟩⟩
      · cases split
      · cases split
      · cases split
        exact ⟨rfl, [], reading, flags, rfl, early, free⟩
      · obtain ⟨rfl, rfl, rfl, rest⟩ : first = _ ∧ second = _ ∧ third = _ ∧ _ := by
          simpa using split.symm
        obtain ⟨data, before, last, lastFlags, rfl, early, free⟩ := inductionHypothesis rest.symm
        exact ⟨data,
          pollRead counter reading :: flagRead uart flags :: dataWrite uart byte :: before,
          last, lastFlags, rfl, early, free⟩

end Reaches

/-- The accesses of every `write_timeout` that returns.  With a limit above `2^31 - 1` it does so at
once, and an empty slice takes the start read alone.  Otherwise a prefix of the slice is enqueued,
each byte once, in order and after a poll in time that found room; the whole slice exactly for
success, and a late last poll exactly for a timeout. -/
theorem writeTimeout_trace (uart : Uart) (bytes : List Byte) (counter : Counter)
    (timeoutTicks : Word) (fuel : Nat) :
    (maxTimeout < timeoutTicks →
      uart.writeTimeout bytes counter timeoutTicks fuel = .ret (.error ⟨⟩)) ∧
    (timeoutTicks ≤ maxTimeout → ∀ start,
      Returns (uart.writeTimeout [] counter timeoutTicks fuel) [pollRead counter start]
        (.ok ())) ∧
    ∀ trace result, Returns (uart.writeTimeout bytes counter timeoutTicks fuel) trace result →
      (maxTimeout < timeoutTicks → trace = [] ∧ result = .error ⟨⟩) ∧
      (timeoutTicks ≤ maxTimeout → ∃ start rest sent, trace = pollRead counter start :: rest ∧
        sent <+: bytes ∧ uart.enqueued rest = sent.map (fun byte => byte.setWidth 32) ∧
        (result = .ok () ↔ sent = bytes) ∧
        (result = .error ⟨⟩ ↔ ∃ last, (readings counter rest).getLast? = some last ∧
          timeoutTicks ≤ last - start) ∧
        (∀ earlier register value later, rest = earlier ++ .write register value :: later →
          register = .uart uart.registers .dr ∧ ∃ before reading flags,
            earlier = before ++ [pollRead counter reading, flagRead uart flags] ∧
            reading - start < timeoutTicks ∧ Word.flag flags txff = false) ∧
        (timeoutTicks = 0 → sent = []) ∧ (bytes = [] → result = .ok ())) := by
  refine ⟨writeTimeout_eq_refused bytes, fun within start => ?_, fun trace result run => ?_⟩
  · rw [writeTimeout_eq_head [] within]
    exact .cons (.read _ _ start) (.nil _)
  by_cases above : maxTimeout < timeoutTicks
  · rw [writeTimeout_eq_refused bytes above] at run
    obtain ⟨rfl, returned⟩ := run_ret_iff.mp run
    cases returned
    exact ⟨fun _ => ⟨rfl, rfl⟩, fun below => absurd above (BitVec.not_lt.mpr below)⟩
  · refine ⟨fun other => absurd other above, fun _ => ?_⟩
    rw [writeTimeout_eq_head bytes (BitVec.not_lt.mp above)] at run
    rcases run_read_iff.mp run with ⟨-, ⟨⟩⟩ | ⟨start, rest, rfl, enqueues⟩
    rcases returns_head enqueues with ⟨reaches, rfl⟩ |
      ⟨earlier, reading, byte, left, rfl, reaches, late, rfl⟩
    · obtain ⟨sent, split, written⟩ := reaches.enqueued
      rw [List.append_nil] at split
      subst split
      refine ⟨start, rest, bytes, rfl, List.prefix_rfl, written, by simp, ?_, ?_, ?_, by simp⟩
      · refine ⟨nofun, ?_⟩
        rintro ⟨last, found, late⟩
        have early := reaches.inTime last (List.mem_of_getLast? found)
        exact absurd early (BitVec.not_lt.mpr late)
      · exact fun _ _ _ _ split => reaches.guarded split
      · exact fun zero => (reaches.unmoved zero).symm
    · obtain ⟨sent, rfl, written⟩ := reaches.enqueued
      refine ⟨start, _, sent, rfl, List.prefix_append _ _, ?_, by simp, ?_, ?_, ?_, by simp⟩
      · simpa [Uart.enqueued, pollRead] using written
      · simp [readings, pollRead, late]
      · intro before register value later split
        rcases List.eq_nil_or_concat later with rfl | ⟨later, final, rfl⟩
        · obtain ⟨-, final⟩ := List.append_inj' split rfl
          cases final
        · rw [List.concat_eq_append, ← List.cons_append, ← List.append_assoc] at split
          exact reaches.guarded (List.append_inj' split rfl).1
      · exact fun zero => List.self_eq_append_left.mp (reaches.unmoved zero)

/-- One byte to an idle UART, with the counter at rest. -/
theorem writeTimeout_trace_byte :
    ∃ (start : Word) (rest : List Access) (sent : List Byte),
      [pollRead ⟨.gpt1⟩ 0, pollRead ⟨.gpt1⟩ 0, flagRead ⟨.uart0⟩ 0,
        dataWrite ⟨.uart0⟩ 0x41] = pollRead ⟨.gpt1⟩ start :: rest ∧ sent <+: [0x41] ∧
      enqueued ⟨.uart0⟩ rest = sent.map (fun byte => byte.setWidth 32) ∧ sent = [0x41] := by
  have run : Returns (writeTimeout ⟨.uart0⟩ [0x41] ⟨.gpt1⟩ 100 1)
      [pollRead ⟨.gpt1⟩ 0, pollRead ⟨.gpt1⟩ 0, flagRead ⟨.uart0⟩ 0, dataWrite ⟨.uart0⟩ 0x41]
      (.ok ()) := run_follow (fun _ => 0) _
  obtain ⟨start, rest, sent, split, inOrder, written, success, -⟩ :=
    ((writeTimeout_trace ⟨.uart0⟩ [0x41] ⟨.gpt1⟩ 100 1).2.2 _ _ run).2 (by decide)
  exact ⟨start, rest, sent, split, inOrder, written, success.mp rfl⟩

end DirectLine.Firmware.Uart
