import DirectLine.Firmware.Enqueue

/-!
# Deadlines in true time

The counter shows the low 32 bits of an unbounded tick count.  A poll compares
the elapsed time modulo `2^32`, so a poll long after the deadline can look
early: a gap below one wrap does not exclude that.  What excludes it is a
condition on the first overdue poll alone.
-/

namespace DirectLine.Firmware.Uart

open DirectLine.Interaction DirectLine.Interaction.Program

/-- When the counter is read, in true ticks from the start read on, and what the flag register
answers. -/
structure Schedule where
  times : Nat → Nat
  flags : Nat → Word

namespace Schedule

/-- The counter keeps running and is read within one wrap. -/
structure Running (schedule : Schedule) : Prop where
  advances : ∀ index, schedule.times index ≤ schedule.times (index + 1)
  within : ∀ index, schedule.times (index + 1) - schedule.times index < 2 ^ 32

def elapsed (schedule : Schedule) (index : Nat) : Nat := schedule.times index - schedule.times 0

def reading (schedule : Schedule) (index : Nat) : Word := BitVec.ofNat 32 (schedule.times index)

def room (schedule : Schedule) (index : Nat) : Bool := !Word.flag (schedule.flags index) txff

def rooms (schedule : Schedule) (count : Nat) : Nat := (List.range count).countP schedule.room

variable {schedule : Schedule}

theorem Running.start_le (running : schedule.Running) (index : Nat) :
    schedule.times 0 ≤ schedule.times index :=
  monotone_nat_of_le_succ running.advances (Nat.zero_le index)

/-- The counter shows the elapsed time modulo `2^32`. -/
theorem toNat_reading_sub (schedule : Schedule) {index : Nat}
    (later : schedule.times 0 ≤ schedule.times index) :
    (schedule.reading index - schedule.reading 0).toNat = schedule.elapsed index % 2 ^ 32 := by
  simp only [reading, elapsed, BitVec.toNat_sub, BitVec.toNat_ofNat]
  omega

theorem Running.toNat_reading_sub (running : schedule.Running) (index : Nat) :
    (schedule.reading index - schedule.reading 0).toNat = schedule.elapsed index % 2 ^ 32 :=
  schedule.toNat_reading_sub (running.start_le index)

theorem rooms_mono (schedule : Schedule) {count count' : Nat} (le : count ≤ count') :
    schedule.rooms count ≤ schedule.rooms count' :=
  List.Sublist.countP_le (List.range_sublist.mpr le)

end Schedule

/-- The answers of the device are those of the schedule. -/
structure Follows (schedule : Schedule) (uart : Uart) (counter : Counter) (trace : List Access) :
    Prop where
  times : ∀ index reading, (readings counter trace)[index]? = some reading →
    reading = schedule.reading index
  flags : ∀ index flags, (uart.flagReadings trace)[index]? = some flags →
    flags = schedule.flags index

/-- In every execution under the schedule, the first poll at which the timeout has passed in true
time is the last access and makes the call return `Timeout`. -/
def Honours (schedule : Schedule) (uart : Uart) (bytes : List Byte) (counter : Counter)
    (timeoutTicks : Word) : Prop :=
  ∀ fuel trace last, Run (uart.writeTimeout bytes counter timeoutTicks fuel) trace last →
    Follows schedule uart counter trace →
    ∀ earlier reading later, trace = earlier ++ pollRead counter reading :: later →
      earlier ≠ [] → timeoutTicks.toNat ≤ schedule.elapsed (readings counter earlier).length →
      later = [] ∧ last = .ret (.error ⟨⟩)

/-- If the first overdue poll is reached, the timeout has also passed modulo `2^32` there. -/
def Visible (schedule : Schedule) (bytes : List Byte) (timeoutTicks : Word) : Prop :=
  ∀ index, timeoutTicks.toNat ≤ schedule.elapsed (index + 1) →
    (∀ earlier < index, schedule.elapsed (earlier + 1) < timeoutTicks.toNat) →
    schedule.rooms index < bytes.length →
    timeoutTicks.toNat ≤ schedule.elapsed (index + 1) % 2 ^ 32

section Reaches

variable {uart : Uart} {counter : Counter} {start timeoutTicks : Word}
variable {bytes middle remaining : List Byte} {trace later : List Access}
variable {schedule : Schedule} {fuel turns : Nat}

theorem Reaches.append (reaches : Reaches uart counter start timeoutTicks bytes trace middle)
    (onward : Reaches uart counter start timeoutTicks middle later remaining) :
    Reaches uart counter start timeoutTicks bytes (trace ++ later) remaining := by
  induction reaches with
  | refl => exact onward
  | full reading flags early full _ inductionHypothesis =>
      exact .full reading flags early full (inductionHypothesis onward)
  | sent reading flags early free _ inductionHypothesis =>
      exact .sent reading flags early free (inductionHypothesis onward)

theorem Reaches.length_flagReadings
    (reaches : Reaches uart counter start timeoutTicks bytes trace remaining) :
    (uart.flagReadings trace).length = (readings counter trace).length := by
  induction reaches with
  | refl => rfl
  | full _ _ _ _ _ inductionHypothesis | sent _ _ _ _ _ inductionHypothesis =>
      simpa using inductionHypothesis

/-- A byte leaves for every reading of the flags that showed room. -/
theorem Reaches.rooms (reaches : Reaches uart counter start timeoutTicks bytes trace remaining) :
    bytes.length = remaining.length +
      (uart.flagReadings trace).countP fun flags => !Word.flag flags txff := by
  induction reaches with
  | refl => rfl
  | full reading flags early full _ inductionHypothesis =>
      simpa [full] using inductionHypothesis
  | sent reading flags early free _ inductionHypothesis =>
      simp [free, inductionHypothesis]
      omega

theorem run_head_early {byte : Byte} {reading flags : Word} {last : Driver (Except Timeout Unit)}
    (early : reading - start < timeoutTicks)
    (onward : Run
      (if Word.flag flags txff then uart.head counter start timeoutTicks fuel turns (byte :: bytes)
      else
        .write (.uart uart.registers .dr) (byte.setWidth 32)
          (uart.head counter start timeoutTicks fuel fuel bytes)) trace last) :
    Run (uart.head counter start timeoutTicks fuel (turns + 1) (byte :: bytes))
      (pollRead counter reading :: flagRead uart flags :: trace) last := by
  rw [head_succ]
  refine .cons (.read _ _ reading) ?_
  rw [turn, if_neg (BitVec.not_le.mpr early)]
  exact .cons (.read _ _ flags) onward

theorem Reaches.run (reaches : Reaches uart counter start timeoutTicks bytes trace remaining)
    (fuel turns : Nat) (enough : (readings counter trace).length < turns)
    (each : (readings counter trace).length < fuel) :
    ∃ turns', Run (uart.head counter start timeoutTicks fuel turns bytes) trace
      (uart.head counter start timeoutTicks fuel (turns' + 1) remaining) := by
  induction reaches generalizing turns with
  | refl =>
      obtain ⟨turns', rfl⟩ := Nat.exists_eq_add_one_of_ne_zero (Nat.ne_of_gt enough)
      exact ⟨turns', .nil _⟩
  | @full byte bytes remaining trace reading flags early full _ inductionHypothesis =>
      simp only [readings_pollRead, readings_flagRead, List.length_cons] at enough each
      obtain ⟨turns, rfl⟩ :=
        Nat.exists_eq_add_one_of_ne_zero (Nat.ne_of_gt (Nat.zero_lt_of_lt enough))
      obtain ⟨turns', rest⟩ := inductionHypothesis turns (by omega) (by omega)
      refine ⟨turns', run_head_early early ?_⟩
      rw [full, if_pos rfl]
      exact rest
  | @sent byte bytes remaining trace reading flags early free _ inductionHypothesis =>
      simp only [readings_pollRead, readings_flagRead, readings_dataWrite, List.length_cons]
        at enough each
      obtain ⟨turns, rfl⟩ :=
        Nat.exists_eq_add_one_of_ne_zero (Nat.ne_of_gt (Nat.zero_lt_of_lt enough))
      obtain ⟨turns', rest⟩ := inductionHypothesis fuel (by omega) (by omega)
      refine ⟨turns', run_head_early early ?_⟩
      rw [free, if_neg Bool.false_ne_true]
      exact .cons (.write _ _ _) rest

/-- While polls are in time and bytes remain, the schedule drives the loop on. -/
theorem reaches_schedule (uart : Uart) (counter : Counter) (count : Nat)
    (early : ∀ index < count,
      schedule.reading (index + 1) - schedule.reading 0 < timeoutTicks)
    (left : schedule.rooms count < bytes.length) :
    ∃ trace byte rest, Reaches uart counter (schedule.reading 0) timeoutTicks bytes trace
        (byte :: rest) ∧
      readings counter trace = (List.range count).map (fun index => schedule.reading (index + 1)) ∧
      uart.flagReadings trace = (List.range count).map schedule.flags := by
  induction count with
  | zero =>
      cases bytes with
      | nil => simp at left
      | cons byte bytes => exact ⟨[], byte, bytes, .refl _, rfl, rfl⟩
  | succ count inductionHypothesis =>
      obtain ⟨trace, byte, rest, reaches, times, flags⟩ := inductionHypothesis
        (fun index before => early index (Nat.lt_succ_of_lt before))
        (Nat.lt_of_le_of_lt (schedule.rooms_mono (Nat.le_succ count)) left)
      have inTime := early count (Nat.lt_succ_self count)
      cases full : Word.flag (schedule.flags count) txff with
      | true =>
          refine ⟨_, byte, rest, reaches.append (.full _ _ inTime full (.refl _)), ?_, ?_⟩
          · simp [times, List.range_succ]
          · simp [flags, List.range_succ]
      | false =>
          have sent := reaches.append (.sent _ _ inTime full (.refl rest))
          have answered :
              uart.flagReadings (trace ++ [pollRead counter (schedule.reading (count + 1)),
                flagRead uart (schedule.flags count), dataWrite uart byte]) =
              (List.range (count + 1)).map schedule.flags := by
            simp [flags, List.range_succ]
          have length : bytes.length = rest.length + schedule.rooms (count + 1) := by
            have exact' := sent.rooms
            rwa [answered, List.countP_map] at exact'
          cases rest with
          | nil =>
              rw [List.length_nil] at length
              omega
          | cons next rest =>
              exact ⟨_, next, rest, sent, by simp [times, List.range_succ], answered⟩

theorem Reaches.rooms_schedule
    (reaches : Reaches uart counter start timeoutTicks bytes trace remaining)
    (flags : ∀ index flags, (uart.flagReadings trace)[index]? = some flags →
      flags = schedule.flags index) :
    bytes.length = remaining.length + schedule.rooms (readings counter trace).length := by
  have answered : uart.flagReadings trace =
      (List.range (readings counter trace).length).map schedule.flags := by
    rw [← reaches.length_flagReadings]
    apply List.ext_getElem (by simp)
    intro index inside _
    rw [List.getElem_map, List.getElem_range]
    exact flags index _ (List.getElem?_eq_getElem inside)
  have counted := reaches.rooms
  rwa [answered, List.countP_map] at counted

end Reaches

section Deadline

variable {uart : Uart} {counter : Counter} {timeoutTicks : Word} {bytes : List Byte}
variable {schedule : Schedule}

/-- A reading is late exactly when the timeout has passed modulo `2^32`. -/
theorem late_iff (running : schedule.Running) (index : Nat) :
    timeoutTicks ≤ schedule.reading index - schedule.reading 0 ↔
      timeoutTicks.toNat ≤ schedule.elapsed index % 2 ^ 32 := by
  rw [BitVec.le_def, running.toNat_reading_sub]

theorem inTime_of_elapsed_lt (running : schedule.Running) {index : Nat}
    (before : schedule.elapsed index < timeoutTicks.toNat) :
    schedule.reading index - schedule.reading 0 < timeoutTicks := by
  rw [BitVec.lt_def, running.toNat_reading_sub]
  exact Nat.lt_of_le_of_lt (Nat.mod_le _ _) before

theorem eq_of_getElem?_map_range {Value : Type} {answer : Nat → Value} {count index : Nat}
    {value : Value} (found : ((List.range count).map answer)[index]? = some value) :
    value = answer index := by
  obtain ⟨inside, rfl⟩ := List.getElem?_eq_some_iff.mp found
  simp

theorem Follows.start_poll {start reading : Word} {earlier later : List Access}
    (follows : Follows schedule uart counter
      (pollRead counter start :: (earlier ++ pollRead counter reading :: later))) :
    start = schedule.reading 0 ∧
      reading = schedule.reading ((readings counter earlier).length + 1) ∧
      (∀ index value, (readings counter earlier)[index]? = some value →
        value = schedule.reading (index + 1)) ∧
      ∀ index value, (uart.flagReadings earlier)[index]? = some value →
        value = schedule.flags index := by
  have times := follows.times
  have flags := follows.flags
  simp only [readings_pollRead, readings_append, flagReadings_pollRead, flagReadings_append]
    at times flags
  refine ⟨times 0 start rfl, times _ reading (by simp), fun index value found => ?_,
    fun index value found => ?_⟩
  · apply times (index + 1) value
    rwa [List.getElem?_cons_succ,
      List.getElem?_append_left (List.getElem?_eq_some_iff.mp found).1]
  · apply flags index value
    rwa [List.getElem?_append_left (List.getElem?_eq_some_iff.mp found).1]

/-- The first overdue poll is seen, so no later one is ever made. -/
theorem honours_of_visible (running : schedule.Running) (within : timeoutTicks ≤ maxTimeout)
    (visible : Visible schedule bytes timeoutTicks) :
    Honours schedule uart bytes counter timeoutTicks := by
  intro fuel trace last run follows earlier reading later split begun overdue
  rw [writeTimeout_eq_head bytes within] at run
  rcases run_read_iff.mp run with ⟨rfl, -⟩ | ⟨start, rest, rfl, enqueues⟩
  · simp at split
  cases earlier with
  | nil => exact absurd rfl begun
  | cons first earlier =>
      obtain ⟨rfl, rfl⟩ := List.cons.inj split
      change _ ≤ schedule.elapsed (readings counter (pollRead counter start :: earlier)).length
        at overdue
      rw [readings_pollRead, List.length_cons] at overdue
      obtain ⟨turns, byte, left, reaches, turn⟩ := run_head_poll enqueues
      obtain ⟨rfl, rfl, times, flags⟩ := follows.start_poll
      have counted := reaches.rooms_schedule flags
      rw [List.length_cons] at counted
      have someOverdue : ∃ index, timeoutTicks.toNat ≤ schedule.elapsed (index + 1) := ⟨_, overdue⟩
      obtain ⟨index, isOverdue, isFirst⟩ : ∃ index,
          timeoutTicks.toNat ≤ schedule.elapsed (index + 1) ∧
            ∀ earlier < index, schedule.elapsed (earlier + 1) < timeoutTicks.toNat :=
        ⟨Nat.find someOverdue, Nat.find_spec someOverdue,
          fun _ before => Nat.not_le.mp (Nat.find_min someOverdue before)⟩
      have notLater : index ≤ (readings counter earlier).length := by
        by_contra after
        exact absurd overdue (Nat.not_le.mpr (isFirst _ (Nat.not_le.mp after)))
      have room := schedule.rooms_mono notLater
      have seen := visible index isOverdue isFirst (by omega)
      rcases Nat.lt_or_eq_of_le notLater with before | rfl
      · -- The first overdue poll was made before this one, and looked early.
        have polled := List.getElem?_eq_getElem before
        have early := reaches.inTime _ (List.mem_of_getElem? polled)
        rw [times index _ polled] at early
        exact absurd ((late_iff running (index + 1)).mpr seen) (BitVec.not_le.mpr early)
      · have late := (late_iff running _).mpr seen
        rcases run_turn turn with ⟨-, finished⟩ | ⟨early, -⟩
        · exact finished
        · exact absurd late (BitVec.not_le.mpr early)

/-- A first overdue poll that looked early would go on. -/
theorem visible_of_honours (running : schedule.Running) (within : timeoutTicks ≤ maxTimeout)
    (honours : Honours schedule uart bytes counter timeoutTicks) :
    Visible schedule bytes timeoutTicks := by
  intro index isOverdue isFirst left
  by_contra unseen
  have early := BitVec.not_le.mp ((late_iff running (index + 1)).not.mpr unseen)
  obtain ⟨trace, byte, rest, reaches, times, flags⟩ := reaches_schedule uart counter index
    (fun _ before => inTime_of_elapsed_lt running (isFirst _ before)) left
  have length : (readings counter trace).length = index := by simp [times]
  obtain ⟨turns, run⟩ := reaches.run (index + 1) (index + 1) (by omega) (by omega)
  have whole : Run (uart.writeTimeout bytes counter timeoutTicks (index + 1))
      (pollRead counter (schedule.reading 0) ::
        (trace ++ pollRead counter (schedule.reading (index + 1)) :: []))
      (uart.turn counter (schedule.reading 0) timeoutTicks (index + 1) turns byte rest
        (schedule.reading (index + 1))) := by
    rw [writeTimeout_eq_head bytes within]
    refine .cons (.read _ _ _) (run.append ?_)
    rw [head_succ]
    exact .cons (.read _ _ _) (.nil _)
  have follows : Follows schedule uart counter (pollRead counter (schedule.reading 0) ::
      (trace ++ pollRead counter (schedule.reading (index + 1)) :: [])) := by
    have allTimes : readings counter (pollRead counter (schedule.reading 0) ::
        (trace ++ pollRead counter (schedule.reading (index + 1)) :: [])) =
        (List.range (index + 2)).map schedule.reading := by
      rw [readings_pollRead, readings_append, times, List.range_succ_eq_map, List.map_cons,
        List.map_map, List.range_succ, List.map_append]
      simp
    refine ⟨fun position value found => ?_, fun position value found => ?_⟩
    · rw [allTimes] at found
      exact eq_of_getElem?_map_range found
    · rw [flagReadings_pollRead, flagReadings_append, flags] at found
      exact eq_of_getElem?_map_range (by simpa using found)
  obtain ⟨-, gaveUp⟩ := honours _ _ _ whole follows (pollRead counter (schedule.reading 0) :: trace)
    _ [] rfl (List.cons_ne_nil _ _) (by simpa [length] using isOverdue)
  rw [turn, if_neg (BitVec.not_le.mpr early)] at gaveUp
  cases gaveUp

end Deadline

/-- `write_timeout` keeps its deadline under the documented gap of less than one wrap exactly when
the first overdue poll it reaches is late modulo `2^32` as well. -/
theorem honours_iff_visible (schedule : Schedule) (uart : Uart) (bytes : List Byte)
    (counter : Counter) (timeoutTicks : Word) (running : schedule.Running)
    (within : timeoutTicks ≤ maxTimeout) :
    Honours schedule uart bytes counter timeoutTicks ↔ Visible schedule bytes timeoutTicks :=
  ⟨visible_of_honours running within, honours_of_visible running within⟩

/-- A FIFO that stays full, polled every 60 ticks. -/
def blocked : Schedule where
  times index := 60 * index
  flags _ := Word.bit 32 txff

theorem running_blocked : blocked.Running where
  advances index := Nat.mul_le_mul_left 60 (Nat.le_succ index)
  within index := by
    show 60 * (index + 1) - 60 * index < 2 ^ 32
    omega

/-- The second poll is overdue, and the last. -/
theorem honours_iff_visible_blocked :
    Honours blocked ⟨.uart0⟩ [0x41] ⟨.gpt1⟩ 100 ∧ 100 ≤ blocked.elapsed 2 ∧
      Returns (writeTimeout ⟨.uart0⟩ [0x41] ⟨.gpt1⟩ 100 2)
        [pollRead ⟨.gpt1⟩ 0, pollRead ⟨.gpt1⟩ 60, flagRead ⟨.uart0⟩ (Word.bit 32 txff),
          pollRead ⟨.gpt1⟩ 120] (.error ⟨⟩) := by
  refine ⟨?_, by decide, ?_⟩
  · refine (honours_iff_visible blocked ⟨.uart0⟩ [0x41] ⟨.gpt1⟩ 100 running_blocked
      (by decide)).mpr ?_
    intro index overdue isFirst _
    have elapsed : ∀ index, blocked.elapsed index = 60 * index :=
      fun index => Nat.sub_zero (60 * index)
    have limit : (100 : Word).toNat = 100 := rfl
    simp only [elapsed, limit] at overdue isFirst ⊢
    have bound := isFirst 1
    omega
  · exact .cons (.read _ _ 0) <| .cons (.read _ _ 60) <| .cons (.read _ _ (Word.bit 32 txff)) <|
      .cons (.read _ _ 120) <| .nil _

/-- Polls at 0, at 50 with a full FIFO, and 49 ticks after a whole wrap. -/
def aliased : Schedule where
  times
    | 0 => 0
    | 1 => 50
    | index + 2 => 2 ^ 32 + 49 + index
  flags
    | 0 => Word.bit 32 txff
    | _ + 1 => 0

theorem running_aliased : aliased.Running where
  advances index := by
    match index with
    | 0 | 1 => decide
    | index + 2 =>
        show 2 ^ 32 + 49 + index ≤ 2 ^ 32 + 49 + (index + 1)
        omega
  within index := by
    match index with
    | 0 | 1 => decide
    | index + 2 =>
        show 2 ^ 32 + 49 + (index + 1) - (2 ^ 32 + 49 + index) < 2 ^ 32
        omega

/-- The poll 49 ticks after a wrap looks early, and a byte is sent `2^32` ticks too late. -/
theorem writeTimeout_aliased :
    aliased.Running ∧ (100 : Word) ≤ maxTimeout ∧ 100 ≤ aliased.elapsed 2 ∧
      Returns (writeTimeout ⟨.uart0⟩ [0x41] ⟨.gpt1⟩ 100 2)
        [pollRead ⟨.gpt1⟩ 0, pollRead ⟨.gpt1⟩ 50, flagRead ⟨.uart0⟩ (Word.bit 32 txff),
          pollRead ⟨.gpt1⟩ 49, flagRead ⟨.uart0⟩ 0, dataWrite ⟨.uart0⟩ 0x41] (.ok ()) ∧
      ¬Honours aliased ⟨.uart0⟩ [0x41] ⟨.gpt1⟩ 100 := by
  have run : Returns (writeTimeout ⟨.uart0⟩ [0x41] ⟨.gpt1⟩ 100 2)
      [pollRead ⟨.gpt1⟩ 0, pollRead ⟨.gpt1⟩ 50, flagRead ⟨.uart0⟩ (Word.bit 32 txff),
        pollRead ⟨.gpt1⟩ 49, flagRead ⟨.uart0⟩ 0, dataWrite ⟨.uart0⟩ 0x41] (.ok ()) :=
    .cons (.read _ _ 0) <| .cons (.read _ _ 50) <| .cons (.read _ _ (Word.bit 32 txff)) <|
      .cons (.read _ _ 49) <| .cons (.read _ _ 0) <| .cons (.write _ _ _) <| .nil _
  refine ⟨running_aliased, by decide, by decide, run, fun honours => ?_⟩
  have follows : Follows aliased ⟨.uart0⟩ ⟨.gpt1⟩
      [pollRead ⟨.gpt1⟩ 0, pollRead ⟨.gpt1⟩ 50, flagRead ⟨.uart0⟩ (Word.bit 32 txff),
        pollRead ⟨.gpt1⟩ 49, flagRead ⟨.uart0⟩ 0, dataWrite ⟨.uart0⟩ 0x41] := by
    refine ⟨fun index reading found => ?_, fun index flags found => ?_⟩
    · match index with
      | 0 | 1 | 2 =>
          cases found
          decide
      | index + 3 => cases found
    · match index with
      | 0 | 1 =>
          cases found
          rfl
      | index + 2 => cases found
  obtain ⟨last, -⟩ := honours 2 _ _ run follows [pollRead ⟨.gpt1⟩ 0, pollRead ⟨.gpt1⟩ 50,
    flagRead ⟨.uart0⟩ (Word.bit 32 txff)] 49 _ rfl (List.cons_ne_nil _ _) (by decide)
  cases last

end DirectLine.Firmware.Uart
