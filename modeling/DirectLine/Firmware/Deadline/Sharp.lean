import DirectLine.Firmware.Deadline

/-!
# Deadlines under the sharp gap

Polls that are at least a tick and at most `2^32` less the timeout apart cannot
mistake an overdue poll for an early one.  Every poll in time then leaves fewer
ticks to the deadline, so the loops end whatever the FIFO does.
-/

namespace DirectLine.Firmware.Uart

open DirectLine.Interaction DirectLine.Interaction.Program

/-- The counter advances between two reads, by so little that no deadline is skipped. -/
structure Schedule.Sharp (schedule : Schedule) (timeoutTicks : Word) : Prop where
  advances : ∀ index, schedule.times index + 1 ≤ schedule.times (index + 1)
  within : ∀ index,
    schedule.times (index + 1) - schedule.times index ≤ 2 ^ 32 - timeoutTicks.toNat

section Polls

variable {schedule : Schedule} {timeoutTicks : Word} {count index : Nat}

theorem Schedule.Sharp.start_le (sharp : schedule.Sharp timeoutTicks) (index : Nat) :
    schedule.times 0 ≤ schedule.times index :=
  monotone_nat_of_le_succ (fun index => Nat.le_of_succ_le (sharp.advances index))
    (Nat.zero_le index)

theorem Schedule.Sharp.le_elapsed (sharp : schedule.Sharp timeoutTicks) (index : Nat) :
    index ≤ schedule.elapsed index := by
  have start := sharp.start_le
  unfold Schedule.elapsed
  induction index with
  | zero => exact Nat.zero_le _
  | succ index inductionHypothesis =>
      have advances := sharp.advances index
      have before := start index
      omega

/-- After polls in time the deadline is not reached, and the next poll is less than a wrap after
the start. -/
theorem Schedule.Sharp.elapsed_lt (sharp : schedule.Sharp timeoutTicks)
    (positive : 0 < timeoutTicks.toNat)
    (early : ∀ index < count, schedule.reading (index + 1) - schedule.reading 0 < timeoutTicks) :
    schedule.elapsed count < timeoutTicks.toNat ∧ schedule.elapsed (count + 1) < 2 ^ 32 := by
  have fits := timeoutTicks.isLt
  have next : ∀ index, schedule.elapsed index < timeoutTicks.toNat →
      schedule.elapsed (index + 1) < 2 ^ 32 := by
    intro index before
    have within := sharp.within index
    have advances := sharp.advances index
    have start := sharp.start_le index
    unfold Schedule.elapsed at before ⊢
    omega
  induction count with
  | zero =>
      have start : schedule.elapsed 0 = 0 := Nat.sub_self _
      have before : schedule.elapsed 0 < timeoutTicks.toNat := by rwa [start]
      exact ⟨before, next 0 before⟩
  | succ count inductionHypothesis =>
      obtain ⟨-, unwrapped⟩ := inductionHypothesis fun index before =>
        early index (Nat.lt_succ_of_lt before)
      have inTime := early count (Nat.lt_succ_self count)
      rw [BitVec.lt_def, schedule.toNat_reading_sub (sharp.start_le _),
        Nat.mod_eq_of_lt unwrapped] at inTime
      exact ⟨inTime, next (count + 1) inTime⟩

theorem Schedule.Sharp.late_iff (sharp : schedule.Sharp timeoutTicks)
    (early : ∀ index < count, schedule.reading (index + 1) - schedule.reading 0 < timeoutTicks) :
    timeoutTicks ≤ schedule.reading (count + 1) - schedule.reading 0 ↔
      timeoutTicks.toNat ≤ schedule.elapsed (count + 1) := by
  rw [BitVec.le_def, schedule.toNat_reading_sub (sharp.start_le _)]
  rcases Nat.eq_zero_or_pos timeoutTicks.toNat with zero | positive
  · rw [zero]
    exact iff_of_true (Nat.zero_le _) (Nat.zero_le _)
  · rw [Nat.mod_eq_of_lt (sharp.elapsed_lt positive early).2]

/-- Each poll in time takes a tick of the timeout. -/
theorem Schedule.Sharp.count_lt (sharp : schedule.Sharp timeoutTicks)
    (early : ∀ index < count, schedule.reading (index + 1) - schedule.reading 0 < timeoutTicks) :
    count < max timeoutTicks.toNat 1 := by
  rcases Nat.eq_zero_or_pos timeoutTicks.toNat with zero | positive
  · cases count with
    | zero => exact lt_max_of_lt_right Nat.zero_lt_one
    | succ count =>
        have inTime := early 0 (Nat.zero_lt_succ count)
        rw [BitVec.lt_def, zero] at inTime
        exact absurd inTime (Nat.not_lt_zero _)
  · exact Nat.lt_of_lt_of_le
      (Nat.lt_of_le_of_lt (sharp.le_elapsed count) (sharp.elapsed_lt positive early).1)
      (Nat.le_max_left _ _)

end Polls

section Runs

variable {uart : Uart} {counter : Counter} {start timeoutTicks : Word}
variable {schedule : Schedule} {bytes remaining : List Byte} {trace earlier later : List Access}
variable {fuel turns : Nat} {last : Driver (Except Timeout Unit)}

/-- An execution that cannot go on has returned, or its fuel ran out on that many polls in time. -/
theorem ended_head
    (run : Run (uart.head counter start timeoutTicks fuel turns bytes) trace last)
    (ended : ∀ event next, ¬Step last event next) :
    (∃ result, last = .ret result) ∨
      (∃ remaining, Reaches uart counter start timeoutTicks bytes trace remaining) ∧
        min turns fuel ≤ (readings counter trace).length := by
  induction bytes generalizing turns trace with
  | nil => exact .inl ⟨_, (run_ret_iff.mp run).2⟩
  | cons byte bytes onBytes =>
      induction turns generalizing trace with
      | zero =>
          rw [head_zero] at run
          obtain ⟨rfl, -⟩ := run_exhausted_iff.mp run
          exact .inr ⟨⟨_, .refl _⟩, Nat.le_of_eq (Nat.zero_min fuel)⟩
      | succ turns onTurns =>
          rw [head_succ] at run
          rcases run_read_iff.mp run with ⟨-, rfl⟩ | ⟨reading, trace, rfl, afterPoll⟩
          · exact absurd (.read _ _ 0) (ended _ _)
          unfold turn at afterPoll
          by_cases late : timeoutTicks ≤ reading - start
          · rw [if_pos late] at afterPoll
            exact .inl ⟨_, (run_ret_iff.mp afterPoll).2⟩
          have inTime := BitVec.not_le.mp late
          rw [if_neg late] at afterPoll
          rcases run_read_iff.mp afterPoll with ⟨-, rfl⟩ | ⟨flags, trace, rfl, afterFlags⟩
          · exact absurd (.read _ _ 0) (ended _ _)
          cases full : Word.flag flags txff with
          | true =>
              rw [full, if_pos rfl] at afterFlags
              rcases onTurns afterFlags with returned | ⟨⟨remaining, reaches⟩, polled⟩
              · exact .inl returned
              · refine .inr ⟨⟨remaining, .full reading flags inTime full reaches⟩, ?_⟩
                change _ ≤ (readings counter
                  (pollRead counter reading :: flagRead uart flags :: trace)).length
                rw [readings_pollRead, readings_flagRead, List.length_cons]
                omega
          | false =>
              rw [full, if_neg Bool.false_ne_true] at afterFlags
              rcases run_write_iff.mp afterFlags with ⟨-, rfl⟩ | ⟨trace, rfl, afterData⟩
              · exact absurd (.write _ _ _) (ended _ _)
              rcases onBytes afterData with returned | ⟨⟨remaining, reaches⟩, polled⟩
              · exact .inl returned
              · refine .inr ⟨⟨remaining, .sent reading flags inTime full reaches⟩, ?_⟩
                change _ ≤ (readings counter (pollRead counter reading :: flagRead uart flags ::
                  dataWrite uart byte :: trace)).length
                rw [readings_pollRead, readings_flagRead, readings_dataWrite, List.length_cons]
                omega

theorem Reaches.early
    (reaches : Reaches uart counter (schedule.reading 0) timeoutTicks bytes trace remaining)
    (times : ∀ index value, (readings counter trace)[index]? = some value →
      value = schedule.reading (index + 1)) :
    ∀ index < (readings counter trace).length,
      schedule.reading (index + 1) - schedule.reading 0 < timeoutTicks := by
  intro index before
  have polled := List.getElem?_eq_getElem before
  rw [← times index _ polled]
  exact reaches.inTime _ (List.mem_of_getElem? polled)

theorem Follows.tail {reading : Word}
    (follows : Follows schedule uart counter (pollRead counter reading :: trace)) :
    reading = schedule.reading 0 ∧
      ∀ index value, (readings counter trace)[index]? = some value →
        value = schedule.reading (index + 1) := by
  have times := follows.times
  rw [readings_pollRead] at times
  exact ⟨times 0 reading rfl, fun index value found => times (index + 1) value found⟩

theorem getElem?_filterMap {Item Value : Type} {pick : Item → Option Value} {item : Value → Item}
    (picks : ∀ other value, pick other = some value → other = item value) {items : List Item}
    {index : Nat} {value : Value} (found : (items.filterMap pick)[index]? = some value) :
    ∃ earlier later, items = earlier ++ item value :: later ∧
      (earlier.filterMap pick).length = index := by
  induction items generalizing index with
  | nil => simp at found
  | cons other items inductionHypothesis =>
      cases picked : pick other with
      | none =>
          rw [List.filterMap_cons_none picked] at found
          obtain ⟨earlier, later, rfl, length⟩ := inductionHypothesis found
          refine ⟨other :: earlier, later, rfl, ?_⟩
          rw [List.filterMap_cons_none picked, length]
      | some first =>
          rw [List.filterMap_cons_some picked] at found
          cases index with
          | zero =>
              cases found
              exact ⟨[], items, congrArg (· :: items) (picks other value picked), rfl⟩
          | succ index =>
              obtain ⟨earlier, later, rfl, length⟩ := inductionHypothesis found
              refine ⟨other :: earlier, later, rfl, ?_⟩
              rw [List.filterMap_cons_some picked, List.length_cons, length]

theorem readings_getElem? {index : Nat} {value : Word}
    (found : (readings counter trace)[index]? = some value) :
    ∃ earlier later, trace = earlier ++ pollRead counter value :: later ∧
      (readings counter earlier).length = index := by
  refine getElem?_filterMap (fun event value picked => ?_) found
  split at picked
  · obtain ⟨rfl, ⟨⟩⟩ := Option.ite_none_right_eq_some.mp picked
    rfl
  · cases picked

theorem flagReadings_getElem? {index : Nat} {value : Word}
    (found : (uart.flagReadings trace)[index]? = some value) :
    ∃ earlier later, trace = earlier ++ flagRead uart value :: later ∧
      (uart.flagReadings earlier).length = index := by
  refine getElem?_filterMap (fun event value picked => ?_) found
  split at picked
  · obtain ⟨rfl, ⟨⟩⟩ := Option.ite_none_right_eq_some.mp picked
    rfl
  · cases picked

def Schedule.device (schedule : Schedule) (uart : Uart) (counter : Counter) (past : List Access) :
    Register → Word
  | .gpt block .tav =>
      if block = counter.registers then schedule.reading (readings counter past).length else 0
  | .uart block .fr =>
      if block = uart.registers then schedule.flags (uart.flagReadings past).length else 0
  | _ => 0

theorem follows_attend (schedule : Schedule) (uart : Uart) (counter : Counter)
    (program : Driver (Except Timeout Unit)) :
    Follows schedule uart counter (program.attend (schedule.device uart counter) []).1 := by
  refine ⟨fun index reading found => ?_, fun index flags found => ?_⟩
  · obtain ⟨earlier, later, split, rfl⟩ := readings_getElem? found
    rw [attend_answers _ _ _ split]
    simp [Schedule.device]
  · obtain ⟨earlier, later, split, rfl⟩ := flagReadings_getElem? found
    rw [attend_answers _ _ _ split]
    simp [Schedule.device]

theorem Schedule.Sharp.poll {reading : Word} (sharp : schedule.Sharp timeoutTicks)
    (run : Run (uart.head counter start timeoutTicks fuel turns bytes)
      (earlier ++ pollRead counter reading :: later) last)
    (follows : Follows schedule uart counter
      (pollRead counter start :: (earlier ++ pollRead counter reading :: later))) :
    (readings counter earlier).length < max timeoutTicks.toNat 1 ∧
      (timeoutTicks.toNat ≤ schedule.elapsed ((readings counter earlier).length + 1) →
        later = [] ∧ last = .ret (.error ⟨⟩)) := by
  obtain ⟨turns, byte, rest, reaches, turn⟩ := run_head_poll run
  obtain ⟨rfl, rfl, times, -⟩ := follows.start_poll
  have early := reaches.early times
  refine ⟨sharp.count_lt early, fun overdue => ?_⟩
  have late := (sharp.late_iff early).mpr overdue
  rcases run_turn turn with ⟨-, finished⟩ | ⟨inTime, -⟩
  · exact finished
  · exact absurd late (BitVec.not_le.mpr inTime)

theorem Schedule.Sharp.readings_le (sharp : schedule.Sharp timeoutTicks)
    (run : Run (uart.head counter start timeoutTicks fuel turns bytes) trace last)
    (follows : Follows schedule uart counter (pollRead counter start :: trace)) :
    (readings counter trace).length ≤ max timeoutTicks.toNat 1 := by
  cases polls : (readings counter trace).length with
  | zero => exact Nat.zero_le _
  | succ count =>
      obtain ⟨reading, found⟩ : ∃ reading, (readings counter trace)[count]? = some reading :=
        ⟨_, List.getElem?_eq_getElem (polls ▸ Nat.lt_succ_self count)⟩
      obtain ⟨earlier, later, rfl, rfl⟩ := readings_getElem? found
      exact (sharp.poll run follows).1

/-- With a turn for every tick the fuel does not run out. -/
theorem Schedule.Sharp.returns (sharp : schedule.Sharp timeoutTicks)
    (within : timeoutTicks ≤ maxTimeout) (enough : max timeoutTicks.toNat 1 ≤ fuel)
    (run : Run (uart.writeTimeout bytes counter timeoutTicks fuel) trace last)
    (follows : Follows schedule uart counter trace)
    (ended : ∀ event next, ¬Step last event next) : ∃ result, last = .ret result := by
  rw [writeTimeout_eq_head bytes within] at run
  rcases run_read_iff.mp run with ⟨-, rfl⟩ | ⟨start, rest, rfl, enqueues⟩
  · exact absurd (.read _ _ 0) (ended _ _)
  · rcases ended_head enqueues ended with returned | ⟨⟨remaining, reaches⟩, polled⟩
    · exact returned
    · obtain ⟨rfl, times⟩ := follows.tail
      have few := sharp.count_lt (reaches.early times)
      rw [Nat.min_self] at polled
      omega

theorem Schedule.Sharp.overdue (sharp : schedule.Sharp timeoutTicks)
    (run : Returns (uart.head counter start timeoutTicks fuel turns bytes) trace (.error ⟨⟩))
    (follows : Follows schedule uart counter (pollRead counter start :: trace)) :
    ∃ earlier reading, trace = earlier ++ [pollRead counter reading] ∧
      timeoutTicks.toNat ≤ schedule.elapsed ((readings counter earlier).length + 1) := by
  rcases returns_head run with ⟨-, ⟨⟩⟩ | ⟨earlier, reading, byte, rest, rfl, reaches, late, -⟩
  obtain ⟨rfl, rfl, times, -⟩ := follows.start_poll
  exact ⟨earlier, _, rfl, (sharp.late_iff (reaches.early times)).mp late⟩

/-- There is room for every byte at the polls before the deadline. -/
def Schedule.Fits (schedule : Schedule) (bytes : List Byte) (timeoutTicks : Word) : Prop :=
  ∃ count, bytes.length ≤ schedule.rooms count ∧
    ∀ index < count, schedule.elapsed (index + 1) < timeoutTicks.toNat

theorem Schedule.Sharp.elapsed_lt_of_early (sharp : schedule.Sharp timeoutTicks) {count : Nat}
    (early : ∀ index < count, schedule.reading (index + 1) - schedule.reading 0 < timeoutTicks)
    {index : Nat} (before : index < count) :
    schedule.elapsed (index + 1) < timeoutTicks.toNat := by
  have inTime := early index before
  rw [BitVec.lt_def] at inTime
  exact (sharp.elapsed_lt (Nat.zero_lt_of_lt inTime) fun other within =>
    early other (Nat.lt_of_lt_of_le within before)).1

theorem Schedule.Sharp.ok_iff_fits {result : Except Timeout Unit}
    (sharp : schedule.Sharp timeoutTicks)
    (run : Returns (uart.head counter start timeoutTicks fuel turns bytes) trace result)
    (follows : Follows schedule uart counter (pollRead counter start :: trace)) :
    result = .ok () ↔ schedule.Fits bytes timeoutTicks := by
  rcases returns_head run with ⟨reaches, rfl⟩ |
    ⟨earlier, reading, byte, rest, rfl, reaches, late, rfl⟩
  · obtain ⟨rfl, times⟩ := follows.tail
    have flags := follows.flags
    rw [flagReadings_pollRead] at flags
    have counted := reaches.rooms_schedule flags
    rw [List.length_nil, Nat.zero_add] at counted
    refine iff_of_true rfl ⟨_, counted.le, fun index before => ?_⟩
    exact sharp.elapsed_lt_of_early (reaches.early times) before
  · obtain ⟨rfl, rfl, times, flags⟩ := follows.start_poll
    have overdue := (sharp.late_iff (reaches.early times)).mp late
    have counted := reaches.rooms_schedule flags
    rw [List.length_cons] at counted
    refine iff_of_false (fun impossible => by cases impossible) ?_
    rintro ⟨count, room, before⟩
    rcases Nat.lt_or_ge (readings counter earlier).length count with within | beyond
    · exact absurd overdue (Nat.not_le.mpr (before _ within))
    · have fewer := schedule.rooms_mono beyond
      omega

end Runs

/-- `write_timeout` under the sharp gap: it returns whatever the FIFO does, after at most a poll a
tick, and times out at the first poll past the deadline and at no other.  It succeeds exactly when
the FIFO has had room for every byte before. -/
theorem writeTimeout_decides (schedule : Schedule) (uart : Uart) (bytes : List Byte)
    (counter : Counter) (timeoutTicks : Word) (fuel : Nat) (within : timeoutTicks ≤ maxTimeout)
    (sharp : schedule.Sharp timeoutTicks) (enough : max timeoutTicks.toNat 1 ≤ fuel) :
    (∃ trace result, Returns (uart.writeTimeout bytes counter timeoutTicks fuel) trace result ∧
      Follows schedule uart counter trace) ∧
    ∀ trace last, Run (uart.writeTimeout bytes counter timeoutTicks fuel) trace last →
      Follows schedule uart counter trace →
      last ≠ .exhausted ∧
      (readings counter trace).length ≤ max timeoutTicks.toNat 1 + 1 ∧
      (∀ earlier reading later, trace = earlier ++ pollRead counter reading :: later →
        earlier ≠ [] → timeoutTicks.toNat ≤ schedule.elapsed (readings counter earlier).length →
          later = [] ∧ last = .ret (.error ⟨⟩)) ∧
      (last = .ret (.error ⟨⟩) → ∃ earlier reading,
        trace = earlier ++ [pollRead counter reading] ∧ earlier ≠ [] ∧
          timeoutTicks.toNat ≤ schedule.elapsed (readings counter earlier).length) ∧
      ∀ result, last = .ret result → (result = .ok () ↔ schedule.Fits bytes timeoutTicks) := by
  constructor
  · have run := run_attend (schedule.device uart counter)
      (uart.writeTimeout bytes counter timeoutTicks fuel) []
    have follows := follows_attend schedule uart counter
      (uart.writeTimeout bytes counter timeoutTicks fuel)
    obtain ⟨result, returned⟩ := sharp.returns within enough run follows fun _ _ =>
      attend_ends _ _ _
    rw [returned] at run
    exact ⟨_, result, run, follows⟩
  · intro trace last run follows
    have unexhausted : last ≠ .exhausted := by
      rintro rfl
      obtain ⟨result, ⟨⟩⟩ := sharp.returns within enough run follows nofun
    rw [writeTimeout_eq_head bytes within] at run
    refine ⟨unexhausted, ?_⟩
    rcases run_read_iff.mp run with ⟨rfl, rfl⟩ | ⟨start, rest, rfl, enqueues⟩
    · refine ⟨Nat.zero_le _, fun earlier reading later split => ?_, nofun, nofun⟩
      simp at split
    · change (readings counter (pollRead counter start :: rest)).length ≤ _ ∧ _
      rw [readings_pollRead, List.length_cons]
      refine ⟨Nat.succ_le_succ (sharp.readings_le enqueues follows),
        fun earlier reading later split begun overdue => ?_, ?_, ?_⟩
      · cases earlier with
        | nil => exact absurd rfl begun
        | cons first earlier =>
            obtain ⟨rfl, rfl⟩ := List.cons.inj split
            change
              _ ≤ schedule.elapsed (readings counter (pollRead counter start :: earlier)).length
              at overdue
            rw [readings_pollRead, List.length_cons] at overdue
            exact (sharp.poll enqueues follows).2 overdue
      · rintro rfl
        obtain ⟨earlier, reading, rfl, overdue⟩ := sharp.overdue enqueues follows
        refine ⟨pollRead counter start :: earlier, reading, rfl, List.cons_ne_nil _ _, ?_⟩
        rw [readings_pollRead, List.length_cons]
        exact overdue
      · rintro result rfl
        exact sharp.ok_iff_fits enqueues follows

/-- A FIFO that stays full, polled every tick. -/
def stuck : Schedule where
  times index := index
  flags _ := Word.bit 32 txff

theorem sharp_stuck : stuck.Sharp 100 := by
  constructor
  · exact fun index => Nat.le_refl (index + 1)
  · intro index
    have limit : (100 : Word).toNat = 100 := rfl
    show index + 1 - index ≤ 2 ^ 32 - (100 : Word).toNat
    omega

theorem rooms_stuck (count : Nat) : stuck.rooms count = 0 := by
  apply List.countP_eq_zero.mpr
  intro index _
  have full : (!Word.flag (Word.bit 32 txff) txff) ≠ true := by decide
  exact full

theorem writeTimeout_decides_stuck :
    ∃ trace, Returns (writeTimeout ⟨.uart0⟩ [0x41] ⟨.gpt1⟩ 100 100) trace (.error ⟨⟩) ∧
      Follows stuck ⟨.uart0⟩ ⟨.gpt1⟩ trace := by
  obtain ⟨⟨trace, result, returned, follows⟩, decides⟩ :=
    writeTimeout_decides stuck ⟨.uart0⟩ [0x41] ⟨.gpt1⟩ 100 100 (by decide) sharp_stuck (by decide)
  obtain ⟨-, -, -, -, success⟩ := decides trace _ returned follows
  cases result with
  | error => exact ⟨trace, returned, follows⟩
  | ok =>
      obtain ⟨count, room, -⟩ := (success _ rfl).mp rfl
      rw [rooms_stuck] at room
      cases room

end DirectLine.Firmware.Uart
