import DirectLine.Firmware.Acquisition.Order

/-!
# Runs of `Board::take`

What every run of a sequence of calls does, whatever the hardware answers and
however far the run has come: read off the contracts through what their
summaries remember.
-/

namespace DirectLine.Firmware.Acquisition

open DirectLine.Interaction

theorem Recorded.run {past : List Access} {progress : Progress}
    (recorded : Recorded past progress) (trace : List Access) :
    Recorded (past ++ trace) (monitor.summary progress trace) := by
  induction trace generalizing past progress with
  | nil => simpa using recorded
  | cons access trace inductionHypothesis =>
      have rest := inductionHypothesis (recorded.after access)
      simpa using rest

theorem meets_takes (taken : Bool) (calls : Nat) :
    monitor.setting.Meets (fun boards progress => progress.unmasked = boards.any Option.isSome)
      Stopped (Board.takes taken calls) Progress.start := by
  cases taken with
  | true =>
      rw [Board.takes_true, Monitor.meets_ret_iff]
      simp [Progress.start]
  | false =>
      cases calls with
      | zero => exact Monitor.meets_ret_iff.mpr rfl
      | succ calls =>
          rw [Board.takes_false]
          refine meets_take ⟨rfl, rfl⟩ rfl fun board progress _ unmasked => ?_
          rw [Monitor.meets_ret_iff, unmasked]
          rfl

section Runs

variable {taken : Bool} {calls : Nat} {trace : List Access}
variable {last : Driver (List (Option Board))}

/-- Every access was permitted by a summary of the accesses before it. -/
theorem run_permits (run : Program.Run (Board.takes taken calls) trace last)
    {earlier later : List Access} {access : Access} (split : trace = earlier ++ access :: later) :
    ∃ progress, Recorded earlier progress ∧ progress.Permits access := by
  have permitted := (Monitor.run_allowed run (meets_takes taken calls)).1 earlier access later split
  exact ⟨_, by simpa using Recorded.start.run earlier, permitted⟩

theorem run_recorded (run : Program.Run (Board.takes taken calls) trace last) :
    ∃ progress, Recorded trace progress ∧
      monitor.setting.Meets (fun boards progress => progress.unmasked = boards.any Option.isSome)
        Stopped last progress := by
  have finally' := (Monitor.run_allowed run (meets_takes taken calls)).2
  exact ⟨_, by simpa using Recorded.start.run trace, finally'⟩

theorem run_supplied (run : Program.Run (Board.takes taken calls) trace last)
    {earlier later : List Access} {access : Access} (split : trace = earlier ++ access :: later)
    {register : Register} {domain bit : Nat} {gate : Prcm}
    (reached : accessed access = some register)
    (supplied : supply register = some (domain, gate, bit)) :
    Observed domain earlier ∧
      ∃ value, Loaded gate value earlier ∧ value.getLsbD bit = true := by
  obtain ⟨progress, recorded, permits⟩ := run_permits run split
  obtain ⟨powered, value, loaded, set⟩ := permits.supplied register reached domain gate bit supplied
  refine ⟨recorded.observed domain powered, value, ?_, set⟩
  have clock : isClock gate = true := by
    cases register <;> cases supplied <;> rfl
  have traced := recorded.staged gate clock
  rw [loaded] at traced
  exact traced

theorem run_divided (run : Program.Run (Board.takes taken calls) trace last)
    {earlier later : List Access} {access : Access} (split : trace = earlier ++ access :: later)
    (reached : reachesTimer access = true) :
    (∃ value, Loaded .gptclkdiv value earlier) ∧
      ∀ value, .write (.prcm .gptclkdiv) value ∉ later := by
  constructor
  · obtain ⟨progress, recorded, permits⟩ := run_permits run split
    have divided : progress.Divided := by
      have ordered := permits.ordered
      unfold reachesTimer at reached
      split at reached
      · exact ordered
      · exact ordered
      · cases reached
    obtain ⟨value, loaded⟩ := divided
    have traced := recorded.staged .gptclkdiv rfl
    rw [loaded] at traced
    exact ⟨value, traced⟩
  · intro value member
    obtain ⟨between, after, rfl⟩ := List.append_of_mem member
    -- At the later write the summary already records the access to a timer.
    have split' : trace = (earlier ++ access :: between) ++
        .write (.prcm .gptclkdiv) value :: after := by
      rw [split, List.append_assoc, List.cons_append]
    obtain ⟨progress, recorded, permits⟩ := run_permits run split'
    have untouched : progress.timers = false := permits.ordered
    rw [recorded.timers] at untouched
    simp [reached] at untouched

theorem run_released (run : Program.Run (Board.takes taken calls) trace last)
    {earlier later : List Access} {access : Access} (split : trace = earlier ++ access :: later)
    (release : releases access = true) :
    (∀ dio ∈ boardPins, Configured dio earlier) ∧ ∀ dio ∈ ledPins, Latched dio earlier := by
  obtain ⟨progress, recorded, permits⟩ := run_permits run split
  have assembled : (∀ dio ∈ boardPins, progress.pins dio = true) ∧
      ∀ dio ∈ ledPins, progress.latches dio = true := by
    have ordered := permits.ordered
    unfold releases at release
    split at release
    · exact ordered
    · exact ordered
    · cases release
  exact ⟨fun dio member => recorded.pins dio (assembled.1 dio member),
    fun dio member => recorded.latches dio (assembled.2 dio member)⟩

/-- Nothing follows the unmasking of interrupts. -/
theorem run_unmasked (run : Program.Run (Board.takes taken calls) trace last)
    {earlier later : List Access} (split : trace = earlier ++ .act .enableInterrupts :: later) :
    later = [] ∧ .act .enableInterrupts ∉ earlier ∧ ∃ access ∈ earlier, releases access = true := by
  obtain ⟨progress, recorded, permits⟩ := run_permits run split
  refine ⟨?_, fun member => ?_, ?_⟩
  · cases later with
    | nil => rfl
    | cons access later =>
        have split' : trace = (earlier ++ [.act .enableInterrupts]) ++ access :: later := by
          rw [split, List.append_assoc, List.singleton_append]
        obtain ⟨progress, recorded, permits⟩ := run_permits run split'
        have masked := permits.masked
        rw [recorded.unmasked] at masked
        simp [unmasks] at masked
  · have masked := permits.masked
    rw [recorded.unmasked, List.any_eq_false] at masked
    exact masked _ member rfl
  · have released : progress.released = true := permits.ordered
    rw [recorded.released, List.any_eq_true] at released
    exact released

theorem run_successful {boards : List (Option Board)} {board : Board}
    (run : Program.Run (Board.takes taken calls) trace (.ret boards))
    (member : some board ∈ boards) :
    ∃ earlier, trace = earlier ++ [.act .enableInterrupts] := by
  obtain ⟨progress, recorded, meets⟩ := run_recorded run
  rw [Monitor.meets_ret_iff, recorded.unmasked] at meets
  have unmasked : trace.any unmasks = true := by
    rw [meets, List.any_eq_true]
    exact ⟨some board, member, rfl⟩
  obtain ⟨access, member, unmasks⟩ := List.any_eq_true.mp unmasked
  obtain ⟨earlier, later, rfl⟩ := List.append_of_mem member
  cases access with
  | act action =>
      cases action with
      | enableInterrupts =>
          obtain ⟨rfl, -⟩ := run_unmasked run rfl
          exact ⟨earlier, rfl⟩
      | _ => cases unmasks
  | _ => cases unmasks

/-- A run can stop early only by exhausting a budget, and then leaves the pads retained and
interrupts masked. -/
theorem run_panicked {message : String}
    (run : Program.Run (Board.takes taken calls) trace (.panic message)) :
    message = "hardware handshake iteration budget exhausted" ∧
      (∀ access ∈ trace, releases access = false) ∧ .act .enableInterrupts ∉ trace := by
  obtain ⟨progress, recorded, meets⟩ := run_recorded run
  rw [Monitor.meets_panic_iff] at meets
  obtain ⟨budget, released, unmasked⟩ := meets
  rw [recorded.released, List.any_eq_false] at released
  rw [recorded.unmasked, List.any_eq_false] at unmasked
  exact ⟨budget, fun access member => by simpa using released access member,
    fun member => unmasked _ member rfl⟩

theorem take_returns {trace : List Access} {result : Option Board}
    (run : Program.Returns (Board.take false) trace result) : ∃ board, result = some board := by
  have meets : monitor.setting.Meets (fun result _ => ∃ board : Board, result = some board) Stopped
      (Board.take false) Progress.start := by
    rw [← bind_pure (Board.take false)]
    refine meets_take ⟨rfl, rfl⟩ rfl fun board progress _ _ => ?_
    exact Monitor.meets_ret_iff.mpr ⟨board, rfl⟩
  exact Monitor.meets_ret_iff.mp (Monitor.run_allowed run meets).2

end Runs

/-- What a run of a number of calls has done and left. -/
structure Orderly (taken : Bool) (calls : Nat) (trace : List Access)
    (last : Driver (List (Option Board))) : Prop where
  /-- Registers are accessed only powered, and clocked as last loaded. -/
  supplied : ∀ earlier access later register domain gate bit,
    trace = earlier ++ access :: later → accessed access = some register →
    supply register = some (domain, gate, bit) →
      Observed domain earlier ∧ ∃ value, Loaded gate value earlier ∧ value.getLsbD bit = true
  /-- The divider is loaded before any timer is accessed, and never written again. -/
  divided : ∀ earlier access later, trace = earlier ++ access :: later →
    reachesTimer access = true →
      (∃ value, Loaded .gptclkdiv value earlier) ∧
        ∀ value, .write (.prcm .gptclkdiv) value ∉ later
  released : ∀ earlier access later, trace = earlier ++ access :: later → releases access = true →
    (∀ dio ∈ boardPins, Configured dio earlier) ∧ ∀ dio ∈ ledPins, Latched dio earlier
  /-- Interrupts are unmasked at most once, after retention is released, by the last access. -/
  unmasked : ∀ earlier later, trace = earlier ++ .act .enableInterrupts :: later →
    later = [] ∧ .act .enableInterrupts ∉ earlier ∧ ∃ access ∈ earlier, releases access = true
  successful : ∀ boards board, last = .ret boards → some board ∈ boards →
    ∃ earlier, trace = earlier ++ [.act .enableInterrupts]
  panicked : ∀ message, last = .panic message →
    message = "hardware handshake iteration budget exhausted" ∧
      (∀ access ∈ trace, releases access = false) ∧ .act .enableInterrupts ∉ trace
  exhausted : ∀ (earlier : List Access) status bit (values : List Word) after,
    Program.Run (Board.takes taken calls) earlier
      (waitFor (Prcm.statusFlag status bit) values.length >>= after) →
    (∀ value ∈ values, Word.flag value bit = false) →
    trace = earlier ++ values.map (.read (.prcm status)) →
      last = .panic "hardware handshake iteration budget exhausted"

/-- Every run of any number of calls is orderly, and only the call that takes the board
accesses hardware: every other call returns nothing. -/
theorem takes_ordered (calls : Nat) :
    (∀ taken trace last, Program.Run (Board.takes taken calls) trace last →
      Orderly taken calls trace last) ∧
    (∀ trace last, Program.Run (Board.takes true calls) trace last →
      trace = [] ∧ last = .ret (List.replicate calls none)) ∧
    ∀ trace boards, Program.Returns (Board.takes false (calls + 1)) trace boards →
      ∃ board, Program.Returns (Board.take false) trace (some board) ∧
        boards = some board :: List.replicate calls none := by
  refine ⟨fun taken trace last run => ?_, fun trace last run => ?_, fun trace boards run => ?_⟩
  · exact {
      supplied := fun _ _ _ _ _ _ _ split => run_supplied run split
      divided := fun _ _ _ split => run_divided run split
      released := fun _ _ _ split => run_released run split
      unmasked := fun _ _ split => run_unmasked run split
      successful := by
        rintro boards board rfl
        exact run_successful run
      panicked := by
        rintro message rfl
        exact run_panicked run
      exhausted := by
        rintro earlier status bit values after poll failed rfl
        exact Prcm.run_exhausted poll failed run }
  · rw [Board.takes_true, Program.run_ret_iff] at run
    exact run
  · rw [Board.takes_false] at run
    obtain ⟨earlier, later, result, rfl, first, second⟩ := run.of_bind
    obtain ⟨rfl, same⟩ := Program.run_ret_iff.mp second
    obtain ⟨board, rfl⟩ := take_returns first
    cases same
    exact ⟨board, by simpa using first, rfl⟩

theorem takes_eq (calls : Nat) :
    ∃ after, Board.takes false (calls + 1) =
      .write (.prcm .gptclkdiv) 0 (.write (.prcm .clkloadctl) Prcm.load
        (waitFor (Prcm.statusFlag .clkloadctl Prcm.loadDone) 1000000 >>= after)) := by
  rw [Board.takes_false]
  simp only [Board.take, Prcm.initializeTimerClock, Prcm.applyClockSettings, bind_assoc,
    Program.writeReg_bind, Program.write_bind, Bool.false_eq_true, ↓reduceIte]
  exact ⟨_, rfl⟩

set_option maxRecDepth 2000 in
/-- Hardware that answers every handshake at once, and hardware that never does. -/
theorem takes_ordered_twice :
    (∃ trace board, Program.Returns (Board.takes false 2) trace [some board, none] ∧
      ∃ earlier, trace = earlier ++ [.act .enableInterrupts]) ∧
    ∃ trace message, Program.Panics (Board.takes false 2) trace message ∧
      ∀ access ∈ trace, releases access = false := by
  constructor
  · have run := Program.run_follow (fun _ => BitVec.allOnes 32) (Board.takes false 2)
    exact ⟨_, _, run, ((takes_ordered 2).1 _ _ _ run).successful _ _ rfl List.mem_cons_self⟩
  · obtain ⟨after, calls⟩ := takes_eq 1
    have silent := run_waitFor_exhausted (.prcm .clkloadctl)
      (fun value => Word.flag value Prcm.loadDone) after (List.replicate 1000000 0)
      fun value member => by rw [List.eq_of_mem_replicate member]; rfl
    rw [List.length_replicate] at silent
    have run := Program.Run.cons (.write (.prcm .gptclkdiv) 0 _)
      (.cons (.write (.prcm .clkloadctl) Prcm.load _) silent)
    rw [calls]
    refine ⟨_, _, run, ?_⟩
    exact (((takes_ordered 2).1 false _ _ (by rw [calls]; exact run)).panicked _ rfl).2.1

end DirectLine.Firmware.Acquisition
