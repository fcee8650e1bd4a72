import DirectLine.Firmware.Main.Accesses

/-!
# The timer's checks under preemption

The checks of `main.rs` on the board's timer, with the four timers, their
handlers and the serial port stepping between any two accesses.  A stopped timer
cannot fail the check of its count, and a one-shot can fail it only by having
acknowledged nothing.
-/

namespace DirectLine.Firmware.Main

open DirectLine.Interaction DirectLine.Interaction.Program TimerLine TimerLines

/-- The panics that do not blame the timer's silence: no progress within a bound, or a one-shot
that has not been acknowledged. -/
inductive Excused : String → Prop where
  | budget : Excused "hardware handshake iteration budget exhausted"
  | serial : Excused "called `Result::unwrap()` on an `Err` value: Timeout"
  | interrupts : Excused "timer interrupt timeout"
  | oneShot (count : Word) : Excused (unequal "" count (count + 1))

structure Aloof (access : Access) : Prop where
  mild : Mild .gpt0 access
  uncounting : Uncounting access

theorem aloof_tav (block : GptBlock) (value : Word) : Aloof (.read (.gpt block .tav) value) :=
  ⟨mild_of_same fun _ => rfl, uncounting_read⟩

theorem aloof_sends {block : UartBlock} {counter : Counter} {access : Access}
    (sends : Uart.Sends block counter access) : Aloof access := by
  cases sends with
  | poll value => exact aloof_tav _ value
  | flags value => exact ⟨mild_of_same fun _ => rfl, uncounting_read⟩
  | data value => exact ⟨mild_of_same fun _ => rfl, uncounting_write⟩

theorem within_transmit (board : Board) (text : List Byte) (fuel : Nat) :
    (transmit board text fuel).Within Aloof (fun _ => False) :=
  (Uart.within_writeTimeout _ _ _ _ _).mono (fun _ sends => aloof_sends sends) fun _ => id

theorem within_now (counter : Counter) : counter.now.Within Aloof (fun _ => False) :=
  fun value => ⟨aloof_tav _ value, trivial⟩

theorem within_elapsed (board : Board) (start ticks : Word) :
    (elapsed board start ticks).Within Aloof (fun _ => False) :=
  fun value => ⟨aloof_tav _ value, trivial⟩

section Checks

variable {assertion : Shared → Prop} {least fuel : Nat} {lines : TimerLines} {Result : Type}

theorem meets_aloof {program : Driver Result} {stops : String → Prop}
    (within : program.Within Aloof stops) (steady : Steady .gpt0 assertion)
    (knows : Knows .gpt0 assertion least lines) :
    foreground.Meets (fun _ => Knows .gpt0 assertion least)
      (fun message lines => stops message ∧ Knows .gpt0 assertion least lines) program lines :=
  .within within (stable_knows steady) knows fun _ _ _ aloof knows moved =>
    ⟨trivial, knows.mild steady aloof.mild aloof.uncounting moved⟩

theorem meets_wait (start ticks : Word) (iterations : Nat) (steady : Steady .gpt0 assertion)
    (knows : Knows .gpt0 assertion least lines) :
    foreground.Meets (fun _ => Knows .gpt0 assertion least) (fun message _ => Excused message)
      (waitFor (elapsed Board.assembled start ticks) iterations) lines := by
  have within : (waitFor (elapsed Board.assembled start ticks) iterations).Within Aloof Excused :=
    within_waitFor
      ((within_elapsed Board.assembled start ticks).mono (fun _ aloof => aloof) fun _ => False.elim)
      .budget iterations
  exact (meets_aloof within steady knows).mono (fun _ _ finish => finish)
    fun _ _ stopped => stopped.1

theorem meets_interrupted (start : Word) (knows : Knows .gpt0 Anything least lines) :
    foreground.Meets
      (fun done lines => if done then Knows .gpt0 Anything 20 lines
        else Knows .gpt0 Anything least lines)
      (fun message _ => Excused message) (interrupted Board.assembled start fuel) lines := by
  have stable : foreground.Stable (Knows .gpt0 Anything least) := stable_knows steady_anything
  refine .read stable knows ?_
  intro lines reading lines' knows moved
  have knows := knows.mild steady_anything (aloof_tav _ reading).mild uncounting_read moved
  refine ⟨trivial, ?_⟩
  change foreground.Meets _ _ (if _ then _ else _) _
  split
  · refine .followed ((meets_aloof (within_transmit _ _ _) steady_anything knows).mono
      (fun _ _ finish => finish) fun _ _ stopped => stopped.1) ?_
    exact fun _ _ _ _ _ => .interrupts
  · refine meets_interrupts steady_anything stable_true knows trivial ?_
    intro value lines knows _ shown
    have bounded := knows.read shown
    have stable' : foreground.Stable (Knows .gpt0 Anything (max least value.toNat)) :=
      stable_knows steady_anything
    refine .ret stable' bounded fun lines bounded => ?_
    have most : max least value.toNat ≤ lines.acknowledged .gpt0 := bounded.least
    split
    · rename_i enough
      have reached : 20 ≤ value.toNat := by simpa [BitVec.le_def] using enough
      exact { bounded with least := by omega }
    · exact { bounded with least := by omega }

theorem exists_halted {count : Word} (knows : Knows .gpt0 (Halted count) least lines) :
    ∃ acknowledged, least ≤ acknowledged ∧ count = BitVec.ofNat 32 acknowledged ∧
      Knows .gpt0 (Halted count) acknowledged lines := by
  refine ⟨lines.acknowledged .gpt0, knows.least, ?_, { knows with least := le_rfl }⟩
  rw [← knows.counted, knows.line.count]

theorem ne_succ (count : Word) : count ≠ count + 1 := by
  intro same
  have cancelled := congrArg (· - count) same
  simp only [BitVec.sub_self, BitVec.add_comm count, BitVec.add_sub_cancel] at cancelled
  exact absurd cancelled (by decide)

theorem acknowledged_succ {acknowledged : Nat} {assertion : Shared → Prop}
    (knows : Knows .gpt0 assertion acknowledged lines)
    (grown : (lines.view .gpt0).hardware.count = BitVec.ofNat 32 acknowledged + 1) :
    Knows .gpt0 assertion (acknowledged + 1) lines := by
  refine { knows with least := ?_ }
  have least := knows.least
  have moved : lines.acknowledged .gpt0 ≠ acknowledged := by
    intro same
    rw [knows.counted, same] at grown
    exact ne_succ _ grown
  omega

theorem meets_now (counter : Counter) (steady : Steady .gpt0 assertion)
    (knows : Knows .gpt0 assertion least lines) :
    foreground.Meets (fun _ => Knows .gpt0 assertion least) (fun _ _ => False) counter.now lines :=
  (meets_aloof (within_now counter) steady knows).mono (fun _ _ finish => finish)
    fun _ _ stopped => stopped.1

theorem meets_firstWait (start : Word) (iterations : Nat)
    (knows : Knows .gpt0 Anything least lines) :
    foreground.Meets (fun _ => Knows .gpt0 Anything 20) (fun message _ => Excused message)
      (waitFor (interrupted Board.assembled start fuel) iterations) lines := by
  refine meets_waitFor (Knows .gpt0 Anything least) ?_ ?_ iterations knows
  · intro lines knows
    refine (meets_interrupted start knows).mono ?_ fun _ _ excused => excused
    intro done lines attempted
    cases done with
    | true =>
        rw [if_pos rfl] at attempted ⊢
        exact .ret (stable_knows steady_anything) attempted fun _ finish => finish
    | false => exact attempted
  · exact fun _ _ _ _ => .budget

theorem meets_oneShot {acknowledged : Nat} {count start tenMs : Word} {iterations : Nat}
    {after : Unit → Driver Result} {post : Result → TimerLines → Prop}
    (known : count = BitVec.ofNat 32 acknowledged)
    (knows : Knows .gpt0 (Once .gpt0 count) acknowledged lines)
    (rest : ∀ lines, Knows .gpt0 (Once .gpt0 count) (acknowledged + 1) lines →
      foreground.Meets post (fun message _ => Excused message) (after ()) lines) :
    foreground.Meets post (fun message _ => Excused message)
      (waitFor (elapsed Board.assembled start tenMs) iterations >>= fun _ =>
        Board.assembled.timer.interrupts >>= fun value =>
          assertEq "" value (count + 1) >>= after) lines := by
  refine .bind ((meets_wait start tenMs iterations (steady_once count) knows).mono ?_
    fun _ _ excused => excused)
  intro _ lines knows
  refine meets_interrupts (steady_once count) stable_true knows trivial ?_
  intro value lines knows _ shown
  rcases knows.line.count with unserved | served
  · rw [shown, unserved, assertEq, if_neg]
    · exact fun _ _ => .oneShot count
    · exact ne_succ count
  · rw [shown, served, assertEq, if_pos rfl]
    exact rest lines (acknowledged_succ knows (served.trans (by rw [known])))

theorem unwrapTicks_tenMs : unwrapTicks (Timer.ticksFromUs 10000) = .ret 480000 := by
  rw [show Timer.ticksFromUs 10000 = some 480000 by decide]
  rfl

theorem startPeriodicUs_refused {microseconds : Word}
    (refused : Timer.acceptedTicks microseconds = none) :
    Board.assembled.timer.startPeriodicUs microseconds = .ret (.error ⟨⟩) := by
  rw [Timer.startPeriodicUs, Timer.arm, refused]
  rfl

/-- The checks end with at least 21 interrupts acknowledged, or in an excused panic. -/
theorem meets_testTimer (knows : Knows .gpt0 Anything 0 lines) :
    foreground.Meets (fun _ => Knows .gpt0 Anything 21) (fun message _ => Excused message)
      (testTimer Board.assembled fuel) lines := by
  have free : Aside .gpt0 fun _ => True := aside_true
  have accepted : Timer.acceptedTicks 1000 = some 48000 := by decide
  rw [testTimer]
  refine .followed (meets_startPeriodicUs accepted free knows trivial) ?_
  rintro _ lines ⟨rfl, knows, -⟩
  simp only [unwrapTimer, pure_eq, ret_bind]
  refine .followed (meets_now _ steady_anything knows) ?_
  intro start lines knows
  refine .bind ((meets_firstWait start _ knows).mono ?_ fun _ _ excused => excused)
  intro _ lines knows
  refine .followed (meets_stop free knows trivial) ?_
  rintro _ lines ⟨count, knows, -⟩
  obtain ⟨acknowledged, enough, known, knows⟩ := exists_halted knows
  refine meets_interrupts (steady_halted count) stable_true knows trivial ?_
  intro stopped lines knows _ shown
  obtain rfl : stopped = count := shown.trans knows.line.count
  refine .followed (meets_now _ (steady_halted stopped) knows) ?_
  intro start lines knows
  simp only [unwrapTicks_tenMs, ret_bind]
  refine .bind ((meets_wait start 480000 _ (steady_halted stopped) knows).mono ?_
    fun _ _ excused => excused)
  intro _ lines knows
  refine meets_interrupts (steady_halted stopped) stable_true knows trivial ?_
  intro value lines knows _ shown
  -- Nothing can have been acknowledged since `stop`.
  obtain rfl : value = stopped := shown.trans knows.line.count
  simp only [assertEq, if_true, pure_eq, ret_bind, assertRefused,
    startPeriodicUs_refused (show Timer.acceptedTicks 0 = none by decide),
    startPeriodicUs_refused (show Timer.acceptedTicks (BitVec.allOnes 32) = none by decide)]
  refine .followed (meets_startOnceUs accepted free knows trivial) ?_
  rintro _ lines ⟨rfl, knows, -⟩
  simp only [ret_bind]
  refine .followed (meets_now _ (steady_once value) knows) ?_
  intro start lines knows
  refine meets_oneShot known knows ?_
  intro lines knows
  refine (meets_stop free (knows.mono fun _ _ => trivial) trivial).mono ?_
    fun _ _ impossible => impossible.elim
  rintro _ lines ⟨count, knows, -⟩
  exact { knows with line := trivial, least := by have most := knows.least; omega }

end Checks

end DirectLine.Firmware.Main
