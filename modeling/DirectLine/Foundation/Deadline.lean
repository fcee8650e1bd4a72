import DirectLine.Firmware.Timer
import Mathlib.Data.List.Chain

/-!
# Wrapping deadlines

`deadline_reached` of the foundation library compares in half a cycle of a
wrapping counter, `Counter::elapsed_since` in a whole one.
-/

namespace DirectLine.Foundation

open DirectLine.Interaction DirectLine.Firmware

def deadlineReached (now deadline : Word) : Bool := now - deadline < (1 : Word) <<< 31

/-- What the counter shows at a true time. -/
def shown (time : Nat) : Word := BitVec.ofNat 32 time

/-- Each poll comes after the one before it, by less than half a cycle. -/
abbrev Polls (times : List Nat) : Prop :=
  times.IsChain fun time next => time < next ∧ next - time < 2 ^ 31

/-- Within half a cycle of the deadline the test tells the true order. -/
theorem deadlineReached_shown {time deadline : Nat} (before : deadline ≤ time + 2 ^ 31)
    (after : time < deadline + 2 ^ 31) :
    deadlineReached (shown time) (shown deadline) = decide (deadline ≤ time) := by
  rw [deadlineReached, decide_eq_decide, BitVec.lt_def, BitVec.toNat_sub, shown, shown,
    BitVec.toNat_ofNat, BitVec.toNat_ofNat]
  have half : ((1 : Word) <<< 31).toNat = 2 ^ 31 := rfl
  rw [half]
  omega

theorem findIdx?_deadlineReached {deadline : Nat} {times : List Nat} (polls : Polls times)
    (start : ∀ time ∈ times.head?, deadline ≤ time + 2 ^ 31 ∧ time < deadline + 2 ^ 31) :
    times.findIdx? (fun time => deadlineReached (shown time) (shown deadline)) =
      times.findIdx? fun time => decide (deadline ≤ time) := by
  induction times with
  | nil => rfl
  | cons time times inductionHypothesis =>
      obtain ⟨before, after⟩ := start time rfl
      rw [List.findIdx?_cons, List.findIdx?_cons, deadlineReached_shown before after]
      by_cases reached : deadline ≤ time
      · rw [decide_eq_true reached, if_pos rfl, if_pos rfl]
      · rw [decide_eq_false reached, if_neg Bool.false_ne_true, if_neg Bool.false_ne_true]
        obtain ⟨near, polls⟩ := List.isChain_cons.mp polls
        refine congrArg _ (inductionHypothesis polls fun next head => ?_)
        obtain ⟨later, gap⟩ := near next head
        omega

theorem deadlineReached_eq_iff {start now timeout : Word} (within : timeout.toNat ≤ 2 ^ 31 - 1) :
    deadlineReached now (start + timeout) = decide (now - start ≥ timeout) ↔
      (now - start).toNat < timeout.toNat + 2 ^ 31 := by
  have shifted : now - (start + timeout) = now - start - timeout := by bv_omega
  rw [deadlineReached, shifted, decide_eq_decide, ge_iff_le, BitVec.lt_def, BitVec.le_def,
    BitVec.toNat_sub (now - start) timeout]
  have fits := (now - start).isLt
  have half : ((1 : Word) <<< 31).toNat = 2 ^ 31 := rfl
  rw [half]
  omega

theorem returns_elapsedSince_iff {counter : Counter} {start elapsed : Word} {trace : List Access} :
    Program.Returns (counter.elapsedSince start) trace elapsed ↔
      ∃ now, trace = [.read (.gpt counter.registers .tav) now] ∧ elapsed = now - start := by
  simp [Counter.elapsedSince, Counter.now, Program.Returns, Program.run_read_iff]

/-- Polled from half a cycle before the deadline on, the test is neither early nor late; and it
agrees with the test of `write_timeout` exactly within half a cycle past the timeout. -/
theorem deadline_tests_agree :
    (∀ (deadline : Nat) (times : List Nat), Polls times →
      (∀ time ∈ times.head?, deadline ≤ time + 2 ^ 31 ∧ time < deadline + 2 ^ 31) →
      times.findIdx? (fun time => deadlineReached (shown time) (shown deadline)) =
        times.findIdx? fun time => decide (deadline ≤ time)) ∧
    ∀ (counter : Counter) (start now timeout elapsed : Word), timeout.toNat ≤ 2 ^ 31 - 1 →
      Program.Returns (counter.elapsedSince start) [.read (.gpt counter.registers .tav) now]
        elapsed →
      (deadlineReached now (start + timeout) = decide (elapsed ≥ timeout) ↔
        (now - start).toNat < timeout.toNat + 2 ^ 31) := by
  refine ⟨fun deadline times => findIdx?_deadlineReached,
    fun counter start now timeout elapsed within run => ?_⟩
  obtain ⟨reading, split, rfl⟩ := returns_elapsedSince_iff.mp run
  cases split
  exact deadlineReached_eq_iff within

/-- Polls around a wrap of the counter. -/
theorem deadline_tests_agree_wrap :
    [2 ^ 32 - 2, 2 ^ 32 + 1, 2 ^ 32 + 2].findIdx?
      (fun time => deadlineReached (shown time) (shown (2 ^ 32 + 2))) = some 2 ∧
    deadlineReached 5 (0xfffffffe + 4) = decide ((5 : Word) - 0xfffffffe ≥ 4) := by
  obtain ⟨first, same⟩ := deadline_tests_agree
  refine ⟨(first _ _ ?_ ?_).trans (by decide),
    (same ⟨.gpt1⟩ _ _ _ _ (by decide) ?_).mpr (by decide)⟩
  · simp [Polls]
  · simp
  · exact returns_elapsedSince_iff.mpr ⟨5, rfl, rfl⟩

end DirectLine.Foundation
