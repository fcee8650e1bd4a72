import DirectLine.Firmware.TimerLines.Joint
import DirectLine.Firmware.TimerTest
import DirectLine.Firmware.Main.SelfTest

/-!
# The checks of the timer test under preemption

The checks on three handles, with the hardware and the handlers of all four
timers stepping between any two accesses.  Each failure that is possible blames
a lack of progress.
-/

namespace DirectLine.Firmware.TimerTest

open DirectLine.Interaction DirectLine.Interaction.Program TimerLine TimerLines
open Main (assertRefused timeout unequal unwrapTicks unwrapTimer)

/-- The failures of the test: no progress within a bound, too few interrupts in ten milliseconds,
or a power domain that reports off again. -/
inductive Excused : String → Prop where
  | budget : Excused "hardware handshake iteration budget exhausted"
  | domain : Excused (placed 34 "assertion failed: r::PRCM.pdstat0.read().periph_on()")
  | slow : Excused (placed 62 "assertion failed: counter.elapsed_since(start) < GPT_CLOCK_HZ")
  | first :
      Excused (placed 71 "assertion failed: timers[0].interrupts().wrapping_sub(before) > 1")
  | others : Excused (placed 78 "assertion failed: timer.interrupts().wrapping_sub(before) > 1")
  /-- The count is the one from before the one-shot was started. -/
  | oneShot (count : Word) : Excused (placed 87 (unequal "" count (count + 1)))

/-- The assertions that compare gates, the divider and the counts of stopped timers, and those
that a request is refused. -/
def certain : List Nat := [33, 40, 41, 67, 68, 76, 92]

theorem line_of_excused {line : Nat} {message text : String} (excused : Excused text)
    (here : text = placed line message) : line ∉ certain := by
  cases excused with
  | budget =>
      have heads := congrArg (fun text => text.toList.head?) here
      simp [placed] at heads
  | domain | slow | first | others | oneShot =>
      obtain rfl := line_of_placed here
      decide

section Checks

variable {facts : Timer.Instance → Shared → Prop} {least : Timer.Instance → Nat}
variable {lines : TimerLines} {timer : Timer.Instance} {counter : Counter} {Result : Type}
variable {post : Result → TimerLines → Prop}

abbrev Checks (post : Result → TimerLines → Prop) (program : Driver Result) (lines : TimerLines) :
    Prop :=
  foreground.Meets post (fun message _ => Excused message) program lines

theorem apart_tav (block : GptBlock) (value : Word) : Apart (.read (.gpt block .tav) value) :=
  .read value fun _ => nofun

theorem within_now (counter : Counter) : counter.now.Within Apart (fun _ => False) :=
  fun value => ⟨apart_tav _ value, trivial⟩

theorem within_elapsed (counter : Counter) (start ticks : Word) :
    (elapsed counter start ticks).Within Apart (fun _ => False) :=
  fun value => ⟨apart_tav _ value, trivial⟩

theorem within_waitTenMs (counter : Counter) : (waitTenMs counter).Within Apart Excused := by
  rw [waitTenMs]
  refine fun start => ⟨apart_tav _ start, ?_⟩
  simp only [ret_bind, Main.unwrapTicks_tenMs]
  exact within_waitFor ((within_elapsed counter start 480000).mono (fun _ apart => apart)
    fun _ => False.elim) .budget 1000000

theorem checks_waitTenMs (joint : Joint facts least lines) (steady : AllSteady facts) :
    Checks (fun _ => Joint facts least) (waitTenMs counter) lines :=
  joint.apart steady (within_waitTenMs counter)

theorem two_le {before now : Nat} (ordered : before ≤ now)
    (progress : BitVec.ofNat 32 now - BitVec.ofNat 32 before > 1) : before + 2 ≤ now := by
  by_contra short
  have few : now = before ∨ now = before + 1 := by omega
  rcases few with rfl | rfl
  · rw [BitVec.sub_self] at progress
    exact absurd progress (by decide)
  · rw [BitVec.ofNat_add, BitVec.add_comm, BitVec.add_sub_cancel] at progress
    exact absurd progress (by decide)

theorem checks_progress {after : Unit → Driver Result} {line : Nat} {message : String}
    {before : Nat} (excused : Excused (placed line message)) (joint : Joint facts least lines)
    (steady : AllSteady facts) (known : least timer = before)
    (rest : ∀ lines, least ≤ Function.update least timer (before + 2) →
      Joint facts (Function.update least timer (before + 2)) lines →
        Checks post (after ()) lines) :
    Checks post
      (assertProgress line message (Timer.ofInstance timer) (BitVec.ofNat 32 before) >>= after)
      lines := by
  change Checks post ((Timer.ofInstance timer).interrupts >>= fun now =>
    assert (decide (now - BitVec.ofNat 32 before > 1)) (placed line message) >>= after) lines
  refine joint.interrupts steady ?_
  rintro now lines ordered joint -
  rw [known] at ordered
  by_cases progress : BitVec.ofNat 32 now - BitVec.ofNat 32 before > 1
  · rw [decide_eq_true progress, assert_true, ret_bind]
    refine rest lines (le_update_self_iff.mpr (known.trans_le (Nat.le_add_right before 2)))
      (joint.mono (update_le_update_iff'.mpr (two_le ordered progress)))
  · rw [decide_eq_false progress]
    exact fun _ _ => excused

theorem checks_allServiced (timers : List Timer.Instance) (joint : Joint facts least lines)
    (steady : AllSteady facts) :
    Checks
      (fun done lines => ∃ more, least ≤ more ∧
        (done = true → ∀ timer ∈ timers, 20 ≤ more timer) ∧ Joint facts more lines)
      (allServiced (timers.map Timer.ofInstance)) lines := by
  induction timers generalizing least lines with
  | nil =>
      exact .ret (stable_joint steady) joint
        fun _ joint => ⟨least, fun _ => le_rfl, fun _ _ => nofun, joint⟩
  | cons timer timers inductionHypothesis =>
      rw [List.map_cons, allServiced]
      refine joint.interrupts steady ?_
      rintro acknowledged lines ordered joint -
      have fewer : least ≤ Function.update least timer acknowledged :=
        le_update_self_iff.mpr ordered
      split
      · rename_i enough
        refine (inductionHypothesis joint).mono ?_ fun _ _ excused => excused
        rintro done lines ⟨more, grown, serviced, joint⟩
        refine ⟨more, fun other => (fewer other).trans (grown other), ?_, joint⟩
        intro all other member
        rcases List.mem_cons.mp member with rfl | later
        · have reached : 20 ≤ (BitVec.ofNat 32 acknowledged).toNat := by
            simpa [BitVec.le_def] using enough
          have here := grown other
          rw [Function.update_self] at here
          rw [BitVec.toNat_ofNat] at reached
          exact (reached.trans (Nat.mod_le _ _)).trans here
        · exact serviced all other later
      · exact .ret (stable_joint steady) joint fun _ joint => ⟨_, fewer, nofun, joint⟩

/-- The first wait ends once each timer has been serviced twenty times. -/
theorem checks_serviced (timers : List Timer.Instance) (start : Word) (iterations : Nat)
    (joint : Joint facts least lines) (steady : AllSteady facts) :
    Checks (fun _ lines => ∃ more, (∀ timer ∈ timers, 20 ≤ more timer) ∧ Joint facts more lines)
      (waitFor (serviced counter start (timers.map Timer.ofInstance)) iterations) lines := by
  refine meets_waitFor (Joint facts least) ?_ (fun _ _ _ _ => .budget) iterations joint
  intro lines joint
  refine .read (stable_joint steady) joint ?_
  intro lines reading lines' joint moved
  have apart := apart_tav counter.registers reading
  have joint : Joint facts least lines' := fun timer =>
    (joint timer).mild (steady timer) (apart.mild timer) apart.uncounting moved
  refine ⟨trivial, ?_⟩
  change Checks _ (assert _ _ >>= fun _ => allServiced _) lines'
  by_cases inTime : reading - start < timeout
  · rw [show decide _ = true from decide_eq_true inTime, assert_true, ret_bind]
    refine (checks_allServiced timers joint steady).mono ?_ fun _ _ excused => excused
    rintro done lines ⟨more, grown, serviced, joint⟩
    cases done with
    | false => exact joint.mono grown
    | true =>
        rw [if_pos rfl]
        exact .ret (stable_joint steady) joint fun _ joint => ⟨more, serviced rfl, joint⟩
  · rw [show decide _ = false from decide_eq_false inTime]
    exact fun _ _ => .slow

theorem ofNat_ne_succ {acknowledged now : Nat}
    (served : BitVec.ofNat 32 now = BitVec.ofNat 32 acknowledged + 1) : acknowledged ≠ now := by
  rintro rfl
  exact Main.ne_succ _ served

theorem checks_oneShot (joint : Joint facts least lines) (steady : AllSteady facts) :
    Checks
      (fun _ lines => ∃ count, Joint (Function.update facts timer (Halted count))
        (Function.update least timer (least timer + 1)) lines)
      (checkOneShot counter (Timer.ofInstance timer)) lines := by
  have accepted : Timer.acceptedTicks 1000 = some 48000 := by decide
  rw [checkOneShot]
  refine .followed (joint.stop steady) ?_
  rintro _ lines ⟨count, joint⟩
  have steady := steady.halted timer count
  refine joint.interrupts steady ?_
  rintro acknowledged lines ordered joint ⟨shared, halted, known⟩
  rw [Function.update_self] at halted
  obtain rfl : count = BitVec.ofNat 32 acknowledged := halted.count.symm.trans known
  refine .followed (joint.startOnceUs steady accepted (Function.update_self ..)) ?_
  rintro _ lines ⟨rfl, joint⟩
  have steady := steady.once timer (BitVec.ofNat 32 acknowledged)
  rw [Function.update_idem] at joint steady
  simp only [unwrapTimer, pure_eq, ret_bind]
  refine .bind ((checks_waitTenMs joint steady).mono ?_ fun _ _ excused => excused)
  intro _ lines joint
  refine joint.interrupts steady ?_
  rintro now lines later joint ⟨shared, once, known⟩
  rw [Function.update_self] at once later
  rw [Function.update_idem] at joint
  rcases once.count with unserved | served
  · rw [← known, unserved, assertEq, if_neg (Main.ne_succ _)]
    exact fun _ _ => .oneShot _
  · rw [← known, served, assertEq, if_pos rfl]
    have moved := ofNat_ne_succ (known.symm.trans served)
    refine (joint.stop steady).mono ?_ fun _ _ impossible => impossible.elim
    rintro _ lines ⟨count, joint⟩
    rw [Function.update_idem] at joint
    refine ⟨count, joint.mono fun other => ?_⟩
    by_cases same : other = timer
    · subst same
      rw [Function.update_self, Function.update_self]
      omega
    · rw [Function.update_of_ne same, Function.update_of_ne same]

/-- Stopped timers show the counts they were stopped at. -/
theorem checks_counts {halted : Timer.Instance → Word} (timers : List Timer.Instance)
    (stopped : ∀ timer ∈ timers, facts timer = Halted (halted timer))
    (joint : Joint facts least lines) (steady : AllSteady facts) :
    Checks (fun values lines => values = timers.map halted ∧ Joint facts least lines)
      (counts (timers.map Timer.ofInstance)) lines := by
  induction timers generalizing lines with
  | nil => exact .ret (stable_joint steady) joint fun _ joint => ⟨rfl, joint⟩
  | cons timer timers inductionHypothesis =>
      change Checks _ ((Timer.ofInstance timer).interrupts >>= fun count =>
        counts (timers.map Timer.ofInstance) >>= fun rest => .ret (count :: rest)) lines
      refine joint.interrupts steady ?_
      rintro acknowledged lines ordered joint ⟨shared, halts, known⟩
      rw [stopped timer List.mem_cons_self] at halts
      have joint : Joint facts least lines := joint.mono (le_update_self_iff.mpr ordered)
      refine .bind ((inductionHypothesis (fun other member =>
        stopped other (List.mem_cons_of_mem _ member)) joint).mono ?_ fun _ _ excused => excused)
      rintro values lines ⟨rfl, joint⟩
      refine .ret (stable_joint steady) joint fun _ joint => ⟨?_, joint⟩
      rw [List.map_cons, ← known, halts.count]

theorem checks_started (timers : List Timer.Instance)
    (joint : Joint (fun _ => Anything) least lines) :
    Checks (fun _ => Joint (fun _ => Anything) least)
      (forEach (fun timer => do unwrapTimer (← timer.startPeriodicUs 1000))
        (timers.map Timer.ofInstance)) lines := by
  have accepted : Timer.acceptedTicks 1000 = some 48000 := by decide
  induction timers generalizing lines with
  | nil => exact .ret (stable_joint .anything) joint fun _ joint => joint
  | cons timer timers inductionHypothesis =>
      refine .bind (.followed (joint.startPeriodicUs .anything accepted) ?_)
      rintro _ lines ⟨rfl, joint⟩
      have steady : AllSteady (Function.update (fun _ => Anything) timer Anything) :=
        AllSteady.anything.update steady_anything
      exact .ret (stable_joint steady) joint fun _ joint => inductionHypothesis joint.anything

def ended (facts : Timer.Instance → Shared → Prop) (timers : List Timer.Instance)
    (halted : Timer.Instance → Word) (timer : Timer.Instance) : Shared → Prop :=
  if timer ∈ timers then Halted (halted timer) else facts timer

theorem ended_of_mem {timers : List Timer.Instance} {halted : Timer.Instance → Word}
    (member : timer ∈ timers) : ended facts timers halted timer = Halted (halted timer) :=
  if_pos member

theorem steady_ended (steady : AllSteady facts) (timers : List Timer.Instance)
    (halted : Timer.Instance → Word) : AllSteady (ended facts timers halted) := by
  intro timer
  rw [ended]
  split
  · exact steady_halted _
  · exact steady timer

theorem ended_cons (facts : Timer.Instance → Shared → Prop) (timer : Timer.Instance)
    (timers : List Timer.Instance) (count : Word) (halted : Timer.Instance → Word) :
    ended (Function.update facts timer (Halted count)) timers halted =
      ended facts (timer :: timers)
        (fun other => if other ∈ timers then halted other else count) := by
  funext other
  by_cases later : other ∈ timers
  · simp only [ended, later, if_true, List.mem_cons, or_true]
  · by_cases same : other = timer
    · subst same
      simp only [ended, later, if_true, if_false, List.mem_cons, true_or, Function.update_self]
    · simp only [ended, later, same, if_false, List.mem_cons, or_false,
        Function.update_of_ne same]

theorem checks_oneShots (timers : List Timer.Instance) (joint : Joint facts least lines)
    (steady : AllSteady facts) :
    Checks
      (fun _ lines => ∃ halted more, least ≤ more ∧
        (∀ timer ∈ timers, least timer + 1 ≤ more timer) ∧
          Joint (ended facts timers halted) more lines)
      (forEach (checkOneShot counter) (timers.map Timer.ofInstance)) lines := by
  induction timers generalizing facts least lines with
  | nil =>
      refine .ret (stable_joint steady) joint fun _ joint => ?_
      exact ⟨fun _ => 0, least, fun _ => le_rfl, fun _ => nofun, fun timer => joint timer⟩
  | cons timer timers inductionHypothesis =>
      have first : Checks _ (checkOneShot counter (Timer.ofInstance timer)) lines :=
        checks_oneShot joint steady
      refine .bind (first.mono ?_ fun _ _ excused => excused)
      rintro _ lines ⟨count, joint⟩
      have served : least ≤ Function.update least timer (least timer + 1) :=
        le_update_self_iff.mpr (Nat.le_succ _)
      refine (inductionHypothesis joint (steady.halted timer count)).mono ?_
        fun _ _ excused => excused
      rintro _ lines ⟨halted, more, grown, served', joint⟩
      rw [ended_cons] at joint
      refine ⟨_, more, fun other => (served other).trans (grown other), ?_, joint⟩
      intro other member
      rcases List.mem_cons.mp member with rfl | later
      · have here := grown other
        rwa [Function.update_self] at here
      · exact (Nat.succ_le_succ (served other)).trans (served' other later)

theorem arm_refused {microseconds : Word} (refused : Timer.acceptedTicks microseconds = none)
    (handle : Timer) (mode : Word) : handle.arm microseconds mode = .ret (.error ⟨⟩) := by
  rw [Timer.arm, refused]
  rfl

theorem checks_still {halted : Timer.Instance → Word} (timers : List Timer.Instance)
    (stopped : ∀ timer ∈ timers, facts timer = Halted (halted timer))
    (joint : Joint facts least lines) (steady : AllSteady facts) :
    Checks (fun _ => Joint facts least)
      (do
        let stopped ← counts (timers.map Timer.ofInstance)
        waitTenMs counter
        assertEqArray 92 (← counts (timers.map Timer.ofInstance)) stopped) lines := by
  refine .bind ((checks_counts timers stopped joint steady).mono ?_ fun _ _ excused => excused)
  rintro _ lines ⟨rfl, joint⟩
  refine .bind ((checks_waitTenMs joint steady).mono ?_ fun _ _ excused => excused)
  intro _ lines joint
  refine .bind ((checks_counts timers stopped joint steady).mono ?_ fun _ _ excused => excused)
  rintro _ lines ⟨rfl, joint⟩
  rw [assertEqArray, if_pos rfl]
  exact .ret (stable_joint steady) joint fun _ joint => joint

/-- While one timer is stopped, it counts nothing and the two others make progress. -/
theorem checks_others {first second third : Timer.Instance} {count : Word}
    (second_ne : second ≠ first) (third_ne : third ≠ first) (apart : third ≠ second)
    (halted : facts first = Halted count)
    (joint : Joint facts least lines) (steady : AllSteady facts) {after : Unit → Driver Result}
    (rest : ∀ lines more, least ≤ more →
      least second + 2 ≤ more second → least third + 2 ≤ more third → Joint facts more lines →
        Checks post (after ()) lines) :
    Checks post
      (do
        let stopped ← (Timer.ofInstance first).interrupts
        let secondCount ← (Timer.ofInstance second).interrupts
        let thirdCount ← (Timer.ofInstance third).interrupts
        waitTenMs counter
        assertEq 76 (← (Timer.ofInstance first).interrupts) stopped
        assertProgress 78 "assertion failed: timer.interrupts().wrapping_sub(before) > 1"
          (Timer.ofInstance second) secondCount
        assertProgress 78 "assertion failed: timer.interrupts().wrapping_sub(before) > 1"
          (Timer.ofInstance third) thirdCount >>= after) lines := by
  refine joint.interrupts steady ?_
  rintro stopped lines firstGrown joint ⟨shared, holds, shown⟩
  rw [halted] at holds
  obtain rfl : count = BitVec.ofNat 32 stopped := holds.count.symm.trans shown
  refine joint.interrupts steady ?_
  rintro secondCount lines secondGrown joint -
  refine joint.interrupts steady ?_
  rintro thirdCount lines thirdGrown joint -
  refine .bind ((checks_waitTenMs joint steady).mono ?_ fun _ _ excused => excused)
  intro _ lines joint
  refine joint.interrupts steady ?_
  rintro now lines nowGrown joint ⟨shared, holds, shown⟩
  rw [halted] at holds
  rw [← shown, holds.count, assertEq, if_pos rfl]
  have grown₁ := le_update_self_iff.mpr firstGrown
  have grown₂ := grown₁.trans (le_update_self_iff.mpr secondGrown)
  have grown₃ := grown₂.trans (le_update_self_iff.mpr thirdGrown)
  have grown₄ := grown₃.trans (le_update_self_iff.mpr nowGrown)
  refine checks_progress .others joint steady (?_ : _ = secondCount) ?_
  · rw [Function.update_of_ne second_ne, Function.update_of_ne apart.symm, Function.update_self]
  intro lines grown₅ joint
  refine checks_progress .others joint steady (?_ : _ = thirdCount) ?_
  · rw [Function.update_of_ne apart, Function.update_of_ne third_ne, Function.update_self]
  intro lines grown₆ joint
  refine rest lines _ ((grown₄.trans grown₅).trans grown₆) ?_ ?_ joint
  · rw [Function.update_of_ne apart.symm, Function.update_self]
    exact Nat.add_le_add_right ((grown₁ second).trans secondGrown) 2
  · rw [Function.update_self]
    exact Nat.add_le_add_right ((grown₂ third).trans thirdGrown) 2

/-- From running handlers on, the checks end with at least 23 interrupts acknowledged for each
timer, or in an excused panic. -/
theorem checks_checkTimers {first second third : Timer.Instance} (second_ne : second ≠ first)
    (third_ne : third ≠ first) (apart : third ≠ second)
    (joint : Joint (fun _ => Anything) (fun _ => 0) lines) :
    Checks
      (fun _ lines => ∀ timer ∈ [first, second, third], 23 ≤ lines.acknowledged timer)
      (checkTimers counter (Timer.ofInstance first) (Timer.ofInstance second)
        (Timer.ofInstance third)) lines := by
  have refused₁ : Timer.acceptedTicks 0 = none := by decide
  have refused₂ : Timer.acceptedTicks (BitVec.allOnes 32) = none := by decide
  rw [checkTimers]
  refine .bind ((checks_started [first, second, third] joint).mono ?_ fun _ _ excused => excused)
  intro _ lines joint
  refine .bind ((joint.apart .anything (within_now counter)).mono ?_ fun _ _ => False.elim)
  intro start lines joint
  refine .bind ((checks_serviced [first, second, third] start _ joint .anything).mono ?_
    fun _ _ excused => excused)
  rintro _ lines ⟨more, serviced, joint⟩
  simp only [Timer.startPeriodicUs, Timer.startOnceUs, arm_refused refused₁, arm_refused refused₂,
    assertRefused, pure_eq, ret_bind]
  refine joint.interrupts .anything ?_
  rintro before lines grown₁ joint -
  refine .bind ((checks_waitTenMs joint .anything).mono ?_ fun _ _ excused => excused)
  intro _ lines joint
  refine checks_progress .first joint .anything (Function.update_self ..) ?_
  rw [Function.update_idem]
  intro lines grown₂ joint
  refine .followed (joint.stop .anything) ?_
  rintro _ lines ⟨count, joint⟩
  have steady := AllSteady.anything.halted first count
  refine checks_others second_ne third_ne apart (Function.update_self ..) joint steady ?_
  intro lines progressed grown₃ secondGrown thirdGrown joint
  refine .bind ((checks_oneShots [first, second, third] joint steady).mono ?_
    fun _ _ excused => excused)
  rintro _ lines ⟨halted, last, -, served, joint⟩
  refine (checks_still [first, second, third] (fun _ => ended_of_mem) joint
    (steady_ended steady _ halted)).mono ?_ fun _ _ excused => excused
  intro _ lines joint timer member
  refine le_trans ?_ (joint timer).least
  refine le_trans ?_ (served timer member)
  have twenty := serviced timer member
  have firstGrown : Function.update more first (before + 2) first ≤ progressed first :=
    grown₃ first
  rw [Function.update_self] at firstGrown
  rw [Function.update_of_ne second_ne] at secondGrown
  rw [Function.update_of_ne third_ne] at thirdGrown
  simp only [List.mem_cons, List.not_mem_nil, or_false] at member
  rcases member with rfl | rfl | rfl <;> omega

end Checks

end DirectLine.Firmware.TimerTest
