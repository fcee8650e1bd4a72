import DirectLine.Firmware.TimerBank.Concurrent

/-!
# Runs of the four timers

The order of tasks on different instances does not matter: a serial run ends in
the bank that the tasks begun on each instance determine, one view at a time.
-/

namespace DirectLine.Firmware.TimerBank

open DirectLine.Interaction

structure Untouched (bank bank' : Bank) : Prop where
  gptclkgr : ∀ bit, (∀ timer : Timer.Instance, bit ≠ timer.index.val) →
    bank'.gptclkgr.getLsbD bit = bank.gptclkgr.getLsbD bit
  enables : ∀ bit, (∀ timer : Timer.Instance, bit ≠ timer.irq) →
    bank'.enables.getLsbD bit = bank.enables.getLsbD bit
  pendings : ∀ bit, (∀ timer : Timer.Instance, bit ≠ timer.irq) →
    bank'.pendings.getLsbD bit = bank.pendings.getLsbD bit
  priorities : ∀ word bit, (∀ timer : Timer.Instance, word ≠ timer.irq / 4 ∨
    bit < priorityLo timer ∨ priorityLo timer + 8 ≤ bit) →
      (bank'.priorities word).getLsbD bit = (bank.priorities word).getLsbD bit

namespace Untouched

variable {bank middle last : Bank}

theorem refl (bank : Bank) : Untouched bank bank :=
  ⟨fun _ _ => rfl, fun _ _ => rfl, fun _ _ => rfl, fun _ _ _ => rfl⟩

theorem trans_frame {timer : Timer.Instance} (untouched : Untouched bank middle)
    (frame : Frame timer middle last) : Untouched bank last where
  gptclkgr bit free := (frame.gptclkgr bit (free timer)).trans (untouched.gptclkgr bit free)
  enables bit free := (frame.enables bit (free timer)).trans (untouched.enables bit free)
  pendings bit free := (frame.pendings bit (free timer)).trans (untouched.pendings bit free)
  priorities word bit free :=
    (frame.priorities word bit (free timer)).trans (untouched.priorities word bit free)

theorem registers_surjective (block : GptBlock) :
    ∃ timer : Timer.Instance, timer.registers = block := by
  cases block with
  | gpt0 => exact ⟨.gpt0, rfl⟩
  | gpt1 => exact ⟨.gpt1, rfl⟩
  | gpt2 => exact ⟨.gpt2, rfl⟩
  | gpt3 => exact ⟨.gpt3, rfl⟩

theorem index_surjective (index : Fin 4) : ∃ timer : Timer.Instance, timer.index = index := by
  match index with
  | 0 => exact ⟨.gpt0, rfl⟩
  | 1 => exact ⟨.gpt1, rfl⟩
  | 2 => exact ⟨.gpt2, rfl⟩
  | 3 => exact ⟨.gpt3, rfl⟩

/-- The four views and the bits that nobody owns are all there is. -/
theorem determines (one : Untouched bank middle) (other : Untouched bank last)
    (views : ∀ timer, middle.view timer = last.view timer) : middle = last := by
  have gpt : middle.gpt = last.gpt := by
    funext block
    obtain ⟨timer, rfl⟩ := registers_surjective block
    exact congrArg View.registers (views timer)
  have counts : middle.counts = last.counts := by
    funext index
    obtain ⟨timer, rfl⟩ := index_surjective index
    exact congrArg View.count (views timer)
  have gptclkgr : middle.gptclkgr = last.gptclkgr :=
    Word.eq_of_bits _ (fun timer => congrArg View.clock (views timer)) one.gptclkgr other.gptclkgr
  have enables : middle.enables = last.enables :=
    Word.eq_of_bits _ (fun timer => congrArg View.enabled (views timer)) one.enables other.enables
  have pendings : middle.pendings = last.pendings :=
    Word.eq_of_bits _ (fun timer => congrArg View.pending (views timer)) one.pendings
      other.pendings
  have priorities : middle.priorities = last.priorities := by
    funext word
    apply BitVec.eq_of_getLsbD_eq
    intro bit _
    by_cases owned : ∃ timer : Timer.Instance, word = timer.irq / 4 ∧
        priorityLo timer ≤ bit ∧ bit < priorityLo timer + 8
    · obtain ⟨timer, rfl, lower, upper⟩ := owned
      have byte := congrArg (fun view : View => view.priority.getLsbD (bit - priorityLo timer))
        (views timer)
      have inside : bit - priorityLo timer < 8 := by omega
      simpa only [Bank.view, Word.getLsbD_field, inside, decide_true, Bool.true_and,
        Nat.add_sub_cancel' lower] using byte
    · have free : ∀ timer : Timer.Instance, word ≠ timer.irq / 4 ∨ bit < priorityLo timer ∨
          priorityLo timer + 8 ≤ bit := by
        intro timer
        by_contra taken
        push Not at taken
        exact owned ⟨timer, taken.1, taken.2⟩
      exact (one.priorities word bit free).trans (other.priorities word bit free).symm
  cases middle
  cases last
  simp_all only

end Untouched

def SerialStep (machine : Machine) (label : Label) (machine' : Machine) : Prop :=
  Serial machine label ∧ Step machine label machine'

def tasks (timer : Timer.Instance) (labels : List Label) : List Task :=
  labels.filterMap fun label => if label.timer = timer then label.task else none

/-- What the tasks begun on each instance make of its view. -/
theorem advances_eq (labels : List Label) (goal : Timer.Instance → View)
    (timer : Timer.Instance) :
    labels.foldl (fun goal label => label.advance goal) goal timer =
      (tasks timer labels).foldl (fun view task => task.effect view) (goal timer) := by
  induction labels generalizing goal with
  | nil => rfl
  | cons label labels inductionHypothesis =>
      rw [List.foldl_cons, inductionHypothesis, tasks, tasks, List.filterMap_cons]
      cases begun : label.task with
      | none => simp [Label.advance, begun]
      | some task =>
          by_cases same : label.timer = timer
          · subst same
            simp [Label.advance, begun]
          · simp [Label.advance, begun, same, Function.update_of_ne (Ne.symm same)]

theorem Contained.run {goal : Timer.Instance → View} {first last : Machine}
    {labels : List Label} {bank : Bank} (run : Trace SerialStep first labels last)
    (contained : Contained True goal first) (untouched : Untouched bank first.bank) :
    Contained True (labels.foldl (fun goal label => label.advance goal) goal) last ∧
      Untouched bank last.bank := by
  induction run generalizing goal with
  | nil => exact ⟨contained, untouched⟩
  | cons taken _ inductionHypothesis =>
      obtain ⟨frame, next⟩ := contained.step (fun _ => taken.1) taken.2
      exact inductionHypothesis next (untouched.trans_frame frame)

theorem serial_view {first last : Machine} {labels : List Label} (start : Idle first)
    (run : Trace SerialStep first labels last) (finish : Idle last) (timer : Timer.Instance) :
    last.bank.view timer =
      (tasks timer labels).foldl (fun view task => task.effect view) (first.bank.view timer) := by
  have contained := (Contained.run run (.of_idle start) (.refl first.bank)).1
  rw [(contained.kept timer).idle (finish.1 timer) (finish.2 timer) trivial, advances_eq]

/-- Reachable machines are contained, without any assumption on the run. -/
theorem Reachable.contained {machine : Machine} (reachable : Reachable machine) :
    ∃ goal, Contained False goal machine := by
  obtain ⟨first, labels, idle, run⟩ := reachable
  refine run.preserves (fun machine => ∃ goal, Contained False goal machine) ?_
    ⟨_, .of_idle idle⟩
  rintro machine label machine' - ⟨goal, contained⟩ step
  exact ⟨_, (contained.step False.elim step).2⟩

section Vectors

open Program

variable {timer : Timer.Instance} {handle : Timer} {trace : List Access}

theorem returns_initializeTimer (run : Returns (Timer.initializeTimer timer) trace handle) :
    handle = Timer.ofInstance timer := by
  obtain ⟨-, _, -, -, -, run⟩ := run.of_bind
  obtain ⟨-, _, -, -, -, run⟩ := run.of_bind
  obtain ⟨-, _, -, -, -, run⟩ := run.of_bind
  obtain ⟨-, returned⟩ := run_ret_iff.mp run
  cases returned
  rfl

theorem returns_interrupt (run : Returns (Timer.interrupt timer) trace ()) :
    ∃ status, trace = [.write (.gpt timer.registers .iclr) 1,
      .read (.gpt timer.registers .mis) status, .act .nopNop, .act (.fetchAdd timer.index)] := by
  rw [Timer.interrupt_eq] at run
  rcases run_write_iff.mp run with ⟨-, ⟨⟩⟩ | ⟨_, rfl, afterWrite⟩
  rcases run_read_iff.mp afterWrite with ⟨-, ⟨⟩⟩ | ⟨status, _, rfl, afterRead⟩
  rcases run_act_iff.mp afterRead with ⟨-, ⟨⟩⟩ | ⟨_, rfl, afterNop⟩
  rcases run_act_iff.mp afterNop with ⟨-, ⟨⟩⟩ | ⟨_, rfl, afterAdd⟩
  obtain ⟨rfl, -⟩ := run_ret_iff.mp afterAdd
  exact ⟨status, rfl⟩

theorem returns_interrupts {count : Word} (run : Returns handle.interrupts trace count) :
    trace = [.read (.timerInterrupts handle.count) count] := by
  rw [Timer.interrupts, readReg] at run
  rcases run_read_iff.mp run with ⟨-, ⟨⟩⟩ | ⟨_, _, rfl, afterRead⟩
  obtain ⟨rfl, returned⟩ := run_ret_iff.mp afterRead
  cases returned
  rfl

def blockMonitor (block : GptBlock) : Monitor Register Instruction Word Unit where
  after _ _ := ()
  allowed _ event := ∀ other register value, event = .write (.gpt other register) value →
    other = block

theorem writes_arm {microseconds mode : Word} {last : Driver (Except TimerError Unit)}
    (run : Run (handle.arm microseconds mode) trace last) {block : GptBlock} {register : Gpt}
    {value : Word} (written : .write (.gpt block register) value ∈ trace) :
    block = handle.registers := by
  have meets : (blockMonitor handle.registers).setting.Meets (fun _ _ => True) (fun _ _ => True)
      (handle.arm microseconds mode) () := by
    rw [Timer.arm]
    cases Timer.acceptedTicks microseconds <;>
      simp [Timer.stop, Timer.clearTimeout, blockMonitor]
  obtain ⟨earlier, later, rfl⟩ := List.append_of_mem written
  exact (Monitor.run_allowed run meets).1 earlier _ later rfl block register value rfl

end Vectors

/-- The four timers are isolated from each other.  A step of one instance, of its operation or of
its handler, changes no other instance's registers, clock, NVIC bits, priority or count; the order
of tasks on different instances does not matter; and the vector of an instance acknowledges the
registers its handle programs and counts where its handle reads. -/
theorem instances_isolated :
    (∀ machine label machine', Reachable machine → Step machine label machine' →
      ∀ other, other ≠ label.timer → machine'.bank.view other = machine.bank.view other) ∧
    (∀ origin past first one other last last', Idle origin →
      Trace SerialStep origin past first → Trace SerialStep first one last →
      Trace SerialStep first other last' → Idle last → Idle last' →
      (∀ timer, tasks timer one = tasks timer other) → last.bank = last'.bank) ∧
    (∀ timer trace handle, Program.Returns (Timer.initializeTimer timer) trace handle →
      ∃ code, Startup.irqs timer.irq = .handler code ∧
        (∀ accesses, Program.Returns code accesses () → ∃ status,
          accesses = [.write (.gpt handle.registers .iclr) 1,
            .read (.gpt handle.registers .mis) status, .act .nopNop,
            .act (.fetchAdd handle.count)]) ∧
        (∀ microseconds mode accesses rest,
          Program.Run (handle.arm microseconds mode) accesses rest →
          ∀ block register value, .write (.gpt block register) value ∈ accesses →
            block = handle.registers) ∧
        (∀ accesses count, Program.Returns handle.interrupts accesses count →
          accesses = [.read (.timerInterrupts handle.count) count])) := by
  refine ⟨?_, ?_, ?_⟩
  · intro machine label machine' reachable step other distinct
    obtain ⟨goal, contained⟩ := reachable.contained
    exact (contained.step False.elim step).1.view distinct
  · intro origin past first one other last last' idle start run run' finish finish' same
    have whole := start.append run
    have whole' := start.append run'
    refine Untouched.determines (Contained.run whole (.of_idle idle) (.refl origin.bank)).2
      (Contained.run whole' (.of_idle idle) (.refl origin.bank)).2 fun timer => ?_
    rw [serial_view idle whole finish, serial_view idle whole' finish']
    simp only [tasks, List.filterMap_append]
    exact congrArg _ (congrArg _ (same timer))
  · intro timer trace handle run
    obtain rfl := returns_initializeTimer run
    exact ⟨_, Startup.irqs_irq timer, fun _ => returns_interrupt,
      fun _ _ _ _ run _ _ _ => writes_arm run, fun _ _ => returns_interrupts⟩

def pendingMachine : Machine where
  bank :=
    { gpt := fun _ _ => 0, gptclkgr := 0xf, enables := 0, pendings := 0xa8000,
      priorities := fun _ => 0, counts := fun _ => 0 }
  operations _ := none
  handlers _ := none

def sequential : List Label :=
  [.begin .gpt1 .stop, .access .gpt1 (.write (.nvic .icer0) (Word.bit 32 17)),
    .access .gpt1 (.act .dsbIsb), .access .gpt1 (.write (.gpt .gpt1 .ctl) 0),
    .access .gpt1 (.write (.gpt .gpt1 .imr) 0), .access .gpt1 (.write (.gpt .gpt1 .iclr) 1),
    .access .gpt1 (.read (.gpt .gpt1 .mis) 0), .access .gpt1 (.act .nopNop),
    .access .gpt1 (.write (.nvic .icpr0) (Word.bit 32 17)), .finish .gpt1,
    .enter .gpt2, .handle .gpt2 (.write (.gpt .gpt2 .iclr) 1),
    .handle .gpt2 (.read (.gpt .gpt2 .mis) 0), .handle .gpt2 (.act .nopNop),
    .handle .gpt2 (.act (.fetchAdd 2)), .leave .gpt2]

/-- The handler preempts the stop between its accesses. -/
def preempted : List Label :=
  [.begin .gpt1 .stop, .access .gpt1 (.write (.nvic .icer0) (Word.bit 32 17)),
    .access .gpt1 (.act .dsbIsb), .access .gpt1 (.write (.gpt .gpt1 .ctl) 0),
    .enter .gpt2, .handle .gpt2 (.write (.gpt .gpt2 .iclr) 1),
    .handle .gpt2 (.read (.gpt .gpt2 .mis) 0), .handle .gpt2 (.act .nopNop),
    .handle .gpt2 (.act (.fetchAdd 2)), .leave .gpt2,
    .access .gpt1 (.write (.gpt .gpt1 .imr) 0), .access .gpt1 (.write (.gpt .gpt1 .iclr) 1),
    .access .gpt1 (.read (.gpt .gpt1 .mis) 0), .access .gpt1 (.act .nopNop),
    .access .gpt1 (.write (.nvic .icpr0) (Word.bit 32 17)), .finish .gpt1]

theorem trace_sequential :
    ∃ last, Trace SerialStep pendingMachine sequential last ∧ Idle last :=
  ⟨_,
    .cons ⟨rfl, .begin .gpt1 .stop rfl nofun⟩ <|
    .cons ⟨trivial, .access .gpt1 rfl (.write _ _ _) trivial⟩ <|
    .cons ⟨trivial, .access .gpt1 rfl (.act _ _) trivial⟩ <|
    .cons ⟨trivial, .access .gpt1 rfl (.write _ _ _) trivial⟩ <|
    .cons ⟨trivial, .access .gpt1 rfl (.write _ _ _) trivial⟩ <|
    .cons ⟨trivial, .access .gpt1 rfl (.write _ _ _) trivial⟩ <|
    .cons ⟨trivial, .access .gpt1 rfl (.read _ _ _) trivial⟩ <|
    .cons ⟨trivial, .access .gpt1 rfl (.act _ _) trivial⟩ <|
    .cons ⟨trivial, .access .gpt1 rfl (.write _ _ _) trivial⟩ <|
    .cons ⟨trivial, .finish .gpt1 rfl⟩ <|
    .cons ⟨rfl, .enter .gpt2 rfl rfl⟩ <|
    .cons ⟨trivial, .handle .gpt2 rfl (.write _ _ _) trivial⟩ <|
    .cons ⟨trivial, .handle .gpt2 rfl (.read _ _ _) trivial⟩ <|
    .cons ⟨trivial, .handle .gpt2 rfl (.act _ _) trivial⟩ <|
    .cons ⟨trivial, .handle .gpt2 rfl (.act _ _) trivial⟩ <|
    .single ⟨trivial, .leave .gpt2 rfl⟩,
    ⟨fun timer => by cases timer <;> rfl, fun timer => by cases timer <;> rfl⟩⟩

theorem trace_preempted :
    ∃ last, Trace SerialStep pendingMachine preempted last ∧ Idle last :=
  ⟨_,
    .cons ⟨rfl, .begin .gpt1 .stop rfl nofun⟩ <|
    .cons ⟨trivial, .access .gpt1 rfl (.write _ _ _) trivial⟩ <|
    .cons ⟨trivial, .access .gpt1 rfl (.act _ _) trivial⟩ <|
    .cons ⟨trivial, .access .gpt1 rfl (.write _ _ _) trivial⟩ <|
    .cons ⟨rfl, .enter .gpt2 rfl rfl⟩ <|
    .cons ⟨trivial, .handle .gpt2 rfl (.write _ _ _) trivial⟩ <|
    .cons ⟨trivial, .handle .gpt2 rfl (.read _ _ _) trivial⟩ <|
    .cons ⟨trivial, .handle .gpt2 rfl (.act _ _) trivial⟩ <|
    .cons ⟨trivial, .handle .gpt2 rfl (.act _ _) trivial⟩ <|
    .cons ⟨trivial, .leave .gpt2 rfl⟩ <|
    .cons ⟨trivial, .access .gpt1 rfl (.write _ _ _) trivial⟩ <|
    .cons ⟨trivial, .access .gpt1 rfl (.write _ _ _) trivial⟩ <|
    .cons ⟨trivial, .access .gpt1 rfl (.read _ _ _) trivial⟩ <|
    .cons ⟨trivial, .access .gpt1 rfl (.act _ _) trivial⟩ <|
    .cons ⟨trivial, .access .gpt1 rfl (.write _ _ _) trivial⟩ <|
    .single ⟨trivial, .finish .gpt1 rfl⟩,
    ⟨fun timer => by cases timer <;> rfl, fun timer => by cases timer <;> rfl⟩⟩

/-- A stop of one timer commutes with the handler of another. -/
theorem instances_isolated_gpt1_gpt2 :
    ∃ last last', Trace SerialStep pendingMachine sequential last ∧
      Trace SerialStep pendingMachine preempted last' ∧ last.bank = last'.bank := by
  obtain ⟨last, run, finish⟩ := trace_sequential
  obtain ⟨last', run', finish'⟩ := trace_preempted
  refine ⟨last, last', run, run', ?_⟩
  refine instances_isolated.2.1 _ _ _ _ _ last last' ⟨fun _ => rfl, fun _ => rfl⟩
    (.nil pendingMachine) run run' finish finish' fun timer => ?_
  cases timer <;> rfl

end DirectLine.Firmware.TimerBank
