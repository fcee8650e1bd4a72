import DirectLine.Firmware.TimerBank

/-!
# Contracts of the operations on shared words

Every access of an operation stays inside the view of its instance, whatever the
other instances do in between, as long as no two read-modify-writes of a shared
word overlap.  While its own handler stays quiet, an operation also has exactly
its effect on the view.
-/

namespace DirectLine.Firmware.TimerBank

open DirectLine.Interaction

def SameWords (bank bank' : Bank) : Prop :=
  bank'.gptclkgr = bank.gptclkgr ∧ bank'.priorities = bank.priorities

theorem SameWords.refl (bank : Bank) : SameWords bank bank := ⟨rfl, rfl⟩

/-- The setting of an operation on one instance.  Others keep the plain words while an
exclusive operation runs, and `quiet` says that they keep the instance's view too. -/
def isolated (timer : Timer.Instance) (exclusive : Bool) (quiet : Prop) :
    Setting Register Instruction Word Bank where
  device bank access bank' := bank.Answers access ∧ bank' = bank.access access
  rely bank bank' :=
    (exclusive = true → SameWords bank bank') ∧ (quiet → bank'.view timer = bank.view timer)
  guarantee bank _ bank' := Frame timer bank bank' ∧ (exclusive = false → SameWords bank bank')

def Viewed (timer : Timer.Instance) (quiet : Prop) (view : View) (bank : Bank) : Prop :=
  quiet → bank.view timer = view

section Rules

variable {timer : Timer.Instance} {exclusive : Bool} {quiet : Prop} {view : View} {bank : Bank}
variable {Result : Type} {post : Result → Bank → Prop} {fail : String → Bank → Prop}

theorem Viewed.stable : (isolated timer exclusive quiet).Stable (Viewed timer quiet view) :=
  fun _ _ viewed rely alone => (rely.2 alone).trans (viewed alone)

structure Local (timer : Timer.Instance) (access : Access) (effect : View → View) : Prop where
  frame : ∀ bank : Bank, Frame timer bank (bank.access access)
  words : ∀ bank : Bank, SameWords bank (bank.access access)
  view : ∀ bank : Bank, (bank.access access).view timer = effect (bank.view timer)

theorem meets_write {register : Register} {value : Word} {next : Driver Result}
    {effect : View → View} (inside : Local timer (.write register value) effect)
    (viewed : Viewed timer quiet view bank)
    (rest : ∀ bank, Viewed timer quiet (effect view) bank →
      (isolated timer exclusive quiet).Meets post fail next bank) :
    (isolated timer exclusive quiet).Meets post fail (.write register value next) bank := by
  refine Setting.Meets.write Viewed.stable viewed ?_
  rintro bank _ viewed ⟨-, rfl⟩
  refine ⟨⟨inside.frame bank, fun _ => inside.words bank⟩, rest _ fun alone => ?_⟩
  rw [inside.view, viewed alone]

theorem meets_act {action : Instruction} {next : Driver Result}
    {effect : View → View} (inside : Local timer (.act action) effect)
    (viewed : Viewed timer quiet view bank)
    (rest : ∀ bank, Viewed timer quiet (effect view) bank →
      (isolated timer exclusive quiet).Meets post fail next bank) :
    (isolated timer exclusive quiet).Meets post fail (.act action next) bank := by
  refine Setting.Meets.act Viewed.stable viewed ?_
  rintro bank _ viewed ⟨-, rfl⟩
  refine ⟨⟨inside.frame bank, fun _ => inside.words bank⟩, rest _ fun alone => ?_⟩
  rw [inside.view, viewed alone]

theorem meets_read {register : Register} {next : Word → Driver Result}
    (viewed : Viewed timer quiet view bank)
    (rest : ∀ value bank, Viewed timer quiet view bank →
      (isolated timer exclusive quiet).Meets post fail (next value) bank) :
    (isolated timer exclusive quiet).Meets post fail (.read register next) bank := by
  refine Setting.Meets.read Viewed.stable viewed ?_
  rintro bank value bank' viewed ⟨-, unchanged⟩
  obtain rfl : bank' = bank := unchanged
  exact ⟨⟨.refl timer bank', fun _ => .refl bank'⟩, rest value bank' viewed⟩

end Rules

section Accesses

variable (timer : Timer.Instance)

theorem local_gpt (register : Gpt) (value : Word) :
    Local timer (.write (.gpt timer.registers register) value)
      fun view => view.store register value where
  frame bank := { Frame.refl timer bank with
    gpt := fun block other => Function.update_of_ne other _ _ }
  words bank := .refl bank
  view bank := by simp [Bank.view, Bank.access, View.store]

theorem local_other {access : Access} (ignored : ∀ bank : Bank, bank.access access = bank) :
    Local timer access id where
  frame bank := by
    rw [ignored]
    exact .refl timer bank
  words bank := by
    rw [ignored]
    exact .refl bank
  view bank := by
    rw [ignored]
    rfl

theorem irq_lt (timer : Timer.Instance) : timer.irq < 32 := by
  cases timer <;> decide

@[simp] theorem getLsbD_irqMask (bit : Nat) :
    (Timer.ofInstance timer).irqMask.getLsbD bit = decide (bit = timer.irq) := by
  have inside := irq_lt timer
  by_cases same : bit = timer.irq <;> simp [Timer.ofInstance, same, inside]

theorem getLsbD_and_not_irqMask (word : Word) (bit : Nat) :
    (word &&& ~~~(Timer.ofInstance timer).irqMask).getLsbD bit =
      (word.getLsbD bit && !decide (bit = timer.irq)) := by
  rw [BitVec.getLsbD_and, BitVec.getLsbD_not, getLsbD_irqMask]
  by_cases inside : bit < 32
  · simp [inside]
  · simp [BitVec.getLsbD_of_ge word bit (Nat.le_of_not_lt inside)]

theorem local_iser0 :
    Local timer (.write (.nvic .iser0) (Timer.ofInstance timer).irqMask)
      fun view => { view with enabled := true } where
  frame bank := { Frame.refl timer bank with
    enables := fun bit other => by simp [Bank.access, other] }
  words bank := .refl bank
  view bank := by simp [Bank.view, Bank.access]

theorem local_icer0 :
    Local timer (.write (.nvic .icer0) (Timer.ofInstance timer).irqMask)
      fun view => { view with enabled := false } where
  frame bank := { Frame.refl timer bank with
    enables := fun bit other => by
      simp only [Bank.access, getLsbD_and_not_irqMask, other, decide_false, Bool.not_false,
        Bool.and_true] }
  words bank := .refl bank
  view bank := by simp [Bank.view, Bank.access]

theorem local_icpr0 :
    Local timer (.write (.nvic .icpr0) (Timer.ofInstance timer).irqMask)
      fun view => { view with pending := false } where
  frame bank := { Frame.refl timer bank with
    pendings := fun bit other => by
      simp only [Bank.access, getLsbD_and_not_irqMask, other, decide_false, Bool.not_false,
        Bool.and_true] }
  words bank := .refl bank
  view bank := by simp [Bank.view, Bank.access]

theorem local_fetchAdd :
    Local timer (.act (.fetchAdd timer.index))
      fun view => { view with count := view.count + 1 } where
  frame bank := { Frame.refl timer bank with
    counts := fun index other => Function.update_of_ne other _ _ }
  words bank := .refl bank
  view bank := by simp [Bank.view, Bank.access]

end Accesses

section Modify

variable {timer : Timer.Instance} {quiet : Prop} {view : View} {bank : Bank}
variable {Result : Type} {post : Result → Bank → Prop} {fail : String → Bank → Prop}

/-- A plain word may be read, modified and written while nobody else writes it. -/
theorem meets_modify {register : Register} {modify : Word → Word} {next : Driver Result}
    (effect : View → View) (current : Bank → Word)
    (answers : ∀ (bank : Bank) value, bank.Answers (.read register value) → value = current bank)
    (kept : ∀ bank bank', SameWords bank bank' → current bank' = current bank)
    (frame : ∀ bank : Bank,
      Frame timer bank (bank.access (.write register (modify (current bank)))))
    (changes : ∀ bank : Bank, (bank.access (.write register (modify (current bank)))).view timer =
      effect (bank.view timer))
    (viewed : Viewed timer quiet view bank)
    (rest : ∀ bank, Viewed timer quiet (effect view) bank →
      (isolated timer true quiet).Meets post fail next bank) :
    (isolated timer true quiet).Meets post fail
      (.read register fun value => .write register (modify value) next) bank := by
  refine Setting.Meets.read Viewed.stable viewed ?_
  rintro bank value bank' viewed ⟨answer, unchanged⟩
  obtain rfl : bank' = bank := unchanged
  refine ⟨⟨.refl timer bank', fun _ => .refl bank'⟩, ?_⟩
  have stable : (isolated timer true quiet).Stable fun bank =>
      Viewed timer quiet view bank ∧ value = current bank := by
    intro earlier later holds rely
    exact ⟨Viewed.stable _ _ holds.1 rely, holds.2.trans (kept _ _ (rely.1 rfl)).symm⟩
  refine Setting.Meets.write stable ⟨viewed, answers bank' value answer⟩ ?_
  rintro bank _ ⟨viewed, rfl⟩ ⟨-, rfl⟩
  refine ⟨⟨frame bank, nofun⟩, rest _ fun alone => ?_⟩
  rw [changes, viewed alone]

end Modify

section Words

variable (timer : Timer.Instance)

theorem index_lt (timer : Timer.Instance) : timer.index.val < 4 := timer.index.isLt

theorem getLsbD_enableClocks (clocks : Word) (bit : Nat) :
    (Word.setField clocks 0 Prcm.clkEnWidth
      (Word.field clocks 0 Prcm.clkEnWidth ||| timer.clockMask)).getLsbD bit =
      (clocks.getLsbD bit || decide (bit = timer.index.val)) := by
  have small := index_lt timer
  rw [Word.getLsbD_setField]
  split
  · rename_i inside
    have below : bit < 32 := by
      simp only [Prcm.clkEnWidth] at inside
      omega
    have within : bit < Prcm.clkEnWidth := by simpa using inside.2
    simp only [Nat.sub_zero, BitVec.getLsbD_or, Word.getLsbD_field, Nat.zero_add, within, below,
      decide_true, Bool.true_and, Timer.Instance.clockMask, Word.getLsbD_bit, true_and]
  · rename_i outside
    have differ : bit ≠ timer.index.val := by
      simp only [Prcm.clkEnWidth] at outside
      omega
    simp [differ]

theorem priority_lt : priorityLo timer + 8 ≤ 32 := by
  unfold priorityLo
  omega

end Words

section Operations

variable {timer : Timer.Instance} {exclusive : Bool} {quiet : Prop} {view : View} {bank : Bank}
variable {Result : Type} {post : Result → Bank → Prop}

theorem meets_poll {after : Unit → Driver Result} {status : Prcm} {bit iterations : Nat}
    (viewed : Viewed timer quiet view bank)
    (rest : ∀ bank, Viewed timer quiet view bank →
      (isolated timer exclusive quiet).Meets post (fun _ _ => True) (after ()) bank) :
    (isolated timer exclusive quiet).Meets post (fun _ _ => True)
      (waitFor (Prcm.statusFlag status bit) iterations >>= after) bank := by
  apply Setting.Meets.bind
  refine meets_waitFor (Viewed timer quiet view) ?_ ?_ iterations viewed
  · intro bank viewed
    refine meets_read viewed fun value bank viewed => ?_
    refine Setting.Meets.ret Viewed.stable viewed fun bank viewed => ?_
    cases Word.flag value bit with
    | true =>
        rw [if_pos rfl]
        exact Setting.Meets.ret Viewed.stable viewed rest
    | false => exact viewed
  · intro bank _
    exact fun _ _ => trivial

theorem meets_applyClockSettings {after : Unit → Driver Result}
    (viewed : Viewed timer quiet view bank)
    (rest : ∀ bank, Viewed timer quiet view bank →
      (isolated timer exclusive quiet).Meets post (fun _ _ => True) (after ()) bank) :
    (isolated timer exclusive quiet).Meets post (fun _ _ => True)
      (Prcm.applyClockSettings >>= after) bank := by
  simp only [Prcm.applyClockSettings, Program.writeReg_bind, Program.write_bind]
  refine meets_write (local_other timer fun _ => rfl) viewed fun bank viewed => ?_
  exact meets_poll viewed rest

theorem meets_powerPeriph {after : Unit → Driver Result}
    (viewed : Viewed timer quiet view bank)
    (rest : ∀ bank, Viewed timer quiet view bank →
      (isolated timer exclusive quiet).Meets post (fun _ _ => True) (after ()) bank) :
    (isolated timer exclusive quiet).Meets post (fun _ _ => True)
      (Prcm.powerPeriph >>= after) bank := by
  simp only [Prcm.powerPeriph, Prcm.powerDomain, Program.readReg_bind, Program.read_bind,
    Program.writeReg_bind, Program.write_bind]
  refine meets_read viewed fun value bank viewed => ?_
  refine meets_write (local_other timer fun _ => rfl) viewed fun bank viewed => ?_
  exact meets_poll viewed rest

theorem meets_enableClock {after : Unit → Driver Result} (viewed : Viewed timer quiet view bank)
    (rest : ∀ bank, Viewed timer quiet { view with clock := true } bank →
      (isolated timer true quiet).Meets post (fun _ _ => True) (after ()) bank) :
    (isolated timer true quiet).Meets post (fun _ _ => True) (timer.enableClock >>= after)
      bank := by
  have small : timer.clockMask &&& ~~~0xf = 0 := by cases timer <;> decide
  simp only [Timer.Instance.enableClock, Prcm.enableTimerClocks, bind_assoc]
  refine meets_powerPeriph viewed fun bank viewed => ?_
  simp only [Prcm.enableClocks, small, beq_self_eq_true, Program.assert_true, Program.ret_bind,
    Program.readReg_bind, Program.read_bind, Program.writeReg_bind, Program.write_bind]
  refine meets_modify (fun view => { view with clock := true }) Bank.gptclkgr
    (fun _ _ answer => answer) (fun _ _ same => same.1) ?_ ?_ viewed
    fun bank viewed => meets_applyClockSettings viewed rest
  · intro bank
    exact { Frame.refl timer bank with
      gptclkgr := fun bit other => by
        rw [Bank.access, getLsbD_enableClocks]
        simp [other] }
  · intro bank
    have set := getLsbD_enableClocks timer bank.gptclkgr timer.index
    simp only [decide_true, Bool.or_true] at set
    simp only [Bank.view, Bank.access, set]

theorem meets_setPriority {after : Unit → Driver Result} (viewed : Viewed timer quiet view bank)
    (rest : ∀ bank, Viewed timer quiet { view with priority := (2 : Word) <<< 5 } bank →
      (isolated timer true quiet).Meets post (fun _ _ => True) (after ()) bank) :
    (isolated timer true quiet).Meets post (fun _ _ => True)
      (Interrupts.setPriority timer.irq 2 >>= after) bank := by
  have inRange : timer.irq < Interrupts.irqCount := by cases timer <;> decide
  have valid : (2 : Word) < Interrupts.priorityLevels := by decide
  simp only [Interrupts.setPriority_eq inRange valid, Interrupts.setField_priority valid,
    Program.read_bind, Program.write_bind, Program.ret_bind]
  refine meets_modify (fun view => { view with priority := (2 : Word) <<< 5 })
    (fun bank => bank.priorities (timer.irq / 4)) (fun _ _ answer => answer)
    (fun _ _ same => congrFun same.2 _) ?_ ?_ viewed rest
  · intro bank
    exact { Frame.refl timer bank with
      priorities := fun word bit outside => by
        by_cases same : word = timer.irq / 4
        · subst same
          simp only [Bank.access, Function.update_self]
          exact Word.getLsbD_setField_of_outside _ _ (outside.resolve_left (absurd rfl ·))
        · simp only [Bank.access, Function.update_of_ne same] }
  · intro bank
    have field := Word.field_setField (bank.priorities (timer.irq / 4)) ((2 : Word) <<< 5)
      (priority_lt timer)
    simp only [Bank.view, Bank.access, Function.update_self]
    rw [show timer.irq % 4 * 8 = priorityLo timer from rfl, field]
    rfl

theorem meets_stop {after : Unit → Driver Result} (viewed : Viewed timer quiet view bank)
    (rest : ∀ bank, Viewed timer quiet view.stop bank →
      (isolated timer exclusive quiet).Meets post (fun _ _ => True) (after ()) bank) :
    (isolated timer exclusive quiet).Meets post (fun _ _ => True)
      ((Timer.ofInstance timer).stop >>= after) bank := by
  simp only [Timer.stop, Timer.clearTimeout, Program.writeReg_bind, Program.perform_bind,
    Program.readReg_bind, Program.read_bind, Program.write_bind, Program.act_bind]
  refine meets_write (local_icer0 timer) viewed fun bank viewed => ?_
  refine meets_act (local_other timer fun _ => rfl) viewed fun bank viewed => ?_
  refine meets_write (local_gpt timer .ctl 0) viewed fun bank viewed => ?_
  refine meets_write (local_gpt timer .imr 0) viewed fun bank viewed => ?_
  refine meets_write (local_gpt timer .iclr 1) viewed fun bank viewed => ?_
  refine meets_read viewed fun value bank viewed => ?_
  refine meets_act (local_other timer fun _ => rfl) viewed fun bank viewed => ?_
  refine meets_write (local_icpr0 timer) viewed fun bank viewed => ?_
  exact rest bank viewed

theorem meets_arm {after : Except TimerError Unit → Driver Result} (microseconds mode : Word)
    (viewed : Viewed timer quiet view bank)
    (rest : ∀ result bank, Viewed timer quiet (view.arm microseconds mode) bank →
      (isolated timer exclusive quiet).Meets post (fun _ _ => True) (after result) bank) :
    (isolated timer exclusive quiet).Meets post (fun _ _ => True)
      ((Timer.ofInstance timer).arm microseconds mode >>= after) bank := by
  unfold View.arm at rest
  rw [Timer.arm]
  cases accepted : Timer.acceptedTicks microseconds with
  | none =>
      rw [accepted] at rest
      exact rest _ bank viewed
  | some ticks =>
      rw [accepted] at rest
      simp only [bind_assoc]
      refine meets_stop viewed fun bank viewed => ?_
      simp only [Program.writeReg_bind, Program.pure_eq, Program.ret_bind]
      refine meets_write (local_gpt timer .cfg _) viewed fun bank viewed => ?_
      refine meets_write (local_gpt timer .tamr _) viewed fun bank viewed => ?_
      refine meets_write (local_gpt timer .tailr _) viewed fun bank viewed => ?_
      refine meets_write (local_gpt timer .imr _) viewed fun bank viewed => ?_
      refine meets_write (local_iser0 timer) viewed fun bank viewed => ?_
      refine meets_write (local_gpt timer .ctl _) viewed fun bank viewed => ?_
      exact rest _ bank viewed

theorem meets_interrupt (viewed : Viewed timer quiet view bank) :
    (isolated timer exclusive quiet).Meets
      (fun _ bank => Viewed timer quiet view.interrupt bank) (fun _ _ => True)
      (Timer.interrupt timer) bank := by
  rw [Timer.interrupt_eq]
  refine meets_write (local_gpt timer .iclr 1) viewed fun bank viewed => ?_
  refine meets_read viewed fun value bank viewed => ?_
  refine meets_act (local_other timer fun _ => rfl) viewed fun bank viewed => ?_
  refine meets_act (local_fetchAdd timer) viewed fun bank viewed => ?_
  exact Setting.Meets.ret Viewed.stable viewed fun _ viewed => viewed

theorem meets_initializeTimer (viewed : Viewed timer quiet view bank) :
    (isolated timer true quiet).Meets
      (fun _ bank => Viewed timer quiet view.initializeTimer bank) (fun _ _ => True)
      (Operation.initializeTimer.code timer) bank := by
  simp only [Operation.code, Timer.initializeTimer, bind_assoc]
  refine meets_enableClock viewed fun bank viewed => ?_
  refine meets_stop viewed fun bank viewed => ?_
  refine meets_setPriority viewed fun bank viewed => ?_
  exact Setting.Meets.ret Viewed.stable viewed fun _ viewed => viewed

theorem meets_initializeCounter (viewed : Viewed timer quiet view bank) :
    (isolated timer true quiet).Meets
      (fun _ bank => Viewed timer quiet view.initializeCounter bank) (fun _ _ => True)
      (Operation.initializeCounter.code timer) bank := by
  simp only [Operation.code, Counter.initializeCounter, bind_assoc]
  refine meets_enableClock viewed fun bank viewed => ?_
  simp only [Program.writeReg_bind, Program.pure_eq, Program.ret_bind]
  refine meets_write (local_gpt timer .ctl _) viewed fun bank viewed => ?_
  refine meets_write (local_gpt timer .cfg _) viewed fun bank viewed => ?_
  refine meets_write (local_gpt timer .imr _) viewed fun bank viewed => ?_
  refine meets_write (local_gpt timer .iclr _) viewed fun bank viewed => ?_
  refine meets_write (local_gpt timer .tamr _) viewed fun bank viewed => ?_
  refine meets_write (local_gpt timer .tailr _) viewed fun bank viewed => ?_
  refine meets_write (local_gpt timer .tav _) viewed fun bank viewed => ?_
  refine meets_write (local_gpt timer .ctl _) viewed fun bank viewed => ?_
  exact Setting.Meets.ret Viewed.stable viewed fun _ viewed => viewed

/-- Every operation stays inside its instance's view and, undisturbed, has its effect there. -/
theorem meets_code (operation : Operation) (viewed : Viewed timer quiet view bank) :
    (isolated timer operation.exclusive quiet).Meets
      (fun _ bank => Viewed timer quiet (operation.effect view) bank) (fun _ _ => True)
      (operation.code timer) bank := by
  cases operation with
  | initializeTimer => exact meets_initializeTimer viewed
  | initializeCounter => exact meets_initializeCounter viewed
  | startPeriodicUs microseconds =>
      refine meets_arm microseconds Timer.periodic viewed fun _ bank viewed => ?_
      exact Setting.Meets.ret Viewed.stable viewed fun _ viewed => viewed
  | startOnceUs microseconds =>
      refine meets_arm microseconds Timer.oneShot viewed fun _ bank viewed => ?_
      exact Setting.Meets.ret Viewed.stable viewed fun _ viewed => viewed
  | stop =>
      rw [Operation.code, ← bind_pure (Timer.stop _)]
      refine meets_stop viewed fun bank viewed => ?_
      exact Setting.Meets.ret Viewed.stable viewed fun _ viewed => viewed

end Operations

end DirectLine.Firmware.TimerBank
