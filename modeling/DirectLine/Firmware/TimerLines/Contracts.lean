import DirectLine.Firmware.TimerLines

/-!
# Contracts of the driver under four timers

The calls of one timer's handle, with what the foreground knows of its line, of
its acknowledgements and of everything else.
-/

namespace DirectLine.Firmware.TimerLines

open DirectLine.Interaction DirectLine.Interaction.Program Relation TimerLine

def foreground : Setting Register Instruction Word TimerLines where
  device := Moves
  rely := Disturbs
  guarantee _ _ _ := True

/-- What is known of one line, with a bound on the acknowledgements of its handler so far. -/
structure Knows (timer : Timer.Instance) (assertion : Shared → Prop) (least : Nat)
    (lines : TimerLines) : Prop where
  line : assertion (lines.view timer)
  serving : Serving timer (lines.view timer).handler
  counted : (lines.view timer).hardware.count = BitVec.ofNat 32 (lines.acknowledged timer)
  least : least ≤ lines.acknowledged timer

abbrev Anything : Shared → Prop := fun _ => True

section Knows

variable {timer other : Timer.Instance} {assertion assertion' : Shared → Prop} {least : Nat}
variable {lines lines' : TimerLines} {access : Access}

theorem steady_anything : Steady timer Anything := fun _ _ _ _ _ => trivial

theorem Knows.mono (knows : Knows timer assertion least lines)
    (weaker : ∀ shared, assertion shared → assertion' shared) :
    Knows timer assertion' least lines :=
  { knows with line := weaker _ knows.line }

theorem knows_fresh (fresh : lines.Fresh) (timer : Timer.Instance) :
    Knows timer Anything 0 lines := by
  refine ⟨trivial, ⟨.idle, ?_⟩, ?_, Nat.zero_le _⟩
  · rw [view_idle fresh.idle]
    rfl
  · rw [fresh.acknowledged]
    exact fresh.count timer

theorem stable_knows (steady : Steady timer assertion) :
    foreground.Stable (Knows timer assertion least) := by
  intro lines lines' knows disturbs
  rcases Disturbs.view disturbs timer with ⟨view, acknowledged⟩ | ⟨label, step, acknowledged⟩
  · refine ⟨?_, ?_, ?_, ?_⟩
    · rw [view]
      exact knows.line
    · rw [view]
      exact knows.serving
    · rw [view, acknowledged]
      exact knows.counted
    · rw [acknowledged]
      exact knows.least
  · refine ⟨steady _ _ _ knows.line step, knows.serving.step step, ?_, ?_⟩
    · rw [step.count knows.serving, knows.counted, acknowledged, BitVec.ofNat_add]
    · rw [acknowledged]
      exact Nat.le_add_right_of_le knows.least

theorem Knows.moved (knows : Knows timer assertion least lines) (uncounting : Uncounting access)
    (moved : lines.Moves access lines')
    (line : assertion' ((lines.view timer).after timer access)) :
    Knows timer assertion' least lines' := by
  obtain ⟨idle, rfl, -⟩ := moved
  refine ⟨?_, ?_, ?_, knows.least⟩
  · rwa [view_after idle]
  · rw [view_idle (show (lines.after access).handler = none from idle)]
    exact ⟨.idle, rfl⟩
  · rw [view_after idle]
    exact ((lines.view timer).hardware.count_access false uncounting).trans knows.counted

theorem Knows.mild (knows : Knows timer assertion least lines) (steady : Steady timer assertion)
    (mild : Mild timer access) (uncounting : Uncounting access)
    (moved : lines.Moves access lines') : Knows timer assertion least lines' := by
  refine knows.moved uncounting moved ?_
  have idle : (lines.view timer).handler = none := by rw [view_idle moved.idle]
  exact steady.closure knows.line (mild _ idle)

end Knows

/-- The accesses of the calls on one timer's handle, reads of its count apart. -/
inductive Own (timer : Timer.Instance) : Access → Prop where
  | write (register : Gpt) (value : Word) : Own timer (.write (.gpt timer.registers register) value)
  | mis (value : Word) : Own timer (.read (.gpt timer.registers .mis) value)
  | iser0 : Own timer (.write (.nvic .iser0) (Timer.ofInstance timer).irqMask)
  | icer0 : Own timer (.write (.nvic .icer0) (Timer.ofInstance timer).irqMask)
  | icpr0 : Own timer (.write (.nvic .icpr0) (Timer.ofInstance timer).irqMask)
  | dsbIsb : Own timer (.act .dsbIsb)
  | nopNop : Own timer (.act .nopNop)

section Own

variable {timer other : Timer.Instance} {access : Access}

theorem Own.uncounting (own : Own timer access) : Uncounting access := by
  intro index
  cases own <;> simp

theorem Own.mild (own : Own timer access) (distinct : timer ≠ other) : Mild other access := by
  cases own with
  | write register value => exact mild_gpt (registers_ne distinct) register value
  | mis value => exact mild_read_gpt (registers_ne distinct) .mis value
  | iser0 => exact mild_iser0 (getLsbD_irqMask_ne distinct)
  | icer0 => exact mild_icer0 (getLsbD_irqMask_ne distinct)
  | icpr0 => exact mild_icpr0 (getLsbD_irqMask_ne distinct)
  | dsbIsb => exact mild_dsbIsb
  | nopNop => exact mild_nopNop

theorem within_stop (timer : Timer.Instance) :
    (Timer.ofInstance timer).stop.Within (Own timer) fun _ => False :=
  ⟨.icer0, .dsbIsb, .write .ctl 0, .write .imr 0, .write .iclr 1,
    fun value => ⟨.mis value, .nopNop, .icpr0, trivial⟩⟩

theorem within_configure (timer : Timer.Instance) (ticks mode : Word) :
    (configure timer ticks mode).Within (Own timer) (fun _ => False) :=
  .bind (within_stop timer) fun _ =>
    ⟨.write .cfg 0, .write .tamr _, .write .tailr _, .write .imr 1, .iser0, trivial⟩

theorem unstarted_configure (timer : Timer.Instance) (ticks mode : Word) :
    (configure timer ticks mode).Within
      (fun access => Own timer access ∧ starts timer (.access access) = false)
      (fun _ => False) := by
  refine .bind ?_ fun _ => ?_
  · exact ⟨⟨.icer0, rfl⟩, ⟨.dsbIsb, rfl⟩, ⟨.write .ctl 0, by simp [starts]⟩, ⟨.write .imr 0, rfl⟩,
      ⟨.write .iclr 1, rfl⟩, fun value => ⟨⟨.mis value, rfl⟩, ⟨.nopNop, rfl⟩, ⟨.icpr0, rfl⟩,
        trivial⟩⟩
  · exact ⟨⟨.write .cfg 0, rfl⟩, ⟨.write .tamr _, rfl⟩, ⟨.write .tailr _, rfl⟩,
      ⟨.write .imr 1, rfl⟩, ⟨.iser0, rfl⟩, trivial⟩

end Own

/-- What the calls on one timer's handle leave alone. -/
structure Aside (timer : Timer.Instance) (frame : TimerLines → Prop) : Prop where
  stable : foreground.Stable frame
  kept : ∀ lines access lines', Own timer access → frame lines → lines.Moves access lines' →
    frame lines'

section Calls

variable {timer other : Timer.Instance} {assertion : Shared → Prop} {least : Nat}
variable {frame : TimerLines → Prop} {lines : TimerLines}

theorem stable_true : foreground.Stable fun _ => True := fun _ _ _ _ => trivial

theorem aside_true : Aside timer fun _ => True := ⟨stable_true, fun _ _ _ _ _ _ => trivial⟩

theorem stable_knows_frame (steady : Steady timer assertion) (stable : foreground.Stable frame) :
    foreground.Stable fun lines => Knows timer assertion least lines ∧ frame lines :=
  fun _ _ holds step => ⟨stable_knows steady _ _ holds.1 step, stable _ _ holds.2 step⟩

/-- A contract of one timer's machine, with what the accesses keep and what they leave alone. -/
theorem framed (call : Call) {allowed : Access → Prop} {kept : Shared → Prop}
    (own : ∀ access, allowed access → Own timer access) (steady : Steady timer kept)
    (access : ∀ shared access, allowed access → kept shared → kept (shared.after timer access))
    (aside : Aside timer frame) :
    foreground.Framed (TimerLine.setting timer call) (view · timer) allowed
      (fun lines => Knows timer kept least lines ∧ frame lines) where
  device lines event lines' within holds moved := by
    refine ⟨⟨?_, ?_⟩,
      holds.1.moved (own _ within).uncounting moved (access _ _ within holds.1.line),
      aside.kept _ _ _ (own _ within) holds.2 moved⟩
    · rw [view_idle moved.idle]
    · rw [moved.after, view_after moved.idle]
      rfl
  rely lines lines' holds disturbs := by
    refine ⟨?_, stable_knows steady _ _ holds.1 disturbs, aside.stable _ _ holds.2 disturbs⟩
    rcases Disturbs.view disturbs timer with ⟨same, -⟩ | ⟨label, step, -⟩
    · rw [same]
    · exact .single ⟨label, step⟩
  guarantee _ _ _ _ _ _ _ := trivial

theorem meets_stop (aside : Aside timer frame) (knows : Knows timer Anything least lines)
    (holds : frame lines) :
    foreground.Meets (fun _ lines => ∃ count, Knows timer (Halted count) least lines ∧ frame lines)
      (fun _ _ => False) (Timer.ofInstance timer).stop lines := by
  have alone : (TimerLine.setting timer .stop).Meets (fun _ => Masked 6) (fun _ _ => False)
      (Timer.ofInstance timer).stop (lines.view timer) := by
    have stopped : (TimerLine.setting timer .stop).Meets (fun _ => Masked 6) (fun _ _ => False)
        ((Timer.ofInstance timer).stop >>= fun _ => .ret ()) (lines.view timer) :=
      TimerLine.meets_stop knows.serving
        fun shared masked => .ret (Masked.stable 6) masked fun _ finish => finish
    rwa [show ((Timer.ofInstance timer).stop >>= fun _ => Program.ret ()) =
      (Timer.ofInstance timer).stop from Program.bind_ret _] at stopped
  refine (Setting.Meets.framed (framed .stop (fun _ own => own) steady_anything
    (fun _ _ _ _ => trivial) aside) (within_stop timer) alone ⟨knows, holds⟩).mono ?_ ?_
  · rintro _ lines ⟨masked, knows, holds⟩
    exact ⟨_, { knows with line := { masked.silent le_rfl with count := rfl } }, holds⟩
  · exact fun _ _ impossible => impossible.1

theorem meets_arm (call : Call) {microseconds ticks : Word} {kept : Shared → Prop}
    (accepted : Timer.acceptedTicks microseconds = some ticks)
    (known : call.mode = Timer.periodic ∨ call.mode = Timer.oneShot) (aside : Aside timer frame)
    (steady : Steady timer kept)
    (access : ∀ shared access, Own timer access → starts timer (.access access) = false →
      kept shared → kept (shared.after timer access))
    {assertion : Shared → Prop} (steady' : Steady timer assertion)
    (started : ∀ shared, Armed call 3 shared → kept shared →
      assertion (shared.after timer (.write (.gpt timer.registers .ctl) 1)))
    (knows : Knows timer kept least lines) (holds : frame lines) :
    foreground.Meets
      (fun result lines => result = .ok () ∧ Knows timer assertion least lines ∧ frame lines)
      (fun _ _ => False) ((Timer.ofInstance timer).arm microseconds call.mode) lines := by
  rw [arm_eq call.mode accepted]
  refine Setting.Meets.followed (Setting.Meets.framed
    (framed call (fun _ allowed => allowed.1) steady
      (fun shared event allowed holds => access shared event allowed.1 allowed.2 holds) aside)
    (unstarted_configure timer ticks call.mode) (meets_configure ticks knows.serving known)
    ⟨knows, holds⟩ |>.mono (fun _ _ finish => finish) fun _ _ impossible => impossible.1) ?_
  rintro _ lines ⟨armed, knows, holds⟩
  have stable : foreground.Stable fun lines =>
      Armed call 3 (lines.view timer) ∧ Knows timer kept least lines ∧ frame lines := by
    rintro lines lines' ⟨armed, knows, holds⟩ disturbs
    refine ⟨?_, stable_knows steady _ _ knows disturbs, aside.stable _ _ holds disturbs⟩
    rcases Disturbs.view disturbs timer with ⟨same, -⟩ | ⟨label, step, -⟩
    · rwa [same]
    · have kept : (TimerLine.setting timer call).Stable (Armed call 3) := Armed.stable 3
      exact kept _ _ armed ⟨label, step⟩
  refine .write stable ⟨armed, knows, holds⟩ ?_
  rintro lines lines' ⟨armed, knows, holds⟩ moved
  have own : Own timer (.write (.gpt timer.registers .ctl) 1) := .write .ctl 1
  refine ⟨trivial, .ret (stable_knows_frame steady' aside.stable) ⟨?_, ?_⟩
    fun _ finish => ⟨rfl, finish⟩⟩
  · exact knows.moved own.uncounting moved (started _ armed knows.line)
  · exact aside.kept _ _ _ own holds moved

theorem meets_startPeriodicUs {microseconds ticks : Word}
    (accepted : Timer.acceptedTicks microseconds = some ticks) (aside : Aside timer frame)
    (knows : Knows timer Anything least lines) (holds : frame lines) :
    foreground.Meets
      (fun result lines => result = .ok () ∧ Knows timer Anything least lines ∧ frame lines)
      (fun _ _ => False) ((Timer.ofInstance timer).startPeriodicUs microseconds) lines :=
  meets_arm (.startPeriodicUs microseconds) accepted (.inl rfl) aside steady_anything
    (fun _ _ _ _ _ => trivial) steady_anything (fun _ _ _ => trivial) knows holds

/-- A one-shot request on a stopped timer adds at most one to its count. -/
theorem meets_startOnceUs {microseconds ticks count : Word}
    (accepted : Timer.acceptedTicks microseconds = some ticks) (aside : Aside timer frame)
    (knows : Knows timer (Halted count) least lines) (holds : frame lines) :
    foreground.Meets
      (fun result lines =>
        result = .ok () ∧ Knows timer (Once timer count) least lines ∧ frame lines)
      (fun _ _ => False) ((Timer.ofInstance timer).startOnceUs microseconds) lines :=
  meets_arm (.startOnceUs microseconds) accepted (.inr rfl) aside (steady_halted count)
    (fun _ _ own unstarted halted => halted.access unstarted own.uncounting) (steady_once count)
    (fun _ armed halted => .start armed halted.count) knows holds

theorem Knows.read {value : Word} (knows : Knows timer assertion least lines)
    (shown : value = (lines.view timer).hardware.count) :
    Knows timer assertion (max least value.toNat) lines := by
  refine { knows with least := Nat.max_le.mpr ⟨knows.least, ?_⟩ }
  rw [shown, knows.counted, BitVec.toNat_ofNat]
  exact Nat.mod_le _ _

theorem meets_interrupts {Result : Type} {post : Result → TimerLines → Prop}
    {fail : String → TimerLines → Prop} {after : Word → Driver Result}
    (steady : Steady timer assertion) (stable : foreground.Stable frame)
    (knows : Knows timer assertion least lines) (holds : frame lines)
    (rest : ∀ value lines, Knows timer assertion least lines → frame lines →
      value = (lines.view timer).hardware.count → foreground.Meets post fail (after value) lines) :
    foreground.Meets post fail ((Timer.ofInstance timer).interrupts >>= after) lines := by
  refine .read (stable_knows_frame steady stable) ⟨knows, holds⟩ ?_
  rintro lines value lines' ⟨knows, holds⟩ moved
  have same : lines' = lines := moved.after
  refine ⟨trivial, rest value lines' (same ▸ knows) (same ▸ holds) ?_⟩
  rw [same, moved.answer timer value rfl]
  rfl

end Calls

end DirectLine.Firmware.TimerLines
