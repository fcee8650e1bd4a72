import DirectLine.Firmware.TimerLine.Timeouts
import DirectLine.Interaction.Frame

/-!
# Between two calls

What a caller of the driver can rely on once a call has returned, while the
hardware and the handler go on stepping: a stopped timer keeps its count, and a
one-shot adds at most one to it.
-/

namespace DirectLine.Firmware.TimerLine

open DirectLine.Interaction Relation

variable {timer : Timer.Instance} {shared shared' : Shared} {label : Label}

/-- An assertion that neither the hardware nor the handler falsifies. -/
def Steady (timer : Timer.Instance) (assertion : Shared → Prop) : Prop :=
  ∀ shared label shared', assertion shared → Interference timer shared label shared' →
    assertion shared'

theorem Steady.closure {assertion : Shared → Prop} (steady : Steady timer assertion)
    (holds : assertion shared)
    (steps : ReflTransGen (fun first last => ∃ label, Interference timer first label last) shared
      shared') : assertion shared' := by
  induction steps with
  | refl => exact holds
  | tail _ step inductionHypothesis =>
      obtain ⟨label, step⟩ := step
      exact steady _ _ _ inductionHypothesis step

theorem Interference.unstarted (step : Interference timer shared label shared') :
    starts timer label = false := by
  cases step <;> rfl

theorem Serving.located (serving : Serving timer shared.handler) :
    Located timer ⟨shared, none⟩ :=
  ⟨serving, nofun⟩

theorem Interference.count (step : Interference timer shared label shared')
    (serving : Serving timer shared.handler) :
    shared'.hardware.count = shared.hardware.count +
      BitVec.ofNat 32 (if acknowledges timer label then 1 else 0) :=
  serving.located.count (.interference step)

def Uncounting (access : Access) : Prop := ∀ index, access ≠ .act (.fetchAdd index)

theorem Hardware.count_access (hardware : Hardware) (active : Bool) {access : Access}
    (uncounting : Uncounting access) :
    (hardware.access timer active access).count = hardware.count := by
  rcases hardware.touches_or_access_eq timer active access with touched | untouched
  · cases touched with
    | fetchAdd => exact absurd rfl (uncounting timer.index)
    | icpr0 | nopNop =>
        simp only [access_icpr0, access_nopNop]
        split <;> rfl
    | ctl | tamr | imr | iclr | mis | iser0 | icer0 | dsbIsb => simp
  · rw [untouched]

/-- The timer has been stopped at a count. -/
structure Halted (count : Word) (shared : Shared) : Prop extends Silent shared where
  count : shared.hardware.count = count

theorem Silent.count (silent : Silent shared) (step : Interference timer shared label shared') :
    shared'.hardware.count = shared.hardware.count := by
  have serving : Serving timer shared.handler := ⟨.idle, silent.handler⟩
  rw [step.count serving]
  cases step with
  | handler active =>
      rw [silent.handler] at active
      cases active
  | timeout | sample | synchronize | primask | enter | leave => exact BitVec.add_zero _

theorem steady_halted (count : Word) : Steady timer (Halted count) :=
  fun _ _ _ halted step =>
    { halted.toSilent.step step with count := (halted.toSilent.count step).trans halted.count }

theorem Halted.access {count : Word} {access : Access} (halted : Halted count shared)
    (unstarted : starts timer (.access access) = false) (uncounting : Uncounting access) :
    Halted count (shared.after timer access) :=
  { halted.toSilent.access unstarted with
    count := (shared.hardware.count_access false uncounting).trans halted.count }

/-- Since a one-shot interval began at a count, its timeout may have been acknowledged once. -/
def Once (timer : Timer.Instance) (base : Word) (shared : Shared) : Prop :=
  ∃ past phase, Accounted timer past phase shared ∧ Single past shared.hardware ∧
    shared.hardware.count = base + BitVec.ofNat 32 (acknowledgements timer past)

theorem Once.serving {base : Word} (once : Once timer base shared) :
    Serving timer shared.handler := by
  obtain ⟨past, phase, accounted, -⟩ := once
  exact ⟨phase, accounted.handler⟩

theorem steady_once (base : Word) : Steady timer (Once timer base) := by
  rintro shared label shared' once step
  have serving := once.serving
  obtain ⟨past, phase, accounted, single, count⟩ := once
  obtain ⟨next, accounted'⟩ := accounted.interference step
  refine ⟨past ++ [label], next, accounted', ?_, ?_⟩
  · exact single.step serving.located step.unstarted (.interference step)
  · rw [step.count serving, count, acknowledgements_concat, BitVec.ofNat_add, BitVec.add_assoc]

theorem Once.count {base : Word} (once : Once timer base shared) :
    shared.hardware.count = base ∨ shared.hardware.count = base + 1 := by
  obtain ⟨past, phase, accounted, single, count⟩ := once
  have budget := accounted.ledger.budget
  have served := accounted.ledger.served
  have atMost := single.atMost
  have few : acknowledgements timer past = 0 ∨ acknowledgements timer past = 1 := by omega
  rcases few with none | one
  · left
    rw [count, none]
    exact BitVec.add_zero _
  · right
    rw [count, one]
    rfl

theorem Once.start {microseconds : Word} {base : Word}
    (armed : Armed (.startOnceUs microseconds) 3 shared) (count : shared.hardware.count = base) :
    Once timer base (shared.after timer (.write (.gpt timer.registers .ctl) 1)) := by
  rw [Shared.after, Hardware.access_ctl]
  refine ⟨[], .idle, .start armed.handler armed.pending armed.ris, ⟨fun _ => ⟨?_, rfl⟩, ?_⟩, ?_⟩
  · exact armed.mode (by omega)
  · exact Nat.zero_le _
  · exact count.trans (BitVec.add_zero _).symm

/-- The accesses of an accepted request before the one that starts the timer. -/
def configure (timer : Timer.Instance) (ticks mode : Word) : Driver Unit := do
  (Timer.ofInstance timer).stop
  Program.writeReg (.gpt timer.registers .cfg) 0
  Program.writeReg (.gpt timer.registers .tamr)
    (Word.setFlag (Word.setField 0 0 2 mode) 8 true)
  Program.writeReg (.gpt timer.registers .tailr) (ticks - 1)
  Program.writeReg (.gpt timer.registers .imr) 1
  Program.writeReg (.nvic .iser0) (Timer.ofInstance timer).irqMask

theorem arm_eq {microseconds ticks : Word} (mode : Word)
    (accepted : Timer.acceptedTicks microseconds = some ticks) :
    (Timer.ofInstance timer).arm microseconds mode =
      configure timer ticks mode >>= fun _ =>
        .write (.gpt timer.registers .ctl) 1 (.ret (.ok ())) := by
  rw [Timer.arm, accepted]
  rfl

theorem meets_configure {call : Call} (ticks : Word) (serving : Serving timer shared.handler)
    (known : call.mode = Timer.periodic ∨ call.mode = Timer.oneShot) :
    (setting timer call).Meets (fun _ => Armed call 3) (fun _ _ => False)
      (configure timer ticks call.mode) shared := by
  apply meets_stop serving
  intro shared masked
  simp only [Program.writeReg_bind]
  refine .write (Armed.stable 0) (masked.silent le_rfl).armed ?_
  rintro shared _ armed ⟨-, rfl⟩
  refine ⟨trivial, .write (Armed.stable 0) armed.joined ?_⟩
  rintro shared _ armed ⟨-, rfl⟩
  refine ⟨fun _ => armed.taen, .write (Armed.stable 1) (armed.configured known) ?_⟩
  rintro shared _ armed ⟨-, rfl⟩
  refine ⟨trivial, .write (Armed.stable 1) (armed.loaded _) ?_⟩
  rintro shared _ armed ⟨-, rfl⟩
  refine ⟨fun _ cleared => ?_, .write (Armed.stable 2) armed.requested ?_⟩
  · simp at cleared
  rintro shared _ armed ⟨-, rfl⟩
  exact ⟨fun _ => armed.pending, .ret (Armed.stable 3) armed.unmasked fun _ finish => finish⟩

end DirectLine.Firmware.TimerLine
