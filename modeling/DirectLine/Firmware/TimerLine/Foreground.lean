import DirectLine.Firmware.TimerLine

/-!
# Contracts of the foreground

`stop` needs nothing of the state it starts from.  Once its NVIC source is
masked and synchronised, each further write establishes one more fact that the
hardware cannot undo; `Masked` lists them in that order.  `arm` continues from
the last of them, so the timer starts with nothing left over.
-/

namespace DirectLine.Firmware.TimerLine

open DirectLine.Interaction Relation

variable {timer : Timer.Instance}

/-- Neither the enable bit nor its view at interrupt entry lets the handler in. -/
def Hardware.Live (hardware : Hardware) : Prop := hardware.gate = true ∨ hardware.enabled = true

/-- How far the active handler has come. -/
inductive Phase where
  | idle | entered | cleared | drained | settled | counted
  deriving DecidableEq, Repr

def Phase.code (timer : Timer.Instance) : Phase → Option (Driver Unit)
  | .idle => none
  | .entered => some (Timer.interrupt timer)
  | .cleared => some (.read (.gpt timer.registers .mis) fun _ =>
      .act .nopNop (.act (.fetchAdd timer.index) (.ret ())))
  | .drained => some (.act .nopNop (.act (.fetchAdd timer.index) (.ret ())))
  | .settled => some (.act (.fetchAdd timer.index) (.ret ()))
  | .counted => some (.ret ())

inductive Phase.Serves (timer : Timer.Instance) : Phase → Access → Phase → Prop where
  | clear : Serves timer .entered (.write (.gpt timer.registers .iclr) 1) .cleared
  | drain (value : Word) : Serves timer .cleared (.read (.gpt timer.registers .mis) value) .drained
  | settle : Serves timer .drained (.act .nopNop) .settled
  | count : Serves timer .settled (.act (.fetchAdd timer.index)) .counted

theorem Phase.step {code rest : Driver Unit} {access : Access} (phase : Phase)
    (served : phase.code timer = some code) (step : Program.Step code access rest) :
    ∃ next : Phase, next.code timer = some rest ∧ Serves timer phase access next := by
  cases phase with
  | idle => cases served
  | entered =>
      cases served
      rw [Timer.interrupt_eq] at step
      cases step
      exact ⟨.cleared, rfl, .clear⟩
  | cleared =>
      cases served
      cases step
      exact ⟨.drained, rfl, .drain _⟩
  | drained =>
      cases served
      cases step
      exact ⟨.settled, rfl, .settle⟩
  | settled =>
      cases served
      cases step
      exact ⟨.counted, rfl, .count⟩
  | counted =>
      cases served
      cases step

/-- Only the instance's own handler is ever active. -/
def Serving (timer : Timer.Instance) (handler : Option (Driver Unit)) : Prop :=
  ∃ phase : Phase, handler = phase.code timer

theorem Serving.step {shared shared' : Shared} {label : Label}
    (serving : Serving timer shared.handler) (step : Interference timer shared label shared') :
    Serving timer shared'.handler := by
  cases step with
  | timeout | sample | synchronize | primask => exact serving
  | enter _ _ _ _ vector =>
      rw [Startup.irqs_irq] at vector
      cases vector
      exact ⟨.entered, rfl⟩
  | handler active code =>
      obtain ⟨phase, served⟩ := serving
      obtain ⟨next, served', -⟩ := phase.step (served.symm.trans active) code
      exact ⟨next, served'.symm⟩
  | leave => exact ⟨.idle, rfl⟩

/-- Nothing is counting, requested or pending, and no handler is active. -/
structure Silent (shared : Shared) : Prop where
  taen : shared.hardware.taen = false
  ris : shared.hardware.ris = false
  input : shared.hardware.input = false
  pending : shared.hardware.pending = false
  handler : shared.handler = none

/-- What `stop` has established after its barrier and `stage` further accesses. -/
structure Masked (stage : Nat) (shared : Shared) : Prop where
  enabled : shared.hardware.enabled = false
  gate : shared.hardware.gate = false
  handler : shared.handler = none
  taen : 1 ≤ stage → shared.hardware.taen = false
  imr : 2 ≤ stage → shared.hardware.imr = false
  ris : 3 ≤ stage → shared.hardware.ris = false
  misRead : 4 ≤ stage → shared.hardware.misRead = true
  input : 5 ≤ stage → shared.hardware.input = false
  pending : 6 ≤ stage → shared.hardware.pending = false

theorem Masked.silent {stage : Nat} {shared : Shared} (masked : Masked stage shared)
    (complete : 6 ≤ stage) : Silent shared where
  taen := masked.taen (by omega)
  ris := masked.ris (by omega)
  input := masked.input (by omega)
  pending := masked.pending complete
  handler := masked.handler

def Call.mode : Call → Word
  | .stop => 0
  | .startPeriodicUs _ => Timer.periodic
  | .startOnceUs _ => Timer.oneShot

/-- What `arm` has established in silence, after the mode, the mask and the NVIC source. -/
structure Armed (call : Call) (stage : Nat) (shared : Shared) : Prop extends Silent shared where
  mode : 1 ≤ stage → shared.hardware.mode = call.mode
  imr : 2 ≤ stage → shared.hardware.imr = true
  enabled : 3 ≤ stage → shared.hardware.enabled = true

/-- What the foreground guarantees of the state before each of its accesses.  The flag and
the mask are cleared only behind a masked source, the source is unmasked with nothing
pending, the mode changes only while stopped, and the timer starts from silence. -/
def Guarded (timer : Timer.Instance) (call : Call) (shared : Shared) : Access → Prop
  | .write (.gpt block .iclr) _ => block = timer.registers → ¬shared.hardware.Live
  | .write (.gpt block .imr) value =>
      block = timer.registers → value.getLsbD 0 = false → ¬shared.hardware.Live
  | .write (.gpt block .tamr) _ => block = timer.registers → shared.hardware.taen = false
  | .write (.nvic .iser0) value =>
      value.getLsbD timer.irq = true → shared.hardware.pending = false
  | .write (.gpt block .ctl) value =>
      block = timer.registers → value.getLsbD 0 = true →
        Silent shared ∧ shared.hardware.imr = true ∧ shared.hardware.enabled = true ∧
          shared.hardware.mode = call.mode
  | .act (.fetchAdd _) => False
  | _ => True

def setting (timer : Timer.Instance) (call : Call) :
    Setting Register Instruction Word Shared where
  device shared access shared' :=
    shared.handler = none ∧
      shared' = { shared with hardware := shared.hardware.access timer false access }
  rely shared shared' := ∃ label, Interference timer shared label shared'
  guarantee shared access _ := Guarded timer call shared access

theorem Masked.stable {call : Call} (stage : Nat) :
    (setting timer call).Stable (Masked stage) := by
  rintro shared shared' masked ⟨label, step⟩
  have idle := masked.handler
  cases step with
  | timeout counting =>
      have running : ¬1 ≤ stage := fun late => by simp [masked.taen late] at counting
      exact { masked with
        taen := fun late => absurd late running
        imr := fun late => absurd late (by omega)
        ris := fun late => absurd late (by omega)
        misRead := fun late => absurd late (by omega)
        input := fun late => absurd late (by omega)
        pending := fun late => absurd late (by omega) }
  | sample =>
      have low : 2 ≤ stage → shared.hardware.line = false := fun late => by
        simp [Hardware.line, masked.imr late]
      exact { masked with
        input := fun late => low (by omega)
        pending := fun late => by
          simp [Hardware.sample, masked.pending late, low (by omega)] }
  | synchronize => exact { masked with gate := masked.enabled }
  | primask => exact { masked with }
  | enter _ gate =>
      rw [masked.gate] at gate
      exact absurd gate Bool.false_ne_true
  | handler active | leave active =>
      rw [idle] at active
      cases active

theorem Silent.step {shared shared' : Shared} {label : Label} (silent : Silent shared)
    (step : Interference timer shared label shared') : Silent shared' := by
  have idle := silent.handler
  cases step with
  | timeout counting =>
      rw [silent.taen] at counting
      cases counting
  | sample =>
      have low : shared.hardware.line = false := by simp [Hardware.line, silent.ris]
      exact { silent with
        input := low
        pending := by simp [Hardware.sample, silent.pending, low] }
  | synchronize | primask => exact { silent with }
  | enter _ _ pending =>
      rw [silent.pending] at pending
      cases pending
  | handler active | leave active =>
      rw [idle] at active
      cases active

theorem Interference.configuration {shared shared' : Shared} {label : Label}
    (step : Interference timer shared label shared') (idle : shared.handler = none) :
    shared'.hardware.tamr = shared.hardware.tamr ∧ shared'.hardware.imr = shared.hardware.imr ∧
      shared'.hardware.enabled = shared.hardware.enabled := by
  cases step with
  | timeout | sample | synchronize | primask | enter => exact ⟨rfl, rfl, rfl⟩
  | handler active | leave active =>
      rw [idle] at active
      cases active

theorem Armed.stable {call : Call} (stage : Nat) :
    (setting timer call).Stable (Armed call stage) := by
  rintro shared shared' armed ⟨label, step⟩
  obtain ⟨tamr, imr, enabled⟩ := step.configuration armed.handler
  refine { armed.toSilent.step step with
    mode := fun late => ?_, imr := fun late => ?_, enabled := fun late => ?_ }
  · rw [Hardware.mode, tamr]
    exact armed.mode late
  · rw [imr]
    exact armed.imr late
  · rw [enabled]
    exact armed.enabled late

/-- Masking the source is stable even before the barrier: a handler that still gets in does
not write the enable bit. -/
theorem unenabled_stable {call : Call} :
    (setting timer call).Stable fun shared =>
      Serving timer shared.handler ∧ shared.hardware.enabled = false := by
  rintro shared shared' ⟨serving, masked⟩ ⟨label, step⟩
  refine ⟨serving.step step, ?_⟩
  cases step with
  | timeout | sample | synchronize | primask | enter | leave => exact masked
  | handler active code =>
      obtain ⟨phase, served⟩ := serving
      obtain ⟨next, -, taken⟩ := phase.step (served.symm.trans active) code
      cases taken with
      | clear | drain | count => simpa using masked
      | settle =>
          simp only [Hardware.access_nopNop]
          split <;> exact masked

theorem serving_stable {call : Call} :
    (setting timer call).Stable fun shared => Serving timer shared.handler :=
  fun _ _ serving ⟨_, step⟩ => serving.step step

section Stages

variable {shared : Shared}

def Shared.after (timer : Timer.Instance) (shared : Shared) (access : Access) : Shared :=
  { shared with hardware := shared.hardware.access timer false access }

theorem masked_dsbIsb (masked : shared.hardware.enabled = false) (idle : shared.handler = none) :
    Masked 0 (shared.after timer (.act .dsbIsb)) :=
  ⟨masked, masked, idle, by omega, by omega, by omega, by omega, by omega, by omega⟩

theorem Masked.stopped (masked : Masked 0 shared) :
    Masked 1 (shared.after timer (.write (.gpt timer.registers .ctl) 0)) := by
  rw [Shared.after, Hardware.access_ctl]
  exact { masked with
    taen := fun _ => rfl
    imr := by omega
    ris := by omega
    misRead := by omega
    input := by omega
    pending := by omega }

theorem Masked.imrCleared (masked : Masked 1 shared) :
    Masked 2 (shared.after timer (.write (.gpt timer.registers .imr) 0)) := by
  rw [Shared.after, Hardware.access_imr]
  exact { masked with
    taen := fun _ => masked.taen le_rfl
    imr := fun _ => rfl
    ris := by omega
    misRead := by omega
    input := by omega
    pending := by omega }

theorem Masked.risCleared (masked : Masked 2 shared) :
    Masked 3 (shared.after timer (.write (.gpt timer.registers .iclr) 1)) := by
  rw [Shared.after, Hardware.access_iclr]
  exact { masked with
    taen := fun _ => masked.taen (by omega)
    imr := fun _ => masked.imr le_rfl
    ris := fun _ => Bool.and_false _
    misRead := by omega
    input := by omega
    pending := by omega }

theorem Masked.sourceRead (masked : Masked 3 shared) (value : Word) :
    Masked 4 (shared.after timer (.read (.gpt timer.registers .mis) value)) := by
  rw [Shared.after, Hardware.access_mis]
  exact { masked with
    taen := fun _ => masked.taen (by omega)
    imr := fun _ => masked.imr (by omega)
    ris := fun _ => masked.ris le_rfl
    misRead := fun _ => rfl
    input := by omega
    pending := by omega }

theorem Masked.settled (masked : Masked 4 shared) :
    Masked 5 (shared.after timer (.act .nopNop)) := by
  rw [Shared.after, Hardware.access_nopNop, if_pos (masked.misRead le_rfl)]
  exact { masked with
    taen := fun _ => masked.taen (by omega)
    imr := fun _ => masked.imr (by omega)
    ris := fun _ => masked.ris (by omega)
    misRead := fun _ => masked.misRead le_rfl
    input := fun _ => by simp [Hardware.sample, Hardware.line, masked.ris (by omega)]
    pending := by omega }

theorem Masked.discarded (masked : Masked 5 shared) :
    Masked 6 (shared.after timer
      (.write (.nvic .icpr0) (Timer.ofInstance timer).irqMask)) := by
  rw [Shared.after, Hardware.access_icpr0, irqMask_irq, if_pos rfl]
  exact { masked with
    taen := fun _ => masked.taen (by omega)
    imr := fun _ => masked.imr (by omega)
    ris := fun _ => masked.ris (by omega)
    misRead := fun _ => masked.misRead (by omega)
    input := fun _ => masked.input le_rfl
    pending := fun _ => by simp [masked.input le_rfl] }

theorem Masked.not_live {stage : Nat} (masked : Masked stage shared) :
    ¬shared.hardware.Live := by
  rintro (gate | enabled)
  · exact Bool.false_ne_true (masked.gate.symm.trans gate)
  · exact Bool.false_ne_true (masked.enabled.symm.trans enabled)

end Stages

/-- From any state, `stop` ends masked and silent. -/
theorem meets_stop {call : Call} {Result : Type} {post : Result → Shared → Prop}
    {fail : String → Shared → Prop} {after : Unit → Driver Result} {shared : Shared}
    (serving : Serving timer shared.handler)
    (rest : ∀ shared, Masked 6 shared → (setting timer call).Meets post fail (after ()) shared) :
    (setting timer call).Meets post fail ((Timer.ofInstance timer).stop >>= after) shared := by
  simp only [Timer.stop, Timer.clearTimeout, Program.writeReg_bind, Program.perform_bind,
    Program.readReg_bind, Program.read_bind, Program.write_bind, Program.act_bind]
  refine Setting.Meets.write serving_stable serving ?_
  rintro shared _ serving ⟨-, rfl⟩
  refine ⟨trivial, Setting.Meets.act unenabled_stable ⟨serving, by simp⟩ ?_⟩
  rintro shared _ ⟨-, unenabled⟩ ⟨idle, rfl⟩
  refine ⟨trivial, Setting.Meets.write (Masked.stable 0) (masked_dsbIsb unenabled idle) ?_⟩
  rintro shared _ masked ⟨-, rfl⟩
  refine ⟨fun _ starting => ?_, Setting.Meets.write (Masked.stable 1) masked.stopped ?_⟩
  · simp at starting
  rintro shared _ masked ⟨-, rfl⟩
  refine ⟨fun _ _ => masked.not_live,
    Setting.Meets.write (Masked.stable 2) masked.imrCleared ?_⟩
  rintro shared _ masked ⟨-, rfl⟩
  refine ⟨fun _ => masked.not_live, Setting.Meets.read (Masked.stable 3) masked.risCleared ?_⟩
  rintro shared value _ masked ⟨-, rfl⟩
  refine ⟨trivial, Setting.Meets.act (Masked.stable 4) (masked.sourceRead value) ?_⟩
  rintro shared _ masked ⟨-, rfl⟩
  refine ⟨trivial, Setting.Meets.write (Masked.stable 5) masked.settled ?_⟩
  rintro shared _ masked ⟨-, rfl⟩
  exact ⟨trivial, rest _ masked.discarded⟩

theorem field_config {mode : Word} (known : mode = Timer.periodic ∨ mode = Timer.oneShot) :
    Word.field (Word.setFlag (Word.setField 0 0 2 mode) 8 true) 0 2 = mode := by
  rcases known with rfl | rfl <;> decide

section Stages

variable {call : Call} {shared : Shared}

theorem Silent.armed (silent : Silent shared) : Armed call 0 shared :=
  { silent with mode := by omega, imr := by omega, enabled := by omega }

theorem Armed.joined (armed : Armed call 0 shared) :
    Armed call 0 (shared.after timer (.write (.gpt timer.registers .cfg) 0)) := by
  rw [Shared.after, Hardware.access_cfg]
  exact armed

theorem Armed.configured (armed : Armed call 0 shared)
    (known : call.mode = Timer.periodic ∨ call.mode = Timer.oneShot) :
    Armed call 1 (shared.after timer (.write (.gpt timer.registers .tamr)
      (Word.setFlag (Word.setField 0 0 2 call.mode) 8 true))) := by
  rw [Shared.after, Hardware.access_tamr]
  exact { armed.toSilent with
    mode := fun _ => field_config known
    imr := by omega
    enabled := by omega }

theorem Armed.loaded (armed : Armed call 1 shared) (ticks : Word) :
    Armed call 1 (shared.after timer (.write (.gpt timer.registers .tailr) ticks)) := by
  rw [Shared.after, Hardware.access_tailr]
  exact armed

theorem Armed.requested (armed : Armed call 1 shared) :
    Armed call 2 (shared.after timer (.write (.gpt timer.registers .imr) 1)) := by
  rw [Shared.after, Hardware.access_imr]
  exact { armed.toSilent with
    mode := fun _ => armed.mode le_rfl
    imr := fun _ => rfl
    enabled := by omega }

theorem Armed.unmasked (armed : Armed call 2 shared) :
    Armed call 3 (shared.after timer
      (.write (.nvic .iser0) (Timer.ofInstance timer).irqMask)) := by
  rw [Shared.after, Hardware.access_iser0, irqMask_irq, Bool.or_true]
  exact { armed.toSilent with
    mode := fun _ => armed.mode (by omega)
    imr := fun _ => armed.imr le_rfl
    enabled := fun _ => rfl }

end Stages

theorem meets_arm {call : Call} {shared : Shared} (microseconds : Word)
    (serving : Serving timer shared.handler)
    (known : call.mode = Timer.periodic ∨ call.mode = Timer.oneShot) :
    (setting timer call).Meets (fun _ _ => True) (fun _ _ => False)
      ((Timer.ofInstance timer).arm microseconds call.mode) shared := by
  rw [Timer.arm]
  cases Timer.acceptedTicks microseconds with
  | none => exact fun _ _ => trivial
  | some ticks =>
      apply meets_stop serving
      intro shared masked
      simp only [Program.writeReg_bind, Program.pure_eq]
      refine Setting.Meets.write (Armed.stable 0) (masked.silent le_rfl).armed ?_
      rintro shared _ armed ⟨-, rfl⟩
      refine ⟨trivial, Setting.Meets.write (Armed.stable 0) armed.joined ?_⟩
      rintro shared _ armed ⟨-, rfl⟩
      refine ⟨fun _ => armed.taen,
        Setting.Meets.write (Armed.stable 1) (armed.configured known) ?_⟩
      rintro shared _ armed ⟨-, rfl⟩
      refine ⟨trivial, Setting.Meets.write (Armed.stable 1) (armed.loaded _) ?_⟩
      rintro shared _ armed ⟨-, rfl⟩
      refine ⟨fun _ cleared => ?_, Setting.Meets.write (Armed.stable 2) armed.requested ?_⟩
      · simp at cleared
      rintro shared _ armed ⟨-, rfl⟩
      refine ⟨fun _ => armed.pending,
        Setting.Meets.write (Armed.stable 3) armed.unmasked ?_⟩
      rintro shared _ armed ⟨-, rfl⟩
      refine ⟨fun _ _ => ⟨armed.toSilent, armed.imr (by omega), armed.enabled le_rfl,
        armed.mode (by omega)⟩, ?_⟩
      exact fun _ _ => trivial

def Call.post : Call → Except TimerError Unit → Shared → Prop
  | .stop => fun _ shared => Masked 6 shared
  | _ => fun _ _ => True

/-- Every call keeps the guarantee, from any state. -/
theorem meets_code (call : Call) {shared : Shared} (serving : Serving timer shared.handler) :
    (setting timer call).Meets call.post (fun _ _ => False) (call.code timer) shared := by
  cases call with
  | stop =>
      apply meets_stop serving
      intro shared masked
      exact Setting.Meets.ret (Masked.stable 6) masked fun _ holds => holds
  | startPeriodicUs microseconds => exact meets_arm microseconds serving (.inl rfl)
  | startOnceUs microseconds => exact meets_arm microseconds serving (.inr rfl)

end DirectLine.Firmware.TimerLine
