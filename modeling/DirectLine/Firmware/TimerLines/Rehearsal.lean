import DirectLine.Firmware.TimerLine.Timeouts
import DirectLine.Firmware.TimerLines
import DirectLine.Interaction.Rehearsal

/-!
# Rehearsed timers

A timer that runs with its interrupt enabled can time out and be served, which
leaves it running or, in one-shot mode, stopped.
-/

namespace DirectLine.Firmware

open DirectLine.Interaction Relation TimerLine

namespace TimerLine.Hardware

def ready (hardware : Hardware) : Bool :=
  hardware.taen && hardware.imr && hardware.enabled && !hardware.input && !hardware.pending &&
    !hardware.primask

def serve (hardware : Hardware) : Hardware :=
  { hardware with
    taen := hardware.mode != Timer.oneShot
    ris := false
    misRead := true
    gate := true
    count := hardware.count + 1 }

theorem trace_serve {hardware : Hardware} (ready : hardware.ready = true)
    (timer : Timer.Instance) :
    Trace (Interference timer) ⟨hardware, none⟩ (served timer) ⟨hardware.serve, none⟩ := by
  obtain ⟨tamr, taen, ris, imr, misRead, input, enabled, gate, pending, primask, count⟩ := hardware
  simp only [Hardware.ready, Bool.and_eq_true, Bool.not_eq_true'] at ready
  obtain ⟨⟨⟨⟨⟨rfl, rfl⟩, rfl⟩, rfl⟩, rfl⟩, rfl⟩ := ready
  have trace : Trace (Interference timer)
      ⟨⟨tamr, true, ris, true, misRead, false, true, gate, false, false, count⟩, none⟩
      (served timer) _ :=
    .cons (.timeout rfl) <| .cons .synchronize <| .cons .sample <|
      .cons (.enter rfl rfl rfl rfl (Startup.irqs_irq timer)) <|
      .cons (.handler rfl (.write _ _ _)) <| .cons (.handler rfl (.read _ _ _)) <|
      .cons (.handler rfl (.act _ _)) <| .cons (.handler rfl (.act _ _)) <|
      .cons (.leave rfl) (.nil _)
  convert trace using 1
  simp [serve, timeout, sample, mode, line]

end TimerLine.Hardware

namespace TimerLines

def numbered : Fin 4 → Timer.Instance
  | 0 => .gpt0
  | 1 => .gpt1
  | 2 => .gpt2
  | 3 => .gpt3

def perform (lines : TimerLines) (access : Access) : Option TimerLines :=
  if lines.handler.isNone then some (lines.after access) else none

/-- A timeout of one timer, served. -/
def serve (lines : TimerLines) (timer : Timer.Instance) : Option TimerLines :=
  if lines.handler.isNone && (lines.hardware timer).ready then
    some
      { hardware := Function.update lines.hardware timer (lines.hardware timer).serve
        handler := none
        acknowledged := Function.update lines.acknowledged timer (lines.acknowledged timer + 1) }
  else none

def serves (lines : TimerLines) (timer : Timer.Instance) : Nat → Option TimerLines
  | 0 => some lines
  | times + 1 => (lines.serve timer).bind fun lines => lines.serves timer times

/-- An answer to a read; the counter advances by ten milliseconds with each access. -/
def answer (past : Nat) (lines : TimerLines) : Register → Word
  | .gpt _ .tav => BitVec.ofNat 32 (480000 * past)
  | .timerInterrupts index => (lines.hardware (numbered index)).count
  | .uart _ _ => 0
  | _ => BitVec.allOnes 32

variable {lines lines' : TimerLines} {timer : Timer.Instance}

theorem moves_perform {access : Access}
    (answered : ∀ index value, access = .read (.timerInterrupts index) value →
      value = (lines.hardware (numbered index)).count)
    (performed : lines.perform access = some lines') : lines.Moves access lines' := by
  rw [perform] at performed
  split at performed
  · rename_i idle
    cases performed
    refine ⟨Option.isNone_iff_eq_none.mp idle, rfl, ?_⟩
    rintro timer value rfl
    rw [answered _ _ rfl]
    cases timer <;> rfl
  · cases performed

theorem disturbs_serve (served : lines.serve timer = some lines') :
    ReflTransGen Disturbs lines lines' := by
  rw [serve] at served
  split at served
  · rename_i able
    cases served
    rw [Bool.and_eq_true, Option.isNone_iff_eq_none] at able
    have once : acknowledgements timer (TimerLine.served timer) = 1 := by cases timer <;> rfl
    have disturbs := Disturbs.of_line (Hardware.trace_serve able.2 timer) lines
      (view_idle able.1 timer) able.1
    rwa [once] at disturbs
  · cases served

theorem disturbs_serves {times : Nat} (served : lines.serves timer times = some lines') :
    ReflTransGen Disturbs lines lines' := by
  induction times generalizing lines with
  | zero =>
      cases served
      exact .refl
  | succ times inductionHypothesis =>
      obtain ⟨middle, first, rest⟩ := Option.bind_eq_some_iff.mp served
      exact (disturbs_serve first).trans (inductionHypothesis rest)

end TimerLines

end DirectLine.Firmware
