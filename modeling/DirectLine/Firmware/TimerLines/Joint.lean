import DirectLine.Firmware.Main.Accesses

/-!
# What is known of all timers at once

A caller that holds several handles knows something of every line.  A call on
one handle changes what is known of its own line and leaves the rest.
-/

namespace DirectLine.Firmware.TimerLines

open DirectLine.Interaction DirectLine.Interaction.Program Relation TimerLine

/-- What is known of each line, with a bound on the acknowledgements of its handler so far. -/
def Joint (facts : Timer.Instance → Shared → Prop) (least : Timer.Instance → Nat)
    (lines : TimerLines) : Prop :=
  ∀ timer, Knows timer (facts timer) (least timer) lines

def AllSteady (facts : Timer.Instance → Shared → Prop) : Prop :=
  ∀ timer, Steady timer (facts timer)

section Joint

variable {facts : Timer.Instance → Shared → Prop} {least least' : Timer.Instance → Nat}
variable {fact : Shared → Prop} {lines lines' : TimerLines} {timer : Timer.Instance}
variable {access : Access}

theorem joint_fresh (fresh : lines.Fresh) : Joint (fun _ => Anything) (fun _ => 0) lines :=
  fun timer => knows_fresh fresh timer

theorem AllSteady.anything : AllSteady fun _ => Anything := fun _ => steady_anything

theorem AllSteady.update (steady : AllSteady facts) (own : Steady timer fact) :
    AllSteady (Function.update facts timer fact) := by
  intro other
  by_cases same : other = timer
  · subst same
    rwa [Function.update_self]
  · rw [Function.update_of_ne same]
    exact steady other

theorem AllSteady.halted (steady : AllSteady facts) (timer : Timer.Instance) (count : Word) :
    AllSteady (Function.update facts timer (Halted count)) :=
  steady.update (steady_halted count)

theorem AllSteady.once (steady : AllSteady facts) (timer : Timer.Instance) (count : Word) :
    AllSteady (Function.update facts timer (Once timer count)) :=
  steady.update (steady_once count)

theorem stable_joint (steady : AllSteady facts) : foreground.Stable (Joint facts least) :=
  fun _ _ joint disturbs timer => stable_knows (steady timer) _ _ (joint timer) disturbs

theorem Joint.mono (joint : Joint facts least lines) (fewer : ∀ timer, least' timer ≤ least timer) :
    Joint facts least' lines :=
  fun timer => { joint timer with least := (fewer timer).trans (joint timer).least }

theorem Joint.anything (joint : Joint facts least lines) :
    Joint (fun _ => Anything) least lines :=
  fun timer => (joint timer).mono fun _ _ => trivial

theorem Joint.update
    (joint : ∀ other, other ≠ timer → Knows other (facts other) (least other) lines)
    {bound : Nat} (own : Knows timer fact bound lines) :
    Joint (Function.update facts timer fact) (Function.update least timer bound) lines := by
  intro other
  by_cases same : other = timer
  · subst same
    rwa [Function.update_self, Function.update_self]
  · rw [Function.update_of_ne same, Function.update_of_ne same]
    exact joint other same

theorem Joint.set (joint : ∀ other, other ≠ timer → Knows other (facts other) (least other) lines)
    (own : Knows timer fact (least timer) lines) :
    Joint (Function.update facts timer fact) least lines := by
  have updated := Joint.update joint own
  rwa [Function.update_eq_self] at updated

theorem Joint.count (joint : Joint facts least lines) {bound : Nat}
    (own : Knows timer (facts timer) bound lines) :
    Joint facts (Function.update least timer bound) lines := by
  have updated := Joint.update (fun other _ => joint other) own
  rwa [Function.update_eq_self] at updated

theorem aside_others (steady : AllSteady facts) :
    Aside timer fun lines => ∀ other, other ≠ timer →
      Knows other (facts other) (least other) lines where
  stable _ _ joint disturbs other distinct :=
    stable_knows (steady other) _ _ (joint other distinct) disturbs
  kept _ _ _ own joint moved other distinct :=
    (joint other distinct).mild (steady other) (own.mild (Ne.symm distinct)) own.uncounting moved

variable {Result : Type} {post : Result → TimerLines → Prop} {fail : String → TimerLines → Prop}

theorem Joint.stop (joint : Joint facts least lines) (steady : AllSteady facts) :
    foreground.Meets
      (fun _ lines => ∃ count, Joint (Function.update facts timer (Halted count)) least lines)
      (fun _ _ => False) (Timer.ofInstance timer).stop lines := by
  refine (meets_stop (aside_others steady) ((joint timer).mono fun _ _ => trivial)
    fun other _ => joint other).mono ?_ fun _ _ impossible => impossible
  rintro _ lines ⟨count, own, others⟩
  exact ⟨count, Joint.set others own⟩

theorem Joint.startPeriodicUs (joint : Joint facts least lines) (steady : AllSteady facts)
    {microseconds ticks : Word} (accepted : Timer.acceptedTicks microseconds = some ticks) :
    foreground.Meets
      (fun result lines =>
        result = .ok () ∧ Joint (Function.update facts timer Anything) least lines)
      (fun _ _ => False) ((Timer.ofInstance timer).startPeriodicUs microseconds) lines := by
  refine (meets_startPeriodicUs accepted (aside_others steady)
    ((joint timer).mono fun _ _ => trivial) fun other _ => joint other).mono ?_
      fun _ _ impossible => impossible
  rintro result lines ⟨accepted, own, others⟩
  exact ⟨accepted, Joint.set others own⟩

theorem Joint.startOnceUs (joint : Joint facts least lines) (steady : AllSteady facts)
    {microseconds ticks count : Word} (accepted : Timer.acceptedTicks microseconds = some ticks)
    (halted : facts timer = Halted count) :
    foreground.Meets
      (fun result lines =>
        result = .ok () ∧ Joint (Function.update facts timer (Once timer count)) least lines)
      (fun _ _ => False) ((Timer.ofInstance timer).startOnceUs microseconds) lines := by
  refine (meets_startOnceUs accepted (aside_others steady) (halted ▸ joint timer)
    fun other _ => joint other).mono ?_ fun _ _ impossible => impossible
  rintro result lines ⟨accepted, own, others⟩
  exact ⟨accepted, Joint.set others own⟩

/-- A reading is the number of acknowledgements at that time, and satisfies what is known. -/
theorem Joint.interrupts (joint : Joint facts least lines) (steady : AllSteady facts)
    {after : Word → Driver Result}
    (rest : ∀ acknowledged lines, least timer ≤ acknowledged →
      Joint facts (Function.update least timer acknowledged) lines →
      (∃ shared, facts timer shared ∧ shared.hardware.count = BitVec.ofNat 32 acknowledged) →
        foreground.Meets post fail (after (BitVec.ofNat 32 acknowledged)) lines) :
    foreground.Meets post fail ((Timer.ofInstance timer).interrupts >>= after) lines := by
  refine meets_interrupts (steady timer) (stable_joint steady) (joint timer) joint ?_
  intro value lines own joint shown
  have counted := own.counted
  rw [shown, counted]
  refine rest _ lines own.least (joint.count { own with least := le_rfl }) ?_
  exact ⟨_, own.line, counted⟩

structure Apart (access : Access) : Prop where
  mild : ∀ timer, Mild timer access
  uncounting : Uncounting access

theorem Apart.read {register : Register} (value : Word)
    (elsewhere : ∀ block, register ≠ .gpt block .mis) : Apart (.read register value) where
  mild timer := by
    refine mild_of_same fun _ => ?_
    cases register with
    | gpt block register =>
        cases register with
        | mis => exact absurd rfl (elsewhere block)
        | _ => rfl
    | _ => rfl
  uncounting := uncounting_read

theorem Joint.apart (joint : Joint facts least lines) (steady : AllSteady facts)
    {program : Driver Result} {stops : String → Prop} (within : program.Within Apart stops) :
    foreground.Meets (fun _ => Joint facts least) (fun message _ => stops message) program
      lines := by
  refine (Setting.Meets.within within (stable_joint steady) joint ?_).mono
    (fun _ _ finish => finish) fun _ _ stopped => stopped.1
  intro lines access lines' apart joint moved
  exact ⟨trivial, fun timer =>
    (joint timer).mild (steady timer) (apart.mild timer) apart.uncounting moved⟩

end Joint

end DirectLine.Firmware.TimerLines
