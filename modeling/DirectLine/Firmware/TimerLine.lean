import DirectLine.Firmware.Timer
import DirectLine.Interaction.Transition

/-!
# One timer and its interrupt line under preemption

One GPT instance, its NVIC line and PRIMASK, with the foreground and the
interrupt handler executing `timer.rs` access by access.  Between any two
accesses the timer may time out, the request line may reach the NVIC, a write to
the enable bit may take effect, and the handler may be entered.

The foreground is a contract under interference: the handler and the hardware
are the steps it relies on.  Its accesses guarantee what the accounting of
interrupts needs from a reconfiguration.
-/

namespace DirectLine.Firmware.TimerLine

open DirectLine.Interaction

/-- The timer, its line into the NVIC and the CPU's mask.  `input` is the level the NVIC sees,
which lags behind the request; `gate` is the enable bit as interrupt entry sees it. -/
structure Hardware where
  tamr : Word
  taen : Bool
  ris : Bool
  imr : Bool
  /-- `MIS` has been read since the last write to `ICLR` or `IMR`. -/
  misRead : Bool
  input : Bool
  enabled : Bool
  gate : Bool
  pending : Bool
  primask : Bool
  count : Word
  deriving DecidableEq, Inhabited, Repr

namespace Hardware

/-- The masked request, the `MIS` bit. -/
def line (hardware : Hardware) : Bool := hardware.ris && hardware.imr

def mode (hardware : Hardware) : Word := Word.field hardware.tamr 0 2

/-- The request reaches the NVIC.  A rising edge pends the interrupt, and so does a high level
while its handler is not active. -/
def sample (active : Bool) (hardware : Hardware) : Hardware :=
  { hardware with
    input := hardware.line
    pending := hardware.pending || (hardware.line && (!hardware.input || !active)) }

/-- A timeout raises the flag; in one-shot mode it also stops the timer. -/
def timeout (hardware : Hardware) : Hardware :=
  { hardware with
    ris := true
    taen := hardware.taen && hardware.mode != Timer.oneShot }

/-- The effect of one access on this instance.  `ISER0`, `ICER0` and `ICPR0` act on the bits
written as one; a pending bit whose input is still high does not clear; two `nop`s after the
`MIS` read let the line settle. -/
def access (timer : Timer.Instance) (active : Bool) (hardware : Hardware) : Access → Hardware
  | .write (.gpt block register) value =>
      if block = timer.registers then
        match register with
        | .ctl => { hardware with taen := value.getLsbD 0 }
        | .tamr => { hardware with tamr := value }
        | .imr => { hardware with imr := value.getLsbD 0, misRead := false }
        | .iclr => { hardware with ris := hardware.ris && !value.getLsbD 0, misRead := false }
        | _ => hardware
      else hardware
  | .read (.gpt block .mis) _ =>
      if block = timer.registers then { hardware with misRead := true } else hardware
  | .write (.nvic .iser0) value =>
      { hardware with enabled := hardware.enabled || value.getLsbD timer.irq }
  | .write (.nvic .icer0) value =>
      { hardware with enabled := hardware.enabled && !value.getLsbD timer.irq }
  | .write (.nvic .icpr0) value =>
      if value.getLsbD timer.irq then
        { hardware with pending := hardware.pending && hardware.input }
      else hardware
  | .act .dsbIsb => { hardware with gate := hardware.enabled }
  | .act .nopNop => if hardware.misRead then hardware.sample active else hardware
  | .act (.fetchAdd index) =>
      if index = timer.index then { hardware with count := hardware.count + 1 } else hardware
  | _ => hardware

section Access

variable (timer : Timer.Instance) (active : Bool) (hardware : Hardware)

@[simp] theorem access_ctl (value : Word) :
    hardware.access timer active (.write (.gpt timer.registers .ctl) value) =
      { hardware with taen := value.getLsbD 0 } := if_pos rfl

@[simp] theorem access_tamr (value : Word) :
    hardware.access timer active (.write (.gpt timer.registers .tamr) value) =
      { hardware with tamr := value } := if_pos rfl

@[simp] theorem access_imr (value : Word) :
    hardware.access timer active (.write (.gpt timer.registers .imr) value) =
      { hardware with imr := value.getLsbD 0, misRead := false } := if_pos rfl

@[simp] theorem access_iclr (value : Word) :
    hardware.access timer active (.write (.gpt timer.registers .iclr) value) =
      { hardware with ris := hardware.ris && !value.getLsbD 0, misRead := false } := if_pos rfl

@[simp] theorem access_cfg (value : Word) :
    hardware.access timer active (.write (.gpt timer.registers .cfg) value) = hardware :=
  if_pos rfl

@[simp] theorem access_tailr (value : Word) :
    hardware.access timer active (.write (.gpt timer.registers .tailr) value) = hardware :=
  if_pos rfl

@[simp] theorem access_mis (value : Word) :
    hardware.access timer active (.read (.gpt timer.registers .mis) value) =
      { hardware with misRead := true } := if_pos rfl

@[simp] theorem access_iser0 (value : Word) :
    hardware.access timer active (.write (.nvic .iser0) value) =
      { hardware with enabled := hardware.enabled || value.getLsbD timer.irq } := rfl

@[simp] theorem access_icer0 (value : Word) :
    hardware.access timer active (.write (.nvic .icer0) value) =
      { hardware with enabled := hardware.enabled && !value.getLsbD timer.irq } := rfl

@[simp] theorem access_icpr0 (value : Word) :
    hardware.access timer active (.write (.nvic .icpr0) value) =
      if value.getLsbD timer.irq then
        { hardware with pending := hardware.pending && hardware.input }
      else hardware := rfl

@[simp] theorem access_dsbIsb :
    hardware.access timer active (.act .dsbIsb) =
      { hardware with gate := hardware.enabled } := rfl

@[simp] theorem access_nopNop :
    hardware.access timer active (.act .nopNop) =
      if hardware.misRead then hardware.sample active else hardware := rfl

@[simp] theorem access_fetchAdd :
    hardware.access timer active (.act (.fetchAdd timer.index)) =
      { hardware with count := hardware.count + 1 } := if_pos rfl

/-- The accesses that reach this instance. -/
inductive Touches : Access → Prop where
  | ctl (value : Word) : Touches (.write (.gpt timer.registers .ctl) value)
  | tamr (value : Word) : Touches (.write (.gpt timer.registers .tamr) value)
  | imr (value : Word) : Touches (.write (.gpt timer.registers .imr) value)
  | iclr (value : Word) : Touches (.write (.gpt timer.registers .iclr) value)
  | mis (value : Word) : Touches (.read (.gpt timer.registers .mis) value)
  | iser0 (value : Word) : Touches (.write (.nvic .iser0) value)
  | icer0 (value : Word) : Touches (.write (.nvic .icer0) value)
  | icpr0 (value : Word) : Touches (.write (.nvic .icpr0) value)
  | dsbIsb : Touches (.act .dsbIsb)
  | nopNop : Touches (.act .nopNop)
  | fetchAdd : Touches (.act (.fetchAdd timer.index))

theorem touches_or_access_eq (access : Access) :
    Touches timer access ∨ hardware.access timer active access = hardware := by
  cases access with
  | write register value =>
      cases register with
      | gpt block register =>
          by_cases own : block = timer.registers
          · subst own
            cases register with
            | ctl => exact .inl (.ctl value)
            | tamr => exact .inl (.tamr value)
            | imr => exact .inl (.imr value)
            | iclr => exact .inl (.iclr value)
            | cfg | mis | tailr | tav => exact .inr (if_pos rfl)
          · exact .inr (if_neg own)
      | nvic register =>
          cases register with
          | iser0 => exact .inl (.iser0 value)
          | icer0 => exact .inl (.icer0 value)
          | icpr0 => exact .inl (.icpr0 value)
          | ipr => exact .inr rfl
      | _ => exact .inr rfl
  | read register value =>
      cases register with
      | gpt block register =>
          cases register with
          | mis =>
              by_cases own : block = timer.registers
              · subst own
                exact .inl (.mis value)
              · exact .inr (if_neg own)
          | _ => exact .inr rfl
      | _ => exact .inr rfl
  | act action =>
      cases action with
      | dsbIsb => exact .inl .dsbIsb
      | nopNop => exact .inl .nopNop
      | fetchAdd index =>
          by_cases own : index = timer.index
          · subst own
            exact .inl .fetchAdd
          · exact .inr (if_neg own)
      | _ => exact .inr rfl

end Access

end Hardware

theorem irq_lt (timer : Timer.Instance) : timer.irq < 32 := by
  cases timer <;> decide

@[simp] theorem irqMask_irq (timer : Timer.Instance) :
    (Timer.ofInstance timer).irqMask.getLsbD timer.irq = true := by
  simp [Timer.ofInstance, irq_lt]

inductive Call where
  | stop
  | startPeriodicUs (microseconds : Word)
  | startOnceUs (microseconds : Word)
  deriving DecidableEq, Repr

def Call.code (timer : Timer.Instance) : Call → Driver (Except TimerError Unit)
  | .stop => do
      (Timer.ofInstance timer).stop
      return .ok ()
  | .startPeriodicUs microseconds => (Timer.ofInstance timer).startPeriodicUs microseconds
  | .startOnceUs microseconds => (Timer.ofInstance timer).startOnceUs microseconds

/-- What the foreground shares with the handler: the hardware, and the rest of the handler
while it is active. -/
structure Shared where
  hardware : Hardware
  handler : Option (Driver Unit)

inductive Label where
  | timeout
  | sample
  | synchronize
  | primask (masked : Bool)
  | enter
  | handler (access : Access)
  | leave
  | call (call : Call)
  | access (access : Access)
  | returned (call : Call) (result : Except TimerError Unit)

/-- A step of the hardware or the handler. -/
inductive Interference (timer : Timer.Instance) : Shared → Label → Shared → Prop where
  | timeout {shared : Shared} : shared.hardware.taen = true →
      Interference timer shared .timeout { shared with hardware := shared.hardware.timeout }
  | sample {shared : Shared} :
      Interference timer shared .sample
        { shared with hardware := shared.hardware.sample shared.handler.isSome }
  | synchronize {shared : Shared} :
      Interference timer shared .synchronize
        { shared with hardware := { shared.hardware with gate := shared.hardware.enabled } }
  | primask {shared : Shared} (masked : Bool) :
      Interference timer shared (.primask masked)
        { shared with hardware := { shared.hardware with primask := masked } }
  | enter {shared : Shared} {code : Driver Unit} : shared.handler = none →
      shared.hardware.gate = true → shared.hardware.pending = true →
      shared.hardware.primask = false → Startup.irqs timer.irq = .handler code →
      Interference timer shared .enter
        ⟨{ shared.hardware with pending := false }, some code⟩
  | handler {shared : Shared} {code rest : Driver Unit} {access : Access} :
      shared.handler = some code → Program.Step code access rest →
      Interference timer shared (.handler access)
        ⟨shared.hardware.access timer true access, some rest⟩
  | leave {shared : Shared} : shared.handler = some (.ret ()) →
      Interference timer shared .leave
        ⟨{ shared.hardware with pending := shared.hardware.pending || shared.hardware.input },
          none⟩

structure Machine where
  shared : Shared
  foreground : Option (Call × Driver (Except TimerError Unit))

/-- The foreground runs only while no handler is active. -/
inductive Step (timer : Timer.Instance) : Machine → Label → Machine → Prop where
  | interference {shared shared' : Shared} {label : Label}
      {foreground : Option (Call × Driver (Except TimerError Unit))} :
      Interference timer shared label shared' →
      Step timer ⟨shared, foreground⟩ label ⟨shared', foreground⟩
  | call {shared : Shared} (call : Call) : shared.handler = none →
      Step timer ⟨shared, none⟩ (.call call) ⟨shared, some (call, call.code timer)⟩
  | access {shared : Shared} {call : Call} {code rest : Driver (Except TimerError Unit)}
      {access : Access} : shared.handler = none → Program.Step code access rest →
      Step timer ⟨shared, some (call, code)⟩ (.access access)
        ⟨{ shared with hardware := shared.hardware.access timer false access },
          some (call, rest)⟩
  | returned {shared : Shared} {call : Call} {result : Except TimerError Unit} :
      shared.handler = none →
      Step timer ⟨shared, some (call, .ret result)⟩ (.returned call result) ⟨shared, none⟩

/-- Any hardware state, with no call in progress and no handler active. -/
def Initial (machine : Machine) : Prop :=
  machine.shared.handler = none ∧ machine.foreground = none

def Reachable (timer : Timer.Instance) (machine : Machine) : Prop :=
  ∃ first labels, Initial first ∧ Trace (Step timer) first labels machine

/-- The write of `arm` that starts the timer. -/
def starts (timer : Timer.Instance) : Label → Bool
  | .access (.write (.gpt block .ctl) value) =>
      decide (block = timer.registers) && value.getLsbD 0
  | _ => false

def isTimeout : Label → Bool
  | .timeout => true
  | _ => false

def isEnter : Label → Bool
  | .enter => true
  | _ => false

def acknowledges (timer : Timer.Instance) : Label → Bool
  | .handler (.act (.fetchAdd index)) => decide (index = timer.index)
  | _ => false

def timeouts (labels : List Label) : Nat := labels.countP isTimeout

def entries (labels : List Label) : Nat := labels.countP isEnter

def acknowledgements (timer : Timer.Instance) (labels : List Label) : Nat :=
  labels.countP (acknowledges timer)

end DirectLine.Firmware.TimerLine
