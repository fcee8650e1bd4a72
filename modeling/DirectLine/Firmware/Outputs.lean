import DirectLine.Firmware.Gpio
import DirectLine.Interaction.Transition

/-!
# Outputs of several contexts

Any number of contexts call `configure_output`, `set` and `toggle`, one register
access at a time.  Configurations do not preempt each other; a handle exists once
its pin is configured.  A call acts on the latches by exactly one of its
accesses, and `acted` lists the calls in that order.
-/

namespace DirectLine.Firmware.Outputs

open DirectLine.Interaction

/-- The output latches and the output enables. -/
structure Ports where
  dout : Word
  doe : Word

namespace Ports

def access (ports : Ports) (access : Access) : Ports where
  dout := Gpio.latches ports.dout access
  doe :=
    match access with
    | .write (.gpio .doe) value => value
    | _ => ports.doe

/-- A read of the output enables is answered with them; other registers answer at will. -/
def Answers (ports : Ports) : Access → Prop
  | .read (.gpio .doe) value => value = ports.doe
  | _ => True

end Ports

def acts : Access → Bool
  | .write (.gpio .doutset) _ | .write (.gpio .doutclr) _ | .write (.gpio .douttgl) _ => true
  | _ => false

inductive Call where
  | configureOutput (dio : Nat)
  | set (pin : OutputPin) (high : Bool)
  | toggle (pin : OutputPin)
  deriving DecidableEq

namespace Call

def code : Call → Driver (Option OutputPin)
  | configureOutput dio => do
      let pin ← Gpio.configureOutput dio
      return some pin
  | set pin high => do
      pin.set high
      return none
  | toggle pin => do
      pin.toggle
      return none

def pin : Call → Option OutputPin
  | configureOutput _ => none
  | set pin _ | toggle pin => some pin

def configures : Call → Bool
  | configureOutput _ => true
  | set _ _ | toggle _ => false

def names (dio : Nat) : Call → Bool
  | configureOutput other => other = dio
  | set pin _ | toggle pin => pin = ⟨Word.bit 32 dio⟩

/-- What a call does to the level of its pin. -/
def level : Call → Bool → Bool
  | configureOutput _, _ => false
  | set _ high, _ => high
  | toggle _, level => !level

def act : Call → Word → Word
  | configureOutput dio, dout => dout &&& ~~~Word.bit 32 dio
  | set pin high, dout => if high then dout ||| pin.mask else dout &&& ~~~pin.mask
  | toggle pin, dout => dout ^^^ pin.mask

end Call

structure Machine (Context : Type) where
  ports : Ports
  handles : List OutputPin
  running : Context → Option (Call × Driver (Option OutputPin))

inductive Label (Context : Type) where
  | begin (context : Context) (call : Call)
  | access (context : Context) (call : Call) (access : Access)
  | finish (context : Context) (call : Call)

section Contexts

variable {Context : Type} [DecidableEq Context]

inductive Step : Machine Context → Label Context → Machine Context → Prop where
  | begin {machine : Machine Context} (context : Context) (call : Call) :
      machine.running context = none → (∀ pin, call.pin = some pin → pin ∈ machine.handles) →
      (call.configures = true → ∀ other running code,
        machine.running other = some (running, code) → running.configures = false) →
      Step machine (.begin context call)
        { machine with
          running := Function.update machine.running context (some (call, call.code)) }
  | access {machine : Machine Context} (context : Context) {call : Call}
      {code rest : Driver (Option OutputPin)} {access : Access} :
      machine.running context = some (call, code) → Program.Step code access rest →
      machine.ports.Answers access →
      Step machine (.access context call access)
        { machine with
          ports := machine.ports.access access
          running := Function.update machine.running context (some (call, rest)) }
  | finish {machine : Machine Context} (context : Context) {call : Call}
      {pin : Option OutputPin} :
      machine.running context = some (call, .ret pin) →
      Step machine (.finish context call)
        { machine with
          handles := machine.handles ++ pin.toList
          running := Function.update machine.running context none }

def Label.acted : Label Context → List (Context × Call)
  | .access context call event => if acts event then [(context, call)] else []
  | _ => []

/-- The calls in the order in which they acted on the latches. -/
def acted (labels : List (Label Context)) : List (Context × Call) := labels.flatMap Label.acted

def Label.begun (context : Context) : Label Context → List Call
  | .begin other call => if other = context then [call] else []
  | _ => []

def begun (context : Context) (labels : List (Label Context)) : List Call :=
  labels.flatMap (Label.begun context)

def callsOf (context : Context) (calls : List (Context × Call)) : List Call :=
  (calls.filter fun acted => acted.1 = context).map Prod.snd

end Contexts

def Held (ports : Ports) (pin : OutputPin) : Prop :=
  ∃ dio < 32, pin = ⟨Word.bit 32 dio⟩ ∧ ports.doe.getLsbD dio = true

/-- No call is in progress, and every handle there is came from a configuration. -/
structure Idle {Context : Type} (machine : Machine Context) : Prop where
  running : ∀ context, machine.running context = none
  handles : ∀ pin ∈ machine.handles, Held machine.ports pin

def OnPrcm : Access → Prop
  | .read (.prcm _) _ | .write (.prcm _) _ => True
  | _ => False

/-- A configuration once power and clock are there. -/
def enable (dio : Nat) : Driver (Option OutputPin) :=
  .write (.gpio .doutclr) (Word.bit 32 dio) <|
    .write (.iocfg dio) (Ioc.setPullCtl (Ioc.setPortId 0 Ioc.gpio) Ioc.noPull) <|
      .read (.gpio .doe) fun doe =>
        .write (.gpio .doe) (doe ||| Word.bit 32 dio) (.ret (some ⟨Word.bit 32 dio⟩))

def Low (ports : Ports) (dio : Nat) : Prop :=
  ports.doe.getLsbD dio = false → ports.dout.getLsbD dio = false

/-- What is left of a call, and whether it has yet to act on the latches. -/
inductive Stage (ports : Ports) : Call → List Call → Driver (Option OutputPin) → Prop where
  | called {call : Call} {pin : OutputPin} :
      call.pin = some pin → Held ports pin → Stage ports call [call] call.code
  | done {call : Call} {pin : OutputPin} :
      call.pin = some pin → Stage ports call [] (.ret none)
  | refused {dio : Nat} {message : String} :
      Stage ports (.configureOutput dio) [.configureOutput dio] (.panic message)
  | supplying {dio : Nat} {supply : Driver Unit} :
      dio < 32 → supply.Confined OnPrcm (fun _ => True) →
      Stage ports (.configureOutput dio) [.configureOutput dio] (supply >>= fun _ => enable dio)
  | lowered {dio : Nat} :
      dio < 32 → Low ports dio →
      Stage ports (.configureOutput dio) []
        (.write (.iocfg dio) (Ioc.setPullCtl (Ioc.setPortId 0 Ioc.gpio) Ioc.noPull) <|
          .read (.gpio .doe) fun doe =>
            .write (.gpio .doe) (doe ||| Word.bit 32 dio) (.ret (some ⟨Word.bit 32 dio⟩)))
  | routed {dio : Nat} :
      dio < 32 → Low ports dio →
      Stage ports (.configureOutput dio) []
        (.read (.gpio .doe) fun doe =>
          .write (.gpio .doe) (doe ||| Word.bit 32 dio) (.ret (some ⟨Word.bit 32 dio⟩)))
  | enabling {dio : Nat} :
      dio < 32 → Low ports dio →
      Stage ports (.configureOutput dio) []
        (.write (.gpio .doe) (ports.doe ||| Word.bit 32 dio) (.ret (some ⟨Word.bit 32 dio⟩)))
  | enabled {dio : Nat} :
      dio < 32 → ports.doe.getLsbD dio = true →
      Stage ports (.configureOutput dio) [] (.ret (some ⟨Word.bit 32 dio⟩))

structure Effect (ports : Ports) (call : Call) (access : Access) (ports' : Ports) : Prop where
  dout : ports'.dout = if acts access then call.act ports.dout else ports.dout
  /-- Only the last write of a configuration changes the output enables. -/
  doe : (ports'.doe = ports.doe ∧ ∀ value, access ≠ .write (.gpio .doe) value) ∨
    ∃ dio < 32, call = .configureOutput dio ∧
      (∃ value, access = .write (.gpio .doe) value) ∧ Low ports dio ∧
      ports'.doe = ports.doe ||| Word.bit 32 dio
  held : ∀ pin, call.pin = some pin → acts access = true → Held ports pin

section Stages

variable {ports : Ports} {call : Call} {todo : List Call} {code next : Driver (Option OutputPin)}
variable {access : Access} {dio : Nat}

theorem confined_supply :
    (Prcm.powerPeriph >>= fun _ => Prcm.enableGpioClock).Confined OnPrcm fun _ => True := by
  have reads : ∀ status bit, (Prcm.statusFlag status bit).Confined OnPrcm fun _ => True :=
    fun _ _ _ => ⟨trivial, trivial⟩
  refine .bind ?_ fun _ => ?_
  · exact fun _ => ⟨trivial, trivial, confined_waitFor (reads _ _) trivial _⟩
  · exact fun _ => ⟨trivial, trivial, trivial, confined_waitFor (reads _ _) trivial _⟩

theorem stage_begin (pins : ∀ pin, call.pin = some pin → Held ports pin) :
    Stage ports call [call] call.code := by
  cases call with
  | set pin high => exact .called rfl (pins pin rfl)
  | toggle pin => exact .called rfl (pins pin rfl)
  | configureOutput dio =>
      by_cases valid : dio < 32
      · have supplied : (Call.configureOutput dio).code =
            (Prcm.powerPeriph >>= fun _ => Prcm.enableGpioClock) >>= fun _ => enable dio := by
          simp only [Call.code, Gpio.configureOutput, Ioc.config, valid, decide_true,
            Program.assert_true, Program.ret_bind, Program.pure_eq, bind_assoc]
          rfl
        rw [supplied]
        exact .supplying valid confined_supply
      · have refused : (Call.configureOutput dio).code =
            .panic "only DIO0–31 are supported" := by
          simp only [Call.code, Gpio.configureOutput, Ioc.config, valid, decide_false]
          rfl
        rw [refused]
        exact .refused

theorem access_spares (plain : acts access = false)
    (other : ∀ value, access ≠ .write (.gpio .doe) value) : ports.access access = ports := by
  cases access with
  | read | act => rfl
  | write register value =>
      cases register with
      | gpio register =>
          cases register with
          | doe => exact absurd rfl (other value)
          | doutset | doutclr | douttgl => cases plain
      | _ => rfl

theorem effect_spares (plain : acts access = false)
    (other : ∀ value, access ≠ .write (.gpio .doe) value) :
    Effect ports call access (ports.access access) := by
  rw [access_spares plain other]
  refine ⟨?_, .inl ⟨rfl, other⟩, fun pin _ loud => ?_⟩
  · rw [plain, if_neg Bool.false_ne_true]
  · rw [plain] at loud
    cases loud

theorem onPrcm_plain (onPrcm : OnPrcm access) :
    acts access = false ∧ ∀ value, access ≠ .write (.gpio .doe) value := by
  cases access with
  | read | act => exact ⟨rfl, nofun⟩
  | write register value =>
      cases register with
      | prcm => exact ⟨rfl, nofun⟩
      | _ => cases onPrcm

theorem step_called {pin : OutputPin} (handle : call.pin = some pin) (held : Held ports pin)
    (step : Program.Step call.code access next) :
    Effect ports call access (ports.access access) ∧ acts access = true ∧ next = .ret none := by
  cases call with
  | configureOutput => cases handle
  | set pin high =>
      cases handle
      cases high with
      | true =>
          cases step
          exact ⟨⟨rfl, .inl ⟨rfl, nofun⟩, fun _ same _ => Option.some.inj same ▸ held⟩, rfl, rfl⟩
      | false =>
          cases step
          exact ⟨⟨rfl, .inl ⟨rfl, nofun⟩, fun _ same _ => Option.some.inj same ▸ held⟩, rfl, rfl⟩
  | toggle pin =>
      cases handle
      cases step
      exact ⟨⟨rfl, .inl ⟨rfl, nofun⟩, fun _ same _ => Option.some.inj same ▸ held⟩, rfl, rfl⟩

/-- What an access of a call does, and what is left of the call. -/
theorem Stage.step (stage : Stage ports call todo code) (step : Program.Step code access next)
    (answers : ports.Answers access) :
    Effect ports call access (ports.access access) ∧
      ∃ todo', todo = (if acts access then [call] else []) ++ todo' ∧
        Stage (ports.access access) call todo' next := by
  cases stage with
  | called handle held =>
      obtain ⟨effect, loud, rfl⟩ := step_called handle held step
      refine ⟨effect, [], ?_, .done handle⟩
      rw [loud]
      rfl
  | done | refused | enabled => cases step
  | @supplying dio supply valid confined =>
      rcases step.of_bind with ⟨result, rfl, step⟩ | ⟨rest, taken, rfl⟩
      · cases step
        refine ⟨⟨rfl, .inl ⟨rfl, nofun⟩, nofun⟩, [], rfl, .lowered valid fun _ => ?_⟩
        simp [Ports.access, Gpio.latches, valid]
      · obtain ⟨onPrcm, left⟩ := confined.step taken
        obtain ⟨plain, other⟩ := onPrcm_plain onPrcm
        refine ⟨effect_spares plain other, [.configureOutput dio], ?_, ?_⟩
        · rw [plain]
          rfl
        · rw [access_spares plain other]
          exact .supplying valid left
  | lowered valid low =>
      cases step
      exact ⟨effect_spares rfl nofun, [], rfl, .routed valid low⟩
  | routed valid low =>
      cases step
      have same : _ = ports.doe := answers
      subst same
      exact ⟨effect_spares rfl nofun, [], rfl, .enabling valid low⟩
  | @enabling dio valid low =>
      cases step
      refine ⟨⟨rfl, .inr ⟨dio, valid, rfl, ⟨_, rfl⟩, low, rfl⟩, nofun⟩, [], rfl, .enabled valid ?_⟩
      simp [Ports.access, valid]

theorem Effect.enabled {ports' : Ports} (effect : Effect ports call access ports')
    (enabled : ports.doe.getLsbD dio = true) : ports'.doe.getLsbD dio = true := by
  rcases effect.doe with ⟨same, -⟩ | ⟨other, -, -, -, -, grown⟩
  · rw [same, enabled]
  · rw [grown, BitVec.getLsbD_or, enabled, Bool.true_or]

theorem Effect.held_mono {ports' : Ports} (effect : Effect ports call access ports')
    {pin : OutputPin} (held : Held ports pin) : Held ports' pin := by
  obtain ⟨dio, valid, rfl, enabled⟩ := held
  exact ⟨dio, valid, rfl, effect.enabled enabled⟩

theorem Stage.returned {pin : Option OutputPin} (stage : Stage ports call todo (.ret pin)) :
    todo = [] ∧ (∀ handle ∈ pin, Held ports handle) ∧
      ∀ dio, call = .configureOutput dio → dio < 32 ∧ ports.doe.getLsbD dio = true := by
  generalize left : (.ret pin : Driver (Option OutputPin)) = code at stage
  cases stage with
  | called given held =>
      cases call with
      | configureOutput => cases given
      | set pin high => cases high <;> cases left
      | toggle => cases left
  | done handle =>
      cases left
      refine ⟨rfl, nofun, ?_⟩
      rintro dio rfl
      cases handle
  | refused | lowered | routed | enabling => cases left
  | @supplying dio supply => cases supply <;> cases left
  | @enabled dio valid enabled =>
      cases left
      refine ⟨rfl, ?_, ?_⟩
      · rintro handle ⟨⟩
        exact ⟨dio, valid, rfl, enabled⟩
      · rintro other ⟨⟩
        exact ⟨valid, enabled⟩

end Stages

end DirectLine.Firmware.Outputs
