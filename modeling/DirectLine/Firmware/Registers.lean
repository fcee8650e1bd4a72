import DirectLine.Interaction.Contract
import DirectLine.Interaction.Word

/-!
# Registers of the CC1354P10

The registers, instructions and atomics the drivers use, under the names of the
register descriptions.  Field positions are those of the device's register XML.
-/

namespace DirectLine.Firmware

open DirectLine.Interaction

abbrev Word := BitVec 32

abbrev Byte := BitVec 8

inductive Prcm where
  | pdctl0 | pdstat0 | clkloadctl | gpioclkgr | gptclkgr | uartclkgr | gptclkdiv
  deriving DecidableEq, Repr

inductive GptBlock where
  | gpt0 | gpt1 | gpt2 | gpt3
  deriving DecidableEq, Repr

inductive Gpt where
  | cfg | tamr | ctl | imr | mis | iclr | tailr | tav
  deriving DecidableEq, Repr

/-- The NVIC words of interrupt bank 0, and the priority words of all banks. -/
inductive Nvic where
  | iser0 | icer0 | icpr0
  | ipr (word : Nat)
  deriving DecidableEq, Repr

inductive Gpio where
  | doutset | doutclr | douttgl | doe
  deriving DecidableEq, Repr

inductive UartBlock where
  | uart0 | uart1 | uart2 | uart3
  deriving DecidableEq, Repr

inductive UartRegister where
  | dr | fr | ecr | ibrd | fbrd | lcrh | ctl | imsc | dmactl
  deriving DecidableEq, Repr

/-- The oscillator registers, with the windows whose writes set or clear bits of `CTL0`. -/
inductive Ddi where
  | ctl0Set | ctl0Clr | stat0
  deriving DecidableEq, Repr

inductive AonPmctl where
  | pwrctl | resetctl
  deriving DecidableEq, Repr

inductive AonRtc where
  | ctl | chctl | evflags | sync
  deriving DecidableEq, Repr

inductive AuxSysif where
  | rtcsubsecinc0 | rtcsubsecinc1 | rtcsubsecincctl
  deriving DecidableEq, Repr

/-- The factory and customer configuration words that startup checks. -/
inductive Configuration where
  | icepickDeviceId | userId | modeConf
  deriving DecidableEq, Repr

instance fourInstances : NeZero 4 := ⟨by decide⟩

inductive Register where
  | prcm (register : Prcm)
  | gpt (block : GptBlock) (register : Gpt)
  | nvic (register : Nvic)
  | gpio (register : Gpio)
  | iocfg (dio : Nat)
  | uart (block : UartBlock) (register : UartRegister)
  | sleepctl
  | ioclatch
  | ddi (register : Ddi)
  | aonPmctl (register : AonPmctl)
  | aonRtc (register : AonRtc)
  | auxSysif (register : AuxSysif)
  | configuration (register : Configuration)
  | primask
  | timerInterrupts (index : Fin 4)
  deriving DecidableEq, Repr

inductive Instruction where
  | dsbIsb
  /-- Two `nop` instructions. -/
  | nopNop
  | enableInterrupts
  | disableInterrupts
  /-- Relaxed `fetch_add(1)` on a cell of `TIMER_INTERRUPTS`. -/
  | fetchAdd (index : Fin 4)
  /-- Relaxed `fetch_add(1)` on `BLINK_COUNT`. -/
  | countBlink
  /-- The ROM routine behind `ti_hf_source_safe_switch`. -/
  | hfSourceSafeSwitch
  /-- The vendor's `NOROM_SetupTrimDevice`. -/
  | setupTrimDevice
  deriving DecidableEq, Repr

abbrev Driver (Result : Type) := Program Register Instruction Word Result

abbrev Access := Event Register Instruction Word

open Program in
/-- `poll::wait_for`: attempts are counted, not elapsed time. -/
def waitFor (ready : Driver Bool) : Nat → Driver Unit
  | 0 => .panic "hardware handshake iteration budget exhausted"
  | iterations + 1 => do
      if ← ready then
        return ()
      waitFor ready iterations

theorem run_waitFor_exhausted {Result : Type} (register : Register) (ready : Word → Bool)
    (after : Unit → Driver Result) (values : List Word)
    (failed : ∀ value ∈ values, ready value = false) :
    Program.Run (waitFor (do return ready (← Program.readReg register)) values.length >>= after)
      (values.map (.read register))
      (.panic "hardware handshake iteration budget exhausted") := by
  induction values with
  | nil => exact .nil _
  | cons value values inductionHypothesis =>
      refine .cons (.read register _ value) ?_
      have rest := inductionHypothesis fun other member =>
        failed other (List.mem_cons_of_mem _ member)
      change Program.Run ((if ready value then .ret () else waitFor _ values.length) >>= after) _ _
      rw [failed value List.mem_cons_self, if_neg Bool.false_ne_true]
      exact rest

/-- A run of a bounded wait has seen failed attempts only, or has gone on after a successful
one. -/
theorem run_waitFor {Result : Type} {register : Register} {ready : Word → Bool}
    {after : Unit → Driver Result} {iterations : Nat} {trace : List Access} {last : Driver Result}
    (run : Program.Run
      (waitFor (do return ready (← Program.readReg register)) iterations >>= after) trace last) :
    (∃ values : List Word, values.length ≤ iterations ∧
      (∀ value ∈ values, ready value = false) ∧ trace = values.map (.read register) ∧
      last = waitFor (do return ready (← Program.readReg register))
        (iterations - values.length) >>= after) ∨
    ∃ (values : List Word) (later : List Access),
      trace = values.map (.read register) ++ later ∧ Program.Run (after ()) later last := by
  induction iterations generalizing trace with
  | zero =>
      obtain ⟨rfl, rfl⟩ := Program.run_panic_iff.mp run
      exact .inl ⟨[], le_rfl, nofun, rfl, rfl⟩
  | succ iterations inductionHypothesis =>
      rcases Program.run_read_iff.mp run with ⟨rfl, rfl⟩ | ⟨value, rest, rfl, remaining⟩
      · exact .inl ⟨[], Nat.zero_le _, nofun, rfl, rfl⟩
      · cases success : ready value with
        | true =>
            refine .inr ⟨[value], rest, rfl, ?_⟩
            change Program.Run ((if ready value then .ret () else waitFor _ iterations) >>= after)
              rest last at remaining
            rwa [success, if_pos rfl] at remaining
        | false =>
            change Program.Run ((if ready value then .ret () else waitFor _ iterations) >>= after)
              rest last at remaining
            rw [success, if_neg Bool.false_ne_true] at remaining
            rcases inductionHypothesis remaining with
              ⟨values, within, failed, rfl, rfl⟩ | ⟨values, later, rfl, passed⟩
            · refine .inl ⟨value :: values, Nat.succ_le_succ within, ?_, rfl, ?_⟩
              · intro other member
                rcases List.mem_cons.mp member with rfl | member
                · exact success
                · exact failed other member
              · rw [List.length_cons, Nat.succ_sub_succ]
            · exact .inr ⟨value :: values, later, rfl, passed⟩

theorem confined_waitFor {allowed : Access → Prop} {stops : String → Prop} {ready : Driver Bool}
    (confined : ready.Confined allowed stops)
    (budget : stops "hardware handshake iteration budget exhausted") (iterations : Nat) :
    (waitFor ready iterations).Confined allowed stops := by
  induction iterations with
  | zero => exact budget
  | succ iterations inductionHypothesis =>
      refine confined.bind fun done => ?_
      cases done with
      | true => exact True.intro
      | false => exact inductionHypothesis

theorem meets_waitFor {State : Type} {setting : Setting Register Instruction Word State}
    {post : Unit → State → Prop} {fail : String → State → Prop} {ready : Driver Bool}
    (assertion : State → Prop)
    (attempt : ∀ state, assertion state →
      setting.Meets (fun done state =>
        if done then setting.Meets post fail (.ret ()) state else assertion state) fail ready
        state)
    (budget : ∀ state, assertion state →
      setting.Meets post fail (.panic "hardware handshake iteration budget exhausted") state)
    (iterations : Nat) {state : State} (holds : assertion state) :
    setting.Meets post fail (waitFor ready iterations) state := by
  induction iterations generalizing state with
  | zero => exact budget state holds
  | succ iterations inductionHypothesis =>
      apply Setting.Meets.bind
      refine (attempt state holds).mono ?_ (fun _ _ failed => failed)
      intro done state finished
      cases done with
      | true => simpa using finished
      | false =>
          simp only [Bool.false_eq_true, ↓reduceIte] at finished ⊢
          exact inductionHypothesis finished

theorem meets_waitFor_register {State : Type} {setting : Setting Register Instruction Word State}
    {post : Unit → State → Prop} {fail : String → State → Prop} (register : Register)
    (ready : Word → Bool) {waiting done : State → Prop} (waits : setting.Stable waiting)
    (stays : setting.Stable done)
    (answer : ∀ state value state', waiting state →
      setting.device state (.read register value) state' →
        setting.guarantee state (.read register value) state' ∧
          if ready value then done state' else waiting state')
    (posts : ∀ state, done state → post () state)
    (budget : ∀ state, waiting state → fail "hardware handshake iteration budget exhausted" state)
    (iterations : Nat) {state : State} (holds : waiting state) :
    setting.Meets post fail (waitFor (do return ready (← Program.readReg register)) iterations)
      state := by
  refine meets_waitFor waiting (fun state holds => ?_) (fun state holds => ?_) iterations holds
  · refine .read waits holds fun state value state' holds moved => ?_
    obtain ⟨guarantee, answered⟩ := answer state value state' holds moved
    refine ⟨guarantee, ?_⟩
    cases success : ready value with
    | true =>
        rw [success, if_pos rfl] at answered
        refine .ret stays answered fun _ finish => ?_
        rw [if_pos success]
        exact .ret stays finish posts
    | false =>
        rw [success, if_neg Bool.false_ne_true] at answered
        refine .ret waits answered fun _ holds => ?_
        rwa [success, if_neg Bool.false_ne_true]
  · exact fun _ steps => budget _ (waits.closure holds steps)

end DirectLine.Firmware
