import DirectLine.Firmware.Supply.Rehearsal

/-!
# Composing constructions

Each construction adds its own bits to the shared words and leaves every clock
setting loaded; the rest of it does not touch the PRCM.  A list of constructions
therefore adds the union of their bits, whatever their order.
-/

namespace DirectLine.Firmware.Supply

open DirectLine.Interaction Acquisition

@[simp] theorem needed_nil (setting : Prcm) : needed [] setting = 0 := rfl

@[simp] theorem needed_cons (construction : Construction) (constructions : List Construction)
    (setting : Prcm) :
    needed (construction :: constructions) setting =
      construction.needs setting ||| needed constructions setting := rfl

theorem getLsbD_needed (constructions : List Construction) (setting : Prcm) (index : Nat) :
    (needed constructions setting).getLsbD index = true ↔
      ∃ construction ∈ constructions, (construction.needs setting).getLsbD index = true := by
  induction constructions with
  | nil => simp
  | cons construction constructions inductionHypothesis =>
      rw [needed_cons, BitVec.getLsbD_or, Bool.or_eq_true, inductionHypothesis]
      simp

/-- Neither the order nor the number of times a construction is made matters. -/
theorem needed_congr {constructions others : List Construction}
    (members : ∀ construction, construction ∈ others ↔ construction ∈ constructions)
    (setting : Prcm) : needed others setting = needed constructions setting := by
  apply BitVec.eq_of_getLsbD_eq
  intro index _
  rw [Bool.eq_iff_iff, getLsbD_needed, getLsbD_needed]
  simp only [members]

def Spares : Access → Prop
  | .read (.prcm _) _ | .write (.prcm _) _ => False
  | _ => True

theorem access_spares {control control' : PowerControl} {access : Access}
    (spares : Spares access) (moved : control.access access control') : control' = control := by
  cases access with
  | read register value =>
      cases register with
      | prcm => exact spares.elim
      | _ => exact moved
  | write register value =>
      cases register with
      | prcm => exact spares.elim
      | _ => exact moved
  | act => exact moved

structure InForce (words : Prcm → Word) (control : PowerControl) : Prop where
  words : control.words = words
  loaded : control.Loaded

section Constructions

variable {Result : Type} {words : Prcm → Word} {control : PowerControl}

theorem stable_inForce (words : Prcm → Word) : supplying.Stable (InForce words) := by
  rintro control control' ⟨same, -⟩ loads
  exact ⟨stable_words words _ _ same loads, Loaded.loads loads⟩

theorem meets_spares {program : Driver Result}
    (confined : program.Confined Spares fun _ => False) (here : InForce words control) :
    Supplies (fun _ => InForce words) program control := by
  refine .confined confined (stable_inForce words) here ?_ (fun _ _ here => here)
    (fun _ _ impossible => impossible.elim)
  rintro control access control' spares here moved
  obtain rfl := access_spares spares moved
  exact ⟨.refl _, here⟩

def supplied (words : Prcm → Word) (domain : Nat) (gate : Prcm) (bits : Word) : Prcm → Word :=
  request (request words .pdctl0 (Word.bit 32 domain)) gate bits

/-- A construction requests its domain, then its clock, then spares the PRCM. -/
theorem meets_supplied {Next : Type} {domain : Nat} {gate : Prcm} {bits : Word}
    {clocks : Driver Unit} {rest : Unit → Driver Next} (here : control.words = words)
    (requests : ∀ words control, control.words = words →
      Supplies (fun _ => InForce (request words gate bits)) clocks control)
    (confined : (rest ()).Confined Spares fun _ => False) :
    Supplies (fun _ => InForce (supplied words domain gate bits))
      (Prcm.powerDomain domain >>= fun _ => clocks >>= rest) control :=
  .bind <| meets_powerDomain here fun control here =>
    .bind <| (requests _ control here).mono (fun _ _ here => meets_spares confined here)
      fun _ _ failed => failed

theorem meets_enableTimerClock (gpt : Timer.Instance) (here : control.words = words) :
    Supplies (fun _ => InForce (request words .gptclkgr gpt.clockMask))
      (Prcm.enableTimerClocks gpt.clockMask) control :=
  meets_enableClocks rfl nofun (by cases gpt <;> rfl) here fun _ => .mk

theorem meets_configureOutput (dio : Nat) (here : control.words = words) :
    Supplies (fun _ => InForce (supplied words Prcm.periphOn .gpioclkgr (Word.bit 32 0)))
      (Gpio.configureOutput dio) control := by
  by_cases valid : dio < 32
  · simp only [Gpio.configureOutput, Ioc.config, valid, decide_true, Program.assert_true,
      Program.ret_bind, Program.pure_eq]
    refine meets_supplied here (fun _ _ here => meets_enableGpioClock here fun _ => .mk) ?_
    simp [Program.Confined, Spares]
  · simp only [Gpio.configureOutput, Ioc.config, valid, decide_false]
    exact fun _ _ => .inr rfl

theorem meets_initializeCounter (gpt : Timer.Instance) (here : control.words = words) :
    Supplies (fun _ => InForce (supplied words Prcm.periphOn .gptclkgr gpt.clockMask))
      (Counter.initializeCounter gpt) control := by
  simp only [Counter.initializeCounter, Timer.Instance.enableClock, bind_assoc]
  refine meets_supplied here (fun _ _ => meets_enableTimerClock gpt) ?_
  simp [Program.Confined, Spares]

theorem meets_initializeTimer (gpt : Timer.Instance) (here : control.words = words) :
    Supplies (fun _ => InForce (supplied words Prcm.periphOn .gptclkgr gpt.clockMask))
      (Timer.initializeTimer gpt) control := by
  have inRange : gpt.irq < Interrupts.irqCount := by cases gpt <;> decide
  simp only [Timer.initializeTimer, Timer.Instance.enableClock, bind_assoc,
    Interrupts.setPriority_eq inRange (show (2 : Word) < Interrupts.priorityLevels by decide)]
  refine meets_supplied here (fun _ _ => meets_enableTimerClock gpt) ?_
  simp [Program.Confined, Spares, Timer.stop, Timer.clearTimeout]

theorem meets_initializeUart {block : Uart.Instance} {rxDio txDio : Nat} {baud : Word}
    (valid : (Construction.uart block rxDio txDio baud).Valid) (here : control.words = words) :
    Supplies
      (fun _ => InForce (supplied words (Construction.uart block rxDio txDio baud).domain
        .uartclkgr block.clockMask))
      (Uart.initializeUart block rxDio txDio baud) control := by
  obtain ⟨rxValid, txValid, distinct, accepted⟩ := valid
  obtain ⟨divisors, accepted⟩ := Option.isSome_iff_exists.mp accepted
  have power : block.enablePower =
      Prcm.powerDomain (Construction.uart block rxDio txDio baud).domain := by
    cases block <;> rfl
  simp only [Uart.initializeUart, accepted, Ioc.config, rxValid, txValid, decide_true,
    bne_iff_ne.mpr distinct, Program.assert_true, Program.ret_bind, Program.pure_eq, power]
  refine meets_supplied here
    (fun _ _ here => meets_enableClocks rfl nofun (by cases block <;> rfl) here fun _ => .mk) ?_
  simp [Program.Confined, Spares, Uart.configureUart]

def joined (words bits : Prcm → Word) : Prcm → Word :=
  fun setting => words setting ||| bits setting

theorem supplied_eq (construction : Construction) (words : Prcm → Word) :
    supplied words construction.domain construction.gate construction.clock =
      joined words construction.needs := by
  have gate : construction.gate ≠ .pdctl0 := by cases construction <;> exact nofun
  funext setting
  simp only [supplied, request, joined, Construction.needs]
  by_cases clock : setting = construction.gate
  · subst clock
    simp [gate]
  · by_cases power : setting = .pdctl0
    · subst power
      simp [clock]
    · simp [clock, power]

/-- A construction adds what it needs and leaves every clock setting loaded. -/
theorem meets_code {construction : Construction} (valid : construction.Valid)
    (here : control.words = words) :
    Supplies (fun _ => InForce (joined words construction.needs)) construction.code control := by
  have finish : ∀ {words : Prcm → Word} {control : PowerControl}, InForce words control →
      Supplies (fun _ => InForce words) (.ret () : Driver Unit) control :=
    fun here => .ret (stable_inForce _) here fun _ here => here
  rw [← supplied_eq]
  cases construction with
  | output dio =>
      exact .bind ((meets_configureOutput dio here).mono (fun _ _ => finish) fun _ _ => id)
  | counter gpt =>
      exact .bind ((meets_initializeCounter gpt here).mono (fun _ _ => finish) fun _ _ => id)
  | timer gpt =>
      exact .bind ((meets_initializeTimer gpt here).mono (fun _ _ => finish) fun _ _ => id)
  | uart block rxDio txDio baud =>
      exact .bind ((meets_initializeUart valid here).mono (fun _ _ => finish) fun _ _ => id)

theorem meets_constructAll {constructions : List Construction}
    (valid : ∀ construction ∈ constructions, construction.Valid) (here : control.words = words) :
    Supplies
      (fun _ control' => control'.words = joined words (needed constructions) ∧
        ((constructions = [] → control.Loaded) → control'.Loaded))
      (constructAll constructions) control := by
  induction constructions generalizing words control with
  | nil =>
      have stable : supplying.Stable fun control' =>
          control'.words = words ∧ (control.Loaded → control'.Loaded) := by
        rintro state state' ⟨same, -⟩ loads
        exact ⟨stable_words words _ _ same loads, fun _ => Loaded.loads loads⟩
      refine .ret stable ⟨here, id⟩ ?_
      rintro state ⟨same, loaded⟩
      refine ⟨same.trans ?_, fun kept => loaded (kept rfl)⟩
      funext setting
      simp [joined]
  | cons construction constructions inductionHypothesis =>
      have first := meets_code (valid construction List.mem_cons_self) here
      refine .bind (first.mono (fun _ state here => ?_) fun _ _ => id)
      have rest := inductionHypothesis
        (fun other member => valid other (List.mem_cons_of_mem _ member)) here.words
      refine rest.mono (fun _ state' finished => ⟨?_, fun _ => ?_⟩) fun _ _ => id
      · rw [finished.1]
        funext setting
        simp only [joined, needed_cons, BitVec.or_assoc]
      · exact finished.2 fun _ => here.loaded

section Runs

variable {constructions : List Construction} {start : PowerControl}
variable {point : Point Register Instruction Word PowerControl Unit}

theorem meets_reached (valid : ∀ construction ∈ constructions, construction.Valid)
    (reaches : constructing.Reaches ⟨constructAll constructions, start⟩ point) :
    Supplies
      (fun _ control => control.words = joined start.words (needed constructions) ∧
        ((constructions = [] → start.Loaded) → control.Loaded))
      point.program point.state :=
  reaches.meets (fun _ _ _ _ => False.elim) (meets_constructAll valid rfl)

theorem grows_access (valid : ∀ construction ∈ constructions, construction.Valid)
    (reaches : constructing.Reaches ⟨constructAll constructions, start⟩ point)
    {access : Access} {next : Driver Unit} {state : PowerControl}
    (taken : Program.Step point.program access next)
    (moved : point.state.access access state) : point.state.Grows state :=
  ((meets_reached valid reaches).access taken moved).1

theorem grows_reached (valid : ∀ construction ∈ constructions, construction.Valid)
    (reaches : constructing.Reaches ⟨constructAll constructions, start⟩ point) :
    start.Grows point.state := by
  induction reaches with
  | refl => exact .refl _
  | tail reaches step inductionHypothesis =>
      cases step with
      | access taken moved =>
          exact inductionHypothesis.trans (grows_access valid reaches taken moved)
      | relied loads => exact inductionHypothesis.trans (.of_eq (by rw [loads.2]))
      | follow next => exact next.elim

end Runs

end Constructions

/-- From any state of the PRCM, constructions in any order clear no bit at any point, and when
all have returned each word has exactly the needed bits added, in force; the words depend on
which constructions were made and on nothing else. -/
theorem constructions_compose (constructions : List Construction)
    (valid : ∀ construction ∈ constructions, construction.Valid) (start : PowerControl)
    (point : Point Register Instruction Word PowerControl Unit)
    (reaches : constructing.Reaches ⟨constructAll constructions, start⟩ point) :
    start.Grows point.state ∧
    (∀ access next state, Program.Step point.program access next →
      point.state.access access state → point.state.Grows state) ∧
    (∀ message, point.program = .panic message → Stops message) ∧
    (point.program = .ret () →
      (∀ setting, point.state.words setting =
        start.words setting ||| needed constructions setting) ∧
      ((constructions = [] → start.Loaded) → point.state.Loaded) ∧
      ∀ others last, (∀ construction, construction ∈ others ↔ construction ∈ constructions) →
        constructing.Reaches ⟨constructAll others, start⟩ last → last.program = .ret () →
        last.state.words = point.state.words) := by
  have meets := meets_reached valid reaches
  refine ⟨grows_reached valid reaches, fun _ _ _ => grows_access valid reaches, ?_, ?_⟩
  · intro message stopped
    rw [stopped] at meets
    exact meets _ .refl
  · intro returned
    rw [returned] at meets
    obtain ⟨words, loaded⟩ := meets.returned
    refine ⟨congrFun words, loaded, fun others last members reaches' returned' => ?_⟩
    have valid' : ∀ construction ∈ others, construction.Valid :=
      fun construction member => valid construction ((members construction).mp member)
    have meets' := meets_reached valid' reaches'
    rw [returned'] at meets'
    rw [words, meets'.returned.1]
    funext setting
    rw [joined, joined, needed_congr members]

def unrequested : PowerControl := ⟨fun _ => 0, fun _ => 0, false, false⟩

/-- A PRCM in use: another domain, gates and the timers' divider are set. -/
def occupied : PowerControl :=
  { unrequested with
    words := fun
      | .pdctl0 => 1
      | .gpioclkgr => 0x100
      | .gptclkgr => 8
      | .gptclkdiv => 3
      | _ => 0 }

/-- Two outputs on one pin, and drivers of three other kinds of clocks and domains. -/
def shared : List Construction :=
  [.output 6, .uart .uart0 12 13 115200, .timer .gpt1, .output 6]

def rehearsal : Stage Register Instruction Word PowerControl Empty where
  answer
    | _, control, .prcm setting => answer control setting
    | _, _, _ => 0
  access control access := some (take control access)
  cue _ impossible := impossible.elim

theorem faithful_rehearsal : rehearsal.Faithful constructing where
  access past control access control' answered moved := by
    cases moved
    exact exists_taken fun setting value _ same => answered (.prcm setting) value same
  cue _ impossible := impossible.elim

theorem valid_shared : ∀ construction ∈ shared, construction.Valid := by
  intro construction member
  simp only [shared, List.mem_cons, List.not_mem_nil, or_false] at member
  rcases member with rfl | rfl | rfl | rfl
  · trivial
  · exact ⟨by decide, by decide, by decide, by decide⟩
  · trivial
  · trivial

theorem exists_constructed :
    ∃ control, constructing.Reaches ⟨constructAll shared, occupied⟩ ⟨.ret (), control⟩ := by
  have returns : (rehearsal.perform [.accesses 56] ⟨constructAll shared, occupied⟩).isSome = true :=
    by decide +kernel
  obtain ⟨⟨⟨⟩, control⟩, performed⟩ := Option.isSome_iff_exists.mp returns
  exact ⟨control, faithful_rehearsal.reaches_perform performed⟩

theorem constructions_compose_shared :
    ∃ control, constructing.Reaches ⟨constructAll shared, occupied⟩ ⟨.ret (), control⟩ ∧
      control.words .pdctl0 = 7 ∧ control.words .gpioclkgr = 0x101 ∧
      control.words .gptclkgr = 0xa ∧ control.words .uartclkgr = 1 ∧
      control.words .gptclkdiv = 3 ∧ control.Loaded := by
  obtain ⟨control, reaches⟩ := exists_constructed
  obtain ⟨-, -, -, finished⟩ := constructions_compose shared valid_shared occupied _ reaches
  obtain ⟨words, loaded, -⟩ := finished rfl
  exact ⟨control, reaches, (words _).trans (by decide), (words _).trans (by decide),
    (words _).trans (by decide), (words _).trans (by decide), (words _).trans (by decide),
    loaded fun empty => (by cases empty)⟩

end DirectLine.Firmware.Supply
