import DirectLine.Firmware.Acquisition.Order
import DirectLine.Interaction.Script

/-!
# Initialization of a UART

Every run of `Uart::initialize` under an arbitrary device.  A run that gets
past the power and clock handshakes makes a fixed list of writes; the registers
of the pins and of the UART are plain words.
-/

namespace DirectLine.Firmware.Uart

open DirectLine.Interaction DirectLine.Interaction.Program

inductive Supplying : Access → Prop where
  | read (register : Prcm) (value : Word) : Supplying (.read (.prcm register) value)
  | power (value : Word) : Supplying (.write (.prcm .pdctl0) value)
  | gate (value : Word) : Supplying (.write (.prcm .uartclkgr) value)
  | load (value : Word) : Supplying (.write (.prcm .clkloadctl) value)

/-- The trace ends with a handshake none of whose attempts has succeeded. -/
def Exhausted (uart : Instance) (trace : List Access) : Prop :=
  ∃ (earlier : List Access) (status : Prcm) (bit : Nat) (values : List Word),
    (status = .pdstat0 ∧ bit = Acquisition.uartDomain uart.registers ∨
      status = .clkloadctl ∧ bit = Prcm.loadDone) ∧
    values.length = 1000000 ∧ (∀ value ∈ values, Word.flag value bit = false) ∧
    trace = earlier ++ values.map (.read (.prcm status))

section Supply

variable {Result : Type} {uart : Instance} {trace : List Access} {last : Driver Result}
variable {after : Driver Result}

structure Unfinished (uart : Instance) (trace : List Access) (last : Driver Result) : Prop where
  supplying : ∀ access ∈ trace, Supplying access
  unreturned : ∀ result, last ≠ .ret result
  uncut : last ≠ .exhausted
  panicked : ∀ message, last = .panic message →
    message = "hardware handshake iteration budget exhausted" ∧ Exhausted uart trace

/-- A run is still supplying, or goes on with what comes after. -/
def Supplies (uart : Instance) (after : Driver Result) (trace : List Access)
    (last : Driver Result) : Prop :=
  Unfinished uart trace last ∨
    ∃ earlier later, trace = earlier ++ later ∧ (∀ access ∈ earlier, Supplying access) ∧
      Run after later last

theorem Exhausted.prepend (exhausted : Exhausted uart trace) (earlier : List Access) :
    Exhausted uart (earlier ++ trace) := by
  obtain ⟨before, status, bit, values, polled, length, failed, rfl⟩ := exhausted
  exact ⟨earlier ++ before, status, bit, values, polled, length, failed,
    (List.append_assoc _ _ _).symm⟩

theorem Supplies.prepend {earlier : List Access} (supplying : ∀ access ∈ earlier, Supplying access)
    (supplies : Supplies uart after trace last) : Supplies uart after (earlier ++ trace) last := by
  have both : ∀ {later : List Access}, (∀ access ∈ later, Supplying access) →
      ∀ access ∈ earlier ++ later, Supplying access := by
    intro later others access member
    exact (List.mem_append.mp member).elim (supplying access) (others access)
  rcases supplies with unfinished | ⟨before, later, rfl, others, run⟩
  · left
    refine { unfinished with supplying := both unfinished.supplying, panicked := ?_ }
    intro message panics
    obtain ⟨budget, exhausted⟩ := unfinished.panicked message panics
    exact ⟨budget, exhausted.prepend earlier⟩
  · exact .inr ⟨earlier ++ before, later, (List.append_assoc _ _ _).symm, both others, run⟩

theorem supplies_read {register : Prcm} {next : Word → Driver Result}
    (run : Run (.read (.prcm register) next) trace last)
    (rest : ∀ value rest, Run (next value) rest last → Supplies uart after rest last) :
    Supplies uart after trace last := by
  rcases run_read_iff.mp run with ⟨rfl, rfl⟩ | ⟨value, later, rfl, remaining⟩
  · exact .inl ⟨nofun, nofun, nofun, nofun⟩
  · have supplying : ∀ access ∈ [.read (.prcm register) value], Supplying access := by
      intro access member
      cases List.mem_singleton.mp member
      exact .read register value
    exact (rest value later remaining).prepend supplying

theorem supplies_write {register : Prcm} {value : Word} {next : Driver Result}
    (supplying : Supplying (.write (.prcm register) value))
    (run : Run (.write (.prcm register) value next) trace last)
    (rest : ∀ rest, Run next rest last → Supplies uart after rest last) :
    Supplies uart after trace last := by
  rcases run_write_iff.mp run with ⟨rfl, rfl⟩ | ⟨later, rfl, remaining⟩
  · exact .inl ⟨nofun, nofun, nofun, nofun⟩
  · have supplying : ∀ access ∈ [.write (.prcm register) value], Supplying access := by
      intro access member
      cases List.mem_singleton.mp member
      exact supplying
    exact (rest later remaining).prepend supplying

theorem supplies_poll {status : Prcm} {bit : Nat} {next : Unit → Driver Result}
    (polled : status = .pdstat0 ∧ bit = Acquisition.uartDomain uart.registers ∨
      status = .clkloadctl ∧ bit = Prcm.loadDone)
    (run : Run (waitFor (Prcm.statusFlag status bit) 1000000 >>= next) trace last)
    (rest : ∀ rest, Run (next ()) rest last → Supplies uart after rest last) :
    Supplies uart after trace last := by
  have reads : ∀ values : List Word, ∀ access ∈ values.map (.read (.prcm status)),
      Supplying access := by
    intro values access member
    obtain ⟨value, -, rfl⟩ := List.mem_map.mp member
    exact .read status value
  rcases run_waitFor run with ⟨values, within, failed, rfl, rfl⟩ | ⟨values, later, rfl, passed⟩
  · left
    cases turns : 1000000 - values.length with
    | zero =>
        refine ⟨reads values, nofun, nofun, ?_⟩
        intro message panics
        cases panics
        exact ⟨rfl, [], status, bit, values, polled, by omega, failed, rfl⟩
    | succ turns => exact ⟨reads values, nofun, nofun, nofun⟩
  · exact (rest later passed).prepend (reads values)

end Supply

/-- The pins are routed and the UART is disabled. -/
def routes (uart : Instance) (rxDio txDio : Nat) : List Access :=
  [.write (.iocfg rxDio)
      (Ioc.setIe (Ioc.setPullCtl (Ioc.setPortId 0 uart.ports.1) Ioc.noPull) true),
    .write (.iocfg txDio) (Ioc.setPullCtl (Ioc.setPortId 0 uart.ports.2) Ioc.noPull),
    .write (.uart uart.registers .ctl) 0]

def settings (uart : Instance) (divisors : Word × Word) : List Access :=
  [.write (.uart uart.registers .lcrh) 0, .write (.uart uart.registers .dmactl) 0,
    .write (.uart uart.registers .imsc) 0, .write (.uart uart.registers .ibrd) divisors.1,
    .write (.uart uart.registers .fbrd) divisors.2, .write (.uart uart.registers .lcrh) format]

def commits (uart : Instance) (rxDio txDio : Nat) (divisors : Word × Word) : List Access :=
  routes uart rxDio txDio ++
    (settings uart divisors ++ [.write (.uart uart.registers .ctl) control])

section Commits

variable {uart : Instance} {rxDio txDio : Nat} {baud : Word} {divisors : Word × Word}
variable {trace : List Access} {last : Driver (Except BaudError Uart)}

theorem clockMask_valid (uart : Instance) : (uart.clockMask &&& ~~~0xf == 0) = true := by
  cases uart <;> decide

theorem supplies_initializeUart (accepted : baudDivisors baud = some divisors)
    (rxValid : rxDio < 32) (txValid : txDio < 32) (distinct : rxDio ≠ txDio)
    (run : Run (initializeUart uart rxDio txDio baud) trace last) :
    Supplies uart (.script (.ok ⟨uart.registers⟩) (commits uart rxDio txDio divisors)) trace
      last := by
  have differ : (rxDio != txDio) = true := bne_iff_ne.mpr distinct
  simp only [initializeUart, accepted, Ioc.config, rxValid, txValid, differ, decide_true,
    assert_true, ret_bind, pure_eq, Acquisition.enablePower_eq, Prcm.powerDomain,
    Prcm.enableUartClocks, Prcm.enableClocks, clockMask_valid, Prcm.applyClockSettings,
    readReg_bind, read_bind, writeReg_bind, write_bind] at run
  apply supplies_read run
  intro power trace run
  apply supplies_write (.power _) run
  intro trace run
  apply supplies_poll (.inl ⟨rfl, rfl⟩) run
  intro trace run
  apply supplies_read run
  intro clocks trace run
  apply supplies_write (.gate _) run
  intro trace run
  apply supplies_write (.load _) run
  intro trace run
  apply supplies_poll (.inr ⟨rfl, rfl⟩) run
  intro trace run
  exact .inr ⟨[], trace, rfl, List.forall_mem_nil _, run⟩

theorem refused_initializeUart (refused : baudDivisors baud = none)
    (run : Run (initializeUart uart rxDio txDio baud) trace last) :
    trace = [] ∧ last = .ret (.error ⟨⟩) := by
  rw [initializeUart, refused] at run
  exact run_ret_iff.mp run

/-- Invalid pins stop the program before its first access. -/
theorem panics_initializeUart (accepted : baudDivisors baud = some divisors)
    (invalid : 32 ≤ rxDio ∨ 32 ≤ txDio ∨ rxDio = txDio)
    (run : Run (initializeUart uart rxDio txDio baud) trace last) :
    trace = [] ∧ ∃ message, last = .panic message := by
  have stops : ∃ message, initializeUart uart rxDio txDio baud = .panic message := by
    rw [initializeUart, accepted]
    by_cases rxValid : rxDio < 32
    · by_cases txValid : txDio < 32
      · have same : rxDio = txDio := by omega
        subst same
        simp only [Ioc.config, rxValid, decide_true, assert_true, ret_bind, pure_eq,
          bne_self_eq_false]
        exact ⟨_, rfl⟩
      · simp only [Ioc.config, rxValid, txValid, decide_true, decide_false, assert_true, ret_bind,
          pure_eq]
        exact ⟨_, rfl⟩
    · simp only [Ioc.config, rxValid, decide_false]
      exact ⟨_, rfl⟩
  obtain ⟨message, stops⟩ := stops
  rw [stops] at run
  obtain ⟨rfl, rfl⟩ := run_panic_iff.mp run
  exact ⟨rfl, message, rfl⟩

end Commits

def store (file : Register → Word) : Access → Register → Word
  | .write register value => Function.update file register value
  | _ => file

def stored (file : Register → Word) (trace : List Access) : Register → Word :=
  trace.foldl store file

theorem stored_append (file : Register → Word) (earlier later : List Access) :
    stored file (earlier ++ later) = stored (stored file earlier) later :=
  List.foldl_append

theorem stored_unwritten {file : Register → Word} {register : Register} {trace : List Access}
    (unwritten : ∀ value, .write register value ∉ trace) :
    stored file trace register = file register := by
  induction trace generalizing file with
  | nil => rfl
  | cons access trace inductionHypothesis =>
      have later : ∀ value, .write register value ∉ trace := fun value member =>
        unwritten value (List.mem_cons_of_mem _ member)
      refine (inductionHypothesis later).trans ?_
      cases access with
      | write other value =>
          apply Function.update_of_ne
          rintro rfl
          exact unwritten value List.mem_cons_self
      | read | act => rfl

inductive Listed (uart : Instance) (rxDio txDio : Nat) : Register → Prop where
  | power : Listed uart rxDio txDio (.prcm .pdctl0)
  | gate : Listed uart rxDio txDio (.prcm .uartclkgr)
  | load : Listed uart rxDio txDio (.prcm .clkloadctl)
  | rx : Listed uart rxDio txDio (.iocfg rxDio)
  | tx : Listed uart rxDio txDio (.iocfg txDio)
  | own (register : UartRegister) : Listed uart rxDio txDio (.uart uart.registers register)

inductive Formats : UartRegister → Prop where
  | ibrd : Formats .ibrd
  | fbrd : Formats .fbrd
  | lcrh : Formats .lcrh

section Positions

variable {uart : Instance} {rxDio txDio : Nat} {divisors : Word × Word} {access : Access}
variable {supply done todo earlier later : List Access} {register : UartRegister} {value : Word}

theorem Supplying.listed {register : Register} (supplying : Supplying (.write register value)) :
    Listed uart rxDio txDio register := by
  cases supplying with
  | power => exact .power
  | gate => exact .gate
  | load => exact .load

theorem listed_commits {register : Register}
    (member : .write register value ∈ commits uart rxDio txDio divisors) :
    Listed uart rxDio txDio register := by
  simp only [commits, routes, settings, List.mem_append, List.mem_cons, List.not_mem_nil,
    Event.write.injEq, or_false] at member
  rcases member with (⟨rfl, -⟩ | ⟨rfl, -⟩ | ⟨rfl, -⟩) |
    (⟨rfl, -⟩ | ⟨rfl, -⟩ | ⟨rfl, -⟩ | ⟨rfl, -⟩ | ⟨rfl, -⟩ | ⟨rfl, -⟩) | ⟨rfl, -⟩
  · exact .rx
  · exact .tx
  all_goals exact .own _

theorem exists_write_commits (member : access ∈ commits uart rxDio txDio divisors) :
    ∃ register value, access = .write register value := by
  simp only [commits, routes, settings, List.mem_append, List.mem_cons, List.not_mem_nil,
    or_false] at member
  rcases member with (rfl | rfl | rfl) | (rfl | rfl | rfl | rfl | rfl | rfl) | rfl
  all_goals exact ⟨_, _, rfl⟩

theorem ctl_settings (value : Word) :
    .write (.uart uart.registers .ctl) value ∉ settings uart divisors := by
  simp [settings]

theorem stored_ctl_routes (file : Register → Word) :
    stored file (routes uart rxDio txDio) (.uart uart.registers .ctl) = 0 :=
  Function.update_self _ _ _

theorem after_supply (supplying : ∀ access ∈ supply, Supplying access)
    (split : supply ++ done = earlier ++ .write (.uart uart.registers register) value :: later) :
    ∃ middle, earlier = supply ++ middle ∧
      done = middle ++ .write (.uart uart.registers register) value :: later := by
  apply append_eq_append_cons split
  intro member
  cases supplying _ member

/-- Baud and format are written while the UART is disabled. -/
theorem disabled_before (formats : Formats register)
    (split : commits uart rxDio txDio divisors =
      earlier ++ .write (.uart uart.registers register) value :: later) (file : Register → Word) :
    stored file earlier (.uart uart.registers .ctl) = 0 := by
  have outside : .write (.uart uart.registers register) value ∉ routes uart rxDio txDio := by
    cases formats <;> simp [routes]
  obtain ⟨middle, rfl, tail⟩ := append_eq_append_cons split outside
  rw [stored_append, stored_unwritten, stored_ctl_routes]
  intro other member
  exact ctl_settings other (mem_of_concat_eq tail member)

theorem last_enables (enables : Word.flag value 0 = true)
    (split : commits uart rxDio txDio divisors =
      earlier ++ .write (.uart uart.registers .ctl) value :: later) : later = [] := by
  have outside : .write (.uart uart.registers .ctl) value ∉ routes uart rxDio txDio := by
    intro member
    have clear : value = 0 := by simpa [routes] using member
    rw [clear] at enables
    cases enables
  obtain ⟨middle, rfl, tail⟩ := append_eq_append_cons split outside
  exact (eq_of_concat_eq tail (ctl_settings value)).2.2

end Positions

/-- What a run with valid arguments has done to a file of registers, and where it has ended. -/
structure Commits (uart : Instance) (rxDio txDio : Nat) (baud : Word) (divisors : Word × Word)
    (file : Register → Word) (trace : List Access) (last : Driver (Except BaudError Uart)) :
    Prop where
  listed : ∀ register value, .write register value ∈ trace → Listed uart rxDio txDio register
  disabled : ∀ earlier register value later, Formats register →
    trace = earlier ++ .write (.uart uart.registers register) value :: later →
      Word.flag (stored file earlier (.uart uart.registers .ctl)) 0 = false
  /-- The write that enables the UART is the last one of the call. -/
  enabled : ∀ earlier value later, Word.flag value 0 = true →
    trace = earlier ++ .write (.uart uart.registers .ctl) value :: later →
      later = [] ∧ last = .ret (.ok ⟨uart.registers⟩)
  uncut : last ≠ .exhausted
  /-- Only a handshake stops the run, and then nothing but power and clocks has been accessed. -/
  panicked : ∀ message, last = .panic message →
    message = "hardware handshake iteration budget exhausted" ∧ Exhausted uart trace ∧
      ∀ access ∈ trace, Supplying access
  exhausted : ∀ (earlier : List Access) status bit (values : List Word) after,
    Run (initializeUart uart rxDio txDio baud) earlier
      (waitFor (Prcm.statusFlag status bit) values.length >>= after) →
    (∀ value ∈ values, Word.flag value bit = false) →
    trace = earlier ++ values.map (.read (.prcm status)) →
      last = .panic "hardware handshake iteration budget exhausted"
  returned : ∀ result, last = .ret result →
    result = .ok ⟨uart.registers⟩ ∧
    stored file trace (.uart uart.registers .ibrd) = divisors.1 ∧
    stored file trace (.uart uart.registers .fbrd) = divisors.2 ∧
    stored file trace (.uart uart.registers .lcrh) = 0x70 ∧
    stored file trace (.uart uart.registers .dmactl) = 0 ∧
    stored file trace (.uart uart.registers .imsc) = 0 ∧
    Word.flag (stored file trace (.uart uart.registers .ctl)) 0 = true ∧
    ∃ earlier later, trace = earlier ++ .write (.uart uart.registers .lcrh) 0x70 :: later ∧
      .write (.uart uart.registers .ibrd) divisors.1 ∈ earlier ∧
      .write (.uart uart.registers .fbrd) divisors.2 ∈ earlier ∧
      ∀ register value, Formats register →
        .write (.uart uart.registers register) value ∉ later

section Runs

variable {uart : Instance} {rxDio txDio : Nat} {baud : Word} {divisors : Word × Word}
variable {file : Register → Word} {trace : List Access} {last : Driver (Except BaudError Uart)}

theorem Unfinished.commits (unfinished : Unfinished uart trace last)
    (run : Run (initializeUart uart rxDio txDio baud) trace last) :
    Commits uart rxDio txDio baud divisors file trace last where
  listed register value member := (unfinished.supplying _ member).listed
  disabled earlier register value later _ split := by
    have member : .write (.uart uart.registers register) value ∈ trace := by
      rw [split]
      exact List.mem_append_right _ List.mem_cons_self
    cases unfinished.supplying _ member
  enabled earlier value later _ split := by
    have member : .write (.uart uart.registers .ctl) value ∈ trace := by
      rw [split]
      exact List.mem_append_right _ List.mem_cons_self
    cases unfinished.supplying _ member
  uncut := unfinished.uncut
  panicked message panics := by
    obtain ⟨budget, exhausted⟩ := unfinished.panicked message panics
    exact ⟨budget, exhausted, unfinished.supplying⟩
  exhausted _ _ _ _ _ poll failed split := Prcm.run_exhausted poll failed (split ▸ run)
  returned result returned := absurd returned (unfinished.unreturned result)

theorem stored_commits (file : Register → Word) (register : UartRegister) :
    stored file (commits uart rxDio txDio divisors) (.uart uart.registers register) =
      match register with
      | .ctl => control
      | .lcrh => format
      | .dmactl | .imsc => 0
      | .ibrd => divisors.1
      | .fbrd => divisors.2
      | _ => file (.uart uart.registers register) := by
  cases register <;>
    simp [stored, commits, routes, settings, store]

/-- The format is committed after both divisors, and none of them is written again. -/
theorem committed_format (supply : List Access) :
    ∃ earlier later, supply ++ commits uart rxDio txDio divisors =
        earlier ++ .write (.uart uart.registers .lcrh) 0x70 :: later ∧
      .write (.uart uart.registers .ibrd) divisors.1 ∈ earlier ∧
      .write (.uart uart.registers .fbrd) divisors.2 ∈ earlier ∧
      ∀ register value, Formats register →
        .write (.uart uart.registers register) value ∉ later := by
  refine ⟨supply ++ (routes uart rxDio txDio ++ (settings uart divisors).take 5),
    [.write (.uart uart.registers .ctl) control], ?_, ?_, ?_, ?_⟩
  · rw [List.append_assoc]
    rfl
  · simp [settings]
  · simp [settings]
  · intro register value formats
    cases formats <;> simp

theorem commits_passed {supply done todo : List Access}
    (supplying : ∀ access ∈ supply, Supplying access)
    (whole : commits uart rxDio txDio divisors = done ++ todo)
    (run : Run (initializeUart uart rxDio txDio baud) (supply ++ done)
      (.script (.ok ⟨uart.registers⟩) todo)) :
    Commits uart rxDio txDio baud divisors file (supply ++ done)
      (.script (.ok ⟨uart.registers⟩) todo) where
  listed register value member := by
    rcases List.mem_append.mp member with early | late
    · exact (supplying _ early).listed
    · have member : .write register value ∈ commits uart rxDio txDio divisors := by
        rw [whole]
        exact List.mem_append_left _ late
      exact listed_commits member
  disabled earlier register value later formats split := by
    obtain ⟨middle, rfl, rfl⟩ := after_supply supplying split
    rw [List.append_assoc, List.cons_append] at whole
    rw [stored_append, disabled_before formats whole]
    rfl
  enabled earlier value later enables split := by
    obtain ⟨middle, rfl, rfl⟩ := after_supply supplying split
    rw [List.append_assoc, List.cons_append] at whole
    obtain ⟨rfl, rfl⟩ := List.append_eq_nil_iff.mp (last_enables enables whole)
    exact ⟨rfl, rfl⟩
  uncut := by
    intro cut
    have confined := confined_script (.ok (⟨uart.registers⟩ : Uart) : Except BaudError Uart) todo
    rw [cut] at confined
    exact confined.elim
  panicked message panics := by
    have confined := confined_script (.ok (⟨uart.registers⟩ : Uart) : Except BaudError Uart) todo
    rw [panics] at confined
    exact confined.elim
  exhausted _ _ _ _ _ poll failed split := Prcm.run_exhausted poll failed (split ▸ run)
  returned result returned := by
    obtain ⟨rfl, rfl⟩ := script_eq_ret_iff.mp returned
    rw [List.append_nil] at whole
    rw [← whole]
    simp only [stored_append, stored_commits]
    exact ⟨trivial, trivial, trivial, by decide, trivial, trivial, by decide,
      committed_format supply⟩

/-- A run with valid arguments commits in order, or stops before the first write to a pin. -/
theorem commits_initializeUart (accepted : baudDivisors baud = some divisors)
    (rxValid : rxDio < 32) (txValid : txDio < 32) (distinct : rxDio ≠ txDio)
    (run : Run (initializeUart uart rxDio txDio baud) trace last) :
    Commits uart rxDio txDio baud divisors file trace last := by
  rcases supplies_initializeUart accepted rxValid txValid distinct run with
    unfinished | ⟨supply, later, rfl, supplying, script⟩
  · exact unfinished.commits run
  · obtain ⟨done, todo, whole, alike, rfl⟩ := script.script
    have same : later = done := by
      apply eq_of_alike alike
      intro access member
      apply exists_write_commits
      rw [whole]
      exact List.mem_append_left _ member
    subst same
    exact commits_passed supplying whole run

end Runs

/-- An invalid baud is returned and invalid pins panic before any access.  Any other run commits
in order, and can stop only in a handshake, before the first write to a pin or the UART. -/
theorem initialize_commits (uart : Instance) (rxDio txDio : Nat) (baud : Word)
    (file : Register → Word) (trace : List Access) (last : Driver (Except BaudError Uart))
    (run : Run (initializeUart uart rxDio txDio baud) trace last) :
    (baudDivisors baud = none → trace = [] ∧ last = .ret (.error ⟨⟩)) ∧
    ∀ divisors, baudDivisors baud = some divisors →
      (32 ≤ rxDio ∨ 32 ≤ txDio ∨ rxDio = txDio →
        trace = [] ∧ ∃ message, last = .panic message) ∧
      (rxDio < 32 ∧ txDio < 32 ∧ rxDio ≠ txDio →
        Commits uart rxDio txDio baud divisors file trace last) := by
  constructor
  · intro refused
    exact refused_initializeUart refused run
  · intro divisors accepted
    constructor
    · intro invalid
      exact panics_initializeUart accepted invalid run
    · intro valid
      obtain ⟨rxValid, txValid, distinct⟩ := valid
      exact commits_initializeUart accepted rxValid txValid distinct run

def ready : List Access × Driver (Except BaudError Uart) :=
  (initializeUart .uart0 12 13 115200).follow fun _ => BitVec.allOnes 32

set_option maxRecDepth 4000 in
theorem initialize_commits_uart0 :
    stored (fun _ => 0) ready.1 (.uart .uart0 .ibrd) = 26 ∧
      stored (fun _ => 0) ready.1 (.uart .uart0 .fbrd) = 3 := by
  have run : Run (initializeUart .uart0 12 13 115200) ready.1 ready.2 := run_follow _ _
  have accepted : baudDivisors 115200 = some (26, 3) := by decide
  have commits := ((initialize_commits .uart0 12 13 115200 (fun _ => 0) _ _ run).2 _ accepted).2
    ⟨by decide, by decide, by decide⟩
  obtain ⟨-, integer, fraction, -⟩ := commits.returned (.ok ⟨.uart0⟩) rfl
  exact ⟨integer, fraction⟩

end DirectLine.Firmware.Uart
