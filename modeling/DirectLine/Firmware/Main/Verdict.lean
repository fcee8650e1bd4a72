import DirectLine.Firmware.Main.SelfTest
import DirectLine.Firmware.TimerLines.Rehearsal
import DirectLine.Interaction.Rehearsal

/-!
# The verdict of the bring-up application

The whole application over its timers, their handlers and its statics.  What
`TIMER_TEST_STATUS` says can be trusted in every state reached, and a run that
stops blames neither the memory initialisation nor a stopped timer.
-/

namespace DirectLine.Firmware.Main

open DirectLine.Interaction DirectLine.Interaction.Program Relation TimerLine TimerLines

structure System where
  lines : TimerLines
  statics : Static → Word

namespace System

structure Drives (system : System) (access : Access) (system' : System) : Prop where
  lines : system.lines.Moves access system'.lines
  statics : system'.statics = system.statics

def moves (system : System) : Event Cell Instruction Word → System → Prop
  | .read (.static static) value, system' =>
      system.lines.handler = none ∧ value = system.statics static ∧ system' = system
  | .write (.static static) value, system' =>
      system.lines.handler = none ∧
        system' = { system with statics := Function.update system.statics static value }
  | .read (.register register) value, system' => system.Drives (.read register value) system'
  | .write (.register register) value, system' => system.Drives (.write register value) system'
  | .act action, system' => system.Drives (.act action) system'

/-- A step of the timers or their handlers. -/
structure Disturbs (system system' : System) : Prop where
  lines : system.lines.Disturbs system'.lines
  statics : system'.statics = system.statics

/-- A state in which `main` is entered; the checked statics may hold anything. -/
structure Fresh (system : System) : Prop where
  lines : system.lines.Fresh
  status : system.statics .timerTestStatus = 0

theorem moves_embed {system system' : System} {access : Access}
    (moved : system.moves (access.embed .register) system') : system.Drives access system' := by
  cases access <;> exact moved

end System

/-- The application: once its loop is reached, turn follows turn. -/
def application : Process Cell Instruction Word System (Board × Word) where
  device := System.moves
  rely := System.Disturbs
  next result _ program := ∃ fuel, program =
    drive (turn result.1 fuel result.2) >>= fun previous => .ret (result.1, previous)

/-- The status is set to 2 only after 21 acknowledgements. -/
def Vouches (system : System) (event : Event Cell Instruction Word) (_ : System) : Prop :=
  event = .write (.static .timerTestStatus) 2 → 21 ≤ system.lines.acknowledged .gpt0

def Trusted (system : System) : Prop :=
  system.statics .timerTestStatus = 2 → 21 ≤ system.lines.acknowledged .gpt0

abbrev supervised : Setting Cell Instruction Word System := application.setting Vouches

section Steps

variable {system system' : System} {event : Event Cell Instruction Word}

theorem Trusted.disturbed (trusted : Trusted system) (step : system.Disturbs system') :
    Trusted system' := by
  intro status
  rw [step.statics] at status
  exact (trusted status).trans (step.lines.acknowledged_le .gpt0)

theorem System.Drives.acknowledged {access : Access} (drives : system.Drives access system') :
    system'.lines.acknowledged = system.lines.acknowledged := by
  rw [drives.lines.after]
  rfl

theorem Trusted.moved (trusted : Trusted system) (moved : system.moves event system')
    (vouches : Vouches system event system') : Trusted system' := by
  have driven : ∀ access, system.Drives access system' → Trusted system' := by
    intro access drives status
    rw [drives.statics] at status
    rw [drives.acknowledged]
    exact trusted status
  cases event with
  | read cell value =>
      cases cell with
      | register register => exact driven _ moved
      | static static =>
          obtain ⟨-, -, rfl⟩ := moved
          exact trusted
  | act action => exact driven _ moved
  | write cell value =>
      cases cell with
      | register register => exact driven _ moved
      | static static =>
          obtain ⟨-, rfl⟩ := moved
          intro status
          dsimp only at status ⊢
          by_cases own : static = .timerTestStatus
          · subst own
            rw [Function.update_self] at status
            subst status
            exact vouches rfl
          · rw [Function.update_of_ne (Ne.symm own)] at status
            exact trusted status

end Steps

section Contracts

variable {Result Next : Type} {system : System} {statics : Static → Word} {fuel : Nat}

/-- A driver's contract holds in the application, which leaves the statics to its own code. -/
theorem meets_drive {driver : Driver Result} {post : Result → TimerLines → Prop}
    {fail : String → TimerLines → Prop} (meets : foreground.Meets post fail driver system.lines)
    (known : system.statics = statics) :
    supervised.Meets (fun result system => post result system.lines ∧ system.statics = statics)
      (fun message system => fail message system.lines ∧ system.statics = statics)
      (drive driver) system := by
  refine .embed (Setting.Meets.framed ?_ (Within.unbounded driver) meets known)
  refine ⟨?_, ?_, ?_⟩
  · intro system access system' _ known moved
    have drives := System.moves_embed moved
    exact ⟨drives.lines, drives.statics.trans known⟩
  · intro system system' known disturbs
    exact ⟨.single disturbs.lines, disturbs.statics.trans known⟩
  · intro system access system' _ _ _ _ written
    cases access <;> cases written

theorem meets_plain {driver : Driver Result} {after : Result → Code Next}
    {post : Next → System → Prop} {stops fails : String → Prop} {least : Nat}
    (within : driver.Within Uncounting stops) (more : ∀ message, stops message → fails message)
    (knows : Knows .gpt0 Anything least system.lines) (known : system.statics = statics)
    {yield : Result → Prop} (yields : driver.Yields yield)
    (rest : ∀ result system, yield result → Knows .gpt0 Anything least system.lines →
      system.statics = statics →
        supervised.Meets post (fun message _ => fails message) (after result) system) :
    supervised.Meets post (fun message _ => fails message) (drive driver >>= after) system := by
  have meets : foreground.Meets (fun _ => Knows .gpt0 Anything least)
      (fun message lines => stops message ∧ Knows .gpt0 Anything least lines) driver
      system.lines :=
    .within within (stable_knows steady_anything) knows
      fun _ _ _ uncounting knows moved => ⟨trivial, knows.moved uncounting moved trivial⟩
  refine .bind (((meets_drive meets known).yields yields.embed).mono ?_ ?_)
  · exact fun result system finish => rest result system finish.1 finish.2.1 finish.2.2
  · exact fun _ _ stopped => more _ stopped.1.1

theorem stable_known {least : Nat} :
    supervised.Stable fun system =>
      Knows .gpt0 Anything least system.lines ∧ system.statics = statics :=
  fun _ _ holds disturbs => ⟨stable_knows steady_anything _ _ holds.1 disturbs.lines,
    disturbs.statics.trans holds.2⟩

theorem stable_statics : supervised.Stable fun system => system.statics = statics :=
  fun _ _ known disturbs => disturbs.statics.trans known

theorem meets_load {static : Static} {next : Word → Code Result} {post : Result → System → Prop}
    {fail : String → System → Prop} {least : Nat}
    (knows : Knows .gpt0 Anything least system.lines) (known : system.statics = statics)
    (rest : ∀ system, Knows .gpt0 Anything least system.lines → system.statics = statics →
      supervised.Meets post fail (next (statics static)) system) :
    supervised.Meets post fail (.read (.static static) next) system := by
  refine .read stable_known ⟨knows, known⟩ ?_
  rintro system value system' ⟨knows, known⟩ moved
  obtain ⟨-, rfl, rfl⟩ := moved
  refine ⟨nofun, ?_⟩
  rw [known]
  exact rest _ knows known

theorem meets_store {static : Static} {value : Word} {next : Code Result}
    {post : Result → System → Prop} {fail : String → System → Prop} {least : Nat}
    (knows : Knows .gpt0 Anything least system.lines) (known : system.statics = statics)
    (vouched : static = .timerTestStatus → value = 2 → 21 ≤ least)
    (rest : ∀ system, Knows .gpt0 Anything least system.lines →
      system.statics = Function.update statics static value →
      supervised.Meets post fail next system) :
    supervised.Meets post fail (.write (.static static) value next) system := by
  refine .write stable_known ⟨knows, known⟩ ?_
  rintro system system' ⟨knows, known⟩ moved
  obtain ⟨-, rfl⟩ := moved
  refine ⟨fun written => ?_, rest _ knows (by rw [known])⟩
  cases written
  exact (vouched rfl rfl).trans knows.least

def Damaged (statics : Static → Word) : Prop :=
  statics .initializedData ≠ initialPattern ∨ statics .zeroedData ≠ 0

def checkedValues (statics : Static → Word) : Static → Word :=
  Function.update (Function.update statics .initializedData 0x5678ef01) .zeroedData 1

theorem meets_memoryFailure {board : Board} {least : Nat}
    (knows : Knows .gpt0 Anything least system.lines) (known : system.statics = statics)
    {post : Result → System → Prop} {fails : String → Prop}
    (failed : fails "memory initialization failed") :
    supervised.Meets post (fun message _ => fails message)
      (drive (transmit board memoryFailure fuel) >>= fun _ => .panic "memory initialization failed")
      system := by
  have within : (transmit board memoryFailure fuel).Within Uncounting fails :=
    (within_transmit board memoryFailure fuel).mono
      (fun _ aloof => aloof.uncounting) fun _ => False.elim
  exact meets_plain within (fun _ stopped => stopped) knows known (.trivial _)
    fun _ _ _ _ _ _ _ => failed

theorem meets_checkMemory {board : Board} {least : Nat}
    (knows : Knows .gpt0 Anything least system.lines) (known : system.statics = statics) :
    supervised.Meets
      (fun _ system =>
        ¬Damaged statics ∧ Knows .gpt0 Anything least system.lines ∧
          system.statics = checkedValues statics)
      (fun message _ => message = "memory initialization failed" ∧ Damaged statics)
      (checkMemory board fuel) system := by
  rw [checkMemory, uninitialized]
  simp only [readReg_bind, read_bind]
  refine meets_load knows known fun system knows known => ?_
  by_cases patterned : statics .initializedData = initialPattern
  · rw [if_neg (by simpa using patterned)]
    refine meets_load knows known fun system knows known => ?_
    by_cases zeroed : statics .zeroedData = 0
    · simp only [zeroed, bne_self_eq_false, pure_eq, writeReg_bind]
      refine meets_store knows known nofun fun system knows known => ?_
      refine meets_store knows known nofun fun system knows known => ?_
      exact .ret stable_known ⟨knows, known⟩
        fun _ finish => ⟨not_or.mpr ⟨not_not.mpr patterned, not_not.mpr zeroed⟩, finish⟩
    · simp only [bne_iff_ne.mpr zeroed, pure_eq]
      exact meets_memoryFailure knows known ⟨rfl, .inr zeroed⟩
  · rw [if_pos (by simpa using patterned)]
    exact meets_memoryFailure knows known ⟨rfl, .inl patterned⟩

inductive Stopped (taken : Bool) (statics : Static → Word) : String → Prop where
  | excused {message : String} : Excused message → Stopped taken statics message
  | taken : taken = true → Stopped taken statics "board already taken"
  | damaged : Damaged statics → Stopped taken statics "memory initialization failed"

theorem yields_take (taken : Bool) :
    (Board.take taken).Yields fun result =>
      result = if taken then none else some Board.assembled := by
  cases taken with
  | true => exact rfl
  | false =>
      refine .after fun _ => .bind Board.yields_configure ?_
      rintro _ rfl
      exact .after fun _ => rfl

theorem Stopped.of_budget {taken : Bool} {message : String} (budget : Budget message) :
    Stopped taken statics message := by
  rw [budget]
  exact .excused .budget

theorem within_expect (taken : Bool) :
    (do expect (← Board.take taken) : Driver Board).Within Uncounting (Stopped taken statics) := by
  have plain : (Board.take taken).Within Uncounting (Stopped taken statics) :=
    (Board.plain_take taken).mono (fun _ => uncounting_of_ordinary) fun _ => .of_budget
  refine .bind_yields plain (yields_take taken) ?_
  rintro _ rfl
  cases taken with
  | true => exact .taken rfl
  | false => trivial

theorem yields_expect (taken : Bool) :
    (do expect (← Board.take taken) : Driver Board).Yields (· = Board.assembled) := by
  refine .bind (yields_take taken) ?_
  rintro _ rfl
  cases taken with
  | true => trivial
  | false => exact rfl

theorem within_unwrapTransmit (text : List Byte) :
    (do unwrap (← transmit Board.assembled text fuel) : Driver Unit).Within Uncounting Excused := by
  refine .bind ((within_transmit _ text fuel).mono (fun _ aloof => aloof.uncounting)
    fun _ => False.elim) fun sent => ?_
  cases sent with
  | ok => trivial
  | error => exact .serial

theorem meets_unwrapTimer {lines : TimerLines} {microseconds ticks : Word} {least : Nat}
    (accepted : Timer.acceptedTicks microseconds = some ticks)
    (knows : Knows .gpt0 Anything least lines) :
    foreground.Meets (fun _ => Knows .gpt0 Anything least) (fun _ _ => False)
      (do unwrapTimer (← Board.assembled.timer.startPeriodicUs microseconds)) lines := by
  refine .followed (meets_startPeriodicUs accepted aside_true knows trivial) ?_
  rintro _ lines ⟨rfl, knows, -⟩
  exact .ret (stable_knows steady_anything) knows fun _ finish => finish

/-- What holds at the head of the loop. -/
structure Headed (statics : Static → Word) (result : Board × Word) (system : System) : Prop where
  board : result.1 = Board.assembled
  sound : ¬Damaged statics
  status : system.statics .timerTestStatus = 2

theorem meets_prologue (taken : Bool) (fuel : Nat) (fresh : system.Fresh) :
    supervised.Meets (Headed system.statics)
      (fun message _ => Stopped taken system.statics message) (prologue taken fuel) system := by
  rw [prologue]
  refine meets_plain (within_expect taken) (fun _ stopped => stopped)
    (knows_fresh fresh.lines .gpt0) rfl (yields_expect taken) ?_
  rintro _ system rfl knows known
  have requested : Clocks.requestHfCrystal.Within Uncounting Budget := ⟨uncounting_write, trivial⟩
  refine meets_plain requested (fun _ => .of_budget) knows known (.trivial _) ?_
  rintro _ system - knows known
  refine meets_plain ((plain_waitFor Clocks.plain_trySwitchToHfCrystal _).mono
    (fun _ => uncounting_of_ordinary) fun _ => .of_budget) (fun _ stopped => stopped) knows known
    (.trivial _) ?_
  rintro _ system - knows known
  refine meets_plain (within_unwrapTransmit banner) (fun _ => .excused) knows known (.trivial _) ?_
  rintro _ system - knows known
  refine .bind ((meets_checkMemory knows known).mono ?_ ?_)
  rotate_left
  · rintro _ _ ⟨rfl, damaged⟩
    exact .damaged damaged
  rintro _ system ⟨sound, knows, known⟩
  simp only [writeReg_bind]
  refine meets_store knows known (fun _ two => absurd two (by decide)) fun system knows known => ?_
  refine .bind ((meets_drive (meets_testTimer knows) known).mono ?_
    fun _ _ stopped => .excused stopped.1)
  rintro _ system ⟨knows, known⟩
  -- From here on the status may vouch for the acknowledgements.
  refine meets_store knows known (fun _ _ => le_rfl) fun system knows known => ?_
  refine meets_plain (within_unwrapTransmit pass) (fun _ => .excused) knows known (.trivial _) ?_
  rintro _ system - knows known
  have accepted : Timer.acceptedTicks 500000 = some 24000000 := by decide
  refine .followed ((meets_drive (meets_unwrapTimer accepted knows)
    known).mono (fun _ _ finish => finish) fun _ _ stopped => stopped.1) ?_
  rintro _ system ⟨knows, known⟩
  have counted : Board.assembled.timer.interrupts.Within Uncounting Budget :=
    fun _ => ⟨uncounting_read, trivial⟩
  refine meets_plain counted (fun _ => .of_budget) knows known (.trivial _) ?_
  rintro previous system - - known
  refine .ret stable_statics known fun system known => ⟨rfl, sound, ?_⟩
  rw [known]
  rfl

theorem within_turn (previous : Word) :
    (turn Board.assembled fuel previous).Within Uncounting Excused := by
  refine .bind ?_ fun previous => .bind ?_ fun _ => trivial
  · rw [blink_eq]
    refine fun current => ⟨uncounting_read, ?_⟩
    dsimp only
    split
    · exact ⟨uncounting_write, uncounting_write, fun _ => nofun, trivial⟩
    · trivial
  · refine .bind ((Uart.within_tryRead _).mono ?_ fun _ => False.elim) fun received => ?_
    · intro access receives
      cases receives with
      | flags | data => exact uncounting_read
      | clear => exact uncounting_write
    · match received with
      | .ok (some byte) => exact within_unwrapTransmit [byte]
      | .ok none => trivial
      | .error _ => exact within_unwrapTransmit rxError

theorem meets_turn (taken : Bool) (previous : Word) (sound : ¬Damaged statics)
    (known : system.statics .timerTestStatus = 2) :
    supervised.Meets (Headed statics)
      (fun message _ => Stopped taken statics message)
      (drive (turn Board.assembled fuel previous) >>= fun previous =>
        .ret (Board.assembled, previous)) system := by
  have meets : foreground.Meets (fun _ _ => True) (fun message _ => Excused message ∧ True)
      (turn Board.assembled fuel previous) system.lines :=
    .within (within_turn previous) (fun _ _ _ _ => trivial) trivial
      fun _ _ _ _ _ _ => ⟨trivial, trivial⟩
  refine .bind ((meets_drive meets rfl).mono ?_ fun _ _ stopped => .excused stopped.1.1)
  rintro previous later ⟨-, same⟩
  refine .ret stable_statics same fun later same => ⟨rfl, sound, ?_⟩
  rw [same]
  exact known

end Contracts

section Runs

variable {taken : Bool} {fuel : Nat} {start : System}
variable {point : Point Cell Instruction Word System (Board × Word)}

theorem meets_next (result : Board × Word) (system : System) (program : Code (Board × Word))
    (headed : Headed start.statics result system) (next : application.next result system program) :
    supervised.Meets (Headed start.statics)
      (fun message _ => Stopped taken start.statics message) program system := by
  obtain ⟨_, previous⟩ := result
  obtain ⟨fuel, rfl⟩ := next
  cases headed.board
  exact meets_turn taken previous headed.sound headed.status

theorem meets_reached (fresh : start.Fresh)
    (reaches : application.Reaches ⟨prologue taken fuel, start⟩ point) :
    supervised.Meets (Headed start.statics)
      (fun message _ => Stopped taken start.statics message) point.program point.state :=
  reaches.meets meets_next (meets_prologue taken fuel fresh)

theorem trusted_reached (fresh : start.Fresh)
    (reaches : application.Reaches ⟨prologue taken fuel, start⟩ point) : Trusted point.state := by
  have trusted : Trusted start := by
    intro status
    rw [fresh.status] at status
    cases status
  exact reaches.guaranteed meets_next (meets_prologue taken fuel fresh) trusted
    (fun _ _ _ trusted moved vouches => trusted.moved moved vouches)
    fun _ _ trusted disturbs => trusted.disturbed disturbs

end Runs

section Rehearsal

def System.answer (past : Nat) (system : System) : Cell → Word
  | .static static => system.statics static
  | .register register => system.lines.answer past register

def System.perform (system : System) (access : Access) : Option System :=
  (system.lines.perform access).map fun lines => { system with lines := lines }

/-- A cue is a number of timeouts of the board's timer, each of which is served. -/
def rehearsal : Stage Cell Instruction Word System Nat where
  answer := System.answer
  access
    | system, .read (.static _) _ => if system.lines.handler.isNone then some system else none
    | system, .write (.static static) value =>
        if system.lines.handler.isNone then
          some { system with statics := Function.update system.statics static value }
        else none
    | system, .read (.register register) value => system.perform (.read register value)
    | system, .write (.register register) value => system.perform (.write register value)
    | system, .act action => system.perform (.act action)
  cue system times :=
    (system.lines.serves .gpt0 times).map fun lines => { system with lines := lines }

theorem drives_perform {system system' : System} {access : Access}
    (answered : ∀ index value, access = .read (.timerInterrupts index) value →
      value = (system.lines.hardware (numbered index)).count)
    (performed : system.perform access = some system') : system.Drives access system' := by
  obtain ⟨lines, moved, rfl⟩ := Option.map_eq_some_iff.mp performed
  exact ⟨moves_perform answered moved, rfl⟩

theorem faithful_rehearsal : rehearsal.Faithful application where
  access past system event system' answered moved := by
    refine ⟨system', ?_, .refl⟩
    cases event with
    | act action => exact drives_perform nofun moved
    | read cell value =>
        cases cell with
        | register register =>
            refine drives_perform ?_ moved
            rintro index value ⟨⟩
            exact answered _ _ rfl
        | static static =>
            obtain ⟨idle, same⟩ := Option.ite_none_right_eq_some.mp moved
            exact ⟨Option.isNone_iff_eq_none.mp idle, answered _ _ rfl,
              (Option.some.inj same).symm⟩
    | write cell value =>
        cases cell with
        | register register => exact drives_perform nofun moved
        | static static =>
            obtain ⟨idle, same⟩ := Option.ite_none_right_eq_some.mp moved
            exact ⟨Option.isNone_iff_eq_none.mp idle, (Option.some.inj same).symm⟩
  cue system times system' stepped := by
    obtain ⟨lines, served, rfl⟩ := Option.map_eq_some_iff.mp stepped
    refine (disturbs_serves served).lift (System.mk · system.statics) ?_
    exact fun _ _ disturbs => ⟨disturbs, rfl⟩

def started : System where
  lines := { hardware := fun _ => default, handler := none, acknowledged := fun _ => 0 }
  statics
    | .initializedData => initialPattern
    | .zeroedData | .timerTestStatus => 0

theorem fresh_started : started.Fresh := ⟨⟨rfl, fun _ => rfl, fun _ => rfl⟩, rfl⟩

theorem exists_passed :
    ∃ point, application.Reaches ⟨prologue false 40, started⟩ point ∧
      point.state.statics .timerTestStatus = 2 := by
  have played : ((rehearsal.play [.accesses 165, .cue 20, .accesses 29, .cue 1, .accesses 10] 0
      ⟨prologue false 40, started⟩).map fun point =>
        point.state.statics .timerTestStatus) = some 2 := by
    decide +kernel
  obtain ⟨point, played, status⟩ := Option.map_eq_some_iff.mp played
  exact ⟨point, faithful_rehearsal.reaches_play played, status⟩

end Rehearsal

/-- In every state reached, a status of 2 means that at least 21 interrupts have been
acknowledged, and the loop is reached with no other status.  A run that stops has exhausted a
bound on its waiting, or found the board taken or the statics damaged: the check of the stopped
timer cannot fail, and the one-shot's fails only with nothing acknowledged since. -/
theorem verdict_sound (taken : Bool) (fuel : Nat) (start : System) (fresh : start.Fresh)
    (point : Point Cell Instruction Word System (Board × Word))
    (reaches : application.Reaches ⟨prologue taken fuel, start⟩ point) :
    (point.state.statics .timerTestStatus = 2 → 21 ≤ point.state.lines.acknowledged .gpt0) ∧
    (∀ board previous, point.program = .ret (board, previous) →
      ¬Damaged start.statics ∧ point.state.statics .timerTestStatus = 2) ∧
    ∀ message, point.program = .panic message → Stopped taken start.statics message := by
  have meets := meets_reached fresh reaches
  refine ⟨trusted_reached fresh reaches, ?_, ?_⟩
  · intro board previous returned
    rw [returned] at meets
    exact ⟨meets.returned.sound, meets.returned.status⟩
  · intro message panicked
    rw [panicked] at meets
    exact meets _ .refl

/-- A run that sets the status to 2. -/
theorem verdict_sound_passed :
    ∃ point, application.Reaches ⟨prologue false 40, started⟩ point ∧
      point.state.statics .timerTestStatus = 2 ∧ 21 ≤ point.state.lines.acknowledged .gpt0 := by
  obtain ⟨point, reaches, status⟩ := exists_passed
  exact ⟨point, reaches, status,
    (verdict_sound false 40 started fresh_started point reaches).1 status⟩

end DirectLine.Firmware.Main
