import DirectLine.Firmware.Main.Accesses
import DirectLine.Firmware.UartTest

/-!
# The exchange of the UART test

A UART that listens to itself, with its shift registers stepping between any two
accesses.  Every byte written comes back as it was written, so that only the
bounds on the waiting can stop the exchange.
-/

namespace DirectLine.Firmware.UartTest

open DirectLine.Interaction DirectLine.Interaction.Program Uart Line
open Main (timeout)

/-- The failures of the test that blame a lack of progress. -/
inductive Excused : String → Prop where
  | budget : Excused "hardware handshake iteration budget exhausted"
  | slow : Excused "assertion failed: counter.elapsed_since(start) < GPT_CLOCK_HZ"

/-- One UART with its shift registers, as one program uses it. -/
abbrev serial (uart : Uart) (depth : Nat) : Setting Register Instruction Word Line where
  device := Line.access uart.registers depth
  rely := Line.Shifts depth
  guarantee _ _ _ := True

theorem assertEqual_self {Value Next : Type} [DecidableEq Value] (debug : Value → String)
    (value : Value) (after : Unit → Driver Next) :
    (assertEqual debug value value >>= after) = after () := by
  rw [assertEqual, if_pos rfl, pure_eq, ret_bind]

section Exchange

variable {Result : Type} {uart : Uart} {depth : Nat} {line : Line} {history : List Received}
variable {byte : Byte} {post : Result → Line → Prop} {queue : List Entry}

abbrev Exchanges (uart : Uart) (depth : Nat) (post : Result → Line → Prop)
    (program : Driver Result) (line : Line) : Prop :=
  (serial uart depth).Meets post (fun message _ => Excused message) program line

theorem stable_settled : (serial uart depth).Stable (Settled history queue) :=
  fun _ _ settled shifts => absurd shifts settled.still

theorem stable_carries (room : 0 < depth) : (serial uart depth).Stable (Carries byte history) :=
  fun _ _ carries shifts => carries.shifts room shifts

theorem rxfe_eq {flags : Word} {line' : Line}
    (moved : line.access uart.registers depth (.read (.uart uart.registers .fr) flags) line') :
    line' = line ∧ Word.flag flags txff = decide (line.capacity depth ≤ line.outgoing.length) ∧
      Word.flag flags rxfe = line.receiver.queue.isEmpty := by
  rw [Line.access, if_pos rfl] at moved
  cases moved with
  | flags full empty => exact ⟨rfl, full, empty⟩
  | stored impossible => cases impossible

theorem write_eq {register : UartRegister} {value : Word} {line' : Line}
    (moved : line.access uart.registers depth (.write (.uart uart.registers register) value)
      line') :
    line' = line.write depth value register := by
  rwa [Line.access, if_pos rfl] at moved

theorem taken {value : Word} {line' : Line} (settled : Settled history [.good byte] line)
    (moved : line.access uart.registers depth (.read (.uart uart.registers .dr) value) line') :
    Settled (history ++ [.good byte]) [] line' ∧ (Received.good byte).Shows value := by
  rw [Line.access, if_pos rfl] at moved
  cases moved with
  | stored impossible => cases impossible
  | data consumes =>
      cases consumes with
      | empty none =>
          rw [settled.queue] at none
          cases none
      | entry received queue front overrun shows =>
          rw [settled.queue] at front
          obtain ⟨entry, rest⟩ := List.cons.inj front
          have quiet : received.overrun = false := by
            rw [Bool.eq_false_iff]
            intro flagged
            have lost := overrun flagged
            rw [settled.overrun] at lost
            cases lost
          obtain rfl : received = .good byte := by
            obtain ⟨_, _⟩ := received
            cases entry
            cases quiet
            rfl
          obtain rfl := rest
          exact ⟨{ settled with
            consumed := congrArg (· ++ _) settled.consumed
            queue := rfl }, shows⟩

theorem exchanges_tryRead_none {post : Except RxError (Option Byte) → Line → Prop}
    (settled : Settled history [] line)
    (none : ∀ line, Settled history [] line → post (.ok none) line) :
    Exchanges uart depth post uart.tryRead line := by
  rw [tryRead_eq]
  refine .read stable_settled settled fun line flags line' settled moved => ⟨trivial, ?_⟩
  obtain ⟨rfl, -, empty⟩ := rxfe_eq moved
  rw [empty, settled.queue]
  exact .ret stable_settled settled none

/-- The character is still on its way, or it is read. -/
theorem exchanges_tryRead {post : Except RxError (Option Byte) → Line → Prop} (room : 0 < depth)
    (carries : Carries byte history line)
    (none : ∀ line, Carries byte history line → post (.ok none) line)
    (read : ∀ line, Settled (history ++ [.good byte]) [] line → post (.ok (some byte)) line) :
    Exchanges uart depth post uart.tryRead line := by
  rw [tryRead_eq]
  refine .read (stable_carries room) carries fun line flags line' carries moved => ⟨trivial, ?_⟩
  obtain ⟨rfl, -, empty⟩ := rxfe_eq moved
  rw [empty]
  cases carries.arrived with
  | inl waiting =>
      rw [waiting]
      exact .ret (stable_carries room) carries none
  | inr settled =>
      rw [settled.queue]
      refine .read stable_settled settled fun line value line' settled moved => ⟨trivial, ?_⟩
      obtain ⟨settled, shows⟩ := taken settled moved
      rw [shows.flagged, shows.data]
      exact .ret stable_settled settled read

theorem exchanges_tryWrite {post : Except WouldBlock Unit → Line → Prop} (room : 0 < depth)
    (settled : Settled history [] line)
    (sent : ∀ line, Carries byte history line → post (.ok ()) line) :
    Exchanges uart depth post (uart.tryWrite byte) line := by
  simp only [tryWrite, readReg_bind, writeReg_bind]
  refine .read stable_settled settled fun line flags line' settled moved => ⟨trivial, ?_⟩
  obtain ⟨rfl, full, -⟩ := rxfe_eq moved
  have free : ¬line'.capacity depth ≤ 0 := Nat.not_le.mpr (capacity_pos room)
  rw [full, settled.outgoing, List.length_nil, decide_eq_false free]
  refine .write stable_settled settled fun line line' settled moved => ⟨trivial, ?_⟩
  rw [write_eq moved]
  exact .ret (stable_carries room) (settled.write room) sent

theorem exchanges_now {counter : Counter} {next : Word → Driver Result} {assertion : Line → Prop}
    (stable : (serial uart depth).Stable assertion) (holds : assertion line)
    (rest : ∀ reading line, assertion line → Exchanges uart depth post (next reading) line) :
    Exchanges uart depth post (.read (.gpt counter.registers .tav) next) line := by
  refine .read stable holds fun line reading line' holds moved => ⟨trivial, ?_⟩
  obtain rfl : line' = line := moved
  exact rest reading line' holds

theorem exchanges_received {counter : Counter} (room : 0 < depth) (start : Word)
    (carries : Carries byte history line) :
    Exchanges uart depth
      (fun done line =>
        if done then Settled (history ++ [.good byte]) [] line else Carries byte history line)
      (received counter uart start byte) line := by
  simp only [received, Counter.elapsedSince, Counter.now, readReg_bind, pure_eq, ret_bind,
    read_bind]
  refine exchanges_now (stable_carries room) carries fun reading line carries => ?_
  by_cases soon : reading - start < timeout
  · rw [decide_eq_true soon, assert_true, ret_bind]
    refine .bind (exchanges_tryRead room carries ?_ ?_)
    · exact fun line carries => .ret (stable_carries room) carries fun _ carries => carries
    · intro line settled
      rw [unwrapRead, pure_eq, ret_bind]
      dsimp only
      rw [assertEqual_self]
      exact .ret stable_settled settled fun _ settled => settled
  · rw [decide_eq_false soon]
    exact fun _ _ => .slow

theorem exchanges_wait {counter : Counter} (room : 0 < depth) (start : Word) (iterations : Nat)
    (carries : Carries byte history line) :
    Exchanges uart depth (fun _ => Settled (history ++ [.good byte]) [])
      (waitFor (received counter uart start byte) iterations) line := by
  refine meets_waitFor (Carries byte history) ?_ (fun _ _ _ _ => .budget) iterations carries
  intro line carries
  refine (exchanges_received room start carries).mono ?_ fun _ _ excused => excused
  intro done line finish
  cases done with
  | false => exact finish
  | true =>
      rw [if_pos rfl] at finish ⊢
      exact .ret stable_settled finish fun _ settled => settled

/-- The bytes come back in the order in which they were sent. -/
theorem exchanges_exchange {counter : Counter} (room : 0 < depth) (bytes : List Byte)
    (settled : Settled history [] line) :
    Exchanges uart depth
      (fun _ => Settled (history ++ bytes.map .good) []) (exchange counter uart bytes) line := by
  induction bytes generalizing line history with
  | nil =>
      rw [List.map_nil, List.append_nil]
      exact .ret stable_settled settled fun _ settled => settled
  | cons byte bytes inductionHypothesis =>
      rw [exchange]
      simp only [Counter.now, readReg_bind]
      refine .bind (exchanges_tryWrite room settled fun line carries => ?_)
      refine exchanges_now (stable_carries room) carries fun start line carries => ?_
      refine .bind ((exchanges_wait room start _ carries).mono ?_ fun _ _ excused => excused)
      intro _ line settled
      refine .bind (exchanges_tryRead_none settled fun line settled => ?_)
      rw [assertEqual_self]
      have rest := inductionHypothesis settled
      rw [List.append_assoc, List.singleton_append] at rest
      exact rest

def elsewhere : Access → Bool
  | .read (.prcm _) _ | .read (.iocfg _) _ | .read (.uart _ _) _ => false
  | .write (.prcm _) _ | .write (.iocfg _) _ | .write (.uart _ _) _ => false
  | .read _ _ | .write _ _ | .act _ => true

/-- Code that stays elsewhere and stops in an exhausted budget only. -/
abbrev Aside (program : Driver Result) : Prop :=
  program.Within (fun access => elsewhere access = true) Budget

theorem aside_trySwitchToHfCrystal : Aside Clocks.trySwitchToHfCrystal := by
  refine fun status => ⟨rfl, ?_⟩
  change Aside (if _ then _ else _)
  split
  · trivial
  · split
    · trivial
    · exact fun _ => ⟨rfl, rfl, rfl, rfl, rfl, trivial⟩

theorem line_elsewhere {block : UartBlock} {access : Access} {line' : Line}
    (apart : elsewhere access = true) (moved : line.access block depth access line') :
    line' = line := by
  cases access with
  | act => exact moved
  | read register value =>
      cases register with
      | uart => cases apart
      | _ => exact moved
  | write register value =>
      cases register with
      | uart => cases apart
      | _ => exact moved

theorem exchanges_aside {program : Driver Result} (aside : Aside program)
    (settled : Settled history [] line) :
    Exchanges uart depth (fun _ => Settled history []) program line := by
  have meets : (serial uart depth).Meets _ _ program line :=
    .within aside stable_settled settled fun _ _ _ apart settled moved =>
      ⟨trivial, line_elsewhere apart moved ▸ settled⟩
  refine meets.mono (fun _ _ settled => settled) ?_
  rintro _ _ ⟨rfl, -⟩
  exact .budget

/-- A zero timeout is over at the first poll, before a byte could be written. -/
theorem exchanges_writeTimeout {counter : Counter} (settled : Settled history [] line) :
    Exchanges uart depth (fun result line => result = .error ⟨⟩ ∧ Settled history [] line)
      (uart.writeTimeout [byte] counter 0 1) line := by
  have within : (0 : Word) ≤ maxTimeout := by decide
  rw [writeTimeout_eq_head [byte] within]
  refine exchanges_now stable_settled settled fun start line settled => ?_
  rw [head_succ]
  refine exchanges_now stable_settled settled fun reading line settled => ?_
  have elapsed : (0 : Word) ≤ reading - start := BitVec.le_def.mpr (Nat.zero_le _)
  rw [turn, if_pos elapsed]
  exact .ret stable_settled settled fun _ settled => ⟨rfl, settled⟩

theorem exchanges_communicate {counter : Counter} (room : 0 < depth)
    (settled : Settled [] [] line) :
    Exchanges uart depth (fun _ => Settled (everyByte.map .good) []) (communicate counter uart)
      line := by
  have requested : Aside Clocks.requestHfCrystal := ⟨rfl, trivial⟩
  have ready : Aside Clocks.hfCrystalReady := fun _ => ⟨rfl, trivial⟩
  rw [communicate]
  apply (exchanges_aside requested settled).andThen
  intro _ line settled
  apply (exchanges_aside (within_waitFor ready rfl _) settled).andThen
  intro _ line settled
  apply (exchanges_aside (within_waitFor aside_trySwitchToHfCrystal rfl _) settled).andThen
  intro _ line settled
  refine .bind (exchanges_tryRead_none settled fun line settled => ?_)
  rw [assertEqual_self]
  apply (exchanges_writeTimeout settled).andThen
  rintro _ line ⟨rfl, settled⟩
  rw [assertEqual_self]
  exact exchanges_exchange room everyByte settled

/-- A contract of which a character that outlives a flush excuses the failures. -/
abbrev Prepares (uart : Uart) (depth : Nat) (post : Result → Line → Prop)
    (program : Driver Result) (line : Line) : Prop :=
  (serial uart depth).Meets post (fun message line => Excused message ∨ line.caught = true) program
    line

/-- From then on everything is excused. -/
theorem prepares_caught (program : Driver Result) (caught : line.caught = true)
    (finish : ∀ result line, line.caught = true → post result line) :
    Prepares uart depth post program line := by
  have stable : (serial uart depth).Stable fun line => line.caught = true :=
    fun _ _ caught shifts => shifts.caught_eq.trans caught
  have meets : (serial uart depth).Meets _ _ program line :=
    .within (.unbounded program) stable caught fun _ _ _ _ caught moved =>
      ⟨trivial, access_caught moved caught⟩
  exact meets.mono finish fun _ _ stopped => .inr stopped.2

theorem stable_programmed {file : UartRegister → Word} :
    (serial uart depth).Stable (Programmed file) :=
  fun _ _ programmed shifts => programmed.shifts shifts

theorem stable_flushed {file : UartRegister → Word} : (serial uart depth).Stable (Flushed file) :=
  fun _ _ flushed shifts => absurd shifts flushed.still

theorem read_eq {register : UartRegister} {value : Word} {line' : Line}
    (kept : readable register = true)
    (moved : line.access uart.registers depth (.read (.uart uart.registers register) value) line') :
    line' = line ∧ value = line.words register := by
  rw [Line.access, if_pos rfl] at moved
  cases moved with
  | stored _ same => exact ⟨rfl, same⟩
  | flags | data | status => cases kept

theorem prepares_read {register : UartRegister} {next : Word → Driver Result}
    {assertion : Line → Prop} (kept : readable register = true)
    (stable : (serial uart depth).Stable assertion) (holds : assertion line)
    (rest : ∀ line, assertion line → Prepares uart depth post (next (line.words register)) line) :
    Prepares uart depth post (.read (.uart uart.registers register) next) line := by
  refine .read stable holds fun line value line' holds moved => ⟨trivial, ?_⟩
  obtain ⟨rfl, rfl⟩ := read_eq kept moved
  exact rest line' holds

theorem prepares_write {register : UartRegister} {value : Word} {next : Driver Result}
    {assertion : Line → Prop} (stable : (serial uart depth).Stable assertion)
    (holds : assertion line)
    (rest : ∀ line, assertion line →
      Prepares uart depth post next (line.write depth value register)) :
    Prepares uart depth post (.write (.uart uart.registers register) value next) line := by
  refine .write stable holds fun line line' holds moved => ⟨trivial, ?_⟩
  rw [write_eq moved]
  exact rest line holds

theorem prepares_loopBack {file : UartRegister → Word} (programmed : Programmed file line)
    (controlled : file .ctl = control) (formatted : file .lcrh = format) :
    Prepares uart depth (fun _ line => line.caught = true ∨ Settled [] [] line)
      (loopBack uart.registers) line := by
  simp only [loopBack, readReg_bind, writeReg_bind]
  refine prepares_read rfl stable_programmed programmed fun line programmed => ?_
  have enabled : (Word.flag control ctlUarten && Word.flag control ctlRxe &&
      Word.flag control ctlTxe) = true := by decide
  rw [programmed.words, controlled, enabled, assert_true, ret_bind]
  refine prepares_write stable_programmed programmed fun line programmed => ?_
  refine prepares_read rfl stable_programmed (programmed.write rfl) fun line programmed => ?_
  rw [programmed.words, Function.update_of_ne (by decide), formatted]
  refine prepares_write stable_programmed programmed fun line programmed => ?_
  -- Nothing new arrives once the UART is disabled.
  have flushed : (line.write depth (Word.setFlag format lcrhFen false) .lcrh).caught = true ∨
      Flushed _ (line.write depth (Word.setFlag format lcrhFen false) .lcrh) :=
    programmed.flush (by rw [Function.update_self]; decide) (by decide)
  rcases flushed with caught | flushed
  · exact prepares_caught _ caught fun _ _ caught => .inl caught
  refine prepares_write stable_flushed flushed fun line flushed => ?_
  refine prepares_write stable_flushed (flushed.write rfl nofun) fun line flushed => ?_
  refine prepares_write stable_flushed (flushed.write rfl fun _ => by decide) fun line flushed => ?_
  refine .ret stable_settled (flushed.link (by decide) (by decide) ?_) fun _ settled => .inr settled
  rw [Function.update_of_ne (by decide), Function.update_self]
  decide

end Exchange

end DirectLine.Firmware.UartTest
