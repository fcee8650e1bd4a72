import DirectLine.Firmware.Timer
import DirectLine.Interaction.Transition

/-!
# Interrupt priorities

`set_priority` reads, modifies and writes one of the words in which the NVIC
packs its priorities.  Read back as bytes, a sequence of calls is a sequence of
updates of an array with an entry for each interrupt.
-/

namespace DirectLine.Firmware.Interrupts

open DirectLine.Interaction DirectLine.Interaction.Program

abbrev Words := Nat → Word

/-- The priority words are plain memory. -/
inductive Holds : Words → Access → Words → Prop where
  | read (words : Words) (word : Nat) :
      Holds words (.read (.nvic (.ipr word)) (words word)) words
  | write (words : Words) (word : Nat) (value : Word) :
      Holds words (.write (.nvic (.ipr word)) value) (Function.update words word value)

def Executes (program : Driver Unit) (words words' : Words) : Prop :=
  ∃ trace, Returns program trace () ∧ Trace Holds words trace words'

structure PriorityCall where
  irq : Nat
  priority : Word
  deriving DecidableEq, Repr

namespace PriorityCall

/-- What the assertions of `set_priority` accept. -/
def Accepted (call : PriorityCall) : Prop := call.irq < irqCount ∧ call.priority < priorityLevels

instance (call : PriorityCall) : Decidable call.Accepted := inferInstanceAs (Decidable (_ ∧ _))

def code (call : PriorityCall) : Driver Unit := setPriority call.irq call.priority

def byte (call : PriorityCall) : Byte := (call.priority <<< 5).setWidth 8

end PriorityCall

def setPriorities : List PriorityCall → Driver Unit
  | [] => return ()
  | call :: calls => do
      call.code
      setPriorities calls

/-- The byte of an interrupt. -/
def priorityByte (words : Words) (irq : Nat) : Byte :=
  (words (irq / 4)).extractLsb' (irq % 4 * 8) 8

/-- A call as an update of the array. -/
def setByte (bytes : Nat → Byte) (call : PriorityCall) : Nat → Byte :=
  Function.update bytes call.irq call.byte

def setWord (words : Words) (call : PriorityCall) : Words :=
  Function.update words (call.irq / 4)
    (Word.setField (words (call.irq / 4)) (call.irq % 4 * 8) 8 (call.priority <<< 5))

section Bytes

variable {words words' : Words} {irq : Nat} {call : PriorityCall}

theorem getLsbD_priorityByte (bit : Nat) :
    (priorityByte words irq).getLsbD bit =
      (decide (bit < 8) && (words (irq / 4)).getLsbD (irq % 4 * 8 + bit)) :=
  BitVec.getLsbD_extractLsb' ..

theorem words_ext (bytes : priorityByte words = priorityByte words') : words = words' := by
  funext word
  apply BitVec.eq_of_getLsbD_eq
  intro bit inside
  have same := congrArg (BitVec.getLsbD · (bit % 8)) (congrFun bytes (word * 4 + bit / 8))
  have place : (word * 4 + bit / 8) / 4 = word := by omega
  have offset : (word * 4 + bit / 8) % 4 * 8 + bit % 8 = bit := by omega
  have small : bit % 8 < 8 := Nat.mod_lt _ (by decide)
  simpa only [getLsbD_priorityByte, place, offset, small, decide_true, Bool.true_and] using same

/-- A call on the words is an update of the array. -/
theorem priorityByte_setWord (words : Words) (call : PriorityCall) :
    priorityByte (setWord words call) = setByte (priorityByte words) call := by
  funext irq
  apply BitVec.eq_of_getLsbD_eq
  intro bit inside
  rw [getLsbD_priorityByte, setByte, decide_eq_true inside, Bool.true_and]
  by_cases same : irq = call.irq
  · subst same
    rw [setWord, Function.update_self, Function.update_self, Word.getLsbD_setField,
      if_pos (by omega), PriorityCall.byte, BitVec.getLsbD_setWidth, Nat.add_sub_cancel_left,
      decide_eq_true inside, decide_eq_true (by omega)]
  · rw [Function.update_of_ne same, getLsbD_priorityByte, decide_eq_true inside, Bool.true_and,
      setWord]
    by_cases shared : irq / 4 = call.irq / 4
    · rw [shared, Function.update_self, Word.getLsbD_setField_of_outside]
      omega
    · rw [Function.update_of_ne shared]

theorem setByte_comm {first second : PriorityCall} (differ : first.irq ≠ second.irq)
    (bytes : Nat → Byte) :
    setByte (setByte bytes first) second = setByte (setByte bytes second) first :=
  Function.update_comm differ _ _ _

end Bytes

section Executions

variable {words words' : Words} {call : PriorityCall} {calls : List PriorityCall}

theorem code_of_not_accepted (refused : ¬call.Accepted) :
    call.code = .panic (if call.irq < irqCount then "interrupt priority out of range"
      else "peripheral IRQ out of range") := by
  by_cases inRange : call.irq < irqCount
  · have invalid : ¬call.priority < priorityLevels := fun valid => refused ⟨inRange, valid⟩
    rw [if_pos inRange]
    simp only [PriorityCall.code, setPriority, inRange, invalid, decide_true, decide_false,
      assert_true, ret_bind]
    rfl
  · rw [if_neg inRange]
    simp only [PriorityCall.code, setPriority, inRange, decide_false]
    rfl

theorem code_of_accepted (accepted : call.Accepted) :
    call.code = .read (.nvic (.ipr (call.irq / 4))) fun word =>
      .write (.nvic (.ipr (call.irq / 4)))
        (Word.setField word (call.irq % 4 * 8) 8 (call.priority <<< 5)) (.ret ()) := by
  rw [PriorityCall.code, setPriority_eq accepted.1 accepted.2]
  simp only [setField_priority accepted.2]

theorem executes_code_bind_iff (accepted : call.Accepted) {after : Unit → Driver Unit} :
    Executes (call.code >>= after) words words' ↔
      Executes (after ()) (setWord words call) words' := by
  rw [code_of_accepted accepted]
  simp only [read_bind, write_bind, ret_bind]
  constructor
  · rintro ⟨trace, run, device⟩
    rcases run_read_iff.mp run with ⟨-, ⟨⟩⟩ | ⟨word, trace, rfl, modified⟩
    rcases run_write_iff.mp modified with ⟨-, ⟨⟩⟩ | ⟨trace, rfl, rest⟩
    cases device with
    | cons taken device =>
        cases taken
        cases device with
        | cons taken device =>
            cases taken
            exact ⟨trace, rest, device⟩
  · rintro ⟨trace, run, device⟩
    exact ⟨_, .cons (.read _ _ _) (.cons (.write _ _ _) run),
      .cons (.read words _) (.cons (.write words _ _) device)⟩

theorem executes_setPriorities_iff (accepted : ∀ call ∈ calls, call.Accepted) :
    Executes (setPriorities calls) words words' ↔ words' = calls.foldl setWord words := by
  induction calls generalizing words with
  | nil =>
      constructor
      · rintro ⟨trace, run, device⟩
        obtain ⟨rfl, -⟩ := run_ret_iff.mp run
        cases device
        rfl
      · rintro rfl
        exact ⟨[], .nil _, .nil _⟩
  | cons call calls inductionHypothesis =>
      obtain ⟨first, rest⟩ := List.forall_mem_cons.mp accepted
      rw [setPriorities, executes_code_bind_iff first, inductionHypothesis rest]
      rfl

theorem priorityByte_foldl (calls : List PriorityCall) (words : Words) :
    priorityByte (calls.foldl setWord words) = calls.foldl setByte (priorityByte words) := by
  induction calls generalizing words with
  | nil => rfl
  | cons call calls inductionHypothesis =>
      rw [List.foldl_cons, inductionHypothesis, priorityByte_setWord]
      rfl

theorem foldl_setByte (calls : List PriorityCall) (bytes : Nat → Byte) (irq : Nat) :
    calls.foldl setByte bytes irq =
      ((calls.reverse.find? fun call => call.irq = irq).map PriorityCall.byte).getD
        (bytes irq) := by
  induction calls using List.reverseRecOn with
  | nil => rfl
  | append_singleton calls call inductionHypothesis =>
      rw [List.foldl_concat, List.reverse_append, List.reverse_singleton, List.singleton_append,
        List.find?_cons, setByte]
      by_cases named : irq = call.irq
      · subst named
        simp
      · rw [Function.update_of_ne named, inductionHypothesis, decide_eq_false (Ne.symm named)]

end Executions

/-- `set_priority` as an update of an array of bytes. -/
theorem setPriority_refines (words : Words) :
    (∀ calls : List PriorityCall, (∀ call ∈ calls, call.Accepted) →
      ∃ words', Executes (setPriorities calls) words words' ∧
        (∀ other, Executes (setPriorities calls) words other → other = words') ∧
        priorityByte words' = calls.foldl setByte (priorityByte words) ∧
        ∀ irq, priorityByte words' irq =
          ((calls.reverse.find? fun call => call.irq = irq).map PriorityCall.byte).getD
            (priorityByte words irq)) ∧
    (∀ first second : PriorityCall, first.Accepted → second.Accepted → first.irq ≠ second.irq →
      ∀ words', Executes (setPriorities [first, second]) words words' ↔
        Executes (setPriorities [second, first]) words words') ∧
    ∀ call : PriorityCall, ¬call.Accepted →
      call.code = .panic (if call.irq < irqCount then "interrupt priority out of range"
        else "peripheral IRQ out of range") := by
  refine ⟨fun calls accepted => ?_, fun first second one other differ words' => ?_,
    fun call => code_of_not_accepted⟩
  · have bytes := priorityByte_foldl calls words
    refine ⟨calls.foldl setWord words, (executes_setPriorities_iff accepted).mpr rfl,
      fun other => (executes_setPriorities_iff accepted).mp, bytes, fun irq => ?_⟩
    rw [bytes, foldl_setByte]
  · rw [executes_setPriorities_iff (by simp [one, other]),
      executes_setPriorities_iff (by simp [one, other])]
    have same : [first, second].foldl setWord words = [second, first].foldl setWord words := by
      apply words_ext
      rw [priorityByte_foldl, priorityByte_foldl]
      exact setByte_comm differ _
    rw [same]

/-- Two timers whose priorities share a word, one of them set twice. -/
theorem setPriority_refines_shared :
    ∃ words', Executes (setPriorities [⟨gpt0a, 5⟩, ⟨gpt1a, 2⟩, ⟨gpt0a, 3⟩])
        (fun _ => BitVec.allOnes 32) words' ∧
      priorityByte words' gpt0a = 0x60 ∧ priorityByte words' gpt1a = 0x40 ∧
      priorityByte words' 14 = 0xff ∧ priorityByte words' 47 = 0xff := by
  obtain ⟨words', executes, -, -, bytes⟩ :=
    (setPriority_refines fun _ => BitVec.allOnes 32).1
      [⟨gpt0a, 5⟩, ⟨gpt1a, 2⟩, ⟨gpt0a, 3⟩] (by decide)
  exact ⟨words', executes, (bytes _).trans (by decide), (bytes _).trans (by decide),
    (bytes _).trans (by decide), (bytes _).trans (by decide)⟩

end DirectLine.Firmware.Interrupts
