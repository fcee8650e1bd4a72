import DirectLine.Firmware.Fifo

/-!
# Calls of a UART handle

The contracts of `try_read` and `write_timeout` in any setting whose device
contains the FIFOs.  `view` finds a FIFO in the device, and `frame` is what the
caller keeps across the call.
-/

namespace DirectLine.Firmware.Uart

open DirectLine.Interaction DirectLine.Interaction.Program

variable {State : Type} {setting : Setting Register Instruction Word State}
variable {depth : Nat} {frame : State → Prop} {fail : String → State → Prop} {state : State}

inductive Receives (block : UartBlock) : Access → Prop where
  | flags (value : Word) : Receives block (.read (.uart block .fr) value)
  | data (value : Word) : Receives block (.read (.uart block .dr) value)
  | clear (value : Word) : Receives block (.write (.uart block .ecr) value)

/-- The setting contains a receive FIFO, and its accesses keep the caller's frame. -/
structure Reception (setting : Setting Register Instruction Word State) (block : UartBlock)
    (depth : Nat) (view : State → Receiver) (frame : State → Prop) : Prop where
  access : ∀ state event state', Receives block event → setting.device state event state' →
    (view state).access block event (view state')
  kept : ∀ state event state', Receives block event → frame state →
    setting.device state event state' → setting.guarantee state event state' ∧ frame state'
  rely : ∀ state state', setting.rely state state' →
    view state' = view state ∨ (view state).Arrives depth (view state')
  stable : setting.Stable frame

theorem Received.Shows.flagged {received : Received} {value : Word}
    (shows : received.Shows value) :
    (Word.flag value dataFe || Word.flag value dataPe || Word.flag value dataBe ||
      Word.flag value dataOe) = !received.clean := by
  rw [shows.framing, shows.parity, shows.breakDetected, shows.overrun]
  simp [Received.clean, Entry.erroneous]

theorem tryRead_eq (uart : Uart) :
    uart.tryRead =
      .read (.uart uart.registers .fr) fun flags =>
        if Word.flag flags rxfe then .ret (.ok none)
        else
          .read (.uart uart.registers .dr) fun data =>
            if Word.flag data dataFe || Word.flag data dataPe || Word.flag data dataBe ||
                Word.flag data dataOe then
              .write (.uart uart.registers .ecr) 0
                (.ret (.error ⟨Word.flag data dataFe, Word.flag data dataPe,
                  Word.flag data dataBe, Word.flag data dataOe⟩))
            else .ret (.ok (some (data.setWidth 8))) := rfl

namespace Reception

variable {uart : Uart} {view : State → Receiver} {history : List Received}
variable {post : Except RxError (Option Byte) → State → Prop}

/-- Other contexts leave the reads of `DR` to this one. -/
theorem stable_consumed (reception : Reception setting uart.registers depth view frame)
    (history : List Received) :
    setting.Stable fun state => frame state ∧ (view state).consumed = history := by
  rintro state state' ⟨framed, consumed⟩ step
  refine ⟨reception.stable _ _ framed step, ?_⟩
  rcases reception.rely _ _ step with same | arrives
  · rw [same, consumed]
  · rw [arrives.consumed, consumed]

/-- A call consumes one entry and returns what it makes of it, or finds the FIFO empty. -/
theorem meets_tryRead (reception : Reception setting uart.registers depth view frame)
    (framed : frame state) (consumed : (view state).consumed = history)
    (empty : ∀ state, frame state → (view state).consumed = history → post (.ok none) state)
    (taken : ∀ state received, frame state → (view state).consumed = history ++ [received] →
      post received.outcome state) :
    setting.Meets post fail uart.tryRead state := by
  rw [tryRead_eq]
  refine .read (reception.stable_consumed history) ⟨framed, consumed⟩ ?_
  rintro state flags state' ⟨framed, consumed⟩ moved
  obtain ⟨guarantee, framed⟩ := reception.kept _ _ _ (.flags flags) framed moved
  obtain ⟨same, shown⟩ := reception.access _ _ _ (.flags flags) moved
  refine ⟨guarantee, ?_⟩
  rw [← same] at consumed shown
  split
  · exact .ret (reception.stable_consumed history) ⟨framed, consumed⟩
      fun state finish => empty state finish.1 finish.2
  · rename_i present
    -- An entry that the flags showed stays at the head of the queue until `DR` is read.
    have nonempty : (view state').queue ≠ [] := by
      intro none
      rw [shown rfl, none] at present
      exact present rfl
    have stable : setting.Stable fun state => (frame state ∧ (view state).consumed = history) ∧
        (view state).queue ≠ [] := by
      rintro state state' ⟨kept, nonempty⟩ step
      refine ⟨reception.stable_consumed history _ _ kept step, ?_⟩
      rcases reception.rely _ _ step with same | arrives
      · rwa [same]
      · exact arrives.nonempty nonempty
    refine .read stable ⟨⟨framed, consumed⟩, nonempty⟩ ?_
    rintro state data state' ⟨⟨framed, consumed⟩, nonempty⟩ moved
    obtain ⟨guarantee, framed⟩ := reception.kept _ _ _ (.data data) framed moved
    have popped : (view state).Consumes data (view state') := by
      simpa [Receiver.access] using reception.access _ _ _ (.data data) moved
    obtain ⟨received, grown, shows⟩ := popped.taken nonempty
    rw [consumed] at grown
    refine ⟨guarantee, ?_⟩
    have returns := fun state => taken state received
    simp only [shows.flagged, Received.outcome, Received.flags] at returns ⊢
    rw [← shows.data, ← shows.framing, ← shows.parity, ← shows.breakDetected,
      ← shows.overrun] at returns
    cases clean : received.clean with
    | true =>
        rw [clean] at returns
        exact .ret (reception.stable_consumed _) ⟨framed, grown⟩
          fun state finish => returns state finish.1 finish.2
    | false =>
        rw [clean] at returns
        refine .write (reception.stable_consumed _) ⟨framed, grown⟩ ?_
        rintro state state' ⟨framed, consumed⟩ moved
        obtain ⟨guarantee, framed⟩ := reception.kept _ _ _ (.clear 0) framed moved
        have same := reception.access _ _ _ (.clear 0) moved
        refine ⟨guarantee, .ret (reception.stable_consumed _) ⟨framed, ?_⟩
          fun state finish => returns state finish.1 finish.2⟩
        exact (congrArg Receiver.consumed same).trans consumed

end Reception

inductive Sends (block : UartBlock) (counter : Counter) : Access → Prop where
  | poll (value : Word) : Sends block counter (.read (.gpt counter.registers .tav) value)
  | flags (value : Word) : Sends block counter (.read (.uart block .fr) value)
  | data (value : Word) : Sends block counter (.write (.uart block .dr) value)

structure Transmission (setting : Setting Register Instruction Word State) (block : UartBlock)
    (counter : Counter) (depth : Nat) (view : State → Transmitter) (frame : State → Prop) :
    Prop where
  access : ∀ state event state', Sends block counter event → setting.device state event state' →
    (view state).access block depth event (view state')
  kept : ∀ state event state', Sends block counter event → frame state →
    setting.device state event state' → setting.guarantee state event state' ∧ frame state'
  rely : ∀ state state', setting.rely state state' →
    view state' = view state ∨ (view state).Drains (view state')
  stable : setting.Stable frame

namespace Transmission

variable {uart : Uart} {counter : Counter} {view : State → Transmitter}
variable {start timeoutTicks : Word} {bytes sent : List Byte}
variable {post : Except Timeout Unit → State → Prop}

theorem stable_sent (transmission : Transmission setting uart.registers counter depth view frame)
    (sent : List Byte) : setting.Stable fun state => frame state ∧ (view state).sent = sent := by
  rintro state state' ⟨framed, history⟩ step
  refine ⟨transmission.stable _ _ framed step, ?_⟩
  rcases transmission.rely _ _ step with same | drained
  · rw [same, history]
  · rw [drained, history]

/-- From a head of the retry loop, success sends all that was left. -/
theorem meets_head (transmission : Transmission setting uart.registers counter depth view frame)
    (fuel turns : Nat) (framed : frame state) (history : (view state).sent = sent)
    (success : ∀ state, frame state → (view state).sent = sent ++ bytes → post (.ok ()) state)
    (failure : ∀ state, frame state → post (.error ⟨⟩) state) :
    setting.Meets post fail (uart.head counter start timeoutTicks fuel turns bytes) state := by
  induction bytes generalizing turns state sent with
  | nil =>
      exact .ret (transmission.stable_sent sent) ⟨framed, history⟩
        fun state finish => success state finish.1 (finish.2.trans (List.append_nil _).symm)
  | cons byte bytes onBytes =>
      induction turns generalizing state with
      | zero => trivial
      | succ turns onTurns =>
          rw [head_succ]
          refine .read (transmission.stable_sent sent) ⟨framed, history⟩ ?_
          rintro state reading state' ⟨framed, history⟩ moved
          obtain ⟨guarantee, framed⟩ := transmission.kept _ _ _ (.poll reading) framed moved
          have same := transmission.access _ _ _ (.poll reading) moved
          rw [← show view state' = view state from same] at history
          refine ⟨guarantee, ?_⟩
          unfold turn
          split
          · exact .ret (transmission.stable_sent sent) ⟨framed, history⟩
              fun state finish => failure state finish.1
          · refine .read (transmission.stable_sent sent) ⟨framed, history⟩ ?_
            rintro state flags state' ⟨framed, history⟩ moved
            obtain ⟨guarantee, framed⟩ := transmission.kept _ _ _ (.flags flags) framed moved
            obtain ⟨same, shown⟩ := transmission.access _ _ _ (.flags flags) moved
            rw [← same] at history shown
            refine ⟨guarantee, ?_⟩
            split
            · exact onTurns framed history
            · rename_i free
              -- Room that the flags showed can only grow until `DR` is written.
              have room : (view state').level < depth := by
                rw [shown rfl, decide_eq_true_iff] at free
                exact Nat.lt_of_not_le free
              have stable : setting.Stable fun state =>
                  (frame state ∧ (view state).sent = sent) ∧ (view state).level < depth := by
                rintro state state' ⟨kept, room⟩ step
                refine ⟨transmission.stable_sent sent _ _ kept step, ?_⟩
                rcases transmission.rely _ _ step with same | drained
                · rwa [same]
                · rw [drained]
                  exact (Nat.sub_le _ _).trans_lt room
              refine .write stable ⟨⟨framed, history⟩, room⟩ ?_
              rintro state state' ⟨⟨framed, history⟩, room⟩ moved
              obtain ⟨guarantee, framed⟩ := transmission.kept _ _ _ (.data _) framed moved
              have pushed := transmission.access _ _ _ (.data _) moved
              have history : (view state').sent = sent ++ [byte] := by
                rw [show view state' = _ from pushed, if_pos ⟨rfl, room⟩]
                simp [history]
              refine ⟨guarantee, onBytes fuel framed history fun state framed history => ?_⟩
              exact success state framed (by simpa using history)

/-- A successful call has put every byte of the slice into the FIFO, in order. -/
theorem meets_writeTimeout
    (transmission : Transmission setting uart.registers counter depth view frame) (fuel : Nat)
    (framed : frame state) (history : (view state).sent = sent)
    (success : ∀ state, frame state → (view state).sent = sent ++ bytes → post (.ok ()) state)
    (failure : ∀ state, frame state → post (.error ⟨⟩) state) :
    setting.Meets post fail (uart.writeTimeout bytes counter timeoutTicks fuel) state := by
  by_cases within : timeoutTicks ≤ maxTimeout
  · rw [writeTimeout_eq_head bytes within]
    refine .read (transmission.stable_sent sent) ⟨framed, history⟩ ?_
    rintro state start state' ⟨framed, history⟩ moved
    obtain ⟨guarantee, framed⟩ := transmission.kept _ _ _ (.poll start) framed moved
    have same := transmission.access _ _ _ (.poll start) moved
    rw [← show view state' = view state from same] at history
    exact ⟨guarantee, transmission.meets_head fuel fuel framed history success failure⟩
  · rw [writeTimeout, if_pos (BitVec.not_le.mp within)]
    exact .ret (transmission.stable_sent sent) ⟨framed, history⟩
      fun state finish => failure state finish.1

end Transmission

end DirectLine.Firmware.Uart
