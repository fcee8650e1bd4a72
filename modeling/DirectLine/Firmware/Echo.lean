import DirectLine.Firmware.Acquisition.Order
import DirectLine.Firmware.Fifo.Calls
import DirectLine.Firmware.Main

/-!
# The echo loop

What the final loop of the application has done whenever it is back at its
head.  Between any two of its accesses characters may arrive, bytes may leave
for the wire and the timer's handler may run; the counter may show any value.
-/

namespace DirectLine.Firmware.Echo

open DirectLine.Interaction DirectLine.Interaction.Program Uart

structure Console where
  receiver : Receiver
  transmitter : Transmitter
  dout : Word
  blinkCount : Word
  /-- The cell of `TIMER_INTERRUPTS` that the timer's handle reads. -/
  count : Word
  acknowledged : Nat

namespace Console

structure Moves (board : Board) (depth : Nat) (console : Console) (access : Access)
    (console' : Console) : Prop where
  receiver : console.receiver.access board.uart.registers access console'.receiver
  transmitter : console.transmitter.access board.uart.registers depth access console'.transmitter
  dout : console'.dout = Gpio.latches console.dout access
  blinkCount : console'.blinkCount =
    if access = .act .countBlink then console.blinkCount + 1 else console.blinkCount
  count : console'.count = console.count
  acknowledged : console'.acknowledged = console.acknowledged
  answer : ∀ value, access = .read (.timerInterrupts board.timer.count) value →
    value = console.count

inductive Disturbs (depth : Nat) (console : Console) : Console → Prop where
  | arrive (receiver : Receiver) : console.receiver.Arrives depth receiver →
      Disturbs depth console { console with receiver := receiver }
  | drain (transmitter : Transmitter) : console.transmitter.Drains transmitter →
      Disturbs depth console { console with transmitter := transmitter }
  | acknowledge :
      Disturbs depth console
        { console with count := console.count + 1, acknowledged := console.acknowledged + 1 }

/-- Nothing has been received, sent or blinked yet, and both LEDs are off. -/
structure Fresh (console : Console) : Prop where
  accepted : console.receiver.accepted = console.receiver.queue
  consumed : console.receiver.consumed = []
  sent : console.transmitter.sent = []
  red : Word.flag console.dout Board.redLedDio = false
  green : Word.flag console.dout Board.greenLedDio = false
  blinkCount : console.blinkCount = 0
  acknowledged : console.acknowledged = 0

end Console

/-- The loop: its head is reached with a value of `previous`, and a turn follows. -/
def loop (board : Board) (depth : Nat) :
    Process Register Instruction Word Console Word where
  device := Console.Moves board depth
  rely := Console.Disturbs depth
  next previous _ program := ∃ fuel, program = Main.turn board fuel previous

/-- The bytes sent for a consumed entry. -/
def reply (received : Received) : List Byte :=
  if received.clean then [received.entry.data] else Main.rxError

/-- How often each LED has been toggled and `BLINK_COUNT` has been incremented; `previous` is a
reading of the count, up to which `seen` acknowledgements have been noticed. -/
structure Blinking (previous : Word) (red green counted seen : Nat) (console : Console) : Prop where
  red : Word.flag console.dout Board.redLedDio = decide (red % 2 = 1)
  green : Word.flag console.dout Board.greenLedDio = decide (green % 2 = 1)
  blinkCount : console.blinkCount = BitVec.ofNat 32 counted
  acknowledged : seen + (if console.count = previous then 0 else 1) ≤ console.acknowledged

structure Answered (console : Console) : Prop where
  sent : console.transmitter.sent = console.receiver.consumed.flatMap reply
  ordered : console.receiver.Ordered

/-- The invariant of the loop's head. -/
structure Head (previous : Word) (console : Console) : Prop where
  answered : Answered console
  blinking : ∃ blinks, Blinking previous blinks blinks blinks blinks console

section Steps

variable {previous : Word} {red green counted seen : Nat} {console console' : Console}
variable {board : Board} {depth : Nat} {access : Access}

theorem Blinking.disturbed (blinking : Blinking previous red green counted seen console)
    (step : console.Disturbs depth console') :
    Blinking previous red green counted seen console' := by
  cases step with
  | arrive | drain =>
      exact ⟨blinking.red, blinking.green, blinking.blinkCount, blinking.acknowledged⟩
  | acknowledge =>
      refine ⟨blinking.red, blinking.green, blinking.blinkCount, ?_⟩
      have before := blinking.acknowledged
      dsimp only
      split <;> split at before <;> omega

theorem Answered.disturbed (answered : Answered console)
    (step : console.Disturbs depth console') : Answered console' := by
  cases step with
  | arrive receiver arrives =>
      refine ⟨?_, answered.ordered.arrives arrives⟩
      rw [arrives.consumed]
      exact answered.sent
  | drain transmitter drains =>
      refine ⟨?_, answered.ordered⟩
      rw [drains]
      exact answered.sent
  | acknowledge => exact ⟨answered.sent, answered.ordered⟩

theorem Blinking.kept (blinking : Blinking previous red green counted seen console)
    (moves : console.Moves board depth access console')
    (dark : ∀ dout, Gpio.latches dout access = dout) (uncounted : access ≠ .act .countBlink) :
    Blinking previous red green counted seen console' := by
  have dout := moves.dout.trans (dark _)
  have blinkCount := moves.blinkCount.trans (if_neg uncounted)
  refine ⟨?_, ?_, ?_, ?_⟩
  · rw [dout]
    exact blinking.red
  · rw [dout]
    exact blinking.green
  · rw [blinkCount]
    exact blinking.blinkCount
  · rw [moves.count, moves.acknowledged]
    exact blinking.acknowledged

theorem Answered.kept (answered : Answered console)
    (moves : console.Moves board depth access console')
    (deaf : ∀ receiver receiver', Receiver.access board.uart.registers receiver access receiver' →
      receiver' = receiver)
    (mute : ∀ transmitter transmitter',
      Transmitter.access board.uart.registers depth transmitter access transmitter' →
        transmitter' = transmitter) :
    Answered console' := by
  refine ⟨?_, ?_⟩
  · rw [deaf _ _ moves.receiver, mute _ _ moves.transmitter]
    exact answered.sent
  · rw [deaf _ _ moves.receiver]
    exact answered.ordered

/-- Toggling one pin inverts its latch and no other. -/
theorem flag_toggle (dout : Word) (pin dio : Nat) (valid : dio < 32) :
    Word.flag (dout ^^^ Word.bit 32 pin) dio = (Word.flag dout dio ^^ decide (dio = pin)) := by
  rw [Word.flag, BitVec.getLsbD_xor, Word.getLsbD_bit, Word.flag]
  simp only [valid, true_and]

theorem decide_odd_succ (count : Nat) : decide ((count + 1) % 2 = 1) = !decide (count % 2 = 1) := by
  rw [Bool.eq_iff_iff]
  simp only [Bool.not_eq_true', decide_eq_true_eq, decide_eq_false_iff_not]
  omega

theorem Blinking.toggleRed (blinking : Blinking previous red green counted seen console)
    (moves : console.Moves Board.assembled depth
      (.write (.gpio .douttgl) Board.assembled.redLed.mask) console') :
    Blinking previous (red + 1) green counted seen console' := by
  refine ⟨?_, ?_, ?_, ?_⟩
  · rw [moves.dout, decide_odd_succ, ← blinking.red]
    exact (flag_toggle _ _ _ (by decide)).trans (Bool.xor_true _)
  · rw [moves.dout, ← blinking.green]
    exact (flag_toggle _ _ _ (by decide)).trans (Bool.xor_false _)
  · exact (moves.blinkCount.trans (if_neg (by simp))).trans blinking.blinkCount
  · rw [moves.count, moves.acknowledged]
    exact blinking.acknowledged

theorem Blinking.toggleGreen (blinking : Blinking previous red green counted seen console)
    (moves : console.Moves Board.assembled depth
      (.write (.gpio .douttgl) Board.assembled.greenLed.mask) console') :
    Blinking previous red (green + 1) counted seen console' := by
  refine ⟨?_, ?_, ?_, ?_⟩
  · rw [moves.dout, ← blinking.red]
    exact (flag_toggle _ _ _ (by decide)).trans (Bool.xor_false _)
  · rw [moves.dout, decide_odd_succ, ← blinking.green]
    exact (flag_toggle _ _ _ (by decide)).trans (Bool.xor_true _)
  · exact (moves.blinkCount.trans (if_neg (by simp))).trans blinking.blinkCount
  · rw [moves.count, moves.acknowledged]
    exact blinking.acknowledged

theorem Blinking.countBlink (blinking : Blinking previous red green counted seen console)
    (moves : console.Moves board depth (.act .countBlink) console') :
    Blinking previous red green (counted + 1) seen console' := by
  refine ⟨?_, ?_, ?_, ?_⟩
  · rw [moves.dout]
    exact blinking.red
  · rw [moves.dout]
    exact blinking.green
  · rw [moves.blinkCount, if_pos rfl, blinking.blinkCount, BitVec.ofNat_add]
    rfl
  · rw [moves.count, moves.acknowledged]
    exact blinking.acknowledged

end Steps

section Turn

variable {depth fuel : Nat} {previous : Word} {red green counted seen : Nat}
variable {console : Console}

abbrev turning (depth : Nat) : Setting Register Instruction Word Console :=
  (loop Board.assembled depth).setting fun _ _ _ => True

theorem stable_answered_blinking :
    (turning depth).Stable fun console =>
      Answered console ∧ Blinking previous red green counted seen console :=
  fun _ _ holds step => ⟨holds.1.disturbed step, holds.2.disturbed step⟩

/-- The LEDs follow the count, each in turn, and the blink is counted. -/
theorem meets_blink {post : Word → Console → Prop} {fail : String → Console → Prop}
    (head : Head previous console)
    (posts : ∀ previous console, Head previous console → post previous console) :
    (turning depth).Meets post fail (Main.blink Board.assembled previous) console := by
  obtain ⟨blinks, blinking⟩ := head.blinking
  rw [Main.blink_eq]
  refine .read stable_answered_blinking ⟨head.answered, blinking⟩ ?_
  rintro console current console' ⟨answered, blinking⟩ moved
  refine ⟨trivial, ?_⟩
  have answered := answered.kept moved (fun _ _ same => same) fun _ _ same => same
  have reading := moved.answer current rfl
  by_cases same : current = previous
  · have blinking := blinking.kept moved (fun _ => rfl) (by simp)
    rw [if_neg (by simpa using same)]
    exact .ret stable_answered_blinking ⟨answered, blinking⟩
      fun console finish => posts _ _ ⟨finish.1, blinks, finish.2⟩
  · rw [if_pos (by simpa using same)]
    -- The reading has noticed an acknowledgement that no blink has shown yet.
    have blinking : Blinking current blinks blinks blinks (blinks + 1) console' := by
      have kept := blinking.kept moved (fun _ => rfl) (by simp)
      refine ⟨kept.red, kept.green, kept.blinkCount, ?_⟩
      have noticed := kept.acknowledged
      rw [moved.count, ← reading, if_neg same] at noticed
      rwa [moved.count, ← reading, if_pos rfl]
    refine .write stable_answered_blinking ⟨answered, blinking⟩ ?_
    rintro console console' ⟨answered, blinking⟩ moved
    have answered := answered.kept moved (fun _ _ same => same) fun _ _ same => same
    refine ⟨trivial, .write stable_answered_blinking ⟨answered, blinking.toggleRed moved⟩ ?_⟩
    rintro console console' ⟨answered, blinking⟩ moved
    have answered := answered.kept moved (fun _ _ same => same) fun _ _ same => same
    refine ⟨trivial, .act stable_answered_blinking ⟨answered, blinking.toggleGreen moved⟩ ?_⟩
    rintro console console' ⟨answered, blinking⟩ moved
    have answered := answered.kept moved (fun _ _ same => same) fun _ _ same => same
    exact ⟨trivial, .ret stable_answered_blinking ⟨answered, blinking.countBlink moved⟩
      fun console finish => posts _ _ ⟨finish.1, blinks + 1, finish.2⟩⟩

/-- While a character is fetched, nothing is sent. -/
theorem reception (sent : List Byte) :
    Reception (turning depth) Board.assembled.uart.registers depth Console.receiver fun console =>
      console.transmitter.sent = sent ∧ console.receiver.Ordered ∧
        Blinking previous red green counted seen console where
  access _ _ _ _ moved := moved.receiver
  kept := by
    rintro console event console' receives ⟨history, ordered, blinking⟩ moved
    refine ⟨trivial, ?_, ordered.access moved.receiver, ?_⟩
    · have silent := moved.transmitter
      cases receives with
      | flags => exact silent.1 ▸ history
      | data | clear => exact (show console'.transmitter = _ from silent) ▸ history
    · cases receives <;> exact blinking.kept moved (fun _ => rfl) (by simp)
  rely := by
    intro console console' step
    cases step with
    | arrive receiver arrives => exact .inr arrives
    | drain | acknowledge => exact .inl rfl
  stable := by
    rintro console console' ⟨history, ordered, blinking⟩ step
    refine ⟨?_, ?_, blinking.disturbed step⟩
    · cases step with
      | drain transmitter drains => exact (congrArg Transmitter.sent drains).trans history
      | arrive | acknowledge => exact history
    · cases step with
      | arrive receiver arrives => exact ordered.arrives arrives
      | drain | acknowledge => exact ordered

theorem transmission (consumed : List Received) :
    Transmission (turning depth) Board.assembled.uart.registers Board.assembled.counter depth
      Console.transmitter fun console =>
        console.receiver.consumed = consumed ∧ console.receiver.Ordered ∧
          Blinking previous red green counted seen console where
  access _ _ _ _ moved := moved.transmitter
  kept := by
    rintro console event console' sends ⟨history, ordered, blinking⟩ moved
    refine ⟨trivial, ?_, ordered.access moved.receiver, ?_⟩
    · have still := moved.receiver
      cases sends with
      | flags => exact still.1 ▸ history
      | poll | data => exact (show console'.receiver = _ from still) ▸ history
    · cases sends <;> exact blinking.kept moved (fun _ => rfl) (by simp)
  rely := by
    intro console console' step
    cases step with
    | drain transmitter drains => exact .inr drains
    | arrive | acknowledge => exact .inl rfl
  stable := by
    rintro console console' ⟨history, ordered, blinking⟩ step
    refine ⟨?_, ?_, blinking.disturbed step⟩
    · cases step with
      | arrive receiver arrives => exact arrives.consumed.trans history
      | drain | acknowledge => exact history
    · cases step with
      | arrive receiver arrives => exact ordered.arrives arrives
      | drain | acknowledge => exact ordered

/-- An answer that is complete leads back to the head. -/
theorem meets_return {post : Word → Console → Prop} {fail : String → Console → Prop}
    {blinks : Nat} (answered : Answered console)
    (blinking : Blinking previous blinks blinks blinks blinks console)
    (posts : ∀ console, Head previous console → post previous console) :
    (turning depth).Meets (fun _ => (turning depth).Meets post fail (.ret previous)) fail
      (.ret ()) console := by
  refine .ret stable_answered_blinking ⟨answered, blinking⟩ fun console holds => ?_
  exact .ret stable_answered_blinking holds
    fun console finish => posts console ⟨finish.1, blinks, finish.2⟩

theorem meets_send {post : Word → Console → Prop} {bytes sent : List Byte} {blinks : Nat}
    {consumed : List Received} (history : console.transmitter.sent = sent)
    (taken : console.receiver.consumed = consumed) (ordered : console.receiver.Ordered)
    (blinking : Blinking previous blinks blinks blinks blinks console)
    (complete : sent ++ bytes = consumed.flatMap reply)
    (posts : ∀ console, Head previous console → post previous console) :
    (turning depth).Meets
      (fun _ => (turning depth).Meets post (fun _ _ => True) (.ret previous)) (fun _ _ => True)
      (Board.assembled.uart.writeTimeout bytes Board.assembled.counter Main.timeout fuel >>=
        Main.unwrap) console := by
  refine .bind ((transmission consumed).meets_writeTimeout fuel ⟨taken, ordered, blinking⟩
    history ?_ ?_)
  · rintro console ⟨taken, ordered, blinking⟩ history
    refine meets_return ⟨?_, ordered⟩ blinking posts
    rw [history, taken, complete]
  · exact fun _ _ _ _ => trivial

theorem meets_turn {post : Word → Console → Prop} (head : Head previous console)
    (posts : ∀ previous console, Head previous console → post previous console) :
    (turning depth).Meets post (fun _ _ => True) (Main.turn Board.assembled fuel previous)
      console := by
  refine .bind (meets_blink head ?_)
  rintro previous console ⟨answered, blinks, blinking⟩
  refine .bind (.bind ((reception _).meets_tryRead ⟨rfl, answered.ordered, blinking⟩ rfl ?_ ?_))
  · rintro state ⟨history, ordered, blinking⟩ consumed
    refine meets_return ⟨?_, ordered⟩ blinking (posts previous)
    rw [history, consumed]
    exact answered.sent
  · rintro state received ⟨history, ordered, blinking⟩ consumed
    have complete : console.transmitter.sent ++ reply received =
        (console.receiver.consumed ++ [received]).flatMap reply := by
      rw [answered.sent, List.flatMap_append, List.flatMap_singleton]
    cases clean : received.clean with
    | true =>
        simp only [reply, clean, if_true] at complete
        rw [Received.outcome, if_pos clean]
        exact meets_send history consumed ordered blinking complete (posts previous)
    | false =>
        simp only [reply, clean, Bool.false_eq_true, if_false] at complete
        rw [Received.outcome, if_neg (by simp [clean])]
        exact meets_send history consumed ordered blinking complete (posts previous)

end Turn

theorem reaches_head {depth : Nat} {start console : Console} {previous : Word}
    (fresh : start.Fresh)
    (reaches : (loop Board.assembled depth).Reaches ⟨.ret start.count, start⟩
      ⟨.ret previous, console⟩) : Head previous console := by
  have begins : Head start.count start := by
    refine ⟨⟨?_, ?_⟩, 0, ⟨fresh.red, fresh.green, fresh.blinkCount, ?_⟩⟩
    · rw [fresh.sent, fresh.consumed]
      rfl
    · rw [Receiver.Ordered, fresh.accepted, fresh.consumed]
      rfl
    · rw [if_pos rfl, fresh.acknowledged]
  have meets : (turning depth).Meets Head (fun _ _ => True) (.ret previous) console := by
    refine reaches.meets ?_ ?_
    · rintro previous console program head ⟨fuel, rfl⟩
      exact meets_turn head fun _ _ head => head
    · obtain ⟨blinks, blinking⟩ := begins.blinking
      exact .ret stable_answered_blinking ⟨begins.answered, blinking⟩
        fun console finish => ⟨finish.1, blinks, finish.2⟩
  exact meets.returned

/-- Whenever the loop is back at its head, it has sent the reply to every entry consumed, in
order; entries are consumed in the order of their arrival, each once; both LEDs show the parity
of the blinks; and no blink lacks its acknowledgement. -/
theorem echo_faithful (board : Board) (taken : Bool) (trace : List Access)
    (acquired : Returns (Board.take taken) trace (some board)) (depth : Nat) (start : Console)
    (fresh : start.Fresh) (previous : Word) (console : Console)
    (reaches : (loop board depth).Reaches ⟨.ret start.count, start⟩ ⟨.ret previous, console⟩) :
    console.transmitter.sent = console.receiver.consumed.flatMap reply ∧
    console.receiver.accepted =
      console.receiver.consumed.map Received.entry ++ console.receiver.queue ∧
    Word.flag console.dout Board.redLedDio = Word.flag console.dout Board.greenLedDio ∧
    Word.flag console.dout Board.redLedDio = decide (console.blinkCount.toNat % 2 = 1) ∧
    console.blinkCount.toNat ≤ console.acknowledged := by
  obtain rfl := (Board.yields_take taken).returned acquired board rfl
  obtain ⟨answered, blinks, blinking⟩ := reaches_head fresh reaches
  have counted : console.blinkCount.toNat = blinks % 2 ^ 32 := by
    rw [blinking.blinkCount, BitVec.toNat_ofNat]
  have noticed := blinking.acknowledged
  refine ⟨answered.sent, answered.ordered, blinking.red.trans blinking.green.symm, ?_, ?_⟩
  · rw [blinking.red, counted, Nat.mod_mod_of_dvd _ (by decide)]
  · omega

def greeted : Console where
  receiver := .holding [⟨0x41, false, false, false⟩] false
  transmitter := ⟨0, []⟩
  dout := 0
  blinkCount := 0
  count := 0
  acknowledged := 0

def fetched : Console :=
  { greeted with
    receiver := ⟨[], false, [⟨0x41, false, false, false⟩], [⟨⟨0x41, false, false, false⟩, false⟩]⟩ }

def echoed : Console := { fetched with transmitter := ⟨1, [0x41]⟩ }

theorem trace_echoed :
    Trace (Console.Moves Board.assembled 32) greeted
      [.read (.timerInterrupts 0) 0, .read (.uart .uart0 .fr) 0, .read (.uart .uart0 .dr) 0x41,
        .read (.gpt .gpt1 .tav) 0, .read (.gpt .gpt1 .tav) 0, .read (.uart .uart0 .fr) 0x10,
        .write (.uart .uart0 .dr) 0x41] echoed := by
  have counted :
      Console.Moves Board.assembled 32 greeted (.read (.timerInterrupts 0) 0) greeted := by
    refine ⟨rfl, rfl, rfl, rfl, rfl, rfl, ?_⟩
    rintro value same
    cases same
    rfl
  have present : Console.Moves Board.assembled 32 greeted (.read (.uart .uart0 .fr) 0) greeted :=
    ⟨⟨rfl, fun _ => rfl⟩, ⟨rfl, fun _ => rfl⟩, rfl, rfl, rfl, rfl, nofun⟩
  have taken : Console.Moves Board.assembled 32 greeted (.read (.uart .uart0 .dr) 0x41) fetched :=
    ⟨.entry ⟨⟨0x41, false, false, false⟩, false⟩ [] rfl nofun ⟨rfl, rfl, rfl, rfl, rfl⟩,
      rfl, rfl, rfl, rfl, rfl, nofun⟩
  have polled : Console.Moves Board.assembled 32 fetched (.read (.gpt .gpt1 .tav) 0) fetched :=
    ⟨rfl, rfl, rfl, rfl, rfl, rfl, nofun⟩
  have free : Console.Moves Board.assembled 32 fetched (.read (.uart .uart0 .fr) 0x10) fetched :=
    ⟨⟨rfl, fun _ => rfl⟩, ⟨rfl, fun _ => rfl⟩, rfl, rfl, rfl, rfl, nofun⟩
  have sent : Console.Moves Board.assembled 32 fetched (.write (.uart .uart0 .dr) 0x41) echoed :=
    ⟨rfl, rfl, rfl, rfl, rfl, rfl, nofun⟩
  exact .cons counted (.cons present (.cons taken (.cons polled (.cons polled (.cons free
    (.cons sent (.nil echoed)))))))

set_option maxRecDepth 2000 in
/-- One byte is received and sent back. -/
theorem echo_faithful_byte :
    echoed.transmitter.sent = echoed.receiver.consumed.flatMap reply ∧
      echoed.receiver.consumed.flatMap reply = [0x41] := by
  have acquired : Returns (Board.take false) _ (some Board.assembled) :=
    run_follow (fun _ => BitVec.allOnes 32) (Board.take false)
  have turned : Run (Main.turn Board.assembled 1 0) _ (.ret 0) :=
    run_replay (Main.turn Board.assembled 1 0) [0, 0, 0x41, 0, 0, 0x10]
  have reaches : (loop Board.assembled 32).Reaches ⟨.ret 0, greeted⟩ ⟨.ret 0, echoed⟩ :=
    .head (.follow ⟨1, rfl⟩) (Process.Reaches.of_run turned trace_echoed)
  have fresh : greeted.Fresh := ⟨rfl, rfl, rfl, rfl, rfl, rfl, rfl⟩
  exact ⟨(echo_faithful Board.assembled false _ acquired 32 greeted fresh 0 echoed reaches).1, rfl⟩

end DirectLine.Firmware.Echo
