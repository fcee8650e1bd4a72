import DirectLine.Firmware.Main.Verdict

/-!
# The session on the serial port

What crosses the serial port, with the accesses of the application seen on their
own: whatever the hardware answers, a text is sent prefix by prefix, and what is
said stays in the order that `TIMER_TEST_STATUS` calls for.
-/

namespace DirectLine.Firmware.Main

open DirectLine.Interaction DirectLine.Interaction.Program Uart

/-- What has crossed the serial port, and whether the crystal has been seen or made active. -/
structure Session where
  sent : List Byte
  received : List Word
  selected : Bool

namespace Session

def after (session : Session) : Event Cell Instruction Word → Session
  | .write (.register (.uart .uart0 .dr)) value =>
      { session with sent := session.sent ++ [value.setWidth 8] }
  | .read (.register (.uart .uart0 .dr)) value =>
      { session with received := session.received ++ [value] }
  | .read (.register (.ddi .stat0)) value =>
      { session with selected := session.selected || Word.flag value sclkHfSrc }
  | .act .hfSourceSafeSwitch => { session with selected := true }
  | _ => session

end Session

/-- What the loop answers to a word read from `DR`. -/
def reply (data : Word) : List Byte :=
  if Word.flag data dataFe || Word.flag data dataPe || Word.flag data dataBe ||
      Word.flag data dataOe then rxError
  else [data.setWidth 8]

/-- What has been sent and received under each value of the status. -/
inductive Spoken (statics : Static → Word) : Word → List Byte → List Word → Prop where
  | greeting {sent : List Byte} : sent <+: banner → Spoken statics 0 sent []
  | damaged {sent : List Byte} : Damaged statics → banner <+: sent →
      sent <+: banner ++ memoryFailure → Spoken statics 0 sent []
  | testing {sent : List Byte} : ¬Damaged statics → banner <+: sent →
      sent <+: banner ++ timerFailure → Spoken statics 1 sent []
  | passed {sent : List Byte} : ¬Damaged statics → banner <+: sent →
      sent <+: banner ++ pass → Spoken statics 2 sent []
  | echoing {sent : List Byte} {earlier : List Word} {last : Word} : ¬Damaged statics →
      banner ++ pass ++ earlier.flatMap reply <+: sent →
      sent <+: banner ++ pass ++ (earlier ++ [last]).flatMap reply →
      Spoken statics 2 sent (earlier ++ [last])

/-- The part of the application's state that its code alone changes. -/
structure Speaker where
  statics : Static → Word
  session : Session

namespace Speaker

variable {speaker speaker' speaker'' : Speaker}

def moves (speaker : Speaker) : Event Cell Instruction Word → Speaker → Prop
  | .read (.static static) value, speaker' => value = speaker.statics static ∧ speaker' = speaker
  | .write (.static static) value, speaker' =>
      speaker' = { speaker with statics := Function.update speaker.statics static value }
  | event, speaker' => speaker' = { speaker with session := speaker.session.after event }

def saying (speaker : Speaker) (text : List Byte) : Speaker :=
  { speaker with session.sent := speaker.session.sent ++ text }

theorem saying_saying (speaker : Speaker) (text text' : List Byte) :
    (speaker.saying text).saying text' = speaker.saying (text ++ text') := by
  rw [saying, saying, saying, List.append_assoc]

def hearing (speaker : Speaker) (data : Word) : Speaker :=
  { speaker with session.received := speaker.session.received ++ [data] }

structure Keeps (speaker speaker' : Speaker) : Prop where
  statics : speaker'.statics = speaker.statics
  sent : speaker'.session.sent = speaker.session.sent
  received : speaker'.session.received = speaker.session.received
  selected : speaker.session.selected = true → speaker'.session.selected = true

theorem Keeps.refl (speaker : Speaker) : speaker.Keeps speaker := ⟨rfl, rfl, rfl, id⟩

theorem Keeps.trans (first : speaker.Keeps speaker') (second : speaker'.Keeps speaker'') :
    speaker.Keeps speaker'' :=
  ⟨second.statics.trans first.statics, second.sent.trans first.sent,
    second.received.trans first.received, second.selected ∘ first.selected⟩

theorem keeps_ordinary {access : Access} (plain : ordinary access = true)
    (moved : speaker.moves (access.embed .register) speaker') : speaker.Keeps speaker' := by
  have same : speaker' =
      { speaker with session := speaker.session.after (access.embed .register) } := by
    cases access <;> exact moved
  rw [same]
  cases access with
  | read register value =>
      cases register with
      | uart block register =>
          cases register with
          | dr => cases plain
          | _ => cases block <;> exact .refl _
      | ddi register =>
          cases register with
          | stat0 => exact ⟨rfl, rfl, rfl, fun selected => Bool.or_eq_true_iff.mpr (.inl selected)⟩
          | _ => exact .refl _
      | _ => exact .refl _
  | write register value =>
      cases register with
      | uart block register =>
          cases register with
          | dr => cases plain
          | _ => cases block <;> exact .refl _
      | _ => exact .refl _
  | act action =>
      cases action with
      | hfSourceSafeSwitch => exact ⟨rfl, rfl, rfl, fun _ => rfl⟩
      | _ => exact .refl _

/-- What has been said is in order, and was said with the crystal active. -/
structure Speaks (start : Static → Word) (speaker : Speaker) : Prop where
  spoken : Spoken start (speaker.statics .timerTestStatus) speaker.session.sent
    speaker.session.received
  selected : speaker.session.sent ≠ [] → speaker.session.selected = true

theorem Speaks.keeps {start : Static → Word} (speaks : speaker.Speaks start)
    (keeps : speaker.Keeps speaker') : speaker'.Speaks start := by
  refine ⟨?_, ?_⟩
  · rw [keeps.statics, keeps.sent, keeps.received]
    exact speaks.spoken
  · rw [keeps.sent]
    exact fun spoken => keeps.selected (speaks.selected spoken)

end Speaker

open Speaker

def speaking : Process Cell Instruction Word Speaker (Board × Word) where
  device := Speaker.moves
  rely _ _ := False
  next result _ program := ∃ fuel, program =
    drive (turn result.1 fuel result.2) >>= fun previous => .ret (result.1, previous)

abbrev audible (start : Static → Word) : Setting Cell Instruction Word Speaker :=
  speaking.setting fun _ _ speaker => speaker.Speaks start

abbrev voice (start : Static → Word) : Setting Register Instruction Word Speaker :=
  (audible start).restrict .register

/-- Code that moves no character, however it stops. -/
abbrev Mute {Result : Type} (program : Driver Result) : Prop :=
  program.Within (fun access => ordinary access = true) fun _ => True

section Contracts

variable {Result Next : Type} {start : Static → Word} {speaker : Speaker} {fuel : Nat}

theorem stable_voice (assertion : Speaker → Prop) : (voice start).Stable assertion :=
  fun _ _ _ step => step.elim

theorem stable_audible (assertion : Speaker → Prop) : (audible start).Stable assertion :=
  fun _ _ _ step => step.elim

theorem meets_mute {driver : Driver Result} (mute : Mute driver) (speaks : speaker.Speaks start) :
    (voice start).Meets (fun _ => speaker.Keeps) (fun _ _ => True) driver speaker := by
  refine (Setting.Meets.within mute (stable_voice speaker.Keeps) (.refl _) ?_).mono
    (fun _ _ keeps => keeps) fun _ _ _ => trivial
  intro middle event last plain keeps moved
  have keeps := keeps.trans (keeps_ordinary plain moved)
  exact ⟨speaks.keeps keeps, keeps⟩

def Sent (text : List Byte) (speaker : Speaker) (result : Except Timeout Unit) (last : Speaker) :
    Prop :=
  ∃ done, done <+: text ∧ (result = .ok () → done = text) ∧ last = speaker.saying done

theorem saying_nil (speaker : Speaker) : speaker.saying [] = speaker := by simp [saying]

theorem meets_head {counter : Counter} {origin timeoutTicks : Word} {turns : Nat}
    {text : List Byte}
    (speaks : ∀ done, done <+: text → (speaker.saying done).Speaks start) :
    (voice start).Meets (Sent text speaker) (fun _ _ => True)
      (Board.assembled.uart.head counter origin timeoutTicks fuel turns text) speaker := by
  induction text generalizing turns speaker with
  | nil =>
      exact .ret (stable_voice (speaker = ·)) rfl
        fun _ same => ⟨[], List.nil_prefix, fun _ => rfl, same ▸ (saying_nil speaker).symm⟩
  | cons byte text onText =>
      have silent : speaker.Speaks start := saying_nil speaker ▸ speaks [] List.nil_prefix
      induction turns with
      | zero => trivial
      | succ turns onTurns =>
          rw [head_succ]
          refine .read (stable_voice (speaker = ·)) rfl ?_
          rintro _ reading last rfl moved
          obtain rfl : speaker = last := moved.symm
          refine ⟨silent, ?_⟩
          unfold Uart.turn
          split
          · exact .ret (stable_voice (speaker = ·)) rfl
              fun _ same => ⟨[], List.nil_prefix, nofun, same ▸ (saying_nil speaker).symm⟩
          · refine .read (stable_voice (speaker = ·)) rfl ?_
            rintro _ flags last rfl moved
            obtain rfl : speaker = last := moved.symm
            refine ⟨silent, ?_⟩
            split
            · exact onTurns
            · refine .write (stable_voice (speaker = ·)) rfl ?_
              rintro _ last rfl moved
              have data : (byte.setWidth 32).setWidth 8 = byte := by simp
              obtain rfl : last = speaker.saying [byte] := by
                rw [← data]
                exact moved
              refine ⟨speaks [byte] (List.prefix_append [byte] text), ?_⟩
              refine (onText fun done prefixed => ?_).mono ?_ fun _ _ _ => trivial
              · rw [saying_saying]
                exact speaks _ (List.cons_prefix_cons.mpr ⟨rfl, prefixed⟩)
              · rintro result last ⟨done, prefixed, all, rfl⟩
                refine ⟨byte :: done, List.cons_prefix_cons.mpr ⟨rfl, prefixed⟩, ?_, ?_⟩
                · exact fun success => congrArg (byte :: ·) (all success)
                · exact saying_saying speaker [byte] done

theorem meets_transmit {text : List Byte}
    (speaks : ∀ done, done <+: text → (speaker.saying done).Speaks start) :
    (voice start).Meets (Sent text speaker) (fun _ _ => True)
      (transmit Board.assembled text fuel) speaker := by
  have within : timeout ≤ maxTimeout := by decide
  rw [transmit, writeTimeout_eq_head text within]
  refine .read (stable_voice (speaker = ·)) rfl ?_
  rintro _ origin last rfl moved
  obtain rfl : speaker = last := moved.symm
  exact ⟨saying_nil speaker ▸ speaks [] List.nil_prefix, meets_head speaks⟩

theorem meets_unwrapTransmit {text : List Byte} {after : Unit → Code Next}
    {post : Next → Speaker → Prop}
    (speaks : ∀ done, done <+: text → (speaker.saying done).Speaks start)
    (rest : (audible start).Meets post (fun _ _ => True) (after ()) (speaker.saying text)) :
    (audible start).Meets post (fun _ _ => True)
      (drive (do unwrap (← transmit Board.assembled text fuel)) >>= after) speaker := by
  refine .bind (.embed ?_)
  refine .bind ((meets_transmit speaks).mono ?_ fun _ _ _ => trivial)
  rintro result _ ⟨done, -, all, rfl⟩
  cases result with
  | error => exact fun _ _ => trivial
  | ok =>
      rw [all rfl]
      exact .ret (stable_voice (speaker.saying text = ·)) rfl fun _ same => same ▸ rest

/-- Receiving fetches at most one word; what is returned says how to answer it. -/
theorem meets_tryRead (speaks : speaker.Speaks start)
    (heard : ∀ data, (speaker.hearing data).Speaks start) :
    (voice start).Meets
      (fun result last =>
        match result with
        | .ok none => last = speaker
        | .ok (some byte) => ∃ data, reply data = [byte] ∧ last = speaker.hearing data
        | .error _ => ∃ data, reply data = rxError ∧ last = speaker.hearing data)
      (fun _ _ => True) Board.assembled.uart.tryRead speaker := by
  rw [tryRead_eq]
  refine .read (stable_voice (speaker = ·)) rfl ?_
  rintro _ flags last rfl moved
  obtain rfl : speaker = last := moved.symm
  refine ⟨speaks, ?_⟩
  split
  · exact .ret (stable_voice (speaker = ·)) rfl fun _ same => same.symm
  · refine .read (stable_voice (speaker = ·)) rfl ?_
    rintro _ data last rfl moved
    obtain rfl : speaker.hearing data = last := moved.symm
    refine ⟨heard data, ?_⟩
    split
    · rename_i flagged
      refine .write (stable_voice (speaker.hearing data = ·)) rfl ?_
      rintro _ last rfl moved
      obtain rfl : speaker.hearing data = last := moved.symm
      exact ⟨heard data, .ret (stable_voice (speaker.hearing data = ·)) rfl
        fun _ same => ⟨data, if_pos flagged, same.symm⟩⟩
    · rename_i clean
      exact .ret (stable_voice (speaker.hearing data = ·)) rfl
        fun _ same => ⟨data, if_neg clean, same.symm⟩

theorem meets_loading {static : Static} {next : Word → Code Result}
    {post : Result → Speaker → Prop} (speaks : speaker.Speaks start)
    (rest : (audible start).Meets post (fun _ _ => True) (next (speaker.statics static)) speaker) :
    (audible start).Meets post (fun _ _ => True) (.read (.static static) next) speaker := by
  refine .read (stable_audible (speaker = ·)) rfl ?_
  rintro _ value last rfl ⟨rfl, rfl⟩
  exact ⟨speaks, rest⟩

theorem meets_storing {static : Static} {value : Word} {next : Code Result}
    {post : Result → Speaker → Prop} {last : Speaker}
    (stored : last = { speaker with statics := Function.update speaker.statics static value })
    (speaks : last.Speaks start)
    (rest : (audible start).Meets post (fun _ _ => True) next last) :
    (audible start).Meets post (fun _ _ => True) (.write (.static static) value next) speaker := by
  subst stored
  refine .write (stable_audible (speaker = ·)) rfl ?_
  rintro _ _ rfl rfl
  exact ⟨speaks, rest⟩

theorem meets_trySwitchToHfCrystal (speaks : speaker.Speaks start) :
    (voice start).Meets
      (fun done last => speaker.Keeps last ∧ (done = true → last.session.selected = true))
      (fun _ _ => True) Clocks.trySwitchToHfCrystal speaker := by
  refine .read (stable_voice (speaker = ·)) rfl ?_
  rintro _ status looked rfl moved
  have plain : ordinary (.read (.ddi .stat0) status) = true := rfl
  have keeps : speaker.Keeps looked := keeps_ordinary plain moved
  have seen : looked.session.selected =
      (speaker.session.selected || Word.flag status sclkHfSrc) :=
    congrArg (·.session.selected) moved
  refine ⟨speaks.keeps keeps, ?_⟩
  change (voice start).Meets _ _ (if _ then _ else _) _
  split
  · rename_i active
    refine .ret (stable_voice (looked = ·)) rfl ?_
    rintro _ rfl
    exact ⟨keeps, fun _ => seen.trans (Bool.or_eq_true_iff.mpr (.inr active))⟩
  · split
    · refine .ret (stable_voice (looked = ·)) rfl ?_
      rintro _ rfl
      exact ⟨keeps, nofun⟩
    · -- The mask is read, interrupts are disabled, and the ROM makes the switch.
      have speaks := speaks.keeps keeps
      refine .read (stable_voice (looked = ·)) rfl ?_
      rintro _ mask last rfl moved
      obtain rfl : looked = last := moved.symm
      refine ⟨speaks, .act (stable_voice (looked = ·)) rfl ?_⟩
      rintro _ last rfl moved
      obtain rfl : looked = last := moved.symm
      refine ⟨speaks, .act (stable_voice (looked = ·)) rfl ?_⟩
      rintro _ switched rfl moved
      have plain : ordinary (.act .hfSourceSafeSwitch) = true := rfl
      have switch : looked.Keeps switched := keeps_ordinary plain moved
      have selected : switched.session.selected = true := congrArg (·.session.selected) moved
      have speaks := speaks.keeps switch
      refine ⟨speaks, .write (stable_voice (switched = ·)) rfl ?_⟩
      rintro _ last rfl moved
      obtain rfl : switched = last := moved.symm
      refine ⟨speaks, .write (stable_voice (switched = ·)) rfl ?_⟩
      rintro _ last rfl moved
      obtain rfl : switched = last := moved.symm
      refine ⟨speaks, .ret (stable_voice (switched = ·)) rfl ?_⟩
      rintro _ rfl
      exact ⟨keeps.trans switch, fun _ => selected⟩

theorem meets_selected (speaks : speaker.Speaks start) (iterations : Nat) :
    (voice start).Meets
      (fun _ last => speaker.Keeps last ∧ last.session.selected = true)
      (fun _ _ => True) (waitFor Clocks.trySwitchToHfCrystal iterations) speaker := by
  refine meets_waitFor speaker.Keeps ?_ (fun _ _ _ _ => trivial) iterations (.refl _)
  intro middle keeps
  refine (meets_trySwitchToHfCrystal (speaks.keeps keeps)).mono ?_ fun _ _ _ => trivial
  rintro done last ⟨kept, selected⟩
  cases done with
  | false => exact keeps.trans kept
  | true =>
      rw [if_pos rfl]
      refine .ret (stable_voice (last = ·)) rfl ?_
      rintro _ rfl
      exact ⟨keeps.trans kept, selected rfl⟩

end Contracts

section Mute

theorem mute_expect (taken : Bool) : Mute (do expect (← Board.take taken) : Driver Board) := by
  refine .bind ((Board.plain_take taken).mono (fun _ plain => plain) fun _ _ => trivial) ?_
  intro board
  cases board <;> trivial

theorem mute_stop (timer : Timer.Instance) : Mute (Timer.ofInstance timer).stop :=
  (TimerLines.within_stop timer).mono (fun _ own => by cases own <;> rfl) fun _ => False.elim

theorem mute_arm (timer : Timer.Instance) (microseconds mode : Word) :
    Mute ((Timer.ofInstance timer).arm microseconds mode) := by
  cases accepted : Timer.acceptedTicks microseconds with
  | none =>
      rw [Timer.arm, accepted]
      trivial
  | some ticks =>
      rw [TimerLine.arm_eq mode accepted]
      refine .bind ((TimerLines.within_configure timer ticks mode).mono
        (fun _ own => by cases own <;> rfl) fun _ => False.elim) fun _ => ⟨rfl, trivial⟩

theorem mute_elapsed (board : Board) (start ticks : Word) : Mute (elapsed board start ticks) :=
  fun _ => ⟨rfl, trivial⟩

theorem mute_unwrapTimer (result : Except TimerError Unit) : Mute (unwrapTimer result) := by
  cases result <;> trivial

theorem mute_unwrapTicks (ticks : Option Word) : Mute (unwrapTicks ticks) := by
  cases ticks <;> trivial

theorem mute_assertEq (context : String) (left right : Word) :
    Mute (assertEq context left right) := by
  rw [assertEq]
  split <;> trivial

theorem mute_assertRefused (message : String) (result : Except TimerError Unit) :
    Mute (assertRefused message result) := by
  cases result <;> trivial

theorem mute_now (counter : Counter) : Mute counter.now := fun _ => ⟨rfl, trivial⟩

theorem mute_interrupts (timer : Timer) : Mute timer.interrupts := fun _ => ⟨rfl, trivial⟩

theorem mute_wait (board : Board) (start ticks : Word) (iterations : Nat) :
    Mute (waitFor (elapsed board start ticks) iterations) :=
  within_waitFor (mute_elapsed board start ticks) trivial iterations

theorem mute_blink (board : Board) (previous : Word) : Mute (blink board previous) := by
  rw [blink_eq]
  intro current
  refine ⟨rfl, ?_⟩
  dsimp only
  split
  · exact ⟨rfl, rfl, rfl, trivial⟩
  · trivial

end Mute

end DirectLine.Firmware.Main
