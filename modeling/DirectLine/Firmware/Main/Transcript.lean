import DirectLine.Firmware.Main.Session

/-!
# What the application says

The bytes the application writes to its serial port, at every point of every
run and whatever the hardware answers.  They follow `TIMER_TEST_STATUS`: the
banner, then the text of one failure, or the verdict and the replies to the
characters received so far.
-/

namespace DirectLine.Firmware.Main

open DirectLine.Interaction DirectLine.Interaction.Program Uart Speaker

/-- The statics, the text sent so far and the crystal, before anything has been received. -/
structure Said (statics : Static → Word) (text : List Byte) (speaker : Speaker) : Prop where
  statics : speaker.statics = statics
  sent : speaker.session.sent = text
  received : speaker.session.received = []
  selected : speaker.session.selected = true

section Stages

variable {Result Next : Type} {start statics : Static → Word} {text more : List Byte}
variable {speaker last : Speaker} {fuel : Nat}

theorem Said.keeps (said : Said statics text speaker) (keeps : speaker.Keeps last) :
    Said statics text last :=
  ⟨keeps.statics.trans said.statics, keeps.sent.trans said.sent,
    keeps.received.trans said.received, keeps.selected said.selected⟩

theorem Said.saying (said : Said statics text speaker) (done : List Byte) :
    Said statics (text ++ done) (speaker.saying done) :=
  ⟨said.statics, congrArg (· ++ done) said.sent, said.received, said.selected⟩

theorem Said.speaks (said : Said statics text speaker)
    (spoken : Spoken start (statics .timerTestStatus) text []) : speaker.Speaks start := by
  refine ⟨?_, fun _ => said.selected⟩
  rw [said.statics, said.sent, said.received]
  exact spoken

theorem Said.mute (said : Said statics text speaker)
    (spoken : Spoken start (statics .timerTestStatus) text []) {driver : Driver Result}
    (mute : Mute driver) :
    (voice start).Meets (fun _ => Said statics text) (fun _ _ => True) driver speaker :=
  (meets_mute mute (said.speaks spoken)).mono (fun _ _ keeps => said.keeps keeps)
    fun _ _ _ => trivial

theorem Said.prefixes (said : Said statics text speaker)
    (spoken : ∀ done, done <+: more → Spoken start (statics .timerTestStatus) (text ++ done) []) :
    ∀ done, done <+: more → (speaker.saying done).Speaks start :=
  fun done prefixed => (said.saying done).speaks (spoken done prefixed)

theorem Said.transmit (said : Said statics text speaker)
    (spoken : ∀ done, done <+: more → Spoken start (statics .timerTestStatus) (text ++ done) [])
    {after : Unit → Code Next} {post : Next → Speaker → Prop}
    (rest : ∀ last, Said statics (text ++ more) last →
      (audible start).Meets post (fun _ _ => True) (after ()) last) :
    (audible start).Meets post (fun _ _ => True)
      (drive (do unwrap (← transmit Board.assembled more fuel)) >>= after) speaker :=
  meets_unwrapTransmit (said.prefixes spoken) (rest _ (said.saying more))

theorem meets_driver {driver : Driver Result} {after : Result → Code Next}
    {middle : Result → Speaker → Prop} {post : Next → Speaker → Prop}
    (meets : (voice start).Meets middle (fun _ _ => True) driver speaker)
    (rest : ∀ result last, middle result last →
      (audible start).Meets post (fun _ _ => True) (after result) last) :
    (audible start).Meets post (fun _ _ => True) (drive driver >>= after) speaker :=
  .bind (meets.embed.mono rest fun _ _ _ => trivial)

theorem Said.attempt (said : Said statics banner speaker) (status : statics .timerTestStatus = 1)
    (sound : ¬Damaged start) (origin : Word) :
    (voice start).Meets (fun _ => Said statics banner) (fun _ _ => True)
      (interrupted Board.assembled origin fuel) speaker := by
  have spoken : Spoken start (statics .timerTestStatus) banner [] := by
    rw [status]
    exact .testing sound (List.prefix_refl _) (List.prefix_append _ _)
  refine .read (stable_voice (speaker = ·)) rfl ?_
  rintro _ reading last rfl moved
  obtain rfl : speaker = last := moved.symm
  refine ⟨said.speaks spoken, ?_⟩
  change (voice start).Meets _ _ (if _ then _ else _) _
  split
  · refine .bind ((meets_transmit (said.prefixes fun done prefixed => ?_)).mono
      (fun _ _ _ _ _ => trivial) fun _ _ _ => trivial)
    rw [status]
    exact .testing sound (List.prefix_append _ _) (List.prefix_append_right_inj _ |>.mpr prefixed)
  · exact said.mute spoken (fun _ => ⟨rfl, trivial⟩)

theorem Said.wait (said : Said statics banner speaker) (status : statics .timerTestStatus = 1)
    (sound : ¬Damaged start) (origin : Word) (iterations : Nat) :
    (voice start).Meets (fun _ => Said statics banner) (fun _ _ => True)
      (waitFor (interrupted Board.assembled origin fuel) iterations) speaker := by
  refine meets_waitFor (Said statics banner) ?_ (fun _ _ _ _ => trivial) iterations said
  intro speaker said
  refine (said.attempt status sound origin).mono ?_ fun _ _ _ => trivial
  intro done last said
  cases done with
  | false => exact said
  | true =>
      rw [if_pos rfl]
      exact .ret (stable_voice (Said statics banner)) said fun _ said => said

/-- The timer's checks send nothing unless they fail. -/
theorem Said.testTimer (said : Said statics banner speaker) (status : statics .timerTestStatus = 1)
    (sound : ¬Damaged start) :
    (voice start).Meets (fun _ => Said statics banner) (fun _ _ => True)
      (testTimer Board.assembled fuel) speaker := by
  have spoken : Spoken start (statics .timerTestStatus) banner [] := by
    rw [status]
    exact .testing sound (List.prefix_refl _) (List.prefix_append _ _)
  rw [Main.testTimer]
  refine .bind ((said.mute spoken (mute_arm .gpt0 1000 _)).mono ?_ fun _ _ _ => trivial)
  intro armed speaker said
  refine .bind ((said.mute spoken (mute_unwrapTimer armed)).mono ?_ fun _ _ _ => trivial)
  intro _ speaker said
  refine .bind ((said.mute spoken (mute_now _)).mono ?_ fun _ _ _ => trivial)
  intro origin speaker said
  refine .bind ((said.wait status sound origin _).mono ?_ fun _ _ _ => trivial)
  intro _ speaker said
  exact said.mute spoken <|
    .bind (mute_stop .gpt0) fun _ => .bind (mute_interrupts _) fun stopped =>
    .bind (mute_now _) fun origin => .bind (mute_unwrapTicks _) fun tenMs =>
    .bind (mute_wait _ origin tenMs _) fun _ => .bind (mute_interrupts _) fun value =>
    .bind (mute_assertEq _ value stopped) fun _ => .bind (mute_arm .gpt0 0 _) fun zero =>
    .bind (mute_assertRefused _ zero) fun _ => .bind (mute_arm .gpt0 _ _) fun most =>
    .bind (mute_assertRefused _ most) fun _ => .bind (mute_arm .gpt0 1000 _) fun once =>
    .bind (mute_unwrapTimer once) fun _ => .bind (mute_now _) fun origin =>
    .bind (mute_wait _ origin tenMs _) fun _ => .bind (mute_interrupts _) fun value =>
    .bind (mute_assertEq _ value _) fun _ => mute_stop .gpt0

structure Echoed (start : Static → Word) (speaker : Speaker) : Prop where
  sound : ¬Damaged start
  status : speaker.statics .timerTestStatus = 2
  sent : speaker.session.sent = banner ++ pass ++ speaker.session.received.flatMap reply
  selected : speaker.session.selected = true

theorem Said.memoryFailure (said : Said start banner speaker) (status : start .timerTestStatus = 0)
    (damaged : Damaged start) {post : Result → Speaker → Prop} :
    (audible start).Meets post (fun _ _ => True)
      (drive (Main.transmit Board.assembled Main.memoryFailure fuel) >>= fun _ =>
        .panic "memory initialization failed") speaker := by
  refine meets_driver (meets_transmit (said.prefixes fun done prefixed => ?_))
    fun _ _ _ _ _ => trivial
  rw [status]
  exact .damaged damaged (List.prefix_append _ _) ((List.prefix_append_right_inj _).mpr prefixed)

theorem Said.checkMemory (said : Said start banner speaker) (status : start .timerTestStatus = 0) :
    (audible start).Meets
      (fun _ last => ¬Damaged start ∧ Said (checkedValues start) banner last) (fun _ _ => True)
      (Main.checkMemory Board.assembled fuel) speaker := by
  have greeted : Spoken start (start .timerTestStatus) banner [] := by
    rw [status]
    exact .greeting (List.prefix_refl _)
  have speaks := said.speaks greeted
  rw [Main.checkMemory, uninitialized]
  simp only [readReg_bind, read_bind]
  refine meets_loading speaks ?_
  rw [said.statics]
  by_cases patterned : start .initializedData = initialPattern
  · rw [if_neg (by simpa using patterned)]
    refine meets_loading speaks ?_
    rw [said.statics]
    by_cases zeroed : start .zeroedData = 0
    · simp only [zeroed, bne_self_eq_false, pure_eq, writeReg_bind]
      have first : Said (Function.update start .initializedData 0x5678ef01) banner
          { speaker with
            statics := Function.update speaker.statics .initializedData 0x5678ef01 } :=
        ⟨by rw [said.statics], said.sent, said.received, said.selected⟩
      have second : Said (checkedValues start) banner
          { speaker with
            statics := Function.update
              (Function.update speaker.statics .initializedData 0x5678ef01) .zeroedData 1 } :=
        ⟨by rw [said.statics, checkedValues], said.sent, said.received, said.selected⟩
      refine meets_storing rfl (first.speaks greeted) ?_
      refine meets_storing rfl (second.speaks greeted) ?_
      exact .ret (stable_audible (Said (checkedValues start) banner)) second
        fun _ said => ⟨not_or.mpr ⟨not_not.mpr patterned, not_not.mpr zeroed⟩, said⟩
    · simp only [bne_iff_ne.mpr zeroed, pure_eq]
      exact said.memoryFailure status (.inr zeroed)
  · rw [if_pos (by simpa using patterned)]
    exact said.memoryFailure status (.inl patterned)

theorem Said.store (said : Said statics text speaker) (value : Word) {next : Code Next}
    {post : Next → Speaker → Prop}
    (spoken : Spoken start value text [])
    (rest : ∀ last, Said (Function.update statics .timerTestStatus value) text last →
      (audible start).Meets post (fun _ _ => True) next last) :
    (audible start).Meets post (fun _ _ => True) (.write (.static .timerTestStatus) value next)
      speaker := by
  have stored : Said (Function.update statics .timerTestStatus value) text
      { speaker with statics := Function.update speaker.statics .timerTestStatus value } :=
    ⟨by rw [said.statics], said.sent, said.received, said.selected⟩
  refine meets_storing rfl (stored.speaks ?_) (rest _ stored)
  rwa [Function.update_self]

theorem speaks_prologue (taken : Bool) (fuel : Nat) (status : start .timerTestStatus = 0) :
    (audible start).Meets (fun result last => result.1 = Board.assembled ∧ Echoed start last)
      (fun _ _ => True) (prologue taken fuel)
      ⟨start, ⟨[], [], false⟩⟩ := by
  have silent : (⟨start, ⟨[], [], false⟩⟩ : Speaker).Speaks start := by
    refine ⟨?_, nofun⟩
    dsimp only
    rw [status]
    exact .greeting List.nil_prefix
  rw [prologue]
  refine meets_driver ((meets_mute (mute_expect taken) silent).yields (yields_expect taken)) ?_
  rintro _ first ⟨rfl, taking⟩
  have requested : Mute Clocks.requestHfCrystal := ⟨rfl, trivial⟩
  refine meets_driver (meets_mute requested (silent.keeps taking)) fun _ second requesting => ?_
  have quiet := taking.trans requesting
  refine meets_driver (meets_selected (silent.keeps quiet) _) ?_
  rintro _ third ⟨waiting, selected⟩
  have quiet := quiet.trans waiting
  have said : Said start [] third := ⟨quiet.statics, quiet.sent, quiet.received, selected⟩
  refine said.transmit (fun done prefixed => ?_) fun fourth said => ?_
  · rw [status]
    exact .greeting prefixed
  refine .bind ((said.checkMemory status).mono ?_ fun _ _ _ => trivial)
  rintro _ fifth ⟨sound, said⟩
  refine said.store 1 (.testing sound (List.prefix_refl _) (List.prefix_append _ _)) ?_
  intro sixth said
  refine meets_driver (said.testTimer (Function.update_self ..) sound) fun _ seventh said => ?_
  refine said.store 2 (.passed sound (List.prefix_refl _) (List.prefix_append _ _)) ?_
  intro eighth said
  refine said.transmit (fun done prefixed => ?_) fun ninth said => ?_
  · rw [Function.update_self]
    exact .passed sound (List.prefix_append _ _) ((List.prefix_append_right_inj _).mpr prefixed)
  have passed : Spoken start (Function.update (Function.update (checkedValues start)
      .timerTestStatus 1) .timerTestStatus 2 .timerTestStatus) (banner ++ pass) [] := by
    rw [Function.update_self]
    exact .passed sound (List.prefix_append _ _) (List.prefix_refl _)
  have started : Mute (do unwrapTimer (← Board.assembled.timer.startPeriodicUs 500000)) :=
    .bind (mute_arm .gpt0 500000 _) mute_unwrapTimer
  refine meets_driver (said.mute passed started) fun _ tenth said => ?_
  refine meets_driver (said.mute passed (mute_interrupts _)) fun previous last said => ?_
  refine .ret (stable_audible (last = ·)) rfl ?_
  rintro _ rfl
  refine ⟨rfl, sound, ?_, ?_, said.selected⟩
  · rw [said.statics]
    exact Function.update_self ..
  · rw [said.sent, said.received]
    rfl

/-- What the loop sends answers what it has received. -/
theorem Echoed.speaks (echoed : Echoed start speaker) : speaker.Speaks start := by
  refine ⟨?_, fun _ => echoed.selected⟩
  rw [echoed.status, echoed.sent]
  rcases List.eq_nil_or_concat speaker.session.received with none | ⟨earlier, last, some⟩
  · rw [none]
    exact .passed echoed.sound (List.prefix_append _ _) (by simp)
  · rw [some, List.concat_eq_append]
    refine .echoing echoed.sound ?_ (List.prefix_refl _)
    simp

theorem Echoed.keeps (echoed : Echoed start speaker) (keeps : speaker.Keeps last) :
    Echoed start last := by
  refine ⟨echoed.sound, ?_, ?_, keeps.selected echoed.selected⟩
  · rw [keeps.statics, echoed.status]
  · rw [keeps.sent, keeps.received, echoed.sent]

theorem Echoed.hears (echoed : Echoed start speaker) (data : Word) {done : List Byte}
    (prefixed : done <+: reply data) : ((speaker.hearing data).saying done).Speaks start := by
  refine ⟨?_, fun _ => echoed.selected⟩
  simp only [saying, hearing]
  rw [echoed.status, echoed.sent]
  refine .echoing echoed.sound (List.prefix_append _ _) ?_
  rw [List.flatMap_append, List.flatMap_singleton, ← List.append_assoc]
  exact (List.prefix_append_right_inj _).mpr prefixed

theorem Echoed.answers (echoed : Echoed start speaker) (data : Word) {text : List Byte}
    (answer : reply data = text) :
    (voice start).Meets (fun _ => Echoed start) (fun _ _ => True)
      (do unwrap (← transmit Board.assembled text fuel)) (speaker.hearing data) := by
  subst answer
  refine .bind ((meets_transmit fun done prefixed => echoed.hears data prefixed).mono ?_
    fun _ _ _ => trivial)
  rintro result _ ⟨done, -, all, rfl⟩
  cases result with
  | error => exact fun _ _ => trivial
  | ok =>
      rw [all rfl]
      refine .ret (stable_voice ((speaker.hearing data).saying (reply data) = ·)) rfl ?_
      rintro _ rfl
      refine ⟨echoed.sound, echoed.status, ?_, echoed.selected⟩
      simp only [saying, hearing]
      rw [echoed.sent, List.flatMap_append, List.flatMap_singleton, List.append_assoc]

theorem Echoed.echo (echoed : Echoed start speaker) :
    (voice start).Meets (fun _ => Echoed start) (fun _ _ => True)
      (Main.echo Board.assembled fuel) speaker := by
  have heard : ∀ data, (speaker.hearing data).Speaks start := fun data =>
    saying_nil (speaker.hearing data) ▸ echoed.hears data List.nil_prefix
  refine .bind ((meets_tryRead echoed.speaks heard).mono ?_ fun _ _ _ => trivial)
  intro result last received
  match result with
  | .ok none =>
      refine .ret (stable_voice (last = ·)) rfl ?_
      rintro _ rfl
      exact received ▸ echoed
  | .ok (some byte) =>
      obtain ⟨data, answer, rfl⟩ := received
      exact echoed.answers data answer
  | .error _ =>
      obtain ⟨data, answer, rfl⟩ := received
      exact echoed.answers data answer

theorem Echoed.turn (echoed : Echoed start speaker) (previous : Word) :
    (voice start).Meets (fun _ => Echoed start) (fun _ _ => True)
      (Main.turn Board.assembled fuel previous) speaker := by
  rw [Main.turn]
  refine .bind ((meets_mute (mute_blink _ previous) echoed.speaks).mono ?_ fun _ _ _ => trivial)
  intro previous middle keeps
  refine .bind ((echoed.keeps keeps).echo.mono ?_ fun _ _ _ => trivial)
  exact fun _ last echoed => .ret (stable_voice (Echoed start)) echoed fun _ finish => finish

end Stages

/-- The application with the session it holds. -/
structure Observed where
  system : System
  session : Session

def observed : Process Cell Instruction Word Observed (Board × Word) where
  device state event state' := state.system.moves event state'.system ∧
    state'.session = state.session.after event
  rely state state' := state.system.Disturbs state'.system ∧ state'.session = state.session
  next result state := application.next result state.system

theorem moves_speaker {state state' : Observed} {event : Event Cell Instruction Word}
    (moved : observed.device state event state') :
    Speaker.moves ⟨state.system.statics, state.session⟩ event
      ⟨state'.system.statics, state'.session⟩ := by
  obtain ⟨moved, session⟩ := moved
  have driven : state'.system.statics = state.system.statics →
      (⟨state'.system.statics, state'.session⟩ : Speaker) =
        ⟨state.system.statics, state.session.after event⟩ := by
    intro statics
    rw [statics, session]
  cases event with
  | read cell value =>
      cases cell with
      | register register => exact driven moved.statics
      | static static =>
          obtain ⟨-, answer, same⟩ := moved
          exact ⟨answer, driven (congrArg System.statics same)⟩
  | write cell value =>
      cases cell with
      | register register => exact driven moved.statics
      | static static =>
          obtain ⟨-, same⟩ := moved
          rw [same, session]
          rfl
  | act action => exact driven moved.statics

section Runs

variable {taken : Bool} {fuel : Nat} {start : System}
variable {point : Point Cell Instruction Word Observed (Board × Word)}

theorem reaches_application
    (reaches : observed.Reaches ⟨prologue taken fuel, ⟨start, ⟨[], [], false⟩⟩⟩ point) :
    application.Reaches ⟨prologue taken fuel, start⟩ ⟨point.program, point.state.system⟩ := by
  refine Process.Reaches.project Observed.system ?_ ?_ ?_ reaches
  · exact fun _ _ _ moved => moved.1
  · exact fun _ _ disturbs => .single disturbs.1
  · exact fun _ _ _ next => next

theorem reaches_speaking
    (reaches : observed.Reaches ⟨prologue taken fuel, ⟨start, ⟨[], [], false⟩⟩⟩ point) :
    speaking.Reaches ⟨prologue taken fuel, ⟨start.statics, ⟨[], [], false⟩⟩⟩
      ⟨point.program, ⟨point.state.system.statics, point.state.session⟩⟩ := by
  refine Process.Reaches.project
    (fun state => Speaker.mk state.system.statics state.session) ?_ ?_ ?_ reaches
  · exact fun _ _ _ moved => moves_speaker moved
  · rintro state state' ⟨disturbs, same⟩
    rw [disturbs.statics, same]
  · exact fun _ _ _ next => next

theorem exists_observed {point point' : Point Cell Instruction Word System (Board × Word)}
    (reaches : application.Reaches point point') (session : Session) :
    ∃ session', observed.Reaches ⟨point.program, ⟨point.state, session⟩⟩
      ⟨point'.program, ⟨point'.state, session'⟩⟩ := by
  induction reaches with
  | refl => exact ⟨session, .refl⟩
  | tail _ step inductionHypothesis =>
      obtain ⟨earlier, reaches⟩ := inductionHypothesis
      cases step with
      | access taken moved => exact ⟨_, reaches.tail (.access taken ⟨moved, rfl⟩)⟩
      | relied disturbs => exact ⟨_, reaches.tail (.relied ⟨disturbs, rfl⟩)⟩
      | follow next => exact ⟨_, reaches.tail (.follow next)⟩

theorem speaks_next (result : Board × Word) (speaker : Speaker) (program : Code (Board × Word))
    (boundary : result.1 = Board.assembled ∧ Echoed start.statics speaker)
    (next : speaking.next result speaker program) :
    (audible start.statics).Meets
      (fun result last => result.1 = Board.assembled ∧ Echoed start.statics last)
      (fun _ _ => True) program speaker := by
  obtain ⟨_, previous⟩ := result
  obtain ⟨rfl, echoed⟩ := boundary
  obtain ⟨fuel, rfl⟩ := next
  refine meets_driver (echoed.turn previous) fun previous last echoed => ?_
  exact .ret (stable_audible (Echoed start.statics)) echoed fun _ finish => ⟨rfl, finish⟩

end Runs

theorem Spoken.passes {statics : Static → Word} {status : Word} {sent : List Byte}
    {received : List Word} (spoken : Spoken statics status sent received)
    (verdict : banner ++ pass <+: sent) : status = 2 := by
  cases spoken with
  | greeting prefixed => exact absurd (verdict.trans prefixed) (by decide)
  | damaged _ _ prefixed => exact absurd (verdict.trans prefixed) (by decide)
  | testing _ _ prefixed => exact absurd (verdict.trans prefixed) (by decide)
  | passed | echoing => rfl

/-- At every point of every run, the bytes sent are in order for the value of the status and the
words received so far, and none was sent before the crystal was seen or made active.  Back at the
head of the loop every word received has been answered.  The verdict on the wire means that at
least 21 interrupts have been acknowledged. -/
theorem transcript (taken : Bool) (fuel : Nat) (start : System) (fresh : start.Fresh)
    (point : Point Cell Instruction Word Observed (Board × Word))
    (reaches : observed.Reaches ⟨prologue taken fuel, ⟨start, ⟨[], [], false⟩⟩⟩ point) :
    Spoken start.statics (point.state.system.statics .timerTestStatus) point.state.session.sent
      point.state.session.received ∧
    (point.state.session.sent ≠ [] → point.state.session.selected = true) ∧
    (∀ board previous, point.program = .ret (board, previous) →
      point.state.session.sent = banner ++ pass ++ point.state.session.received.flatMap reply) ∧
    (banner ++ pass <+: point.state.session.sent →
      21 ≤ point.state.system.lines.acknowledged .gpt0) := by
  have speaking := reaches_speaking reaches
  have begins := speaks_prologue taken fuel fresh.status
  have silent : (⟨start.statics, ⟨[], [], false⟩⟩ : Speaker).Speaks start.statics := by
    refine ⟨?_, nofun⟩
    dsimp only
    rw [fresh.status]
    exact .greeting List.nil_prefix
  have speaks : Speaker.Speaks start.statics
      ⟨point.state.system.statics, point.state.session⟩ :=
    speaking.guaranteed speaks_next begins silent (fun _ _ _ _ _ speaks => speaks)
      fun _ _ _ step => step.elim
  refine ⟨speaks.spoken, speaks.selected, ?_, ?_⟩
  · intro board previous returned
    have meets := speaking.meets speaks_next begins
    rw [returned] at meets
    exact meets.returned.2.sent
  · intro verdict
    exact trusted_reached fresh (reaches_application reaches) (speaks.spoken.passes verdict)

/-- A run that sets the status to 2, and what has been sent in it. -/
theorem transcript_passed :
    ∃ point, observed.Reaches ⟨prologue false 40, ⟨started, ⟨[], [], false⟩⟩⟩ point ∧
      Spoken started.statics 2 point.state.session.sent point.state.session.received := by
  obtain ⟨point, reaches, status⟩ := exists_passed
  obtain ⟨session, reaches⟩ := exists_observed reaches ⟨[], [], false⟩
  have spoken := (transcript false 40 started fresh_started _ reaches).1
  rw [status] at spoken
  exact ⟨_, reaches, spoken⟩

end DirectLine.Firmware.Main
