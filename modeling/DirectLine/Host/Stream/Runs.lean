import DirectLine.Host.Stream

/-!
# Runs of the stream

What has been passed on is a function of the bytes read, whatever the chunks
and the order of the channels; every way out leaves the transcripts complete
and the child reaped.
-/

namespace DirectLine.Host

open Text Interaction

namespace Streaming

variable {call : Call} {streaming streaming' : Streaming} {channel : Channel} {reading : Reading}
  {raised : Option Raised}

theorem deliver_frame (call : Call) (streaming : Streaming) : ∃ pending lines,
    (streaming.deliver call).1 = { streaming with pending := pending, lines := lines } := by
  fun_induction deliver call streaming with
  | case1 streaming => exact ⟨streaming.pending, streaming.lines, rfl⟩
  | case2 streaming line pending => exact ⟨pending, streaming.lines ++ [decode line], rfl⟩
  | case3 streaming line pending cut called quiet inductionHypothesis =>
      obtain ⟨pending', lines, delivered⟩ := inductionHypothesis
      exact ⟨pending', lines, delivered⟩

theorem deliver_of_ok (ok : (streaming.deliver call).2 = none) :
    (streaming.deliver call).1 = { streaming with
      pending := ((cutter 0x0a).feed [] streaming.pending).1
      lines := streaming.lines ++ ((cutter 0x0a).feed [] streaming.pending).2.map decode } := by
  fun_induction deliver call streaming with
  | case1 streaming absent =>
      rw [cutter_feed_of_not_mem (splitOnce_eq_none.mp absent)]
      simp
  | case2 streaming line pending cut called raised loud => cases ok
  | case3 streaming line pending cut called quiet inductionHypothesis =>
      obtain ⟨split, absent⟩ := splitOnce_eq_some cut
      rw [inductionHypothesis ok, split, cutter_feed_append absent]
      simp [called]

theorem deliver_file : (streaming.deliver call).1.file = streaming.file := by
  obtain ⟨pending, lines, delivered⟩ := deliver_frame call streaming
  rw [delivered]
  rfl

theorem deliver_registered : (streaming.deliver call).1.registered = streaming.registered := by
  obtain ⟨pending, lines, delivered⟩ := deliver_frame call streaming
  rw [delivered]

end Streaming

def Reading.taken : Reading → Bytes
  | .bytes chunk => chunk
  | _ => []

def Label.readings : Label → List (Channel × Reading)
  | .read channel reading => [(channel, reading)]
  | _ => []

def reads (labels : List Label) : List (Channel × Reading) := labels.flatMap Label.readings

def received (channel : Channel) (readings : List (Channel × Reading)) : Bytes :=
  readings.flatMap fun (source, reading) => if source = channel then reading.taken else []

/-- The channel was read up to its end and not after that. -/
def Exhausted (progress : Bool) (channel : Channel) (readings : List (Channel × Reading)) : Prop :=
  ∃ earlier reading later, readings = earlier ++ (channel, reading) :: later ∧
    reading.chunk progress channel = .ok [] ∧ ∀ reading, (channel, reading) ∉ later

variable {progress : Bool} {channel source : Channel} {reading : Reading}
  {readings : List (Channel × Reading)}

theorem Reading.taken_of_ok {chunk : Bytes} (ok : reading.chunk progress channel = .ok chunk) :
    reading.taken = chunk := by
  cases reading with
  | bytes bytes => cases ok; rfl
  | osError errno message =>
      rw [Reading.chunk] at ok
      split at ok
      · exact Except.ok.inj ok
      · cases ok
  | interrupted => cases ok

theorem Reading.taken_of_error {raised : Raised}
    (failed : reading.chunk progress channel = .error raised) : reading.taken = [] := by
  cases reading with
  | bytes bytes => cases failed
  | osError errno message => rfl
  | interrupted => rfl

theorem received_concat : received channel (readings ++ [(source, reading)]) =
    received channel readings ++ if source = channel then reading.taken else [] := by
  simp [received]

theorem received_concat_nil (untaken : reading.taken = []) :
    received channel (readings ++ [(source, reading)]) = received channel readings := by
  rw [received_concat, untaken]
  simp

theorem Exhausted.concat (ended : Exhausted progress channel readings) (other : source ≠ channel) :
    Exhausted progress channel (readings ++ [(source, reading)]) := by
  obtain ⟨earlier, final, later, split, finishes, none⟩ := ended
  refine ⟨earlier, final, later ++ [(source, reading)], by simp [split], finishes, ?_⟩
  intro again member
  rcases List.mem_append.mp member with member | member
  · exact none again member
  · cases List.mem_singleton.mp member
    exact other rfl

theorem Exhausted.of_finish (finishes : reading.chunk progress channel = .ok []) :
    Exhausted progress channel (readings ++ [(channel, reading)]) :=
  ⟨readings, reading, [], rfl, finishes, fun _ => List.not_mem_nil⟩

def Recorded (readings : List (Channel × Reading)) (streaming : Streaming) : Prop :=
  ∀ channel, streaming.file channel = received channel readings

/-- The buffer, the decoder and what was passed on are those of the bytes read, as if they had
arrived at once. -/
structure Streamed (call : Call) (readings : List (Channel × Reading)) (streaming : Streaming) :
    Prop where
  pending : streaming.pending = ((cutter 0x0a).feed [] (received .stdout readings)).1
  lines : streaming.lines = ((cutter 0x0a).feed [] (received .stdout readings)).2.map decode
  decoding : streaming.decoding = (utf8.feed .start (received .stderr readings)).1
  relayed : streaming.relayed.flatten = (utf8.feed .start (received .stderr readings)).2
  ended : ∀ channel, channel ∉ streaming.registered → Exhausted call.progress channel readings

structure Flushed (call : Call) (readings : List (Channel × Reading)) (streaming : Streaming) :
    Prop where
  lines : streaming.lines = (segments 0x0a (received .stdout readings)).map decode
  relayed : streaming.relayed.flatten = decode (received .stderr readings)
  ended : ∀ channel, Exhausted call.progress channel readings

variable {call : Call} {streaming streaming' : Streaming} {raised : Option Raised}

theorem serve_file (call : Call) (streaming : Streaming) (source : Channel) (reading : Reading)
    (channel : Channel) : (streaming.serve call source reading).1.file channel =
      streaming.file channel ++ if source = channel then reading.taken else [] := by
  unfold Streaming.serve
  cases chunk : reading.chunk call.progress source with
  | error raised => simp [Reading.taken_of_error chunk]
  | ok bytes =>
      rw [Reading.taken_of_ok chunk]
      cases bytes with
      | nil => simp [Streaming.file]
      | cons byte bytes =>
          cases source with
          | stdout =>
              rw [Streaming.deliver_file]
              cases channel <;> simp [Streaming.file]
          | stderr => cases channel <;> simp [Streaming.file, Streaming.relay]

theorem Recorded.serve (recorded : Recorded readings streaming)
    (served : streaming.serve call source reading = (streaming', raised)) :
    Recorded (readings ++ [(source, reading)]) streaming' := by
  intro channel
  have appended := serve_file call streaming source reading channel
  rw [served] at appended
  rw [appended, recorded channel, received_concat]

theorem serve_registered (served : streaming.serve call source reading = (streaming', raised))
    (registered : channel ∈ streaming.registered) (other : channel ≠ source) :
    channel ∈ streaming'.registered := by
  unfold Streaming.serve at served
  cases chunk : reading.chunk call.progress source with
  | error raised =>
      rw [chunk] at served
      cases served
      exact registered
  | ok bytes =>
      rw [chunk] at served
      cases bytes with
      | nil =>
          cases served
          exact Finset.mem_erase_of_ne_of_mem other registered
      | cons byte bytes =>
          cases source with
          | stdout =>
              have same := congrArg (fun served => served.1.registered) served
              rw [Streaming.deliver_registered] at same
              exact same ▸ registered
          | stderr =>
              cases served
              exact registered

namespace Streamed

theorem close (streamed : Streamed call readings streaming)
    (finishes : reading.chunk call.progress source = .ok []) :
    Streamed call (readings ++ [(source, reading)])
      { streaming with registered := streaming.registered.erase source } := by
  have untaken := Reading.taken_of_ok finishes
  constructor
  · rw [received_concat_nil untaken]
    exact streamed.pending
  · rw [received_concat_nil untaken]
    exact streamed.lines
  · rw [received_concat_nil untaken]
    exact streamed.decoding
  · rw [received_concat_nil untaken]
    exact streamed.relayed
  · intro channel unregistered
    by_cases same : source = channel
    · subst same
      exact .of_finish finishes
    · apply Exhausted.concat _ same
      apply streamed.ended
      intro registered
      exact unregistered (Finset.mem_erase_of_ne_of_mem (Ne.symm same) registered)

theorem ended_concat (streamed : Streamed call readings streaming)
    (registered : source ∈ streaming.registered) (channel : Channel)
    (unregistered : channel ∉ streaming.registered) :
    Exhausted call.progress channel (readings ++ [(source, reading)]) := by
  apply (streamed.ended channel unregistered).concat
  rintro rfl
  exact unregistered registered

/-- The new lines are those that the chunk completes. -/
theorem deliver (streamed : Streamed call readings streaming)
    (registered : .stdout ∈ streaming.registered) {chunk : Bytes} (taken : reading.taken = chunk)
    (output : Bytes)
    (ok : ({ streaming with
      output := output, pending := streaming.pending ++ chunk }.deliver call).2 = none) :
    Streamed call (readings ++ [(.stdout, reading)])
      ({ streaming with
        output := output, pending := streaming.pending ++ chunk }.deliver call).1 := by
  have carry : 0x0a ∉ streaming.pending := by
    rw [streamed.pending]
    exact cutter_feed_carry List.not_mem_nil
  have joined : (cutter 0x0a).feed [] (received .stdout (readings ++ [(.stdout, reading)])) =
      (((cutter 0x0a).feed streaming.pending chunk).1,
        ((cutter 0x0a).feed [] (received .stdout readings)).2 ++
          ((cutter 0x0a).feed streaming.pending chunk).2) := by
    rw [received_concat, if_pos rfl, taken, Transducer.feed_append, ← streamed.pending]
  rw [Streaming.deliver_of_ok ok, cutter_feed_pending carry]
  constructor
  · rw [joined]
  · rw [joined, List.map_append, ← streamed.lines]
  · simpa [received_concat] using streamed.decoding
  · simpa [received_concat] using streamed.relayed
  · exact streamed.ended_concat registered

theorem relay (streamed : Streamed call readings streaming)
    (registered : .stderr ∈ streaming.registered) {chunk : Bytes} (taken : reading.taken = chunk)
    (diagnostics : Bytes) :
    Streamed call (readings ++ [(.stderr, reading)])
      ({ streaming with diagnostics := diagnostics }.relay call
        (utf8.feed streaming.decoding chunk)).1 := by
  have joined : utf8.feed .start (received .stderr (readings ++ [(.stderr, reading)])) =
      ((utf8.feed streaming.decoding chunk).1, streaming.relayed.flatten ++
        (utf8.feed streaming.decoding chunk).2) := by
    rw [received_concat, if_pos rfl, taken, Transducer.feed_append, ← streamed.decoding,
      ← streamed.relayed]
  unfold Streaming.relay
  constructor
  · simpa [received_concat] using streamed.pending
  · simpa [received_concat] using streamed.lines
  · rw [joined]
  · rw [joined, List.flatten_concat]
  · exact streamed.ended_concat registered

theorem serve (streamed : Streamed call readings streaming)
    (registered : source ∈ streaming.registered)
    (served : streaming.serve call source reading = (streaming', none)) :
    Streamed call (readings ++ [(source, reading)]) streaming' := by
  obtain rfl : (streaming.serve call source reading).1 = streaming' := by rw [served]
  have ok : (streaming.serve call source reading).2 = none := by rw [served]
  unfold Streaming.serve at ok ⊢
  cases chunk : reading.chunk call.progress source with
  | error raised =>
      rw [chunk] at ok
      cases ok
  | ok bytes =>
      rw [chunk] at ok
      cases bytes with
      | nil => exact streamed.close chunk
      | cons byte bytes =>
          have taken := Reading.taken_of_ok chunk
          cases source with
          | stdout => exact streamed.deliver registered taken _ ok
          | stderr => exact streamed.relay registered taken _

end Streamed

theorem flush_file (call : Call) (streaming : Streaming) :
    (streaming.flush call).1.file = streaming.file := by
  funext channel
  unfold Streaming.flush
  by_cases empty : streaming.pending = []
  · rw [if_pos empty]
    cases channel <;> rfl
  · rw [if_neg empty]
    cases call.onLine streaming.lines (decode streaming.pending) <;> cases channel <;> rfl

theorem Recorded.flush (recorded : Recorded readings streaming)
    (flushed : streaming.flush call = (streaming', raised)) : Recorded readings streaming' := by
  intro channel
  have same := congrFun (flush_file call streaming) channel
  rw [flushed] at same
  exact same.trans (recorded channel)

/-- The lines and the text are what the loop has left to pass on. -/
theorem flush_of_ok (flushed : streaming.flush call = (streaming', none)) :
    streaming'.lines = streaming.lines ++ ((cutter 0x0a).finish streaming.pending).map decode ∧
      streaming'.relayed = streaming.relayed ++ [utf8.finish streaming.decoding] := by
  unfold Streaming.flush at flushed
  by_cases empty : streaming.pending = []
  · rw [if_pos empty] at flushed
    cases (Prod.mk.inj flushed).1
    exact ⟨by simp [cutter, empty], rfl⟩
  · rw [if_neg empty] at flushed
    cases quiet : call.onLine streaming.lines (decode streaming.pending) with
    | some raised =>
        rw [quiet] at flushed
        cases flushed
    | none =>
        rw [quiet] at flushed
        cases (Prod.mk.inj flushed).1
        exact ⟨by simp [cutter, empty], rfl⟩

theorem Streamed.flush (streamed : Streamed call readings streaming)
    (drained : streaming.registered = ∅) (flushed : streaming.flush call = (streaming', none)) :
    Flushed call readings streaming' := by
  obtain ⟨lines, relayed⟩ := flush_of_ok flushed
  constructor
  · rw [lines, streamed.lines, streamed.pending, ← List.map_append, ← cutter_output]
    rfl
  · rw [relayed, List.flatten_concat, streamed.relayed, streamed.decoding]
    rfl
  · intro channel
    apply streamed.ended channel
    rw [drained]
    exact Finset.notMem_empty channel

/-- What is known of the stream at each location. -/
def Progress (call : Call) (readings : List (Channel × Reading)) (streaming : Streaming) :
    Location → Prop
  | .looping => Streamed call readings streaming
  | .serving ready => Streamed call readings streaming ∧ ready.Nodup ∧
      ∀ channel ∈ ready, channel ∈ streaming.registered
  | .waiting => Flushed call readings streaming
  | .unwinding outcome | .killing outcome | .reaping outcome | .finished outcome =>
      ∀ status, outcome = .ok status → Flushed call readings streaming

/-- A status is returned only of a child that was reaped with it. -/
def Returned (child : Child) (outcome : Except Raised Int) : Prop :=
  ∀ status, outcome = .ok status → child = .reaped status

/-- What is known of the child and the clean-up at each location. -/
def Custody (labels : List Label) (child : Child) : Location → Prop
  | .looping | .serving _ | .waiting => .poll none ∉ labels ∧ .kill ∉ labels
  | .unwinding outcome => (.poll none ∉ labels ∧ .kill ∉ labels) ∧ Returned child outcome
  | .killing outcome => (.poll none ∈ labels ∧ .kill ∉ labels) ∧ Returned child outcome ∧
      ∀ status, child ≠ .reaped status
  | .reaping outcome => (.kill ∈ labels ↔ .poll none ∈ labels) ∧ Returned child outcome
  | .finished outcome => (.kill ∈ labels ↔ .poll none ∈ labels) ∧ Returned child outcome ∧
      ∃ status, child = .reaped status

namespace Returned

variable {child child' : Child} {outcome : Except Raised Int}

@[simp] theorem raise (raised : Raised) : Returned child (.error raised) :=
  fun _ impossible => nomatch impossible

@[simp] theorem reaped (status : Int) : Returned (.reaped status) (.ok status) :=
  fun _ ok => congrArg Child.reaped (Except.ok.inj ok)

theorem of_unreaped (returned : Returned child outcome)
    (unreaped : ∀ status, child ≠ .reaped status) : Returned child' outcome :=
  fun status ok => absurd (returned status ok) (unreaped status)

theorem poll (returned : Returned child outcome) : Returned child.poll.1 outcome := by
  intro status ok
  rw [returned status ok]
  rfl

end Returned

theorem Child.poll_eq_none {child : Child} (alive : child.poll.2 = none) (status : Int) :
    child.poll.1 ≠ .reaped status := by
  cases child with
  | running => exact nofun
  | killed => exact nofun
  | exited status => cases alive
  | reaped status => cases alive

variable {machine machine' : Machine} {label : Label} {past labels : List Label}

theorem reads_concat : reads (past ++ [label]) = reads past ++ label.readings := by
  simp [reads]

theorem Recorded.step (taken : Step call machine label machine')
    (recorded : Recorded (reads past) machine.streaming) :
    Recorded (reads (past ++ [label])) machine'.streaming := by
  rw [reads_concat]
  cases taken with
  | read served => exact recorded.serve served
  | flush _ flushed => simpa only [Label.readings, List.append_nil] using recorded.flush flushed
  | _ => simpa only [Label.readings, List.append_nil] using recorded

theorem Progress.step (taken : Step call machine label machine')
    (progress : Progress call (reads past) machine.streaming machine.location) :
    Progress call (reads (past ++ [label])) machine'.streaming machine'.location := by
  rw [reads_concat]
  cases taken with
  | select _ _ distinct registered =>
      simp only [Label.readings, List.append_nil]
      exact ⟨progress, distinct, registered⟩
  | @read streaming child channel ready reading streaming' raised served =>
      obtain ⟨streamed, distinct, registered⟩ := progress
      cases raised with
      | some raised => exact fun _ impossible => nomatch impossible
      | none =>
          refine ⟨streamed.serve (registered channel List.mem_cons_self) served,
            distinct.of_cons, ?_⟩
          intro other member
          apply serve_registered served (registered other (List.mem_cons_of_mem channel member))
          rintro rfl
          exact (List.nodup_cons.mp distinct).1 member
  | @flush streaming child streaming' raised drained flushed =>
      simp only [Label.readings, List.append_nil]
      cases raised with
      | some raised => exact fun _ impossible => nomatch impossible
      | none => exact Streamed.flush progress drained flushed
  | next =>
      simp only [Label.readings, List.append_nil]
      exact progress.1
  | waited =>
      simp only [Label.readings, List.append_nil]
      exact fun _ _ => progress
  | deadline => exact fun _ impossible => nomatch impossible
  | interrupt => exact fun _ impossible => nomatch impossible
  | unwaited => exact fun _ impossible => nomatch impossible
  | _ =>
      simp only [Label.readings, List.append_nil]
      exact progress

theorem Custody.step (taken : Step call machine label machine')
    (custody : Custody past machine.child machine.location) :
    Custody (past ++ [label]) machine'.child machine'.location := by
  cases taken with
  | @read streaming child channel ready reading streaming' raised served =>
      cases raised <;> simpa [Custody, Location.after] using custody
  | @flush streaming child streaming' raised =>
      cases raised <;> simpa [Custody, Location.after] using custody
  | waited => simpa [Custody] using custody
  | unwaited => simpa [Custody] using custody
  | pollRunning alive =>
      obtain ⟨⟨_, unkilled⟩, returned⟩ := custody
      exact ⟨⟨by simp, by simpa using unkilled⟩, returned.poll, Child.poll_eq_none alive⟩
  | pollExited =>
      obtain ⟨⟨unpolled, unkilled⟩, returned⟩ := custody
      exact ⟨by simp [unpolled, unkilled], returned.poll⟩
  | kill =>
      obtain ⟨⟨polled, _⟩, returned, unreaped⟩ := custody
      exact ⟨by simp [polled], returned.of_unreaped unreaped⟩
  | @reap streaming child outcome status poll =>
      obtain ⟨both, returned⟩ := custody
      have polled := returned.poll
      simp only [poll] at polled
      exact ⟨by simpa using both, polled, status, rfl⟩
  | @exit streaming child location status alive =>
      have unreaped : ∀ status, child ≠ .reaped status := by
        intro status
        rcases alive with rfl | rfl <;> exact nofun
      cases location with
      | unwinding outcome =>
          exact ⟨by simpa using custody.1, custody.2.of_unreaped unreaped⟩
      | killing outcome =>
          exact ⟨by simpa using custody.1, custody.2.1.of_unreaped unreaped, nofun⟩
      | reaping outcome =>
          exact ⟨by simpa using custody.1, custody.2.of_unreaped unreaped⟩
      | finished outcome =>
          obtain ⟨_, _, status, reaped⟩ := custody
          exact absurd reaped (unreaped status)
      | _ => simpa [Custody] using custody
  | _ => simpa [Custody] using custody

structure Kept (call : Call) (labels : List Label) (machine : Machine) : Prop where
  recorded : Recorded (reads labels) machine.streaming
  progress : Progress call (reads labels) machine.streaming machine.location
  custody : Custody labels machine.child machine.location

namespace Kept

theorem start : Kept call [] .start where
  recorded channel := by cases channel <;> rfl
  progress :=
    { pending := rfl
      lines := rfl
      decoding := rfl
      relayed := rfl
      ended := fun channel unregistered =>
        absurd (by cases channel <;> decide) unregistered }
  custody := ⟨List.not_mem_nil, List.not_mem_nil⟩

theorem step (kept : Kept call past machine) (taken : Step call machine label machine') :
    Kept call (past ++ [label]) machine' where
  recorded := kept.recorded.step taken
  progress := kept.progress.step taken
  custody := kept.custody.step taken

theorem run (run : Trace (Step call) .start labels machine) : Kept call labels machine :=
  run.invariant [] (Kept call) (fun _ _ _ _ _ kept taken => kept.step taken) start

theorem flushed (kept : Kept call labels machine) {status : Int}
    (finished : machine.location = .finished (.ok status)) :
    Flushed call (reads labels) machine.streaming := by
  have progress := kept.progress
  rw [finished] at progress
  exact progress status rfl

end Kept

/-- An order in which the registered channels may be read up to their ends. -/
inductive Schedule (progress : Bool) : Finset Channel → List (Channel × Reading) → Prop where
  | drained : Schedule progress ∅ []
  | chunk {registered channel chunk readings} :
      channel ∈ registered → chunk ≠ [] → Schedule progress registered readings →
        Schedule progress registered ((channel, .bytes chunk) :: readings)
  | finish {registered channel reading readings} :
      channel ∈ registered → reading.chunk progress channel = .ok [] →
        Schedule progress (registered.erase channel) readings →
          Schedule progress registered ((channel, reading) :: readings)

/-- Neither `on_line` nor the terminal raises. -/
structure Quiet (call : Call) : Prop where
  onLine : ∀ lines line, call.onLine lines line = none
  relay : ∀ texts text, call.relay texts text = none

theorem Quiet.deliver (quiet : Quiet call) : (streaming.deliver call).2 = none := by
  fun_induction Streaming.deliver call streaming with
  | case1 streaming => rfl
  | case2 streaming line pending cut called raised loud =>
      rw [quiet.onLine] at loud
      cases loud
  | case3 streaming line pending cut called silent inductionHypothesis =>
      exact inductionHypothesis

theorem Quiet.serve (quiet : Quiet call) (streaming : Streaming) {chunk : Bytes}
    (ok : reading.chunk call.progress channel = .ok chunk) :
    (streaming.serve call channel reading).2 = none ∧
      (streaming.serve call channel reading).1.registered =
        if chunk = [] then streaming.registered.erase channel else streaming.registered := by
  unfold Streaming.serve
  rw [ok]
  cases chunk with
  | nil => exact ⟨rfl, rfl⟩
  | cons byte chunk =>
      cases channel with
      | stdout => exact ⟨quiet.deliver, Streaming.deliver_registered⟩
      | stderr => exact ⟨quiet.relay _ _, rfl⟩

theorem Quiet.flush (quiet : Quiet call) : (streaming.flush call).2 = none := by
  unfold Streaming.flush
  by_cases empty : streaming.pending = []
  · rw [if_pos empty]
    exact quiet.relay _ _
  · rw [if_neg empty, quiet.onLine]
    exact quiet.relay _ _

theorem Step.attend (time : 0 < call.timeout) (registered : channel ∈ streaming.registered)
    (served : streaming.serve call channel reading = (streaming', raised)) :
    Trace (Step call) ⟨streaming, .running, .looping⟩ [.select 0 [channel], .read channel reading]
      ⟨streaming', .running, (Location.serving []).after raised⟩ := by
  refine .cons (.select ⟨channel, registered⟩ time (List.nodup_singleton channel) ?_)
    (.single (.read served))
  intro other member
  rw [List.mem_singleton.mp member]
  exact registered

theorem Step.turn (time : 0 < call.timeout) (registered : channel ∈ streaming.registered)
    (served : streaming.serve call channel reading = (streaming', none)) :
    Trace (Step call) ⟨streaming, .running, .looping⟩
      [.select 0 [channel], .read channel reading, .next] ⟨streaming', .running, .looping⟩ :=
  (Step.attend time registered served).append (.single .next)

theorem Quiet.turn (quiet : Quiet call) (time : 0 < call.timeout)
    (registered : channel ∈ streaming.registered) {chunk : Bytes}
    (ok : reading.chunk call.progress channel = .ok chunk) :
    Trace (Step call) ⟨streaming, .running, .looping⟩
      [.select 0 [channel], .read channel reading, .next]
      ⟨(streaming.serve call channel reading).1, .running, .looping⟩ := by
  apply Step.turn time registered
  exact Prod.ext rfl (quiet.serve streaming ok).1

theorem Quiet.loop (quiet : Quiet call) (time : 0 < call.timeout) {registered : Finset Channel}
    (schedule : Schedule call.progress registered readings) (streaming : Streaming)
    (start : streaming.registered = registered) :
    ∃ labels streaming', reads labels = readings ∧ streaming'.registered = ∅ ∧
      Trace (Step call) ⟨streaming, .running, .looping⟩ labels
        ⟨streaming', .running, .looping⟩ := by
  induction schedule generalizing streaming with
  | drained => exact ⟨[], streaming, rfl, start, .nil _⟩
  | @chunk registered channel chunk readings member more schedule inductionHypothesis =>
      have ok : Reading.chunk call.progress channel (.bytes chunk) = .ok chunk := rfl
      have same := (quiet.serve streaming ok).2
      rw [if_neg more, start] at same
      obtain ⟨labels, streaming', read, drained, rest⟩ := inductionHypothesis _ same
      exact ⟨_, streaming', congrArg _ read, drained,
        (quiet.turn time (start ▸ member) ok).append rest⟩
  | @finish registered channel reading readings member finishes schedule inductionHypothesis =>
      have erased := (quiet.serve streaming finishes).2
      rw [if_pos rfl, start] at erased
      obtain ⟨labels, streaming', read, drained, rest⟩ := inductionHypothesis _ erased
      exact ⟨_, streaming', congrArg _ read, drained,
        (quiet.turn time (start ▸ member) finishes).append rest⟩

/-- Every schedule is read by a run that returns. -/
theorem Quiet.returns (quiet : Quiet call) (time : 0 < call.timeout) (status : Int)
    (schedule : Schedule call.progress {.stdout, .stderr} readings) :
    ∃ labels machine, reads labels = readings ∧ machine.location = .finished (.ok status) ∧
      Trace (Step call) .start labels machine := by
  obtain ⟨labels, streaming, read, drained, looped⟩ :=
    quiet.loop time schedule .begin rfl
  have flushed : streaming.flush call = ((streaming.flush call).1, none) :=
    Prod.ext rfl quiet.flush
  refine ⟨labels ++ [.flush, .exit status, .wait (.ok status), .poll (some status), .reap],
    ⟨(streaming.flush call).1, .reaped status, .finished (.ok status)⟩, ?_, rfl, ?_⟩
  · simpa [reads, Label.readings] using read
  · apply looped.append
    apply Trace.cons (.flush drained flushed)
    apply Trace.cons (.exit (.inl rfl))
    apply Trace.cons .waited
    apply Trace.cons (.pollExited rfl)
    exact .single (.reap rfl)

/-- On return the transcripts, the lines and the text are those of the whole channels; on every
way out the transcripts are complete and the child is reaped, and killed if it was running. -/
theorem streaming_eq_batch {outcome : Except Raised Int}
    (run : Trace (Step call) .start labels machine)
    (finished : machine.location = .finished outcome) :
    machine.streaming.output = received .stdout (reads labels) ∧
      machine.streaming.diagnostics = received .stderr (reads labels) ∧
      (∃ status, machine.child = .reaped status) ∧
      (.kill ∈ labels ↔ .poll none ∈ labels) ∧
      ∀ status, outcome = .ok status →
        machine.child = .reaped status ∧
        machine.streaming.lines = (segments 0x0a (received .stdout (reads labels))).map decode ∧
        machine.streaming.relayed.flatten = decode (received .stderr (reads labels)) ∧
        ∀ channel, Exhausted call.progress channel (reads labels) := by
  have kept := Kept.run run
  have custody := kept.custody
  rw [finished] at custody
  obtain ⟨both, returned, reaped⟩ := custody
  refine ⟨kept.recorded .stdout, kept.recorded .stderr, reaped, both, ?_⟩
  intro status ok
  have flushed := kept.flushed (finished.trans (congrArg Location.finished ok))
  exact ⟨returned status ok, flushed.lines, flushed.relayed, flushed.ended⟩

/-- A character in two chunks, and a terminal that ends with `EIO`. -/
theorem streaming_eq_batch_split :
    ∃ labels machine, Trace (Step ⟨true, 180, fun _ _ => none, fun _ _ => none⟩) .start labels
        machine ∧
      machine.streaming.output = [0xe2, 0x82, 0xac, 0x0a, 0x62] ∧
      machine.streaming.lines = [[0x20ac], [0x62]] ∧
      machine.streaming.relayed.flatten = [0x21] := by
  have quiet : Quiet ⟨true, 180, fun _ _ => none, fun _ _ => none⟩ :=
    ⟨fun _ _ => rfl, fun _ _ => rfl⟩
  have schedule : Schedule true {.stdout, .stderr}
      [(.stdout, .bytes [0xe2]), (.stderr, .bytes [0x21]),
        (.stdout, .bytes [0x82, 0xac, 0x0a, 0x62]), (.stderr, .osError eio []),
        (.stdout, .bytes [])] := by
    apply Schedule.chunk (by decide) (by decide)
    apply Schedule.chunk (by decide) (by decide)
    apply Schedule.chunk (by decide) (by decide)
    apply Schedule.finish (by decide) rfl
    apply Schedule.finish (by decide) rfl
    exact .drained
  obtain ⟨labels, machine, read, finished, run⟩ := quiet.returns (by decide) 0 schedule
  obtain ⟨output, _, _, _, returned⟩ := streaming_eq_batch run finished
  obtain ⟨_, lines, relayed, _⟩ := returned 0 rfl
  rw [read] at output lines relayed
  exact ⟨labels, machine, run, output, lines.trans (by decide), relayed.trans (by decide)⟩

end DirectLine.Host
