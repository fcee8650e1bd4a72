import DirectLine.Host.Stream.Runs

/-!
# Origins of an exception

Whatever raises in a run of the stream is a statement of the loop itself, the
call of `on_line` for a line of stdout or a write to `sys.stderr`.  The lines
that were passed on are the first of the channel, also when the run stops
between them.
-/

namespace DirectLine.Host

open Text Interaction

/-- What the calls so far say of an exception: without one every call returned, and otherwise the
last call or a write raised it. -/
def Accounted (call : Call) (lines : List Text) : Option Raised → Prop
  | none => ∀ earlier line, earlier ++ [line] <+: lines → call.onLine earlier line = none
  | some raised =>
      (∃ earlier line, lines = earlier ++ [line] ∧ call.onLine earlier line = some raised) ∨
        ∃ texts text, call.relay texts text = some raised

variable {call : Call} {streaming streaming' : Streaming} {source : Channel} {reading : Reading}
  {readings : List (Channel × Reading)} {raised : Option Raised} {lines : List Text} {line : Text}

theorem Accounted.concat (accounted : Accounted call lines none)
    (quiet : call.onLine lines line = none) : Accounted call (lines ++ [line]) none := by
  intro earlier last called
  rcases List.prefix_concat_iff.mp called with same | called
  · obtain ⟨rfl, final⟩ := List.append_inj' same rfl
    rw [List.singleton_inj.mp final]
    exact quiet
  · exact accounted earlier last called

theorem Accounted.raise {error : Raised} (loud : call.onLine lines line = some error) :
    Accounted call (lines ++ [line]) (some error) :=
  .inl ⟨lines, line, rfl, loud⟩

namespace Streaming

theorem deliver_given (call : Call) (streaming : Streaming) : ∃ given,
    (streaming.deliver call).1.lines = streaming.lines ++ given.map decode ∧
      given <+: ((cutter 0x0a).feed [] streaming.pending).2 := by
  fun_induction deliver call streaming with
  | case1 streaming => exact ⟨[], by simp, List.nil_prefix⟩
  | case2 streaming line pending cut called =>
      obtain ⟨split, absent⟩ := splitOnce_eq_some cut
      refine ⟨[line], rfl, ?_⟩
      rw [split, cutter_feed_append absent]
      exact List.cons_prefix_cons.mpr ⟨rfl, List.nil_prefix⟩
  | case3 streaming line pending cut called quiet inductionHypothesis =>
      obtain ⟨split, absent⟩ := splitOnce_eq_some cut
      obtain ⟨given, lines, first⟩ := inductionHypothesis
      refine ⟨line :: given, ?_, ?_⟩
      · rw [lines]
        simp [called]
      · rw [split, cutter_feed_append absent]
        exact List.cons_prefix_cons.mpr ⟨rfl, first⟩

theorem deliver_accounted (accounted : Accounted call streaming.lines none) :
    Accounted call (streaming.deliver call).1.lines (streaming.deliver call).2 := by
  fun_induction deliver call streaming with
  | case1 streaming => exact accounted
  | case2 streaming line pending cut called raised loud => exact .raise loud
  | case3 streaming line pending cut called quiet inductionHypothesis =>
      exact inductionHypothesis (accounted.concat quiet)

theorem relay_accounted (accounted : Accounted call streaming.lines none)
    (decoded : Decoding × Text) :
    Accounted call (streaming.relay call decoded).1.lines (streaming.relay call decoded).2 := by
  cases written : (streaming.relay call decoded).2 with
  | none => exact accounted
  | some raised => exact .inr ⟨streaming.relayed, decoded.2, written⟩

/-- A reading that did not fail raises in a call or a write only. -/
theorem serve_accounted (accounted : Accounted call streaming.lines none)
    (served : streaming.serve call source reading = (streaming', raised)) :
    Accounted call streaming'.lines raised ∨
      ∃ error, raised = some error ∧ reading.chunk call.progress source = .error error := by
  unfold serve at served
  cases chunk : reading.chunk call.progress source with
  | error error =>
      rw [chunk] at served
      cases served
      exact .inr ⟨error, rfl, rfl⟩
  | ok bytes =>
      rw [chunk] at served
      refine .inl ?_
      cases bytes with
      | nil =>
          cases served
          exact accounted
      | cons byte bytes =>
          obtain ⟨rfl, rfl⟩ := Prod.mk.inj (served.symm.trans (Prod.eta _).symm)
          cases source with
          | stdout => exact deliver_accounted accounted
          | stderr => exact relay_accounted accounted _

theorem flush_accounted (accounted : Accounted call streaming.lines none)
    (flushed : streaming.flush call = (streaming', raised)) :
    Accounted call streaming'.lines raised := by
  obtain ⟨rfl, rfl⟩ := Prod.mk.inj (flushed.symm.trans (Prod.eta _).symm)
  unfold flush
  by_cases empty : streaming.pending = []
  · rw [if_pos empty]
    exact relay_accounted accounted _
  · rw [if_neg empty]
    dsimp only
    cases called : call.onLine streaming.lines (decode streaming.pending) with
    | some error => exact .raise called
    | none =>
        apply relay_accounted
        exact accounted.concat called

end Streaming

def Handed (readings : List (Channel × Reading)) (lines : List Text) : Prop :=
  lines <+: (segments 0x0a (received .stdout readings)).map decode

theorem feed_prefix_segments (bytes : Bytes) :
    ((cutter 0x0a).feed [] bytes).2 <+: segments 0x0a bytes := by
  rw [← cutter_output]
  exact List.prefix_append _ _

theorem Streamed.handed (streamed : Streamed call readings streaming) :
    Handed readings streaming.lines := by
  rw [Handed, streamed.lines]
  exact (feed_prefix_segments _).map decode

theorem Streamed.deliver_handed (streamed : Streamed call readings streaming) {chunk : Bytes}
    (taken : reading.taken = chunk) (output : Bytes) :
    Handed (readings ++ [(.stdout, reading)])
      ({ streaming with
        output := output, pending := streaming.pending ++ chunk }.deliver call).1.lines := by
  obtain ⟨given, lines, first⟩ := Streaming.deliver_given call
    { streaming with output := output, pending := streaming.pending ++ chunk }
  have carry : 0x0a ∉ streaming.pending := by
    rw [streamed.pending]
    exact cutter_feed_carry List.not_mem_nil
  rw [cutter_feed_pending carry] at first
  have joined : ((cutter 0x0a).feed [] (received .stdout (readings ++ [(.stdout, reading)]))).2 =
      ((cutter 0x0a).feed [] (received .stdout readings)).2 ++
        ((cutter 0x0a).feed streaming.pending chunk).2 := by
    rw [received_concat, if_pos rfl, taken, Transducer.feed_append, ← streamed.pending]
  rw [lines, streamed.lines, ← List.map_append]
  apply List.IsPrefix.map
  refine List.IsPrefix.trans ?_ (feed_prefix_segments _)
  rw [joined]
  exact (List.prefix_append_right_inj _).mpr first

theorem Streamed.serve_handed (streamed : Streamed call readings streaming)
    (served : streaming.serve call source reading = (streaming', raised)) :
    Handed (readings ++ [(source, reading)]) streaming'.lines := by
  unfold Streaming.serve at served
  cases chunk : reading.chunk call.progress source with
  | error error =>
      rw [chunk] at served
      cases served
      rw [Handed, received_concat_nil (Reading.taken_of_error chunk)]
      exact streamed.handed
  | ok bytes =>
      have taken := Reading.taken_of_ok chunk
      rw [chunk] at served
      cases bytes with
      | nil =>
          cases served
          rw [Handed, received_concat_nil taken]
          exact streamed.handed
      | cons byte bytes =>
          obtain ⟨rfl, rfl⟩ := Prod.mk.inj (served.symm.trans (Prod.eta _).symm)
          cases source with
          | stdout => exact streamed.deliver_handed taken _
          | stderr =>
              rw [Handed, received_concat, if_neg (by decide), List.append_nil]
              exact streamed.handed

theorem Streamed.flush_handed (streamed : Streamed call readings streaming)
    (flushed : streaming.flush call = (streaming', raised)) :
    Handed readings streaming'.lines := by
  obtain ⟨rfl, rfl⟩ := Prod.mk.inj (flushed.symm.trans (Prod.eta _).symm)
  unfold Streaming.flush
  by_cases empty : streaming.pending = []
  · rw [if_pos empty]
    exact streamed.handed
  · have whole : segments 0x0a (received .stdout readings) =
        ((cutter 0x0a).feed [] (received .stdout readings)).2 ++ [streaming.pending] := by
      rw [← cutter_output, Transducer.output, Transducer.close]
      rw [streamed.pending] at empty ⊢
      exact congrArg _ (if_neg empty)
    have all : Handed readings (streaming.lines ++ [decode streaming.pending]) := by
      rw [Handed, whole, List.map_append, ← streamed.lines]
      exact List.prefix_rfl
    rw [if_neg empty]
    dsimp only
    cases call.onLine streaming.lines (decode streaming.pending) with
    | some error => exact all
    | none => exact all

def Location.exception : Location → Option Raised
  | .unwinding (.error raised) | .killing (.error raised) | .reaping (.error raised)
  | .finished (.error raised) => some raised
  | _ => none

def Label.exception (progress : Bool) : Label → Option Raised
  | .deadline _ => some .timeoutExpired
  | .interrupt _ raised => some raised
  | .read channel reading =>
      match reading.chunk progress channel with
      | .error raised => some raised
      | .ok _ => none
  | .wait (.error raised) => some raised
  | _ => none

variable {machine machine' : Machine} {label : Label} {past labels : List Label}

/-- The lines are the first of the channel, and an exception has one of its origins. -/
structure Traced (call : Call) (labels : List Label) (machine : Machine) : Prop where
  kept : Kept call labels machine
  handed : Handed (reads labels) machine.streaming.lines
  origin : Accounted call machine.streaming.lines machine.location.exception ∨
    ∃ label ∈ labels, ∃ error, label.exception call.progress = some error ∧
      machine.location.exception = some error

namespace Traced

theorem start : Traced call [] .start where
  kept := .start
  handed := List.nil_prefix
  origin := by
    refine .inl fun earlier line called => ?_
    cases (List.append_eq_nil_iff.mp (List.prefix_nil.mp called)).2

theorem quiet (traced : Traced call labels machine) (calm : machine.location.exception = none) :
    Accounted call machine.streaming.lines none := by
  rcases traced.origin with accounted | ⟨_, _, error, _, loud⟩
  · rwa [calm] at accounted
  · cases calm.symm.trans loud

theorem exception_after (location : Location) (calm : location.exception = none)
    (raised : Option Raised) : (location.after raised).exception = raised := by
  cases raised with
  | none => exact calm
  | some error => rfl

theorem handed_step (traced : Traced call past machine) (taken : Step call machine label machine') :
    Handed (reads (past ++ [label])) machine'.streaming.lines := by
  rw [reads_concat]
  have progress := traced.kept.progress
  cases taken with
  | read served => exact Streamed.serve_handed progress.1 served
  | flush _ flushed =>
      simpa only [Label.readings, List.append_nil] using Streamed.flush_handed progress flushed
  | _ => simpa only [Label.readings, List.append_nil] using traced.handed

theorem origin_same (traced : Traced call past machine) (label : Label)
    (lines : machine'.streaming.lines = machine.streaming.lines)
    (same : machine'.location.exception = machine.location.exception) :
    Accounted call machine'.streaming.lines machine'.location.exception ∨
      ∃ other ∈ past ++ [label], ∃ error, other.exception call.progress = some error ∧
        machine'.location.exception = some error := by
  rw [lines, same]
  rcases traced.origin with accounted | ⟨other, member, loud⟩
  · exact .inl accounted
  · exact .inr ⟨other, List.mem_append_left _ member, loud⟩

theorem origin_step (traced : Traced call past machine) (taken : Step call machine label machine') :
    Accounted call machine'.streaming.lines machine'.location.exception ∨
      ∃ other ∈ past ++ [label], ∃ error, other.exception call.progress = some error ∧
        machine'.location.exception = some error := by
  have last : label ∈ past ++ [label] := List.mem_append_right _ List.mem_cons_self
  cases taken with
  | @read streaming child channel ready reading streaming' raised served =>
      rw [exception_after _ rfl]
      have accounts := Streaming.serve_accounted (traced.quiet rfl) served
      rcases accounts with accounted | ⟨error, rfl, failed⟩
      · exact .inl accounted
      · refine .inr ⟨_, last, error, ?_, rfl⟩
        rw [Label.exception, failed]
  | flush _ flushed =>
      rw [exception_after _ rfl]
      exact .inl (Streaming.flush_accounted (traced.quiet rfl) flushed)
  | deadline => exact .inr ⟨_, last, _, rfl, rfl⟩
  | interrupt => exact .inr ⟨_, last, _, rfl, rfl⟩
  | unwaited => exact .inr ⟨_, last, _, rfl, rfl⟩
  | @pollRunning streaming child outcome =>
      cases outcome <;> exact traced.origin_same _ rfl rfl
  | @pollExited streaming child outcome =>
      cases outcome <;> exact traced.origin_same _ rfl rfl
  | @kill streaming child outcome => cases outcome <;> exact traced.origin_same _ rfl rfl
  | @reap streaming child outcome => cases outcome <;> exact traced.origin_same _ rfl rfl
  | _ => exact traced.origin_same _ rfl rfl

theorem step (traced : Traced call past machine) (taken : Step call machine label machine') :
    Traced call (past ++ [label]) machine' where
  kept := traced.kept.step taken
  handed := traced.handed_step taken
  origin := traced.origin_step taken

theorem run (run : Trace (Step call) .start labels machine) : Traced call labels machine :=
  run.invariant [] (Traced call) (fun _ _ _ _ _ traced taken => traced.step taken) start

end Traced

/-- Only the calls and the writes raise. -/
def Calm (progress : Bool) (labels : List Label) : Prop :=
  ∀ label ∈ labels, label.exception progress = none

theorem Step.cleanUp (outcome : Except Raised Int) :
    Trace (Step call) ⟨streaming, .running, .unwinding outcome⟩ [.poll none, .kill, .exit 0, .reap]
      ⟨streaming, .reaped 0, .finished outcome⟩ := by
  apply Trace.cons (.pollRunning rfl)
  apply Trace.cons .kill
  apply Trace.cons (.exit (.inr rfl))
  exact .single (.reap rfl)

theorem Step.close {channel : Channel} (time : 0 < call.timeout)
    (registered : channel ∈ streaming.registered) :
    Trace (Step call) ⟨streaming, .running, .looping⟩
      [.select 0 [channel], .read channel (.bytes []), .next]
      ⟨{ streaming with registered := streaming.registered.erase channel }, .running, .looping⟩ :=
  Step.turn time registered rfl

theorem Step.leave (call : Call) (streaming : Streaming) (drained : streaming.registered = ∅) :
    ∃ labels machine outcome, Trace (Step call) ⟨streaming, .running, .looping⟩ labels machine ∧
      machine.location = .finished outcome ∧ Calm call.progress labels ∧ reads labels = [] := by
  cases flushed : streaming.flush call with
  | mk streaming' raised =>
      cases raised with
      | some error =>
          refine ⟨_, _, _, .cons (.flush drained flushed) (Step.cleanUp (.error error)), rfl, ?_,
            rfl⟩
          simp [Calm, Label.exception]
      | none =>
          refine ⟨[.flush, .exit 0, .wait (.ok 0), .poll (some 0), .reap],
            ⟨streaming', .reaped 0, .finished (.ok 0)⟩, .ok 0, ?_, rfl, ?_, rfl⟩
          · apply Trace.cons (.flush drained flushed)
            apply Trace.cons (.exit (.inl rfl))
            apply Trace.cons .waited
            apply Trace.cons (.pollExited rfl)
            exact .single (.reap rfl)
          · simp [Calm, Label.exception]

/-- The bytes of stdout may arrive at once and with nothing on stderr. -/
theorem calm_run (call : Call) (time : 0 < call.timeout) {bytes : Bytes} (nonempty : bytes ≠ []) :
    ∃ labels machine outcome, Trace (Step call) .start labels machine ∧
      machine.location = .finished outcome ∧ Calm call.progress labels ∧
      received .stdout (reads labels) = bytes := by
  have attended : .stdout ∈ Streaming.begin.registered := by decide
  cases served : Streaming.begin.serve call .stdout (.bytes bytes) with
  | mk streaming raised =>
      cases raised with
      | some error =>
          refine ⟨_, _, _, (Step.attend time attended served).append
            (Step.cleanUp (.error error)), rfl, ?_, ?_⟩
          · simp [Calm, Label.exception, Reading.chunk]
          · simp [reads, Label.readings, received, Reading.taken]
      | none =>
          have kept : streaming.registered = {.stdout, .stderr} := by
            have same := congrArg (fun served => served.1.registered) served
            obtain ⟨byte, rest, rfl⟩ := List.exists_cons_of_ne_nil nonempty
            exact same.symm.trans Streaming.deliver_registered
          have drained : (streaming.registered.erase .stdout).erase .stderr = ∅ := by
            rw [kept]
            decide
          obtain ⟨labels, machine, outcome, left, finished, calm, unread⟩ := Step.leave call
            { streaming with
              registered := (streaming.registered.erase .stdout).erase .stderr } drained
          have other : .stderr ∈ streaming.registered.erase .stdout := by
            rw [kept]
            decide
          have looped := (Step.turn time attended served).append
            ((Step.close time (kept ▸ attended)).append ((Step.close time other).append left))
          refine ⟨_, machine, outcome, looped, finished, ?_, ?_⟩
          · simpa [Calm, Label.exception, Reading.chunk] using calm
          · have rest : labels.flatMap Label.readings = [] := unread
            simp [reads, rest, Label.readings, received, Reading.taken]

end DirectLine.Host
