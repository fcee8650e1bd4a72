import DirectLine.Host.Display.Agreement
import DirectLine.Host.Stream.Origins
import DirectLine.Host.Verdict
import DirectLine.Text.Surrogates

/-!
# Exceptions that escape

`execute` names the exceptions of `stream_process` that it turns into an error
of the report, `display_line` and `suite_result` those of a line.  Whether every
exception that the child's stdout can cause is among them depends on its lines:
JSON that is nested too deeply, and text that cannot be printed.
-/

namespace DirectLine.Host

open Text Interaction

/-- The exceptions of `stream_process` that `execute` handles. -/
def Raised.Handled : Raised → Prop
  | .timeoutExpired | .keyboardInterrupt | .os _ => True
  | .value _ | .recursion | .runtime _ => False

/-- The message of a `UnicodeEncodeError`, and what writing may raise after the writes before it:
to `sys.stdout`, for the lines of the child and the texts of one line, and to `sys.stderr`. -/
structure Console where
  encodeError : Text → Text
  stdout : List Text → List Text → Text → Option Raised
  stderr : List Text → Text → Option Raised
  stdout_handled : ∀ lines printed text raised, stdout lines printed text = some raised →
    raised.Handled
  stderr_handled : ∀ written text raised, stderr written text = some raised → raised.Handled

namespace Console

variable (console : Console)

def write (lines printed : List Text) (text : Text) : Option Raised :=
  if encodes text then console.stdout lines printed text
  else some (.value (console.encodeError text))

def print (lines printed : List Text) : List Text → Option Raised
  | [] => none
  | text :: texts =>
      match console.write lines printed text with
      | some raised => some raised
      | none => print lines (printed ++ [text]) texts

def call (python : Python) (terminal : Terminal) (listOnly progress : Bool) : Call :=
  executeCall python terminal listOnly progress (fun lines => console.print lines [])
    console.stderr

def working : Console where
  encodeError _ := []
  stdout _ _ _ := none
  stderr _ _ := none
  stdout_handled _ _ _ _ := nofun
  stderr_handled _ _ _ := nofun

variable {console} {lines printed texts : List Text} {raised : Raised}

theorem print_handled (printable : texts.all encodes = true)
    (loud : console.print lines printed texts = some raised) : raised.Handled := by
  induction texts generalizing printed with
  | nil => cases loud
  | cons text texts inductionHypothesis =>
      rw [List.all_cons, Bool.and_eq_true] at printable
      rw [print, write, if_pos printable.1] at loud
      cases written : console.stdout lines printed text with
      | some error =>
          rw [written] at loud
          cases loud
          exact console.stdout_handled lines printed text _ written
      | none =>
          rw [written] at loud
          exact inductionHypothesis printable.2 loud

theorem print_working (lost : texts.all encodes = false) :
    working.print lines printed texts ≠ none := by
  induction texts generalizing printed with
  | nil => cases lost
  | cons text texts inductionHypothesis =>
      rw [print, write]
      cases printable : encodes text with
      | false => exact Option.some_ne_none _
      | true =>
          rw [List.all_cons, printable, Bool.true_and] at lost
          exact inductionHypothesis lost

theorem print_working_raised (loud : working.print lines printed texts = some raised) :
    ¬raised.Handled := by
  induction texts generalizing printed with
  | nil => cases loud
  | cons text texts inductionHypothesis =>
      rw [print, write] at loud
      cases printable : encodes text with
      | false =>
          rw [printable] at loud
          cases loud
          exact id
      | true =>
          rw [printable] at loud
          exact inductionHypothesis loud

end Console

/-- What a statement of the stream itself may raise. -/
def Label.Handled : Label → Prop
  | .interrupt _ raised | .wait (.error raised) => raised.Handled
  | _ => True

/-- How `stream_process` ends for a child of which it has read these bytes, with the transcript
it leaves. -/
inductive Ends (call : Call) : Bytes → Bytes → Except Raised Int → Prop where
  | unlaunched {raised : Raised} : raised.Handled → Ends call [] [] (.error raised)
  | ran {labels : List Label} {machine : Machine} {outcome : Except Raised Int} :
      Trace (Step call) .start labels machine → (∀ label ∈ labels, label.Handled) →
        machine.location = .finished outcome →
          Ends call (received .stdout (reads labels)) machine.streaming.output outcome

/-- For a readable image and any end of a child with this stdout, `execute` returns a report that
`main` writes, and which has the counts of the suite or an error. -/
def Reported (python : Python) (terminal : Terminal) (listOnly : Bool) (stdout : Bytes) : Prop :=
  ∀ (console : Console) progress transcript outcome,
    Ends (console.call python terminal listOnly progress) stdout transcript outcome →
    ∀ image started finished command probe session,
      session = ⟨.ok image, started, finished, outcome, some transcript⟩ →
      ∃ report, execute python session command probe listOnly = .ok report ∧
        (∀ args found, found.session = session → args.probe = probe → args.list = listOnly →
          prepare python args found = .ok (.inr command) →
          main python args found = found.written.map fun _ => report.exit found.terminal) ∧
        (listOnly = false → match suiteResult python (readText stdout) with
          | .ok (some result) => report.suite = some result
          | _ => report.suite = none ∧ report.error ≠ none)

/-- The values of an event that its line of the display shows. -/
def Event.shown (python : Python) : Event → List Text
  | .test _ name stdout => name :: stdout.toList
  | .suite .started event => [(event.get "test_count").format python]
  | .suite _ event => [(event.get "passed").format python, (event.get "failed").format python,
      (event.get "ignored").format python]

/-- A line that the display cannot take. -/
inductive Hostile (python : Python) (line : Text) : Prop where
  | nested : jsonLooking line = true → python.loads line = .error .recursion → Hostile python line
  | unprintable {event : Event} : testEvent python line = .ok (some event) →
      (event.shown python).all encodes = false → Hostile python line

/-- No line is hostile, and no line that could continue a suite is nested too deeply. -/
def Harmless (python : Python) (listOnly : Bool) (stdout : Bytes) : Prop :=
  listOnly = false →
    (∀ segment ∈ segments 0x0a stdout, ¬Hostile python (decode segment)) ∧
      ∀ earlier line later, splitlines (readText stdout) = earlier ++ line :: later →
        Viable python earlier → jsonLooking line = true → python.loads line ≠ .error .recursion

section

variable {python : Python} {terminal : Terminal} {listOnly progress : Bool} {line : Text}
  {event : Event} {raised : Raised} {lines texts : List Text}

@[simp] theorem encodes_styled (terminal : Terminal) (isatty : Bool) (text : Text) (color : Color) :
    encodes (terminal.styled isatty text color) = encodes text := by
  unfold Terminal.styled
  split <;> simp

@[simp] theorem encodes_label (terminal : Terminal) (state : TestState) :
    encodes (terminal.label state) = true := by
  cases state <;> simp [Terminal.label]

theorem displayLine_event (terminal : Terminal)
    (tested : testEvent python line = .ok (some event)) :
    ∃ texts, displayLine python terminal false line = .ok texts ∧
      texts.all encodes = (event.shown python).all encodes := by
  rw [displayLine, if_neg Bool.false_ne_true, (recognise_eq_event python).mpr tested]
  cases event with
  | test state name stdout =>
      refine ⟨_, rfl, ?_⟩
      cases stdout with
      | none => simp [Event.shown]
      | some stdout => cases stdout <;> simp [Event.shown, Option.filter]
  | suite state event =>
      cases state with
      | started =>
          refine ⟨_, rfl, ?_⟩
          by_cases one : (event.get "test_count").isOne = true <;> simp [Event.shown, one]
      | ok => exact ⟨_, rfl, by simp [Event.shown, Terminal.summary]⟩
      | failed => exact ⟨_, rfl, by simp [Event.shown, Terminal.summary]⟩

theorem displayLine_printable (encoded : encodes line = true)
    (safe : listOnly = false → ¬Hostile python line)
    (displayed : displayLine python terminal listOnly line = .ok texts) :
    texts.all encodes = true := by
  have plain : ([line] : List Text).all encodes = true := by simp [encoded]
  cases listOnly with
  | true =>
      cases displayed
      exact plain
  | false =>
      cases recognised : recognise python line with
      | error error =>
          rw [displayLine, if_neg Bool.false_ne_true, recognised] at displayed
          cases displayed
      | ok found =>
          cases found with
          | none =>
              rw [displayLine, if_neg Bool.false_ne_true, recognised] at displayed
              cases displayed
              exact plain
          | some event =>
              have tested := (recognise_eq_event python).mp recognised
              obtain ⟨texts', displayed', same⟩ := displayLine_event terminal tested
              cases displayed.symm.trans displayed'
              rw [same]
              refine eq_true_of_ne_false fun lost => ?_
              exact safe rfl (.unprintable tested lost)

variable {console : Console}

theorem onLine_handled (encoded : encodes line = true)
    (safe : listOnly = false → ¬Hostile python line)
    (loud : (console.call python terminal listOnly progress).onLine lines line = some raised) :
    raised.Handled := by
  dsimp only [Console.call, executeCall] at loud
  cases displayed : displayLine python terminal listOnly line with
  | error error =>
      obtain ⟨testing, nested, -⟩ := displayLine_error python displayed
      obtain ⟨looking, deep⟩ := testEvent_recursion.mp nested
      exact absurd (.nested looking deep) (safe testing)
  | ok texts =>
      rw [displayed] at loud
      exact Console.print_handled (displayLine_printable encoded safe displayed) loud

/-- On a working console only a hostile line raises, and nothing that is handled. -/
theorem onLine_working (loud :
    (Console.working.call python terminal listOnly progress).onLine lines line = some raised) :
    ¬raised.Handled := by
  dsimp only [Console.call, executeCall] at loud
  cases displayed : displayLine python terminal listOnly line with
  | error error =>
      obtain ⟨-, -, rfl⟩ := displayLine_error python displayed
      rw [displayed] at loud
      cases loud
      exact id
  | ok texts =>
      rw [displayed] at loud
      exact Console.print_working_raised loud

theorem onLine_hostile (hostile : Hostile python line) :
    (Console.working.call python terminal false progress).onLine lines line ≠ none := by
  intro silent
  dsimp only [Console.call, executeCall] at silent
  cases hostile with
  | nested looking deep =>
      have failed : displayLine python terminal false line = .error .recursion := by
        rw [displayLine, if_neg Bool.false_ne_true, recognise,
          testEvent_recursion.mpr ⟨looking, deep⟩]
      rw [failed] at silent
      cases silent
  | unprintable tested lost =>
      obtain ⟨texts, displayed, same⟩ := displayLine_event terminal tested
      rw [displayed] at silent
      exact Console.print_working (same.trans lost) silent

variable {progress : Bool} {label : Label} {labels : List Label} {machine : Machine}
  {stdout transcript : Bytes} {outcome : Except Raised Int}

theorem Label.Handled.exception (handled : label.Handled)
    (loud : label.exception progress = some raised) : raised.Handled := by
  cases label with
  | interrupt elapsed error =>
      cases loud
      exact handled
  | read channel reading =>
      cases reading with
      | bytes chunk => cases loud
      | osError errno message =>
          rw [Label.exception, Reading.chunk] at loud
          split_ifs at loud
          cases loud
          trivial
      | interrupted =>
          cases loud
          trivial
  | wait outcome =>
      cases outcome with
      | ok status => cases loud
      | error error =>
          cases loud
          exact handled
  | deadline elapsed =>
      cases loud
      trivial
  | _ => cases loud

theorem Calm.handled (calm : Calm progress labels) : ∀ label ∈ labels, label.Handled := by
  intro label member
  have quiet := calm label member
  cases label with
  | interrupt elapsed error => cases quiet
  | wait outcome =>
      cases outcome with
      | ok status => trivial
      | error error => cases quiet
  | _ => trivial

theorem Ends.handled
    (ended : Ends (console.call python terminal listOnly progress) stdout transcript outcome)
    (safe : listOnly = false → ∀ segment ∈ segments 0x0a stdout, ¬Hostile python (decode segment)) :
    transcript = stdout ∧ ∀ raised, outcome = .error raised → raised.Handled := by
  cases ended with
  | unlaunched handled =>
      refine ⟨rfl, fun raised same => ?_⟩
      cases same
      exact handled
  | @ran labels machine outcome run expected finished =>
      have traced := Traced.run run
      refine ⟨traced.kept.recorded .stdout, fun raised failed => ?_⟩
      have loud : machine.location.exception = some raised := by
        rw [finished, failed]
        rfl
      rcases traced.origin with accounted | ⟨label, member, error, raises, same⟩
      · rw [loud] at accounted
        rcases accounted with ⟨earlier, line, given, called⟩ | ⟨texts, text, written⟩
        · have member : line ∈ (segments 0x0a (received .stdout (reads labels))).map decode := by
            apply traced.handed.subset
            rw [given]
            exact List.mem_append_right _ List.mem_cons_self
          obtain ⟨segment, inside, rfl⟩ := List.mem_map.mp member
          exact onLine_handled (encodes_decode segment)
            (fun testing => safe testing segment inside) called
        · exact console.stderr_handled texts text raised written
      · cases loud.symm.trans same
        exact (expected label member).exception raises

theorem calm_raises
    (run : Trace (Step (Console.working.call python terminal listOnly progress)) .start labels
      machine)
    (calm : Calm progress labels) (finished : machine.location = .finished (.error raised)) :
    ¬raised.Handled := by
  have loud : machine.location.exception = some raised := by
    rw [finished]
    rfl
  rcases (Traced.run run).origin with accounted | ⟨label, member, error, raises, -⟩
  · rw [loud] at accounted
    rcases accounted with ⟨earlier, line, -, called⟩ | ⟨texts, text, written⟩
    · exact onLine_working called
    · cases written
  · cases (calm label member).symm.trans raises

theorem returns_harmless {status : Int} {segment : Bytes}
    (run : Trace (Step (Console.working.call python terminal false progress)) .start labels machine)
    (finished : machine.location = .finished (.ok status))
    (member : segment ∈ segments 0x0a (received .stdout (reads labels))) :
    ¬Hostile python (decode segment) := by
  intro hostile
  have traced := Traced.run run
  have quiet : machine.location.exception = none := by
    rw [finished]
    rfl
  have given : decode segment ∈ machine.streaming.lines := by
    rw [(traced.kept.flushed finished).lines]
    exact List.mem_map.mpr ⟨segment, member, rfl⟩
  obtain ⟨earlier, later, split⟩ := List.append_of_mem given
  refine onLine_hostile hostile (traced.quiet quiet earlier (decode segment) ?_)
  exact ⟨later, by simp [split]⟩

variable {session : Session} {command : List Text} {probe : Text} {report : Report}

theorem execute_reports {content : Bytes} (readable : session.image = .ok content)
    (handled : ∀ raised, session.process = .error raised → raised.Handled)
    (left : session.transcript = some transcript)
    (shallow : listOnly = false → suiteResult python (readText transcript) ≠ .error .recursion) :
    ∃ report, execute python session command probe listOnly = .ok report := by
  have ended : ∃ ended, Ended.ofProcess session.process = .ok ended := by
    cases outcome : session.process with
    | ok status => exact ⟨_, rfl⟩
    | error raised =>
        have expected := handled raised outcome
        cases raised with
        | timeoutExpired | keyboardInterrupt | os => exact ⟨_, rfl⟩
        | value | recursion | runtime => cases expected
  obtain ⟨ended, outcome⟩ := ended
  have parsed : ∃ parsed,
      parseSuite python listOnly session.transcript ended.error = .ok parsed := by
    rw [left]
    cases listOnly with
    | true => exact ⟨_, rfl⟩
    | false =>
        rw [parseSuite]
        cases result : suiteResult python (readText transcript) with
        | ok suite => exact ⟨_, rfl⟩
        | error raised =>
            rcases suiteResult_raised result with rfl | ⟨reason, rfl⟩
            · exact absurd result (shallow rfl)
            · exact ⟨_, rfl⟩
  obtain ⟨parsed, suite⟩ := parsed
  simp [execute, readable, outcome, suite, bind, Except.bind, pure, Except.pure]

theorem handled_of_returned {command : List Text}
    (returned : execute python session command probe listOnly = .ok report)
    (failed : session.process = .error raised) : raised.Handled := by
  obtain ⟨ended, error, outcome, -⟩ := execute_returned returned
  rw [failed] at outcome
  cases raised with
  | timeoutExpired | keyboardInterrupt | os => trivial
  | value | recursion | runtime => cases outcome

theorem shallow_of_returned {command : List Text}
    (returned : execute python session command probe false = .ok report)
    (left : session.transcript = some transcript) :
    suiteResult python (readText transcript) ≠ .error .recursion := by
  intro nested
  obtain ⟨ended, error, -, parsed, -⟩ := execute_returned returned
  rw [left, parseSuite, nested] at parsed
  cases parsed

/-- A report of a run has the counts of the suite or an error. -/
theorem execute_accounts {command : List Text}
    (returned : execute python session command probe false = .ok report)
    (left : session.transcript = some transcript) :
    match suiteResult python (readText transcript) with
      | .ok (some result) => report.suite = some result
      | _ => report.suite = none ∧ report.error ≠ none := by
  have read : ∀ result, Reports python session.transcript result ↔
      suiteResult python (readText transcript) = .ok (some result) := by
    intro result
    rw [suiteResult_eq_some, Reports, left]
    simp
  split
  · rename_i result found
    exact (suite_eq_some returned result).mpr ((read result).mpr found)
  · rename_i other
    apply error_of_incomplete returned
    exact fun result reported => other result ((read result).mp reported)

theorem main_writes {args : Arguments} {found : Surroundings}
    (prepared : prepare python args found = .ok (.inr command))
    (returned : execute python found.session command args.probe args.list = .ok report) :
    main python args found = found.written.map fun _ => report.exit found.terminal := by
  unfold main
  cases found.written with
  | error raised => simp [prepared, returned, bind, Except.bind, Except.map]
  | ok done => simp [prepared, returned, bind, Except.bind, pure, Except.pure, Except.map]

end

section

variable {python : Python} {terminal : Terminal} {listOnly : Bool} {stdout : Bytes}

theorem Harmless.reported (harmless : Harmless python listOnly stdout) :
    Reported python terminal listOnly stdout := by
  rintro console progress transcript outcome ended image started finished command probe session rfl
  obtain ⟨rfl, handled⟩ := ended.handled fun testing => (harmless testing).1
  have shallow : listOnly = false →
      suiteResult python (readText transcript) ≠ .error .recursion := by
    intro testing nested
    obtain ⟨earlier, line, later, split, viable, looking, deep⟩ := suiteResult_recursion.mp nested
    exact (harmless testing).2 earlier line later split viable looking deep
  obtain ⟨report, returned⟩ : ∃ report,
      execute python ⟨.ok image, started, finished, outcome, some transcript⟩ command probe
        listOnly = .ok report := execute_reports rfl handled rfl shallow
  refine ⟨report, returned, ?_, ?_⟩
  · rintro args found same rfl rfl prepared
    rw [← same] at returned
    exact main_writes prepared returned
  · rintro rfl
    exact execute_accounts returned rfl

/-- The converse looks at the run in which stdout arrives at once and every write succeeds. -/
theorem Reported.harmless (reported : Reported python terminal listOnly stdout) :
    Harmless python listOnly stdout := by
  rintro rfl
  by_cases empty : stdout = []
  · subst empty
    refine ⟨fun segment member => absurd member List.not_mem_nil, ?_⟩
    intro earlier line later split
    have none' : splitlines (readText []) = [] := rfl
    simp [none'] at split
  · obtain ⟨labels, machine, outcome, run, finished, calm, read⟩ :=
      calm_run (Console.working.call python terminal false false) (Nat.succ_pos 179) empty
    have output : machine.streaming.output = stdout := by
      rw [← read]
      exact (Kept.run run).recorded .stdout
    have ended : Ends (Console.working.call python terminal false false) stdout stdout outcome := by
      have ran := Ends.ran run calm.handled finished
      rwa [read, output] at ran
    obtain ⟨report, returned, -⟩ :=
      reported Console.working false stdout outcome ended [] 0 0 [] [] _ rfl
    constructor
    · intro segment member
      cases outcome with
      | ok status =>
          rw [← read] at member
          exact returns_harmless run finished member
      | error raised =>
          exact absurd (handled_of_returned returned rfl) (calm_raises run calm finished)
    · intro earlier line later split viable looking nested
      exact shallow_of_returned returned rfl
        (suiteResult_recursion.mpr ⟨earlier, line, later, split, viable, looking, nested⟩)

end

/-- Whatever becomes of the child and whatever else its run meets, `execute` returns a report that
`main` writes, exactly when the child's stdout is harmless. -/
theorem reported_iff_harmless (python : Python) (terminal : Terminal) (listOnly : Bool)
    (stdout : Bytes) : Reported python terminal listOnly stdout ↔ Harmless python listOnly stdout :=
  ⟨Reported.harmless, Harmless.reported⟩

/-- A test whose name is half of a surrogate pair. -/
def unpaired : String := "\x7b\"type\":\"test\",\"event\":\"ok\",\"name\":\"\\ud800\"\x7d"

def unpairedName : Python :=
  { oneSuite with
    loads := fun line =>
      if line = ofString unpaired then
        .ok (.dict [(ofString "type", .str (ofString "test")),
          (ofString "event", .str (ofString "ok")), (ofString "name", .str [0xd800])])
      else oneSuite.loads line }

theorem unpaired_hostile : Hostile unpairedName (ofString unpaired) := by
  have looking : jsonLooking (ofString unpaired) = true := by decide
  have loaded : unpairedName.loads (ofString unpaired) = .ok (.dict
      [(ofString "type", .str (ofString "test")), (ofString "event", .str (ofString "ok")),
        (ofString "name", .str [0xd800])]) := by simp [unpairedName]
  have tested : testEvent unpairedName (ofString unpaired) =
      .ok (some (.test .ok [0xd800] none)) := by
    rw [testEvent, if_pos looking, loaded]
    rfl
  exact .unprintable tested (by decide)

def nested (depth : Nat) : Bytes := List.replicate depth 0x5b

/-- A decoder that gives up at the nested lists. -/
def shallow (depth : Nat) : Python :=
  { oneSuite with
    loads := fun line =>
      if line = decode (nested depth) then .error .recursion else oneSuite.loads line }

theorem decode_nested (depth : Nat) :
    decode (nested depth) = List.replicate depth (CodePoint.ofChar '[') := by
  induction depth with
  | zero => rfl
  | succ depth inductionHypothesis => exact congrArg (List.cons _) inductionHypothesis

theorem nested_hostile {depth : Nat} (deep : 0 < depth) :
    Hostile (shallow depth) (decode (nested depth)) := by
  apply Hostile.nested
  · obtain ⟨more, rfl⟩ := Nat.exists_eq_add_of_lt deep
    rw [decode_nested, Nat.zero_add, List.replicate_succ]
    rfl
  · exact if_pos rfl

theorem not_reported_line {python : Python} {terminal : Terminal} {line : Bytes}
    (unbroken : 0x0a ∉ line) (hostile : Hostile python (decode line)) :
    ¬Reported python terminal false (line ++ [0x0a]) := by
  intro reported
  refine (reported.harmless rfl).1 line ?_ hostile
  apply (feed_prefix_segments _).subset
  rw [cutter_feed_append unbroken]
  exact List.mem_cons_self

/-- Neither a name that cannot be printed nor a hundred thousand brackets become a report. -/
theorem hostile_escapes :
    ¬Reported unpairedName ⟨false, false, false, false⟩ false (ascii unpaired ++ [0x0a]) ∧
      ¬Reported (shallow 100000) ⟨false, false, false, false⟩ false (nested 100000 ++ [0x0a]) := by
  constructor
  · apply not_reported_line (by decide)
    have decoded : decode (ascii unpaired) = ofString unpaired := by decide
    rw [decoded]
    exact unpaired_hostile
  · apply not_reported_line
    · intro inside
      cases List.eq_of_mem_replicate inside
    · exact nested_hostile (Nat.succ_pos _)

end DirectLine.Host
