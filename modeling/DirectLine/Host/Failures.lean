import DirectLine.Host.Verdict

/-!
# Reported failures

The completion of a suite carries its outcome and its counts, and these alone
decide the result.  The tests before it are checked one by one and are not
counted.
-/

namespace DirectLine.Host

open Text

def IsTest (event : Event) : Prop := ∃ state name stdout, event = .test state name stdout

/-- A completion that reports a failure, by its outcome or by its count. -/
def ReportsFailure (event : Event) : Prop :=
  ∃ state finish, event = .suite state finish ∧ state ≠ .started ∧
    (state = .failed ∨ Dict.get finish "failed" ≠ .int 0)

section

variable {python : Python} {transcript : Text} {result : SuiteResult} {events : List Event}

theorem complete_iff : Complete events result ↔
    ∃ start tests state finish, ∃ count : Nat,
      events = .suite .started start :: (tests ++ [.suite state finish]) ∧
      (∀ event ∈ tests, IsTest event) ∧ Dict.get start "test_count" = .int count ∧
      Completes count state finish result := by
  constructor
  · rintro ⟨_, state, finish, count, rfl, ⟨start, tests, rfl, counted, isTest⟩, completes⟩
    exact ⟨start, tests, state, finish, count, rfl, isTest, counted, completes⟩
  · rintro ⟨start, tests, state, finish, count, rfl, isTest, counted, completes⟩
    exact ⟨_, state, finish, count, rfl, ⟨start, tests, rfl, counted, isTest⟩, completes⟩

theorem Completes.failed_pos {state : SuiteState} {finish : Dict} {count : Nat}
    (completes : Completes count state finish result)
    (failure : state = .failed ∨ Dict.get finish "failed" ≠ .int 0) : 1 ≤ result.failed := by
  refine Nat.one_le_iff_ne_zero.mpr fun clean => ?_
  rcases failure with rfl | counted
  · cases completes.outcome.mpr clean
  · rw [completes.failed, clean] at counted
    exact counted rfl

theorem Decodes.mem {lines : List Text} (decodes : Decodes python lines events) {line : Text}
    {event : Event} (member : line ∈ lines) (tested : testEvent python line = .ok (some event)) :
    event ∈ events := by
  have looking : jsonLooking line = true := by
    refine eq_true_of_ne_false fun plain => ?_
    cases (testEvent_eq_none.mpr plain).symm.trans tested
  have image : (.ok (some event) : Except Raised (Option Event)) ∈
      (lines.filter jsonLooking).map (testEvent python) :=
    List.mem_map.mpr ⟨line, List.mem_filter.mpr ⟨member, looking⟩, tested⟩
  rw [decodes] at image
  obtain ⟨other, inside, same⟩ := List.mem_map.mp image
  cases same
  exact inside

theorem Decodes.unique {lines : List Text} {events' : List Event}
    (decodes : Decodes python lines events) (decodes' : Decodes python lines events') :
    events = events' := by
  refine List.map_injective_iff.mpr ?_ (decodes.symm.trans decodes')
  exact fun event event' same => Option.some.inj (Except.ok.inj same)

/-- In a complete suite only the completion reports a failure. -/
theorem Complete.failed_pos (complete : Complete events result) {event : Event}
    (member : event ∈ events) (failure : ReportsFailure event) : 1 ≤ result.failed := by
  obtain ⟨start, tests, state, finish, count, rfl, isTest, -, completes⟩ :=
    complete_iff.mp complete
  obtain ⟨state', finish', rfl, finished, reported⟩ := failure
  simp only [List.mem_cons, List.mem_append, List.not_mem_nil, or_false] at member
  rcases member with same | member | same
  · cases same
    exact absurd rfl finished
  · obtain ⟨_, _, _, ⟨⟩⟩ := isTest _ member
  · cases same
    exact completes.failed_pos reported

theorem suiteResult_ne_none {line : Text} {event : Event} (member : line ∈ splitlines transcript)
    (tested : testEvent python line = .ok (some event)) (failure : ReportsFailure event) :
    suiteResult python transcript ≠ .ok none := by
  intro unfinished
  obtain ⟨events, expected, decodes, trace⟩ := suiteResult_eq_ok.mp unfinished
  have inside := decodes.mem member tested
  obtain ⟨state, finish, rfl, finished, -⟩ := failure
  rcases trace_iff.mp trace with ⟨rfl, -⟩ | ⟨_, ⟨start, tests, rfl, -, isTest⟩, -⟩ |
    ⟨_, _, _, _, _, _, _, _, ⟨⟩⟩
  · cases inside
  · rcases List.mem_cons.mp inside with same | inside
    · cases same
      exact finished rfl
    · obtain ⟨_, _, _, ⟨⟩⟩ := isTest _ inside

theorem suiteResult_error {raised : Raised}
    (decodes : ∀ line ∈ splitlines transcript, python.loads line ≠ .error .recursion)
    (refused : suiteResult python transcript = .error raised) :
    ∃ reason, raised = .value reason := by
  rcases suiteResult_raised refused with rfl | value
  · obtain ⟨earlier, line, later, split, -, -, nested⟩ := suiteResult_recursion.mp refused
    have member : line ∈ splitlines transcript := by
      rw [split]
      exact List.mem_append_right _ List.mem_cons_self
    exact absurd nested (decodes line member)
  · exact value

/-- A reported failure is refused or counted. -/
theorem suiteResult_of_failure {line : Text} {event : Event}
    (member : line ∈ splitlines transcript) (tested : testEvent python line = .ok (some event))
    (failure : ReportsFailure event) :
    (∃ raised, suiteResult python transcript = .error raised) ∨
      ∃ result, suiteResult python transcript = .ok (some result) ∧ 1 ≤ result.failed := by
  cases outcome : suiteResult python transcript with
  | error raised => exact .inl ⟨raised, rfl⟩
  | ok suite =>
      cases suite with
      | none => exact absurd outcome (suiteResult_ne_none member tested failure)
      | some result =>
          obtain ⟨events, decodes, complete⟩ := suiteResult_eq_some.mp outcome
          exact .inr ⟨result, rfl, complete.failed_pos (decodes.mem member tested) failure⟩

theorem Complete.with_tests {start finish : Dict} {tests tests' : List Event} {state : SuiteState}
    (isTest : ∀ event ∈ tests', IsTest event)
    (complete : Complete (.suite .started start :: (tests ++ [.suite state finish])) result) :
    Complete (.suite .started start :: (tests' ++ [.suite state finish])) result := by
  obtain ⟨start', tests'', state', finish', count, split, -, counted, completes⟩ :=
    complete_iff.mp complete
  obtain ⟨begins, rest⟩ := List.cons.inj split
  obtain ⟨-, ends⟩ := List.append_inj' rest rfl
  cases begins
  cases ends
  exact complete_iff.mpr ⟨start, tests', state, finish, count, rfl, isTest, counted, completes⟩

theorem suiteResult_clean (found : suiteResult python transcript = .ok (some result)) :
    ∃ start tests state finish,
      Decodes python (splitlines transcript)
        (.suite .started start :: (tests ++ [.suite state finish])) ∧
      (∀ event ∈ tests, IsTest event) ∧
      (result.failed = 0 ↔ state = .ok ∧ Dict.get finish "failed" = .int 0) := by
  obtain ⟨events, decodes, complete⟩ := suiteResult_eq_some.mp found
  obtain ⟨start, tests, state, finish, count, rfl, isTest, -, completes⟩ :=
    complete_iff.mp complete
  refine ⟨start, tests, state, finish, decodes, isTest, ?_⟩
  constructor
  · intro clean
    refine ⟨completes.outcome.mpr clean, ?_⟩
    rw [completes.failed, clean]
    rfl
  · exact fun passed => completes.outcome.mp passed.1

theorem error_of_failure {content : Bytes} {session : Session} {command : List Text} {probe : Text}
    {report : Report} {line : Text} {event : Event}
    (member : line ∈ splitlines (readText content))
    (tested : testEvent python line = .ok (some event)) (failure : ReportsFailure event)
    (written : session.transcript = some content) (ended : session.process = .ok 0)
    (returned : execute python session command probe false = .ok report) :
    report.error ≠ none := by
  intro silent
  obtain ⟨result, ⟨content', events, written', decodes, complete⟩, verdict⟩ :=
    (error_none_run returned).mp silent
  cases written.symm.trans written'
  have counted := complete.failed_pos (decodes.mem member tested) failure
  rcases verdict with ⟨-, clean, -⟩ | ⟨ended', -⟩
  · omega
  · cases ended.symm.trans ended'

/-- Another transcript with the same start and completion has the same result. -/
theorem suiteResult_with_tests {transcript' : Text} {start finish : Dict} {state : SuiteState}
    {tests tests' : List Event}
    (decodes : Decodes python (splitlines transcript)
      (.suite .started start :: (tests ++ [.suite state finish])))
    (decodes' : Decodes python (splitlines transcript')
      (.suite .started start :: (tests' ++ [.suite state finish])))
    (isTest : ∀ event ∈ tests', IsTest event)
    (found : suiteResult python transcript = .ok (some result)) :
    suiteResult python transcript' = .ok (some result) := by
  obtain ⟨events, decoded, complete⟩ := suiteResult_eq_some.mp found
  cases decodes.unique decoded
  exact suiteResult_eq_some.mpr ⟨_, decodes', complete.with_tests isTest⟩

end

/-- The completion of a suite decides whether its result has failures: what it reports as failed
is refused or counted, and the tests before it do not change the result. -/
theorem failures_counted (python : Python) :
    (∀ transcript result, suiteResult python transcript = .ok (some result) →
      ∃ start tests state finish,
        Decodes python (splitlines transcript)
          (.suite .started start :: (tests ++ [.suite state finish])) ∧
        (∀ event ∈ tests, IsTest event) ∧
        (result.failed = 0 ↔ state = .ok ∧ Dict.get finish "failed" = .int 0)) ∧
    (∀ transcript, ∀ line ∈ splitlines transcript, ∀ event,
      testEvent python line = .ok (some event) → ReportsFailure event →
      ((∃ raised, suiteResult python transcript = .error raised ∧
          ((∀ line ∈ splitlines transcript, python.loads line ≠ .error .recursion) →
            ∃ reason, raised = .value reason)) ∨
        ∃ result, suiteResult python transcript = .ok (some result) ∧ 1 ≤ result.failed) ∧
      ∀ content session command probe report,
        transcript = readText content → session.transcript = some content →
        session.process = .ok 0 → execute python session command probe false = .ok report →
        report.error ≠ none) ∧
    ∀ transcript transcript' start finish state tests tests',
      Decodes python (splitlines transcript)
        (.suite .started start :: (tests ++ [.suite state finish])) →
      Decodes python (splitlines transcript')
        (.suite .started start :: (tests' ++ [.suite state finish])) →
      (∀ event ∈ tests, IsTest event) → (∀ event ∈ tests', IsTest event) →
      ∀ result, suiteResult python transcript = .ok (some result) ↔
        suiteResult python transcript' = .ok (some result) := by
  refine ⟨fun transcript result => suiteResult_clean,
    fun transcript line member event tested failure => ⟨?_, ?_⟩,
    fun transcript transcript' start finish state tests tests' decodes decodes' isTest isTest'
      result => ?_⟩
  · rcases suiteResult_of_failure member tested failure with ⟨raised, refused⟩ | counted
    · exact .inl ⟨raised, refused, fun decodes => suiteResult_error decodes refused⟩
    · exact .inr counted
  · rintro content session command probe report rfl written ended returned
    exact error_of_failure member tested failure written ended returned
  · constructor
    · exact suiteResult_with_tests decodes decodes' isTest'
    · exact suiteResult_with_tests decodes' decodes isTest

def testFailed : Text := ofString "\x7b\"type\":\"test\",\"event\":\"failed\",\"name\":\"a\"\x7d"

def overruled : Python :=
  { oneSuite with
    loads := fun line =>
      if line = testFailed then
        .ok (.dict [(ofString "type", .str (ofString "test")),
          (ofString "event", .str (ofString "failed")), (ofString "name", .str (ofString "a"))])
      else oneSuite.loads line }

def overruledTranscript : Text :=
  suiteStart ++ [lineFeed] ++ testFailed ++ [lineFeed] ++ suitePassed ++ [lineFeed]

def overruledSession : Session where
  image := .ok []
  started := 0
  finished := 1
  process := .ok 0
  transcript := some (overruledTranscript.map fun point => UInt8.ofNat point.val)

theorem overruled_result : suiteResult overruled overruledTranscript = .ok (some ⟨1, 0, 0⟩) := by
  decide +kernel

theorem overruled_readText :
    readText (overruledTranscript.map fun point => UInt8.ofNat point.val) =
      overruledTranscript := by
  decide +kernel

/-- The completion says that the suite passed. -/
theorem failures_counted_overruled : ∃ start tests state finish,
    Decodes overruled (splitlines overruledTranscript)
      (.suite .started start :: (tests ++ [.suite state finish])) ∧ state = .ok := by
  obtain ⟨start, tests, state, finish, decodes, -, clean⟩ :=
    (failures_counted overruled).1 overruledTranscript ⟨1, 0, 0⟩ overruled_result
  exact ⟨start, tests, state, finish, decodes, (clean.mp rfl).1⟩

/-- The suite passes over the failure of its only test, and the run succeeds. -/
theorem failed_test_green :
    ¬(∀ python transcript result, suiteResult python transcript = .ok (some result) →
        result.failed = 0 → ∀ line ∈ splitlines transcript, ∀ name stdout,
          testEvent python line ≠ .ok (some (.test .failed name stdout))) ∧
      ∃ report, execute overruled overruledSession [] [] false = .ok report ∧
        report.error = none := by
  constructor
  · intro reconciled
    refine reconciled overruled overruledTranscript ⟨1, 0, 0⟩ overruled_result rfl testFailed ?_
      (ofString "a") none ?_
    · decide +kernel
    · have looking : jsonLooking testFailed = true := by decide
      have loaded : overruled.loads testFailed = .ok (.dict
          [(ofString "type", .str (ofString "test")), (ofString "event", .str (ofString "failed")),
            (ofString "name", .str (ofString "a"))]) := by simp [overruled]
      rw [testEvent, if_pos looking, loaded]
      rfl
  · have parsed := overruled_result
    rw [← overruled_readText] at parsed
    simp [execute, overruledSession, Ended.ofProcess, parseSuite, parsed, bind, Except.bind, pure,
      Except.pure, finalError]

end DirectLine.Host
