import DirectLine.Host.Events

/-!
# The grammar of a suite

`suite_result` recognises one language of event sequences, and refuses at the
first line that no further events could make part of it.
-/

namespace DirectLine.Host

open Text Interaction

/-- A suite start and test events, with the number of tests announced. -/
def Started (events : List Event) (count : Nat) : Prop :=
  ∃ start tests, events = .suite .started start :: tests ∧
    start.get "test_count" = .int count ∧ ∀ event ∈ tests, ∃ state name stdout,
      event = .test state name stdout

structure Completes (count : Nat) (state : SuiteState) (event : Dict) (result : SuiteResult) :
    Prop where
  finished : state ≠ .started
  passed : event.get "passed" = .int result.passed
  failed : event.get "failed" = .int result.failed
  ignored : event.get "ignored" = .int result.ignored
  total : result.passed + result.failed + result.ignored = count
  outcome : state = .ok ↔ result.failed = 0

def Complete (events : List Event) (result : SuiteResult) : Prop :=
  ∃ begun state finish count, events = begun ++ [.suite state finish] ∧ Started begun count ∧
    Completes count state finish result

/-- The JSON-looking lines decode to these events. -/
def Decodes (python : Python) (lines : List Text) (events : List Event) : Prop :=
  (lines.filter jsonLooking).map (testEvent python) = events.map fun event => .ok (some event)

/-- Further events could make the lines a complete suite. -/
def Viable (python : Python) (lines : List Text) : Prop :=
  ∃ events more result, Decodes python lines events ∧ Complete (events ++ more) result

theorem nonnegative_eq_some {value : Json} {count : Nat} :
    nonnegative value = some count ↔ value = .int count := by
  cases value with
  | int number =>
      simp only [nonnegative, Json.int.injEq]
      split
      · rename_i small
        rw [Option.some.injEq]
        omega
      · rename_i negative
        refine ⟨nofun, ?_⟩
        rintro rfl
        exact absurd (Int.natCast_nonneg count) negative
  | null | bool | float | str | list | dict => simp [nonnegative]

/-- The transitions of the two accumulators. -/
inductive Observes : Suite → Event → Suite → Prop where
  | started {event : Dict} {count : Nat} :
      event.get "test_count" = .int count →
      Observes ⟨none, none⟩ (.suite .started event) ⟨some count, none⟩
  | test {state : TestState} {name : Text} {stdout : Option Text} {count : Nat} :
      Observes ⟨some count, none⟩ (.test state name stdout) ⟨some count, none⟩
  | finished {state : SuiteState} {event : Dict} {count : Nat} {result : SuiteResult} :
      Completes count state event result →
      Observes ⟨some count, none⟩ (.suite state event) ⟨some count, some result⟩

theorem observe_counts {state : SuiteState} {event : Dict} {count passed failed ignored : Nat}
    (finished : state ≠ .started) (hasPassed : nonnegative (event.get "passed") = some passed)
    (hasFailed : nonnegative (event.get "failed") = some failed)
    (hasIgnored : nonnegative (event.get "ignored") = some ignored) :
    Suite.observe ⟨some count, none⟩ (.suite state event) =
      if passed + failed + ignored ≠ count then refuse "Suite counts do not match test_count"
      else if decide (state = .ok) != decide (failed = 0) then
        refuse "Suite outcome disagrees with its failure count"
      else .ok ⟨some count, some ⟨passed, failed, ignored⟩⟩ := by
  cases state with
  | started => exact absurd rfl finished
  | ok | failed => simp [Suite.observe, hasPassed, hasFailed, hasIgnored]

theorem observe_counted {state : SuiteState} {event : Dict} {suite : Suite} {count : Nat}
    (finished : state ≠ .started)
    (observed : Suite.observe ⟨some count, none⟩ (.suite state event) = .ok suite) :
    ∃ passed failed ignored, nonnegative (event.get "passed") = some passed ∧
      nonnegative (event.get "failed") = some failed ∧
      nonnegative (event.get "ignored") = some ignored := by
  cases hasPassed : nonnegative (event.get "passed") with
  | none => cases state <;> simp [Suite.observe, hasPassed, refuse] at observed finished
  | some passed =>
      cases hasFailed : nonnegative (event.get "failed") with
      | none =>
          cases state <;> simp [Suite.observe, hasPassed, hasFailed, refuse] at observed finished
      | some failed =>
          cases hasIgnored : nonnegative (event.get "ignored") with
          | none =>
              cases state <;>
                simp [Suite.observe, hasPassed, hasFailed, hasIgnored, refuse]
                  at observed finished
          | some ignored => exact ⟨passed, failed, ignored, rfl, rfl, rfl⟩

theorem observe_finish {state : SuiteState} {event : Dict} {suite : Suite} {count : Nat}
    (finished : state ≠ .started) :
    Suite.observe ⟨some count, none⟩ (.suite state event) = .ok suite ↔
      ∃ result, suite = ⟨some count, some result⟩ ∧ Completes count state event result := by
  constructor
  · intro observed
    obtain ⟨passed, failed, ignored, hasPassed, hasFailed, hasIgnored⟩ :=
      observe_counted finished observed
    rw [observe_counts finished hasPassed hasFailed hasIgnored] at observed
    split_ifs at observed with total agrees
    · cases observed
    · cases observed
    · cases observed
      refine ⟨_, rfl, finished, nonnegative_eq_some.mp hasPassed,
        nonnegative_eq_some.mp hasFailed, nonnegative_eq_some.mp hasIgnored, not_not.mp total, ?_⟩
      simpa using agrees
  · rintro ⟨result, rfl, completes⟩
    rw [observe_counts finished (nonnegative_eq_some.mpr completes.passed)
      (nonnegative_eq_some.mpr completes.failed) (nonnegative_eq_some.mpr completes.ignored)]
    simp [completes.total, completes.outcome]

theorem observe_iff {suite next : Suite} {event : Event} :
    suite.observe event = .ok next ↔ Observes suite event next := by
  constructor
  · intro observed
    obtain ⟨expected, result⟩ := suite
    cases result with
    | some result => cases observed
    | none =>
        cases event with
        | test state name stdout =>
            cases expected with
            | none => cases observed
            | some count =>
                cases observed
                exact .test
        | suite state event =>
            by_cases started : state = .started
            · subst started
              cases expected with
              | some count => cases observed
              | none =>
                  simp only [Suite.observe, Option.isSome_none, Bool.false_eq_true, if_false]
                    at observed
                  cases counted : nonnegative (event.get "test_count") with
                  | none =>
                      rw [counted] at observed
                      cases observed
                  | some count =>
                      rw [counted] at observed
                      cases observed
                      exact .started (nonnegative_eq_some.mp counted)
            · cases expected with
              | none =>
                  cases state with
                  | started => exact absurd rfl started
                  | ok | failed => cases observed
              | some count =>
                  obtain ⟨result, rfl, completes⟩ := (observe_finish started).mp observed
                  exact .finished completes
  · intro observes
    cases observes with
    | started counted => simp [Suite.observe, nonnegative_eq_some.mpr counted]
    | test => rfl
    | finished completes => exact (observe_finish completes.finished).mpr ⟨_, rfl, completes⟩

/-- After a suite start, only tests and one completion follow. -/
theorem trace_started {events : List Event} {count : Nat} {last : Suite} :
    Trace Observes ⟨some count, none⟩ events last ↔
      ((∀ event ∈ events, ∃ state name stdout, event = .test state name stdout) ∧
          last = ⟨some count, none⟩) ∨
        ∃ tests state finish result, events = tests ++ [.suite state finish] ∧
          (∀ event ∈ tests, ∃ state name stdout, event = .test state name stdout) ∧
          Completes count state finish result ∧ last = ⟨some count, some result⟩ := by
  induction events with
  | nil =>
      constructor
      · rintro ⟨⟩
        exact .inl ⟨by simp, rfl⟩
      · rintro (⟨-, rfl⟩ | ⟨tests, state, finish, result, split, -⟩)
        · exact .nil _
        · simp at split
  | cons event events inductionHypothesis =>
      constructor
      · rintro (_ | ⟨observes, rest⟩)
        cases observes with
        | @test state name stdout =>
            rcases inductionHypothesis.mp rest with ⟨tests, rfl⟩ |
              ⟨tests, state', finish, result, rfl, isTest, completes, rfl⟩
            · refine .inl ⟨?_, rfl⟩
              rintro event (_ | ⟨_, member⟩)
              · exact ⟨state, name, stdout, rfl⟩
              · exact tests event member
            · refine .inr ⟨.test state name stdout :: tests, state', finish, result, rfl, ?_,
                completes, rfl⟩
              rintro event (_ | ⟨_, member⟩)
              · exact ⟨state, name, stdout, rfl⟩
              · exact isTest event member
        | @finished state finish _ result completes =>
            cases rest with
            | nil => exact .inr ⟨[], state, finish, result, rfl, by simp, completes, rfl⟩
            | cons observes _ => cases observes
      · rintro (⟨tests, rfl⟩ | ⟨tests, state, finish, result, split, isTest, completes, rfl⟩)
        · obtain ⟨state, name, stdout, rfl⟩ := tests event (by simp)
          exact .cons .test (inductionHypothesis.mpr (.inl
            ⟨fun event member => tests event (List.mem_cons_of_mem _ member), rfl⟩))
        · cases tests with
          | nil =>
              obtain ⟨rfl, rfl⟩ := List.cons.inj split
              exact .cons (.finished completes) (.nil _)
          | cons first tests =>
              obtain ⟨rfl, rfl⟩ := List.cons.inj split
              obtain ⟨state', name, stdout, rfl⟩ := isTest event (by simp)
              exact .cons .test (inductionHypothesis.mpr (.inr ⟨tests, state, finish, result, rfl,
                fun event member => isTest event (List.mem_cons_of_mem _ member), completes,
                rfl⟩))

theorem trace_iff {events : List Event} {last : Suite} :
    Trace Observes ⟨none, none⟩ events last ↔
      (events = [] ∧ last = ⟨none, none⟩) ∨
        (∃ count, Started events count ∧ last = ⟨some count, none⟩) ∨
          ∃ begun state finish count result, events = begun ++ [.suite state finish] ∧
            Started begun count ∧ Completes count state finish result ∧
            last = ⟨some count, some result⟩ := by
  constructor
  · rintro (_ | ⟨observes, rest⟩)
    · exact .inl ⟨rfl, rfl⟩
    · cases observes with
      | @started start count counted =>
          rcases trace_started.mp rest with ⟨tests, rfl⟩ |
            ⟨tests, state, finish, result, rfl, isTest, completes, rfl⟩
          · exact .inr (.inl ⟨count, ⟨start, _, rfl, counted, tests⟩, rfl⟩)
          · exact .inr (.inr ⟨_, state, finish, count, result, rfl,
              ⟨start, tests, rfl, counted, isTest⟩, completes, rfl⟩)
  · rintro (⟨rfl, rfl⟩ | ⟨count, ⟨start, tests, rfl, counted, isTest⟩, rfl⟩ |
      ⟨_, state, finish, count, result, rfl, ⟨start, tests, rfl, counted, isTest⟩, completes, rfl⟩)
    · exact .nil _
    · exact .cons (.started counted) (trace_started.mpr (.inl ⟨isTest, rfl⟩))
    · exact .cons (.started counted) (trace_started.mpr
        (.inr ⟨tests, state, finish, result, rfl, isTest, completes, rfl⟩))

section Lines

variable {python : Python} {line : Text} {suite next last : Suite} {lines : List Text}

/-- A plain line is no event, and a JSON-looking one is never skipped. -/
theorem testEvent_eq_none : testEvent python line = .ok none ↔ jsonLooking line = false := by
  unfold testEvent
  cases looking : jsonLooking line with
  | false => simp
  | true =>
      cases loaded : python.loads line with
      | error error => cases error <;> simp
      | ok value =>
          cases value with
          | dict event =>
              cases valid : eventOfDict python event <;> simp [Except.map, valid]
          | null | bool | int | float | str | list => simp

theorem step_plain (plain : jsonLooking line = false) :
    suite.step python line = .ok suite := by
  rw [Suite.step, testEvent_eq_none.mpr plain]

theorem step_event (looking : jsonLooking line = true) :
    suite.step python line = .ok next ↔
      ∃ event, testEvent python line = .ok (some event) ∧ Observes suite event next := by
  rw [Suite.step]
  cases tested : testEvent python line with
  | error raised => simp
  | ok event =>
      cases event with
      | none => exact absurd (testEvent_eq_none.mp tested) (by simp [looking])
      | some event => simp [observe_iff]

theorem trace_lines :
    Trace (Takes (Suite.step python)) suite lines last ↔
      ∃ events, Decodes python lines events ∧ Trace Observes suite events last := by
  induction lines generalizing suite with
  | nil =>
      constructor
      · rintro ⟨⟩
        exact ⟨[], rfl, .nil _⟩
      · rintro ⟨events, decodes, trace⟩
        have none' : events = [] := by simpa [Decodes] using decodes
        subst none'
        cases trace
        exact .nil _
  | cons line lines inductionHypothesis =>
      cases looking : jsonLooking line with
      | false =>
          have same : ∀ events, Decodes python (line :: lines) events ↔
              Decodes python lines events := by simp [Decodes, looking]
          simp only [same, ← inductionHypothesis]
          constructor
          · rintro (_ | ⟨taken, rest⟩)
            cases taken.symm.trans (step_plain looking)
            exact rest
          · exact fun rest => .cons (step_plain looking) rest
      | true =>
          constructor
          · rintro (_ | ⟨taken, rest⟩)
            obtain ⟨event, tested, observes⟩ := (step_event looking).mp taken
            obtain ⟨events, decodes, trace⟩ := inductionHypothesis.mp rest
            refine ⟨event :: events, ?_, .cons observes trace⟩
            simpa [Decodes, looking, tested] using decodes
          · rintro ⟨events, decodes, trace⟩
            cases events with
            | nil => simp [Decodes, looking] at decodes
            | cons event events =>
                rw [Decodes, List.filter_cons_of_pos looking, List.map_cons, List.map_cons]
                  at decodes
                obtain ⟨tested, rest⟩ := List.cons.inj decodes
                cases trace with
                | cons observes trace =>
                    exact .cons ((step_event looking).mpr ⟨event, tested, observes⟩)
                      (inductionHypothesis.mpr ⟨events, rest, trace⟩)

def allPassed (count : Nat) : Dict :=
  [(ofString "passed", .int count), (ofString "failed", .int 0), (ofString "ignored", .int 0)]

theorem completes_allPassed (count : Nat) :
    Completes count .ok (allPassed count) ⟨count, 0, 0⟩ where
  finished := by decide
  passed := rfl
  failed := rfl
  ignored := rfl
  total := rfl
  outcome := by simp

/-- Whatever the accumulators have read can become a complete suite. -/
theorem extends_to_complete {events : List Event}
    (trace : Trace Observes ⟨none, none⟩ events last) :
    ∃ more result, Complete (events ++ more) result := by
  rcases trace_iff.mp trace with ⟨rfl, -⟩ | ⟨count, started, -⟩ |
    ⟨begun, state, finish, count, result, rfl, started, completes, -⟩
  · have started : Started [.suite .started [(ofString "test_count", .int 0)]] 0 :=
      ⟨_, [], rfl, rfl, by simp⟩
    exact ⟨[_, .suite .ok (allPassed 0)], _, [_], .ok, allPassed 0, 0, rfl, started,
      completes_allPassed 0⟩
  · exact ⟨_, _, events, .ok, allPassed count, count, rfl, started, completes_allPassed count⟩
  · exact ⟨[], result, begun, state, finish, count, List.append_nil _, started, completes⟩

theorem trace_of_complete {events : List Event} {result : SuiteResult}
    (complete : Complete events result) :
    ∃ count, Trace Observes ⟨none, none⟩ events ⟨some count, some result⟩ := by
  obtain ⟨begun, state, finish, count, rfl, started, completes⟩ := complete
  exact ⟨count, trace_iff.mpr (.inr (.inr ⟨begun, state, finish, count, result, rfl, started,
    completes, rfl⟩))⟩

/-- Lines are viable exactly when the loop reads them all. -/
theorem viable_iff :
    Viable python lines ↔ ∃ last, Trace (Takes (Suite.step python)) ⟨none, none⟩ lines last := by
  constructor
  · rintro ⟨events, more, result, decodes, complete⟩
    obtain ⟨count, trace⟩ := trace_of_complete complete
    obtain ⟨middle, earlier, -⟩ := Trace.append_iff.mp trace
    exact ⟨middle, trace_lines.mpr ⟨events, decodes, earlier⟩⟩
  · rintro ⟨last, trace⟩
    obtain ⟨events, decodes, trace⟩ := trace_lines.mp trace
    obtain ⟨more, result, complete⟩ := extends_to_complete trace
    exact ⟨events, more, result, decodes, complete⟩

end Lines

section Results

variable {python : Python} {transcript : Text}

theorem suiteResult_eq_ok {result : Option SuiteResult} :
    suiteResult python transcript = .ok result ↔
      ∃ events expected, Decodes python (splitlines transcript) events ∧
        Trace Observes ⟨none, none⟩ events ⟨expected, result⟩ := by
  unfold suiteResult
  cases scanned : scan (Suite.step python) 1 ⟨none, none⟩ (splitlines transcript) with
  | error error =>
      refine ⟨nofun, ?_⟩
      rintro ⟨events, expected, decodes, trace⟩
      cases scanned.symm.trans (scan_ok_iff.mpr (trace_lines.mpr ⟨events, decodes, trace⟩))
  | ok suite =>
      constructor
      · rintro ⟨⟩
        obtain ⟨events, decodes, trace⟩ := trace_lines.mp (scan_ok_iff.mp scanned)
        exact ⟨events, suite.expected, decodes, trace⟩
      · rintro ⟨events, expected, decodes, trace⟩
        cases scanned.symm.trans (scan_ok_iff.mpr (trace_lines.mpr ⟨events, decodes, trace⟩))
        rfl

theorem value_of_refused {Result : Type} {message : Text} {raised : Raised}
    (refused : (.error (.value message) : Except Raised Result) = .error raised) :
    ∃ reason, raised = .value reason :=
  ⟨message, (Except.error.inj refused).symm⟩

theorem observe_error {suite : Suite} {event : Event} {raised : Raised}
    (refused : suite.observe event = .error raised) : ∃ reason, raised = .value reason := by
  unfold Suite.observe refuse at refused
  repeat' split at refused
  all_goals first | exact value_of_refused refused | cases refused

theorem eventOfDict_error {event : Dict} {raised : Raised}
    (refused : eventOfDict python event = .error raised) : ∃ reason, raised = .value reason := by
  simp only [eventOfDict, unsupported] at refused
  split_ifs at refused <;> repeat' split at refused
  all_goals first | exact value_of_refused refused | cases refused

theorem testEvent_raised {line : Text} {raised : Raised}
    (refused : testEvent python line = .error raised) :
    (raised = .recursion ∧ python.loads line = .error .recursion) ∨
      ∃ reason, raised = .value reason := by
  rw [testEvent] at refused
  split_ifs at refused
  cases loaded : python.loads line with
  | error failure =>
      rw [loaded] at refused
      cases failure with
      | recursion =>
          cases refused
          exact .inl ⟨rfl, rfl⟩
      | decode | value =>
          cases refused
          exact .inr ⟨_, rfl⟩
  | ok value =>
      rw [loaded] at refused
      refine .inr ?_
      cases value with
      | dict event =>
          have mapped : (eventOfDict python event).map some = .error raised := refused
          cases valid : eventOfDict python event with
          | error failure =>
              rw [valid] at mapped
              cases mapped
              exact eventOfDict_error valid
          | ok event =>
              rw [valid] at mapped
              cases mapped
      | null | bool | int | float | str | list =>
          cases refused
          exact ⟨_, rfl⟩

theorem testEvent_recursion {line : Text} :
    testEvent python line = .error .recursion ↔
      jsonLooking line = true ∧ python.loads line = .error .recursion := by
  constructor
  · intro failed
    have looking : jsonLooking line = true := by
      refine eq_true_of_ne_false fun plain => ?_
      cases (testEvent_eq_none.mpr plain).symm.trans failed
    rcases testEvent_raised failed with ⟨-, nested⟩ | ⟨_, ⟨⟩⟩
    exact ⟨looking, nested⟩
  · rintro ⟨looking, nested⟩
    rw [testEvent, if_pos looking, nested]

theorem step_raised {suite : Suite} {line : Text} {raised : Raised}
    (failed : suite.step python line = .error raised) :
    (raised = .recursion ∧ testEvent python line = .error .recursion) ∨
      ∃ reason, raised = .value reason := by
  rw [Suite.step] at failed
  cases tested : testEvent python line with
  | ok event =>
      rw [tested] at failed
      cases event with
      | none => cases failed
      | some event => exact .inr (observe_error failed)
  | error error =>
      rw [tested] at failed
      cases failed
      rcases testEvent_raised tested with ⟨rfl, -⟩ | value
      · exact .inl ⟨rfl, rfl⟩
      · exact .inr value

theorem suiteResult_eq_some {result : SuiteResult} :
    suiteResult python transcript = .ok (some result) ↔
      ∃ events, Decodes python (splitlines transcript) events ∧ Complete events result := by
  rw [suiteResult_eq_ok]
  constructor
  · rintro ⟨events, expected, decodes, trace⟩
    rcases trace_iff.mp trace with ⟨-, ⟨⟩⟩ | ⟨_, -, ⟨⟩⟩ |
      ⟨begun, state, finish, count, _, rfl, started, completes, ⟨⟩⟩
    exact ⟨_, decodes, begun, state, finish, count, rfl, started, completes⟩
  · rintro ⟨events, decodes, complete⟩
    obtain ⟨count, trace⟩ := trace_of_complete complete
    exact ⟨events, some count, decodes, trace⟩

/-- A failure names the line at which the loop body failed. -/
theorem suiteResult_eq_error {raised : Raised} :
    suiteResult python transcript = .error raised ↔
      ∃ number failure, scan (Suite.step python) 1 ⟨none, none⟩ (splitlines transcript) =
        .error (number, failure) ∧ raised = failure.located number := by
  unfold suiteResult
  cases scan (Suite.step python) 1 ⟨none, none⟩ (splitlines transcript) with
  | ok suite => simp
  | error error =>
      obtain ⟨number, failure⟩ := error
      constructor
      · rintro ⟨⟩
        exact ⟨number, failure, rfl, rfl⟩
      · rintro ⟨_, _, ⟨⟩, rfl⟩
        rfl

theorem suiteResult_raised {raised : Raised}
    (refused : suiteResult python transcript = .error raised) :
    raised = .recursion ∨ ∃ reason, raised = .value reason := by
  obtain ⟨number, failure, scanned, rfl⟩ := suiteResult_eq_error.mp refused
  obtain ⟨earlier, line, later, suite, -, -, -, failed⟩ := scan_error_iff.mp scanned
  rcases step_raised failed with ⟨rfl, -⟩ | ⟨reason, rfl⟩
  · exact .inl rfl
  · exact .inr ⟨lineError number reason, rfl⟩

theorem suiteResult_recursion :
    suiteResult python transcript = .error .recursion ↔
      ∃ earlier line later, splitlines transcript = earlier ++ line :: later ∧
        Viable python earlier ∧ jsonLooking line = true ∧
        python.loads line = .error .recursion := by
  constructor
  · intro refused
    obtain ⟨number, failure, scanned, located⟩ := suiteResult_eq_error.mp refused
    obtain ⟨earlier, line, later, suite, split, -, trace, failed⟩ :=
      scan_error_iff.mp scanned
    rcases step_raised failed with ⟨rfl, nested⟩ | ⟨reason, rfl⟩
    · exact ⟨earlier, line, later, split, viable_iff.mpr ⟨suite, trace⟩,
        testEvent_recursion.mp nested⟩
    · cases located
  · rintro ⟨earlier, line, later, split, viable, looking, nested⟩
    obtain ⟨suite, trace⟩ := viable_iff.mp viable
    have failed : suite.step python line = .error .recursion := by
      rw [Suite.step, testEvent_recursion.mpr ⟨looking, nested⟩]
    exact suiteResult_eq_error.mpr ⟨_, .recursion, scan_error_iff.mpr
      ⟨earlier, line, later, suite, split, rfl, trace, failed⟩, rfl⟩

theorem suiteResult_eq_none : suiteResult python transcript = .ok none ↔
    ∃ events, Decodes python (splitlines transcript) events ∧
      (events = [] ∨ ∃ count, Started events count) := by
  rw [suiteResult_eq_ok]
  constructor
  · rintro ⟨events, expected, decodes, trace⟩
    rcases trace_iff.mp trace with ⟨rfl, -⟩ | ⟨count, started, -⟩ | ⟨_, _, _, _, _, -, -, -, ⟨⟩⟩
    · exact ⟨[], decodes, .inl rfl⟩
    · exact ⟨events, decodes, .inr ⟨count, started⟩⟩
  · rintro ⟨events, decodes, rfl | ⟨count, started⟩⟩
    · exact ⟨[], none, decodes, .nil _⟩
    · exact ⟨events, some count, decodes, trace_iff.mpr (.inr (.inl ⟨count, started, rfl⟩))⟩

theorem not_viable_concat {earlier : List Text} {line : Text} {middle : Suite} {raised : Raised}
    (trace : Trace (Takes (Suite.step python)) ⟨none, none⟩ earlier middle)
    (refused : middle.step python line = .error raised) : ¬Viable python (earlier ++ [line]) := by
  intro viable
  obtain ⟨last, whole⟩ := viable_iff.mp viable
  obtain ⟨middle', start, final⟩ := Trace.append_iff.mp whole
  have same : scan (Suite.step python) 1 ⟨none, none⟩ earlier = .ok middle := scan_ok_iff.mpr trace
  cases same.symm.trans (scan_ok_iff.mpr start)
  cases final with
  | cons taken _ => cases refused.symm.trans taken

/-- No JSON-looking line overflows the stack of the decoder. -/
def Shallow (python : Python) (transcript : Text) : Prop :=
  ∀ line ∈ splitlines transcript, jsonLooking line = true → python.loads line ≠ .error .recursion

theorem Shallow.step_error (shallow : Shallow python transcript) {line : Text} {suite : Suite}
    {raised : Raised} (member : line ∈ splitlines transcript)
    (refused : suite.step python line = .error raised) : ∃ reason, raised = .value reason := by
  rcases step_raised refused with ⟨-, nested⟩ | value
  · obtain ⟨looking, nested⟩ := testEvent_recursion.mp nested
    exact absurd nested (shallow line member looking)
  · exact value

theorem Shallow.error_of_filter (shallow : Shallow python transcript) {other : Text}
    {raised : Raised}
    (same : (splitlines other).filter jsonLooking = (splitlines transcript).filter jsonLooking)
    (failed : suiteResult python transcript = .error raised) : ∃ number number' reason,
      raised = .value (lineError number reason) ∧
      suiteResult python other = .error (.value (lineError number' reason)) := by
  obtain ⟨number, failure, scanned, rfl⟩ := suiteResult_eq_error.mp failed
  obtain ⟨earlier, line, later, _, split, -, -, refused⟩ := scan_error_iff.mp scanned
  have member : line ∈ splitlines transcript := by simp [split]
  obtain ⟨reason, rfl⟩ := shallow.step_error member refused
  have skips : ∀ suite line, jsonLooking line = false →
      Suite.step python suite line = .ok suite := fun _ _ => step_plain
  have filtered := (scan_filter_error skips 1 1).mp ⟨number, scanned⟩
  rw [← same] at filtered
  obtain ⟨number', scanned'⟩ := (scan_filter_error skips 1 1).mpr filtered
  exact ⟨number, number', reason, rfl,
    suiteResult_eq_error.mpr ⟨number', .value reason, scanned', rfl⟩⟩

end Results

/-- `suite_result` accepts exactly its grammar: a complete suite gives its counts, a suite that
has not completed gives nothing, and anything else is refused at the first line that no further
events could make part of a suite.  Plain lines only shift the number of that line. -/
theorem suiteResult_recognises (python : Python) (transcript : Text) :
    (∀ result, suiteResult python transcript = .ok (some result) ↔
      ∃ events, Decodes python (splitlines transcript) events ∧ Complete events result) ∧
    (suiteResult python transcript = .ok none ↔
      ∃ events, Decodes python (splitlines transcript) events ∧
        (events = [] ∨ ∃ count, Started events count)) ∧
    (Shallow python transcript → ∀ raised, suiteResult python transcript = .error raised →
      ∃ number reason, raised = .value (lineError number reason) ∧ 0 < number ∧
        number ≤ (splitlines transcript).length ∧
        Viable python ((splitlines transcript).take (number - 1)) ∧
        ¬Viable python ((splitlines transcript).take number)) ∧
    (∀ other, (splitlines other).filter jsonLooking = (splitlines transcript).filter jsonLooking →
      (∀ result, suiteResult python other = .ok result ↔
        suiteResult python transcript = .ok result) ∧
      (Shallow python transcript → ∀ raised, suiteResult python transcript = .error raised →
        ∃ number number' reason, raised = .value (lineError number reason) ∧
          suiteResult python other = .error (.value (lineError number' reason)))) := by
  refine ⟨fun result => suiteResult_eq_some, suiteResult_eq_none, fun shallow raised failed => ?_,
    fun other same => ⟨fun result => ?_, fun shallow raised failed => ?_⟩⟩
  · obtain ⟨number, failure, scanned, rfl⟩ := suiteResult_eq_error.mp failed
    obtain ⟨earlier, line, later, middle, split, rfl, trace, refused⟩ :=
      scan_error_iff.mp scanned
    have member : line ∈ splitlines transcript := by simp [split]
    obtain ⟨reason, rfl⟩ := shallow.step_error member refused
    have extended : earlier ++ line :: later = (earlier ++ [line]) ++ later := by simp
    refine ⟨1 + earlier.length, reason, rfl, by omega, ?_, ?_, ?_⟩
    · simp only [split, List.length_append, List.length_cons]
      omega
    · rw [split, Nat.add_sub_cancel_left, List.take_left]
      exact viable_iff.mpr ⟨middle, trace⟩
    · rw [split, extended, List.take_left' (by simp [Nat.add_comm])]
      exact not_viable_concat trace refused
  · simp only [suiteResult_eq_ok, Decodes, same]
  · exact shallow.error_of_filter same failed

def suiteStart : Text :=
  ofString "\x7b\"type\":\"suite\",\"event\":\"started\",\"test_count\":1\x7d"

def testPassed : Text := ofString "\x7b\"type\":\"test\",\"event\":\"ok\",\"name\":\"a\"\x7d"

def suitePassed : Text :=
  ofString "\x7b\"type\":\"suite\",\"event\":\"ok\",\"passed\":1,\"failed\":0,\"ignored\":0\x7d"

def oneSuite : Python where
  loads line :=
    if line = suiteStart then
      .ok (.dict [(ofString "type", .str (ofString "suite")),
        (ofString "event", .str (ofString "started")), (ofString "test_count", .int 1)])
    else if line = testPassed then
      .ok (.dict [(ofString "type", .str (ofString "test")),
        (ofString "event", .str (ofString "ok")), (ofString "name", .str (ofString "a"))])
    else if line = suitePassed then
      .ok (.dict [(ofString "type", .str (ofString "suite")),
        (ofString "event", .str (ofString "ok")), (ofString "passed", .int 1),
        (ofString "failed", .int 0), (ofString "ignored", .int 0)])
    else .error (.decode (ofString "Expecting value"))
  repr _ := ofString "None"
  isalnum _ := true
  sha256 _ := []

theorem oneSuite_decodes (line : Text) : oneSuite.loads line ≠ .error .recursion := by
  unfold oneSuite
  dsimp only
  split_ifs <;> nofun

def passingTranscript : Text :=
  suiteStart ++ [lineFeed] ++ ofString "note" ++ [lineFeed] ++ testPassed ++ [lineFeed] ++
    suitePassed ++ [lineFeed]

/-- A passing suite, and one that starts again after it has passed. -/
theorem suiteResult_recognises_passing :
    (∃ events, Decodes oneSuite (splitlines passingTranscript) events ∧
      Complete events ⟨1, 0, 0⟩) ∧
    ∃ number, number ≤ 5 ∧
      ¬Viable oneSuite ((splitlines (passingTranscript ++ suiteStart)).take number) := by
  constructor
  · exact ((suiteResult_recognises oneSuite passingTranscript).1 ⟨1, 0, 0⟩).mp (by decide +kernel)
  · obtain ⟨-, -, refused, -⟩ := suiteResult_recognises oneSuite (passingTranscript ++ suiteStart)
    have failed : suiteResult oneSuite (passingTranscript ++ suiteStart) =
        .error (.value (lineError 5 (ofString "Test event after suite completion"))) := by
      decide +kernel
    obtain ⟨number, -, -, -, bounded, -, beyond⟩ :=
      refused (fun line _ _ => oneSuite_decodes line) _ failed
    have five : (splitlines (passingTranscript ++ suiteStart)).length = 5 := by decide +kernel
    exact ⟨number, five ▸ bounded, beyond⟩

end DirectLine.Host
