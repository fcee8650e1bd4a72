import DirectLine.Host.Runner

/-!
# No false green

The exit status of the runner is zero only for a process that ended with status
zero and, unless tests are only listed, a complete suite that passed.
-/

namespace DirectLine.Host

open Text

/-- The transcript is a complete suite with these counts. -/
def Reports (python : Python) (transcript : Option Bytes) (result : SuiteResult) : Prop :=
  ∃ content events, transcript = some content ∧
    Decodes python (splitlines (readText content)) events ∧ Complete events result

section

variable {python : Python} {session : Session} {command : List Text} {probe : Text}
variable {listOnly : Bool} {report : Report} {suite : Option SuiteResult}
variable {error error' : Option Text}

theorem execute_returned (returned : execute python session command probe listOnly = .ok report) :
    ∃ ended error, Ended.ofProcess session.process = .ok ended ∧
      parseSuite python listOnly session.transcript ended.error = .ok (report.suite, error) ∧
      report.exitCode = ended.exitCode ∧
      report.error = match error with
        | none => finalError listOnly ended.exitCode report.suite
        | some error => some error := by
  unfold execute at returned
  cases image : session.image with
  | error raised =>
      rw [image] at returned
      cases returned
  | ok content =>
      cases ended : Ended.ofProcess session.process with
      | error raised =>
          rw [image, ended] at returned
          cases returned
      | ok ended' =>
          cases parsed : parseSuite python listOnly session.transcript ended'.error with
          | error raised =>
              rw [image, ended] at returned
              simp only [bind, Except.bind, parsed] at returned
              cases returned
          | ok parsed' =>
              rw [image, ended] at returned
              simp only [bind, Except.bind, parsed] at returned
              cases returned
              exact ⟨ended', parsed'.2, rfl, parsed, rfl, rfl⟩

/-- An outcome without an error is a process that ended by itself. -/
theorem ended_error_none {ended : Ended} (handled : Ended.ofProcess session.process = .ok ended)
    (silent : ended.error = none) :
    ∃ status, session.process = .ok status ∧ ended.exitCode = some status := by
  cases outcome : session.process with
  | ok status =>
      rw [outcome] at handled
      cases handled
      exact ⟨status, rfl, rfl⟩
  | error raised =>
      rw [outcome] at handled
      cases raised <;> cases handled <;> cases silent

theorem ended_of_status {ended : Ended} {status : Int} (outcome : session.process = .ok status)
    (handled : Ended.ofProcess session.process = .ok ended) :
    ended.error = none ∧ ended.exitCode = some status := by
  rw [outcome] at handled
  cases handled
  exact ⟨rfl, rfl⟩

theorem parseSuite_run
    (parsed : parseSuite python false session.transcript error = .ok (suite, error')) :
    (∀ result, suite = some result ↔ Reports python session.transcript result) ∧
      (error' = none → error = none) ∧ (suite ≠ none → error' = error) := by
  unfold Reports
  cases transcript : session.transcript with
  | none =>
      rw [transcript] at parsed
      cases parsed
      simp
  | some content =>
      rw [transcript] at parsed
      simp only [parseSuite] at parsed
      have reports : ∀ result, suiteResult python (readText content) = .ok (some result) ↔
          ∃ content' events, some content = some content' ∧
            Decodes python (splitlines (readText content')) events ∧ Complete events result := by
        intro result
        rw [suiteResult_eq_some]
        simp
      cases result : suiteResult python (readText content) with
      | ok suite' =>
          rw [result] at parsed
          cases parsed
          refine ⟨fun counts => ?_, id, fun _ => rfl⟩
          rw [← reports counts, result, Except.ok.injEq]
      | error raised =>
          rw [result] at parsed
          cases raised with
          | value failure =>
              cases parsed
              refine ⟨fun counts => ?_, nofun, nofun⟩
              rw [← reports counts, result]
              exact ⟨nofun, nofun⟩
          | recursion | timeoutExpired | keyboardInterrupt | os | runtime => cases parsed

/-- The last conditionals stay silent for a passing suite with status zero and for a failed suite
with status one. -/
theorem finalError_run {status : Int} :
    finalError false (some status) suite = none ↔
      ∃ result, suite = some result ∧
        ((status = 0 ∧ result.failed = 0 ∧ 1 ≤ result.passed) ∨
          (status = 1 ∧ 1 ≤ result.failed)) := by
  unfold finalError
  cases suite with
  | none => by_cases clean : status = 0 <;> simp [clean]
  | some result =>
      by_cases failed : result.failed = 0
      · by_cases clean : status = 0 <;> simp [failed, clean, Nat.one_le_iff_ne_zero]
      · by_cases one : status = 1
        · simp [failed, one, Nat.one_le_iff_ne_zero]
        · by_cases clean : status = 0 <;> simp [failed, one, clean]

theorem finalError_list {status : Int} :
    finalError true (some status) none = none ↔ status = 0 := by
  unfold finalError
  by_cases clean : status = 0 <;> simp [clean]

theorem error_none_run (returned : execute python session command probe false = .ok report) :
    report.error = none ↔ ∃ result, Reports python session.transcript result ∧
      ((session.process = .ok 0 ∧ result.failed = 0 ∧ 1 ≤ result.passed) ∨
        (session.process = .ok 1 ∧ 1 ≤ result.failed)) := by
  obtain ⟨ended, error, handled, parsed, -, final⟩ := execute_returned returned
  obtain ⟨reports, silent, kept⟩ := parseSuite_run parsed
  rw [final]
  constructor
  · intro none'
    cases error with
    | some error => cases none'
    | none =>
        obtain ⟨status, outcome, exitCode⟩ := ended_error_none handled (silent rfl)
        simp only [exitCode] at none'
        obtain ⟨result, found, verdict⟩ := finalError_run.mp none'
        rw [outcome, Except.ok.injEq, Except.ok.injEq]
        exact ⟨result, (reports result).mp found, verdict⟩
  · rintro ⟨result, reported, verdict⟩
    have found := (reports result).mpr reported
    have quiet : error = none := by
      rw [kept (by simp [found])]
      rcases verdict with ⟨outcome, -⟩ | ⟨outcome, -⟩
      · exact (ended_of_status outcome handled).1
      · exact (ended_of_status outcome handled).1
    rw [quiet]
    rcases verdict with ⟨outcome, counts⟩ | ⟨outcome, counts⟩
    · simp only [(ended_of_status outcome handled).2]
      exact finalError_run.mpr ⟨result, found, .inl ⟨rfl, counts⟩⟩
    · simp only [(ended_of_status outcome handled).2]
      exact finalError_run.mpr ⟨result, found, .inr ⟨rfl, counts⟩⟩

theorem suite_eq_some (returned : execute python session command probe false = .ok report)
    (result : SuiteResult) :
    report.suite = some result ↔ Reports python session.transcript result := by
  obtain ⟨ended, error, -, parsed, -⟩ := execute_returned returned
  exact (parseSuite_run parsed).1 result

theorem error_of_incomplete (returned : execute python session command probe false = .ok report)
    (incomplete : ∀ result, ¬Reports python session.transcript result) :
    report.suite = none ∧ report.error ≠ none := by
  constructor
  · refine Option.eq_none_iff_forall_ne_some.mpr fun result found => ?_
    exact incomplete result ((suite_eq_some returned result).mp found)
  · intro silent
    obtain ⟨result, reported, -⟩ := (error_none_run returned).mp silent
    exact incomplete result reported

/-- A listing has no suite, and no error exactly when the process ended with status zero. -/
theorem error_none_list (returned : execute python session command probe true = .ok report) :
    report.suite = none ∧ (report.error = none ↔ session.process = .ok 0) := by
  obtain ⟨ended, error, handled, parsed, -, final⟩ := execute_returned returned
  have listed : (.ok (none, ended.error) : Except Raised (Option SuiteResult × Option Text)) =
      .ok (report.suite, error) := parsed
  obtain ⟨noSuite, rfl⟩ := Prod.mk.inj (Except.ok.inj listed)
  rw [final, ← noSuite]
  refine ⟨rfl, ?_⟩
  constructor
  · intro none'
    cases quiet : ended.error with
    | some error =>
        rw [quiet] at none'
        cases none'
    | none =>
        obtain ⟨status, outcome, exitCode⟩ := ended_error_none handled quiet
        rw [quiet] at none'
        simp only [exitCode] at none'
        rw [outcome, finalError_list.mp none']
  · intro outcome
    obtain ⟨quiet, exitCode⟩ := ended_of_status outcome handled
    rw [quiet]
    simp only [exitCode]
    exact finalError_list.mpr rfl

theorem exit_eq_zero {terminal : Terminal} :
    exitStatus (.ok (report.exit terminal)) = 0 ↔
      report.error = none ∧ ∀ result, report.suite = some result → result.failed = 0 := by
  unfold Report.exit
  cases report.error with
  | some error => simp [exitStatus]
  | none =>
      cases suite : report.suite with
      | none => simp [exitStatus]
      | some result => by_cases failed : result.failed = 0 <;> simp [exitStatus, failed]

theorem launch_exit {args : Arguments} {found : Surroundings} {executable image target : Text}
    {exit : Exit} (early : launch args found executable image target = .ok (.inl exit)) :
    exit = usageError := by
  unfold launch at early
  cases directory : found.directory args.outputDir with
  | none =>
      rw [directory] at early
      cases early
      rfl
  | some path =>
      rw [directory] at early
      simp only [bind, Except.bind, pure, Except.pure] at early
      split at early
      · cases early
      · split at early
        · cases early
        · split at early <;> cases early

theorem prepare_exit {args : Arguments} {found : Surroundings} {exit : Exit}
    (early : prepare python args found = .ok (.inl exit)) : exit = usageError := by
  unfold prepare at early
  split_ifs at early
  · cases early
    rfl
  · cases early
    rfl
  · cases early
    rfl
  · split at early
    · cases early
      rfl
    · split at early
      · exact launch_exit early
      · cases early

/-- Every exit before the report is written has a nonzero status. -/
theorem main_eq_zero {args : Arguments} {found : Surroundings} :
    exitStatus (main python args found) = 0 ↔
      ∃ command report, prepare python args found = .ok (.inr command) ∧
        execute python found.session command args.probe args.list = .ok report ∧
        found.written = .ok () ∧ exitStatus (.ok (report.exit found.terminal)) = 0 := by
  have uncaught : ∀ raised, exitStatus (.error raised) ≠ 0 := by
    intro raised
    cases raised <;> simp [exitStatus]
  unfold main
  cases prepared : prepare python args found with
  | error raised => simpa [bind, Except.bind] using uncaught raised
  | ok next =>
      cases next with
      | inl exit =>
          obtain rfl := prepare_exit prepared
          simp [bind, Except.bind, pure, Except.pure, exitStatus, usageError]
      | inr command =>
          cases executed : execute python found.session command args.probe args.list with
          | error raised => simpa [bind, Except.bind, executed] using uncaught raised
          | ok report =>
              cases written : found.written with
              | error raised =>
                  simpa [bind, Except.bind, executed, written] using uncaught raised
              | ok done => simp [bind, Except.bind, pure, Except.pure, executed]

end

/-- No false green.  The runner exits with status zero for a run only after the process ended with
status zero and the transcript is a complete suite with at least one test passed and none failed;
the report has no error then and for a failed suite with process status one, and always has one when
the transcript is no complete suite.  A listing succeeds when its process does. -/
theorem no_false_green (python : Python) :
    (∀ session command probe report terminal,
      execute python session command probe false = .ok report →
      (exitStatus (.ok (report.exit terminal)) = 0 ↔ session.process = .ok 0 ∧
        ∃ result, Reports python session.transcript result ∧ result.failed = 0 ∧
          1 ≤ result.passed) ∧
      (report.error = none ↔
        (session.process = .ok 0 ∧ ∃ result, Reports python session.transcript result ∧
          result.failed = 0 ∧ 1 ≤ result.passed) ∨
        (session.process = .ok 1 ∧ ∃ result, Reports python session.transcript result ∧
          1 ≤ result.failed)) ∧
      (session.process = .ok 1 → (∃ result, Reports python session.transcript result ∧
        1 ≤ result.failed) → exitStatus (.ok (report.exit terminal)) = 1) ∧
      ((∀ result, ¬Reports python session.transcript result) →
        report.suite = none ∧ report.error ≠ none)) ∧
    (∀ session command probe report terminal,
      execute python session command probe true = .ok report →
      (exitStatus (.ok (report.exit terminal)) = 0 ↔ session.process = .ok 0)) ∧
    (∀ args found, exitStatus (main python args found) = 0 ↔
      ∃ command report, prepare python args found = .ok (.inr command) ∧
        execute python found.session command args.probe args.list = .ok report ∧
        found.written = .ok () ∧ exitStatus (.ok (report.exit found.terminal)) = 0) := by
  refine ⟨?_, ?_, fun _ _ => main_eq_zero⟩
  · intro session command probe report terminal returned
    have reports := suite_eq_some returned
    have verdict := error_none_run returned
    refine ⟨?_, ?_, ?_, error_of_incomplete returned⟩
    · rw [exit_eq_zero, verdict]
      constructor
      · rintro ⟨⟨result, reported, ⟨outcome, counts⟩ | ⟨-, failed⟩⟩, noFailure⟩
        · exact ⟨outcome, result, reported, counts⟩
        · have clean := noFailure result ((reports result).mpr reported)
          omega
      · rintro ⟨outcome, result, reported, clean, passed⟩
        refine ⟨⟨result, reported, .inl ⟨outcome, clean, passed⟩⟩, fun other found => ?_⟩
        cases found.symm.trans ((reports result).mpr reported)
        exact clean
    · rw [verdict]
      constructor
      · rintro ⟨result, reported, ⟨outcome, counts⟩ | ⟨outcome, failed⟩⟩
        · exact .inl ⟨outcome, result, reported, counts⟩
        · exact .inr ⟨outcome, result, reported, failed⟩
      · rintro (⟨outcome, result, reported, counts⟩ | ⟨outcome, result, reported, failed⟩)
        · exact ⟨result, reported, .inl ⟨outcome, counts⟩⟩
        · exact ⟨result, reported, .inr ⟨outcome, failed⟩⟩
    · rintro outcome ⟨result, reported, failed⟩
      have silent := verdict.mpr ⟨result, reported, .inr ⟨outcome, failed⟩⟩
      have found := (reports result).mpr reported
      have nonzero : result.failed ≠ 0 := by omega
      simp [Report.exit, silent, found, nonzero, exitStatus]
  · intro session command probe report terminal returned
    obtain ⟨noSuite, verdict⟩ := error_none_list returned
    rw [exit_eq_zero, verdict, noSuite]
    simp

def passingSession : Session where
  image := .ok []
  started := 0
  finished := 1
  process := .ok 0
  transcript := some (passingTranscript.map fun point => UInt8.ofNat point.val)

theorem no_false_green_passing : ∃ report,
    execute oneSuite passingSession [] [] false = .ok report ∧
      exitStatus (.ok (report.exit ⟨false, false, false, false⟩)) = 0 := by
  have parsed : suiteResult oneSuite (readText (passingTranscript.map fun point =>
      UInt8.ofNat point.val)) = .ok (some ⟨1, 0, 0⟩) := by decide +kernel
  obtain ⟨events, decodes, complete⟩ := suiteResult_eq_some.mp parsed
  have returned : ∃ report, execute oneSuite passingSession [] [] false = .ok report := by
    simp [execute, passingSession, Ended.ofProcess, parseSuite, parsed, bind, Except.bind, pure,
      Except.pure]
  obtain ⟨report, executed⟩ := returned
  refine ⟨report, executed, ?_⟩
  exact ((no_false_green oneSuite).1 passingSession [] [] report ⟨false, false, false, false⟩
    executed).1.mpr ⟨rfl, ⟨1, 0, 0⟩, ⟨_, events, rfl, decodes, complete⟩, rfl, Nat.le_refl 1⟩

end DirectLine.Host
