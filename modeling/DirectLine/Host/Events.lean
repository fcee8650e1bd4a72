import DirectLine.Host.Python
import DirectLine.Interaction.Scan
import DirectLine.Text.Lines

/-!
# Test events

`test_event` and `suite_result` of `hil.py`.
-/

namespace DirectLine.Host

open Text

inductive SuiteState where
  | started | ok | failed
  deriving DecidableEq, Repr

inductive TestState where
  | started | ok | failed | ignored
  deriving DecidableEq, Repr

/-- An event that passed `test_event`.  The remaining entries of a suite event are read later. -/
inductive Event where
  | suite (state : SuiteState) (event : Dict)
  | test (state : TestState) (name : Text) (stdout : Option Text)

def SuiteState.ofJson (state : Json) : Option SuiteState :=
  if state.isStr "started" then some .started
  else if state.isStr "ok" then some .ok
  else if state.isStr "failed" then some .failed
  else none

def TestState.ofJson (state : Json) : Option TestState :=
  if state.isStr "started" then some .started
  else if state.isStr "ok" then some .ok
  else if state.isStr "failed" then some .failed
  else if state.isStr "ignored" then some .ignored
  else none

/-- JSON-looking stdout is reserved for test events. -/
def jsonLooking (line : Text) : Bool :=
  match lstrip line with
  | [] => false
  | point :: _ => point = CodePoint.ofChar '\x7b' || point = CodePoint.ofChar '['

section

variable (python : Python)

def unsupported (kind state : Json) : Raised :=
  .value (ofString "Unsupported test event: type=" ++ python.repr kind ++ ofString ", event=" ++
    python.repr state)

/-- The part of `test_event` after decoding. -/
def eventOfDict (event : Dict) : Except Raised Event :=
  let kind := event.get "type"
  let state := event.get "event"
  if kind.isStr "suite" then
    match SuiteState.ofJson state with
    | some state => .ok (.suite state event)
    | none => .error (unsupported python kind state)
  else if kind.isStr "test" then
    match TestState.ofJson state with
    | some state =>
        match event.get "name" with
        | .str name =>
            if event.has "stdout" then
              match event.get "stdout" with
              | .str stdout => .ok (.test state name (some stdout))
              | _ => .error (.value (ofString "Test failure output must be a string"))
            else .ok (.test state name none)
        | _ => .error (.value (ofString "Test event is missing its name"))
    | none => .error (unsupported python kind state)
  else .error (unsupported python kind state)

def testEvent (line : Text) : Except Raised (Option Event) :=
  if jsonLooking line then
    match python.loads line with
    | .error (.decode msg) => .error (.value (ofString "Malformed test event: " ++ msg))
    | .error (.value message) => .error (.value message)
    | .error .recursion => .error .recursion
    | .ok (.dict event) => (eventOfDict python event).map some
    | .ok _ => .error (.value (ofString "Test event must be a JSON object"))
  else .ok none

end

structure SuiteResult where
  passed : Nat
  failed : Nat
  ignored : Nat
  deriving DecidableEq, Repr

/-- `type(count) is int and count >= 0`, which excludes booleans. -/
def nonnegative : Json → Option Nat
  | .int count => if 0 ≤ count then some count.toNat else none
  | _ => none

structure Suite where
  expected : Option Nat
  result : Option SuiteResult
  deriving DecidableEq

def refuse {Result : Type} (message : String) : Except Raised Result :=
  .error (.value (ofString message))

/-- The loop body of `suite_result` for an event. -/
def Suite.observe (suite : Suite) (event : Event) : Except Raised Suite :=
  if suite.result.isSome then refuse "Test event after suite completion"
  else
    match event with
    | .test _ _ _ =>
        if suite.expected.isNone then refuse "Test event before suite start" else .ok suite
    | .suite .started event =>
        if suite.expected.isSome then refuse "Repeated suite start"
        else
          match nonnegative (event.get "test_count") with
          | none => refuse "Suite test_count must be a nonnegative integer"
          | some count => .ok { suite with expected := some count }
    | .suite state event =>
        match suite.expected with
        | none => refuse "Suite completion without a start"
        | some expected =>
            match nonnegative (event.get "passed"), nonnegative (event.get "failed"),
              nonnegative (event.get "ignored") with
            | some passed, some failed, some ignored =>
                if passed + failed + ignored ≠ expected then
                  refuse "Suite counts do not match test_count"
                else if decide (state = .ok) != decide (failed = 0) then
                  refuse "Suite outcome disagrees with its failure count"
                else .ok { suite with result := some ⟨passed, failed, ignored⟩ }
            | _, _, _ => refuse "Suite counts must be nonnegative integers"

def lineError (number : Nat) (reason : Text) : Text :=
  ofString "stdout line " ++ decimal number ++ ofString ": " ++ reason

/-- Only a `ValueError` is raised again with the line's number. -/
def Raised.located (number : Nat) : Raised → Raised
  | .value reason => .value (lineError number reason)
  | raised => raised

section

variable (python : Python)

/-- The loop body of `suite_result`. -/
def Suite.step (suite : Suite) (line : Text) : Except Raised Suite :=
  match testEvent python line with
  | .error raised => .error raised
  | .ok none => .ok suite
  | .ok (some event) => suite.observe event

def suiteResult (transcript : Text) : Except Raised (Option SuiteResult) :=
  match Interaction.scan (Suite.step python) 1 ⟨none, none⟩ (splitlines transcript) with
  | .ok suite => .ok suite.result
  | .error (number, raised) => .error (raised.located number)

end

end DirectLine.Host
