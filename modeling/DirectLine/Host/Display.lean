import DirectLine.Host.Runner
import DirectLine.Host.Stream
import Mathlib.Data.List.DropRight

/-!
# Live display

`display_line` of `hil.py` and the call of `stream_process` that uses it.  The
display reads the lines between line feeds, the validation those of
`str.splitlines`.
-/

namespace DirectLine.Host

open Text Interaction

section

variable (python : Python) (terminal : Terminal)

/-- The text of a value in an f-string. -/
def Json.format : Json → Text
  | .str text => text
  | value => python.repr value

def Json.isOne : Json → Bool
  | .bool value => value
  | .int value => value = 1
  | .float repr => repr = ofString "1.0"
  | _ => false

def Terminal.label : TestState → Text
  | .started => terminal.styled terminal.stdoutIsatty (ofString "RUN ") .cyan
  | .ok => terminal.styled terminal.stdoutIsatty (ofString "PASS") .green
  | .failed => terminal.styled terminal.stdoutIsatty (ofString "FAIL") .red
  | .ignored => terminal.styled terminal.stdoutIsatty (ofString "SKIP") .yellow

def Terminal.summary (state : SuiteState) (event : Dict) : Text :=
  let outcome :=
    if state = .ok then terminal.styled terminal.stdoutIsatty (ofString "Suite ok") .green
    else terminal.styled terminal.stdoutIsatty (ofString "Suite failed") .red
  outcome ++ ofString ": " ++ (event.get "passed").format python ++ ofString " passed, " ++
    (event.get "failed").format python ++ ofString " failed, " ++
    (event.get "ignored").format python ++ ofString " ignored"

/-- The `try` statement of `display_line`: a `ValueError` leaves no event. -/
def recognise (line : Text) : Except Raised (Option Event) :=
  match testEvent python line with
  | .error (.value _) => .ok none
  | outcome => outcome

def displayLine (listOnly : Bool) (line : Text) : Except Raised (List Text) :=
  match if listOnly then .ok none else recognise python line with
  | .error raised => .error raised
  | .ok none => .ok [line]
  | .ok (some (.test state name stdout)) =>
      .ok ((terminal.label state ++ ofString " " ++ name) ::
        (stdout.filter (fun text => !text.isEmpty)).toList)
  | .ok (some (.suite .started event)) =>
      let count := event.get "test_count"
      let noun := if count.isOne then ofString "test" else ofString "tests"
      .ok [terminal.styled terminal.stdoutIsatty
        (ofString "Running " ++ count.format python ++ ofString " " ++ noun) .cyan]
  | .ok (some (.suite state event)) => .ok [terminal.summary python state event]

/-- The arguments with which `execute` calls `stream_process`.  Printing may raise. -/
def executeCall (listOnly progress : Bool) (print : List Text → List Text → Option Raised)
    (relay : List Text → Text → Option Raised) : Call where
  progress := progress
  timeout := 180
  onLine lines line :=
    match displayLine python terminal listOnly line with
    | .error raised => some raised
    | .ok texts => print lines texts
  relay := relay

def displayed (lines : List Text) : List (Except Raised (Option Event)) :=
  (lines.filter jsonLooking).map (recognise python)

def examined (transcript : Bytes) : List (Except Raised (Option Event)) :=
  ((splitlines (readText transcript)).filter jsonLooking).map (recognise python)

end

/-- The part of a line, between line boundaries, that holds its first visible character. -/
def ownPart (line : Text) : Text :=
  (line.takeWhile isSpace).rtakeWhile (fun point => !isBoundary point) ++
    (lstrip line).takeWhile (fun point => !isBoundary point)

/-- Line boundaries inside the line make no difference: its own part is the event that the line
is, and no other part looks like one. -/
structure Undivided (python : Python) (line : Text) : Prop where
  own : jsonLooking line = true → recognise python (ownPart line) = recognise python line
  others : ∀ before boundary after, line = before ++ boundary :: after →
    isBoundary boundary = true → jsonLooking after = true →
      ∀ point ∈ before, isSpace point = true

end DirectLine.Host
