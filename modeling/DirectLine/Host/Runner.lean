import DirectLine.Host.Grammar

/-!
# The hardware runner

`command_line`, `execute` and `main` of `hil.py`.  What they find outside (the
process, the files, the environment) is given to them as data.
-/

namespace DirectLine.Host

open Text

/-- A standard stream and the environment that `styled` consults. -/
structure Terminal where
  stdoutIsatty : Bool
  stderrIsatty : Bool
  noColor : Bool
  dumb : Bool

inductive Color where
  | red | green | yellow | cyan | dim
  deriving DecidableEq, Repr

def Color.style : Color → String
  | .red => "1;31"
  | .green => "1;32"
  | .yellow => "1;33"
  | .cyan => "1;36"
  | .dim => "2"

/-- `styled`, for a stream that is a terminal or not. -/
def Terminal.styled (terminal : Terminal) (isatty : Bool) (text : Text) (color : Color) : Text :=
  if !isatty || terminal.noColor || terminal.dumb then text
  else
    ofString "\x1b[" ++ ofString color.style ++ ofString "m" ++ text ++ ofString "\x1b[0m"

structure Arguments where
  probe : Text
  outputDir : Option Text
  filter : List Text
  list : Bool
  ignored : Bool
  forceFlash : Bool

def commandLine (executable image target : Text) (args : Arguments) (targetOutput : Text)
    (progress : Bool) : Except Raised (List Text) :=
  if 1 < args.filter.length then .error (.value (ofString "Specify at most one --filter"))
  else
    .ok ([executable, ofString "run", ofString "--probe", ofString "0451:bef3-5:" ++ args.probe,
        ofString "--chip-description-path", target, ofString "--chip", ofString "CC1354P10",
        ofString "--protocol", ofString "jtag", ofString "--speed", ofString "1000",
        ofString "--non-interactive", ofString "--verify", ofString "--restore-unwritten",
        ofString "--format", ofString "json", ofString "--target-output-file", targetOutput] ++
      (if progress then [] else [ofString "--disable-progressbars"]) ++
      (if args.forceFlash then [] else [ofString "--preverify"]) ++
      (if args.list then [ofString "--list"] else []) ++
      (if args.ignored then [ofString "--ignored"] else []) ++
      -- Nothing after this is an option.
      ([ofString "--", image] ++ args.filter))

structure Report where
  probe : Text
  imageSha256 : Text
  command : List Text
  duration : Nat
  exitCode : Option Int
  timedOut : Bool
  suite : Option SuiteResult
  error : Option Text

/-- What `execute` finds: the image, the clock before and after, how `stream_process` ended and
the transcript it left. -/
structure Session where
  image : Except Raised Bytes
  started : Nat
  finished : Nat
  process : Except Raised Int
  transcript : Option Bytes

/-- How the process ended, when its outcome is one that `execute` handles. -/
structure Ended where
  exitCode : Option Int
  timedOut : Bool
  error : Option Text

def Ended.ofProcess : Except Raised Int → Except Raised Ended
  | .ok status => .ok ⟨some status, false, none⟩
  | .error .timeoutExpired =>
      .ok ⟨none, true, some (ofString "probe-rs exceeded the 180 second deadline")⟩
  | .error .keyboardInterrupt => .ok ⟨none, false, some (ofString "Hardware test interrupted")⟩
  | .error (.os message) => .ok ⟨none, false, some message⟩
  | .error raised => .error raised

/-- `transcript.read_text(errors="replace")`. -/
def readText (content : Bytes) : Text := translateNewlines (decode content)

def statusText : Option Int → Text
  | some status => ofString (toString status)
  | none => ofString "None"

section

variable (python : Python)

/-- The suite of the transcript, and the error so far with a parsing error added. -/
def parseSuite (listOnly : Bool) (transcript : Option Bytes) (error : Option Text) :
    Except Raised (Option SuiteResult × Option Text) :=
  match listOnly, transcript with
  | false, some content =>
      match suiteResult python (readText content) with
      | .ok suite => .ok (suite, error)
      | .error (.value failure) =>
          .ok (none, some (match error with
            | none => failure
            | some error => error ++ ofString "; " ++ failure))
      | .error raised => .error raised
  | _, _ => .ok (none, error)

/-- The last conditionals of `execute`, which run only while there is no error. -/
def finalError (listOnly : Bool) (exitCode : Option Int) (suite : Option SuiteResult) :
    Option Text :=
  if suite.any (fun suite => suite.failed ≠ 0) && exitCode = some 1 then none
  else if exitCode ≠ some 0 then
    some (ofString "probe-rs exited with status " ++ statusText exitCode)
  else if !listOnly && suite.all (fun suite => suite.passed = 0 || suite.failed ≠ 0) then
    some (ofString "probe-rs did not report a completed, nonempty passing suite")
  else none

def execute (session : Session) (command : List Text) (probe : Text) (listOnly : Bool) :
    Except Raised Report := do
  let content ← session.image
  let ended ← Ended.ofProcess session.process
  let (suite, error) ← parseSuite python listOnly session.transcript ended.error
  return {
    probe := probe
    imageSha256 := python.sha256 content
    command := command
    duration := session.finished - session.started
    exitCode := ended.exitCode
    timedOut := ended.timedOut
    suite := suite
    error := match error with
      | none => finalError listOnly ended.exitCode suite
      | some error => some error }

end

/-- The argument of `SystemExit`. -/
inductive Exit where
  | status (code : Nat)
  | message (text : Text)

structure Surroundings where
  environ : String → Option Text
  runfiles : Option (Text → Option Text)
  /-- The resolved report directory, if it is beneath the ignored one. -/
  directory : Option Text → Option Text
  mkdir : Except Raised Unit
  probeLock : Except Raised Unit
  session : Session
  /-- Writing `report.json` and printing the summary. -/
  written : Except Raised Unit
  terminal : Terminal

/-- `parser.error`. -/
def usageError : Exit := .status 2

def requiredEnvironment : List String :=
  ["PROBE_RS", "DIRECT_LINE_ELF", "DIRECT_LINE_TARGET", "BUILD_WORKSPACE_DIRECTORY"]

section

variable (python : Python)

/-- Makes the report directory and the command line, under the probe's lock. -/
def launch (args : Arguments) (found : Surroundings) (executable image target : Text) :
    Except Raised (Exit ⊕ List Text) :=
  match found.directory args.outputDir with
  | none => .ok (.inl usageError)
  | some directory => do
      found.mkdir
      found.probeLock
      let command ← commandLine executable image target args (directory ++ ofString "/target.txt")
        found.terminal.stderrIsatty
      return .inr command

/-- `main` up to the call of `execute`: the command to run, or an early exit. -/
def prepare (args : Arguments) (found : Surroundings) : Except Raised (Exit ⊕ List Text) :=
  if 1 < args.filter.length then .ok (.inl usageError)
  else if !python.isalnum args.probe then .ok (.inl usageError)
  else if requiredEnvironment.any (fun name => ((found.environ name).getD []).isEmpty) then
    .ok (.inl usageError)
  else
    match found.runfiles with
    | none => .ok (.inl usageError)
    | some rlocation =>
        match rlocation ((found.environ "PROBE_RS").getD []),
          rlocation ((found.environ "DIRECT_LINE_ELF").getD []),
          rlocation ((found.environ "DIRECT_LINE_TARGET").getD []) with
        | some executable, some image, some target => launch args found executable image target
        | _, _, _ =>
            .error (.runtime (ofString
              "Pinned debugger, target description, or firmware image is unavailable"))

/-- The two last statements of `main`. -/
def Report.exit (report : Report) (terminal : Terminal) : Exit :=
  match report.error with
  | some error => .message (terminal.styled terminal.stderrIsatty error .red)
  | none => .status (if report.suite.any (fun suite => suite.failed ≠ 0) then 1 else 0)

def main (args : Arguments) (found : Surroundings) : Except Raised Exit := do
  match ← prepare python args found with
  | .inl exit => return exit
  | .inr command =>
      let report ← execute python found.session command args.probe args.list
      found.written
      return report.exit found.terminal

end

/-- The status of the interpreter: an uncaught exception or a message gives a nonzero one. -/
def exitStatus : Except Raised Exit → Nat
  | .ok (.status code) => code
  | .ok (.message _) => 1
  | .error .keyboardInterrupt => 130
  | .error _ => 1

end DirectLine.Host
