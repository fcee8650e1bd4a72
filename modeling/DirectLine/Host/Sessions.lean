import DirectLine.Host.Verdict
import DirectLine.Interaction.Lock
import Mathlib.Logic.Relation

/-!
# Concurrent runners

Any number of runners may be started at once, for one probe or for several.
They share the report directories and the lock files of `probe_lock.py`; the
kernel drops the lock of a runner that is killed, but not its child.
-/

namespace DirectLine.Host

open Text DirectLine.Interaction

/-- Where a runner is about to report, and what it is about to run. -/
structure Site where
  directory : Text
  executable : Text
  image : Text
  target : Text

/-- `main` before it makes its directory: an early exit, or the site. -/
def resolve (python : Python) (args : Arguments) (found : Surroundings) :
    Except Raised (Exit ⊕ Site) :=
  if 1 < args.filter.length then .ok (.inl usageError)
  else if !python.isalnum args.probe then .ok (.inl usageError)
  else if requiredEnvironment.any (fun name => ((found.environ name).getD []).isEmpty) then
    .ok (.inl usageError)
  else
    match found.runfiles with
    | none => .ok (.inl usageError)
    | some rlocation =>
        match rlocation ((found.environ "PROBE_RS").getD []),
          rlocation ((found.environ "DIRECT_LINE_ELF").getD []),
          rlocation ((found.environ "DIRECT_LINE_TARGET").getD []) with
        | some executable, some image, some target =>
            match found.directory args.outputDir with
            | none => .ok (.inl usageError)
            | some directory => .ok (.inr ⟨directory, executable, image, target⟩)
        | _, _, _ =>
            .error (.runtime (ofString
              "Pinned debugger, target description, or firmware image is unavailable"))

def Site.command (site : Site) (args : Arguments) (found : Surroundings) :
    Except Raised (List Text) :=
  commandLine site.executable site.image site.target args (site.directory ++ ofString "/target.txt")
    found.terminal.stderrIsatty

section Prepare

variable {python : Python} {args : Arguments} {found : Surroundings} {site : Site}

def Site.prepare (site : Site) (args : Arguments) (found : Surroundings) :
    Except Raised (Exit ⊕ List Text) := do
  found.mkdir
  found.probeLock
  let command ← site.command args found
  return .inr command

theorem prepare_eq :
    prepare python args found =
      match resolve python args found with
      | .ok (.inl exit) => .ok (.inl exit)
      | .ok (.inr site) => site.prepare args found
      | .error raised => .error raised := by
  unfold prepare resolve
  split_ifs
  · rfl
  · rfl
  · rfl
  · cases found.runfiles with
    | none => rfl
    | some rlocation =>
        dsimp only
        cases rlocation ((found.environ "PROBE_RS").getD []) with
        | none => rfl
        | some executable =>
            cases rlocation ((found.environ "DIRECT_LINE_ELF").getD []) with
            | none => rfl
            | some image =>
                cases rlocation ((found.environ "DIRECT_LINE_TARGET").getD []) with
                | none => rfl
                | some target =>
                    dsimp only
                    rw [launch]
                    cases found.directory args.outputDir <;> rfl

end Prepare

structure Runner where
  args : Arguments
  found : Surroundings
  /-- The directory of the lock files, by the user and the temporary directory. -/
  lockDirectory : Text

def Runner.lockFile (runner : Runner) : Text × Text := (runner.lockDirectory, runner.args.probe)

inductive Phase where
  | begun
  | made (site : Site)
  /-- The lock is held and there is no child yet. -/
  | holding (site : Site)
  | running (site : Site) (command : List Text)
  /-- `stream_process` has ended and the child, if any, has been waited for. -/
  | reaped (site : Site) (command : List Text)
  | reporting (site : Site) (report : Report)
  | exited (result : Except Raised Exit)
  | killed

namespace Phase

/-- The runner is inside `with probe_lock`. -/
def inSession : Phase → Bool
  | .holding _ | .running _ _ | .reaped _ _ => true
  | _ => false

def site : Phase → Option Site
  | .made site | .holding site | .running site _ | .reaped site _ | .reporting site _ => some site
  | _ => none

def ended : Phase → Bool
  | .exited _ | .killed => true
  | _ => false

theorem ended_site {phase : Phase} (ended : phase.ended = true) : phase.site = none := by
  cases phase with
  | exited | killed => rfl
  | begun | made | holding | running | reaped | reporting => cases ended

end Phase

/-- Who made a directory. -/
inductive Origin where
  | earlier
  | runner (pid : Nat)
  deriving DecidableEq

structure World where
  phase : Nat → Phase
  directories : Text → Option Origin
  lock : Text × Text → Option Nat
  child : Nat → Bool
  /-- Who has written the report of a directory. -/
  writers : Text → List Nat

namespace World

def become (world : World) (pid : Nat) (phase : Phase) : World :=
  { world with phase := Function.update world.phase pid phase }

/-- Leaving the `with` statement closes the lock file, and so does the kernel. -/
def unlock (world : World) (file : Text × Text) : World :=
  { world with lock := Function.update world.lock file none }

/-- No runner has done anything; there may be directories from before. -/
structure Fresh (world : World) : Prop where
  phase : ∀ pid, world.phase pid = .begun
  directories : ∀ directory pid, world.directories directory ≠ some (.runner pid)
  lock : ∀ file, world.lock file = none
  child : ∀ pid, world.child pid = false
  writers : ∀ directory, world.writers directory = []

end World

section Steps

variable (python : Python)

inductive Alone (runner : Runner) : Phase → Phase → Prop where
  | early {exit : Exit} : resolve python runner.args runner.found = .ok (.inl exit) →
      Alone runner .begun (.exited (.ok exit))
  | unresolved {raised : Raised} : resolve python runner.args runner.found = .error raised →
      Alone runner .begun (.exited (.error raised))
  /-- The directory exists or cannot be made. -/
  | unmade {site : Site} {raised : Raised} :
      resolve python runner.args runner.found = .ok (.inr site) →
      runner.found.mkdir = .error raised → Alone runner .begun (.exited (.error raised))
  /-- The lock is held by another runner or cannot be taken. -/
  | locked {site : Site} {raised : Raised} : runner.found.probeLock = .error raised →
      Alone runner (.made site) (.exited (.error raised))
  /-- The image cannot be read, or no child can be started. -/
  | unlaunched {site : Site} {command : List Text} :
      site.command runner.args runner.found = .ok command →
      (∀ content status, runner.found.session.image = .ok content →
        runner.found.session.process ≠ .ok status) →
      Alone runner (.holding site) (.reaped site command)

inductive Runner.Step (runners : Nat → Runner) : World → World → Prop where
  | alone {world : World} (pid : Nat) {phase : Phase} :
      Alone python (runners pid) (world.phase pid) phase →
      Step runners world (world.become pid phase)
  | mkdir {world : World} (pid : Nat) {site : Site} : world.phase pid = .begun →
      resolve python (runners pid).args (runners pid).found = .ok (.inr site) →
      (runners pid).found.mkdir = .ok () → world.directories site.directory = none →
      Step runners world
        { world.become pid (.made site) with
          directories := Function.update world.directories site.directory (some (.runner pid)) }
  | lock {world : World} (pid : Nat) {site : Site} : world.phase pid = .made site →
      (runners pid).found.probeLock = .ok () → world.lock (runners pid).lockFile = none →
      Step runners world
        { world.become pid (.holding site) with
          lock := Function.update world.lock (runners pid).lockFile (some pid) }
  | spawn {world : World} (pid : Nat) {site : Site} {command : List Text} {content : Bytes} :
      world.phase pid = .holding site →
      site.command (runners pid).args (runners pid).found = .ok command →
      (runners pid).found.session.image = .ok content →
      Step runners world
        { world.become pid (.running site command) with
          child := Function.update world.child pid true }
  /-- However `stream_process` ends, it kills its child and waits for it. -/
  | reap {world : World} (pid : Nat) {site : Site} {command : List Text} :
      world.phase pid = .running site command →
      Step runners world
        { world.become pid (.reaped site command) with
          child := Function.update world.child pid false }
  | release {world : World} (pid : Nat) {site : Site} {command : List Text} {report : Report} :
      world.phase pid = .reaped site command →
      execute python (runners pid).found.session command (runners pid).args.probe
        (runners pid).args.list = .ok report →
      Step runners world
        ((world.become pid (.reporting site report)).unlock (runners pid).lockFile)
  | raise {world : World} (pid : Nat) {site : Site} {command : List Text} {raised : Raised} :
      world.phase pid = .reaped site command →
      execute python (runners pid).found.session command (runners pid).args.probe
        (runners pid).args.list = .error raised →
      Step runners world
        ((world.become pid (.exited (.error raised))).unlock (runners pid).lockFile)
  /-- The report is written, in part where that fails. -/
  | write {world : World} (pid : Nat) {site : Site} {report : Report} :
      world.phase pid = .reporting site report →
      Step runners world
        { world.become pid (.exited (do
            (runners pid).found.written
            return report.exit (runners pid).found.terminal)) with
          writers := Function.update world.writers site.directory
            (world.writers site.directory ++ [pid]) }
  /-- A signal that cannot be handled leaves the child behind. -/
  | kill {world : World} (pid : Nat) : (world.phase pid).ended = false →
      (world.phase pid).inSession = false →
      Step runners world (world.become pid .killed)
  | killInSession {world : World} (pid : Nat) : (world.phase pid).inSession = true →
      Step runners world ((world.become pid .killed).unlock (runners pid).lockFile)
  /-- A child that was left behind ends by itself. -/
  | orphan {world : World} (pid : Nat) : world.phase pid = .killed →
      Step runners world { world with child := Function.update world.child pid false }

/-- What a phase says of the runner's course through `main`. -/
def Reached (runner : Runner) : Phase → Prop
  | .begun | .killed => True
  | .made site => resolve python runner.args runner.found = .ok (.inr site) ∧
      runner.found.mkdir = .ok ()
  | .holding site => resolve python runner.args runner.found = .ok (.inr site) ∧
      runner.found.mkdir = .ok () ∧ runner.found.probeLock = .ok ()
  | .running _ command | .reaped _ command =>
      prepare python runner.args runner.found = .ok (.inr command)
  | .reporting _ report => ∃ command, prepare python runner.args runner.found = .ok (.inr command) ∧
      execute python runner.found.session command runner.args.probe runner.args.list = .ok report
  | .exited result => main python runner.args runner.found = result

end Steps

section Reached

variable {python : Python} {runner : Runner} {runners : Nat → Runner} {site : Site}
  {command : List Text} {world world' : World}

theorem main_of_prepare {exit : Exit}
    (early : prepare python runner.args runner.found = .ok (.inl exit)) :
    main python runner.args runner.found = .ok exit := by
  rw [main, early]
  rfl

theorem main_of_error {raised : Raised}
    (failed : prepare python runner.args runner.found = .error raised) :
    main python runner.args runner.found = .error raised := by
  rw [main, failed]
  rfl

theorem prepare_of_holding (reached : Reached python runner (.holding site))
    (known : site.command runner.args runner.found = .ok command) :
    prepare python runner.args runner.found = .ok (.inr command) := by
  obtain ⟨resolved, made, locked⟩ := reached
  rw [prepare_eq, resolved]
  dsimp only
  rw [Site.prepare, made, locked, known]
  rfl

theorem main_of_execute {report : Report}
    (prepared : prepare python runner.args runner.found = .ok (.inr command))
    (returned : execute python runner.found.session command runner.args.probe runner.args.list =
      .ok report) :
    main python runner.args runner.found = (do
      runner.found.written
      return report.exit runner.found.terminal) := by
  rw [main, prepared]
  simp only [bind, Except.bind, returned]

theorem main_of_execute_error {raised : Raised}
    (prepared : prepare python runner.args runner.found = .ok (.inr command))
    (failed : execute python runner.found.session command runner.args.probe runner.args.list =
      .error raised) :
    main python runner.args runner.found = .error raised := by
  rw [main, prepared]
  simp only [bind, Except.bind, failed]

theorem Reached.alone {phase phase' : Phase} (reached : Reached python runner phase)
    (step : Alone python runner phase phase') : Reached python runner phase' := by
  cases step with
  | early resolved =>
      apply main_of_prepare
      rw [prepare_eq, resolved]
  | unresolved failed =>
      apply main_of_error
      rw [prepare_eq, failed]
  | unmade resolved failed =>
      apply main_of_error
      rw [prepare_eq, resolved]
      dsimp only
      rw [Site.prepare, failed]
      rfl
  | locked failed =>
      obtain ⟨resolved, made⟩ := reached
      apply main_of_error
      rw [prepare_eq, resolved]
      dsimp only
      rw [Site.prepare, made, failed]
      rfl
  | unlaunched known _ => exact prepare_of_holding reached known

end Reached

def World.inside (world : World) (pid : Nat) : Bool := (world.phase pid).inSession

def Phase.keepsChild : Phase → Bool
  | .running _ _ | .killed => true
  | _ => false

inductive Minding (pid : Nat) (phase phase' : Phase) (child : Nat → Bool) :
    (Nat → Bool) → Prop where
  | kept : (phase.keepsChild = true → phase'.keepsChild = true) →
      Minding pid phase phase' child child
  | set {alive : Bool} : (alive = true → phase'.keepsChild = true) →
      Minding pid phase phase' child (Function.update child pid alive)

inductive Making (python : Python) (runner : Runner) (pid : Nat) (phase phase' : Phase)
    (directories : Text → Option Origin) : (Text → Option Origin) → Prop where
  | kept : (∀ site, phase'.site = some site → phase.site = some site) →
      Making python runner pid phase phase' directories directories
  | made {site : Site} : resolve python runner.args runner.found = .ok (.inr site) →
      phase'.site = some site → directories site.directory = none →
      Making python runner pid phase phase' directories
        (Function.update directories site.directory (some (.runner pid)))

inductive Writing (pid : Nat) (phase phase' : Phase) (writers : Text → List Nat) :
    (Text → List Nat) → Prop where
  | kept : Writing pid phase phase' writers writers
  | written {site : Site} : phase.site = some site → phase'.ended = true →
      Writing pid phase phase' writers
        (Function.update writers site.directory (writers site.directory ++ [pid]))

theorem Making.kept_origin {python : Python} {runner : Runner} {pid : Nat} {phase phase' : Phase}
    {directories directories' : Text → Option Origin} {directory : Text} {origin : Origin}
    (making : Making python runner pid phase phase' directories directories')
    (known : directories directory = some origin) : directories' directory = some origin := by
  cases making with
  | kept _ => exact known
  | @made site _ _ free =>
      have else' : directory ≠ site.directory := by
        intro same
        rw [same, free] at known
        cases known
      rw [Function.update_of_ne else']
      exact known

/-- The effect of a step of one runner, from one phase to another. -/
structure Effect (python : Python) (runners : Nat → Runner) (pid : Nat) (phase phase' : Phase)
    (world world' : World) : Prop where
  before : world.phase pid = phase
  after : world'.phase = Function.update world.phase pid phase'
  reached : Reached python (runners pid) phase → Reached python (runners pid) phase'
  ended : phase.ended = true → phase'.ended = true
  child : Minding pid phase phase' world.child world'.child
  lock : Locking (fun pid => (runners pid).lockFile) world.inside world.lock pid phase'.inSession
    world'.lock
  directories : Making python (runners pid) pid phase phase' world.directories world'.directories
  writers : Writing pid phase phase' world.writers world'.writers

section Effect

variable {python : Python} {runners : Nat → Runner} {world world' : World} {pid : Nat}

theorem World.inside_eq {phase : Phase} (known : world.phase pid = phase) :
    world.inside pid = phase.inSession :=
  congrArg Phase.inSession known

theorem effect_alone {phase phase' : Phase} (known : world.phase pid = phase)
    (step : Alone python (runners pid) phase phase') :
    Effect python runners pid phase phase' world (world.become pid phase') where
  before := known
  after := rfl
  reached reached := reached.alone step
  ended ended := by cases step with | _ => cases ended
  child := .kept fun keeps => by cases step with | _ => cases keeps
  lock := .kept ((World.inside_eq known).trans (by cases step with | _ => rfl))
  directories := .kept fun site there => by
    cases step with
    | unlaunched => exact there
    | early | unresolved | unmade | locked => cases there
  writers := .kept

theorem effect_of_step (step : Runner.Step python runners world world') :
    ∃ pid phase phase', Effect python runners pid phase phase' world world' := by
  cases step with
  | alone pid step => exact ⟨pid, _, _, effect_alone rfl step⟩
  | @mkdir pid site begun resolved made free =>
      exact ⟨pid, .begun, .made site, {
        before := begun
        after := rfl
        reached := fun _ => ⟨resolved, made⟩
        ended := nofun
        child := .kept nofun
        lock := .kept ((World.inside_eq begun).trans rfl)
        directories := .made resolved rfl free
        writers := .kept }⟩
  | @lock pid site made locked free =>
      exact ⟨pid, .made site, .holding site, {
        before := made
        after := rfl
        reached := fun reached => ⟨reached.1, reached.2, locked⟩
        ended := nofun
        child := .kept nofun
        lock := .taken (World.inside_eq made) free
        directories := .kept fun _ there => there
        writers := .kept }⟩
  | @spawn pid site command content holding known readable =>
      exact ⟨pid, .holding site, .running site command, {
        before := holding
        after := rfl
        reached := fun reached => prepare_of_holding reached known
        ended := nofun
        child := .set fun _ => rfl
        lock := .kept ((World.inside_eq holding).trans rfl)
        directories := .kept fun _ there => there
        writers := .kept }⟩
  | @reap pid site command running =>
      exact ⟨pid, .running site command, .reaped site command, {
        before := running
        after := rfl
        reached := id
        ended := nofun
        child := .set nofun
        lock := .kept ((World.inside_eq running).trans rfl)
        directories := .kept fun _ there => there
        writers := .kept }⟩
  | @release pid site command report reaped returned =>
      exact ⟨pid, .reaped site command, .reporting site report, {
        before := reaped
        after := rfl
        reached := fun reached => ⟨command, reached, returned⟩
        ended := nofun
        child := .kept nofun
        lock := .dropped (World.inside_eq reaped)
        directories := .kept fun _ there => there
        writers := .kept }⟩
  | @raise pid site command raised reaped failed =>
      exact ⟨pid, .reaped site command, .exited (.error raised), {
        before := reaped
        after := rfl
        reached := fun reached => main_of_execute_error reached failed
        ended := nofun
        child := .kept nofun
        lock := .dropped (World.inside_eq reaped)
        directories := .kept nofun
        writers := .kept }⟩
  | @write pid site report reporting =>
      exact ⟨pid, .reporting site report, .exited _, {
        before := reporting
        after := rfl
        reached := fun ⟨_, prepared, returned⟩ => main_of_execute prepared returned
        ended := nofun
        child := .kept nofun
        lock := .kept ((World.inside_eq reporting).trans rfl)
        directories := .kept nofun
        writers := .written rfl rfl }⟩
  | kill pid _ outside =>
      exact ⟨pid, _, .killed, {
        before := rfl
        after := rfl
        reached := fun _ => trivial
        ended := fun _ => rfl
        child := .kept fun _ => rfl
        lock := .kept outside
        directories := .kept nofun
        writers := .kept }⟩
  | killInSession pid inside =>
      exact ⟨pid, _, .killed, {
        before := rfl
        after := rfl
        reached := fun _ => trivial
        ended := fun _ => rfl
        child := .kept fun _ => rfl
        lock := .dropped inside
        directories := .kept nofun
        writers := .kept }⟩
  | orphan pid killed =>
      exact ⟨pid, .killed, .killed, {
        before := killed
        after := (Function.update_eq_self_iff.mpr killed.symm).symm
        reached := id
        ended := id
        child := .set fun _ => rfl
        lock := .kept (World.inside_eq killed)
        directories := .kept nofun
        writers := .kept }⟩

end Effect

/-- The shared files agree with what each runner has done. -/
structure Consistent (python : Python) (runners : Nat → Runner) (world : World) : Prop where
  reached : ∀ pid, Reached python (runners pid) (world.phase pid)
  guarded : Guarded (fun pid => (runners pid).lockFile) world.inside world.lock
  child : ∀ pid, world.child pid = true → (world.phase pid).keepsChild = true
  /-- A runner with a site made its directory. -/
  owned : ∀ pid site, (world.phase pid).site = some site →
    world.directories site.directory = some (.runner pid)
  resolved : ∀ directory pid, world.directories directory = some (.runner pid) →
    ∃ site, resolve python (runners pid).args (runners pid).found = .ok (.inr site) ∧
      site.directory = directory
  written : ∀ directory pid, pid ∈ world.writers directory →
    world.writers directory = [pid] ∧ world.directories directory = some (.runner pid) ∧
      (world.phase pid).ended = true

section Consistent

variable {python : Python} {runners : Nat → Runner} {world world' : World} {pid : Nat}
  {phase phase' : Phase}

theorem World.Fresh.consistent (fresh : world.Fresh) : Consistent python runners world where
  reached pid := by
    rw [fresh.phase]
    trivial
  guarded file pid := by
    rw [fresh.lock, World.inside_eq (fresh.phase pid)]
    simp [Phase.inSession]
  child pid alive := by
    rw [fresh.child] at alive
    cases alive
  owned pid site there := by
    rw [fresh.phase] at there
    cases there
  resolved directory pid made := absurd made (fresh.directories directory pid)
  written directory pid wrote := by
    rw [fresh.writers] at wrote
    cases wrote

namespace Effect

variable (effect : Effect python runners pid phase phase' world world')
include effect

theorem phase_self : world'.phase pid = phase' := by
  rw [effect.after, Function.update_self]

theorem phase_other {other : Nat} (else' : other ≠ pid) :
    world'.phase other = world.phase other := by
  rw [effect.after, Function.update_of_ne else']

theorem reached_self (consistent : Consistent python runners world) (other : Nat) :
    Reached python (runners other) (world'.phase other) := by
  by_cases self : other = pid
  · subst self
    rw [effect.phase_self]
    apply effect.reached
    rw [← effect.before]
    exact consistent.reached other
  · rw [effect.phase_other self]
    exact consistent.reached other

theorem guarded (consistent : Consistent python runners world) :
    Guarded (fun pid => (runners pid).lockFile) world'.inside world'.lock := by
  have inside : world'.inside = Function.update world.inside pid phase'.inSession := by
    funext other
    by_cases self : other = pid
    · subst self
      rw [Function.update_self, World.inside_eq effect.phase_self]
    · rw [Function.update_of_ne self, World.inside_eq (effect.phase_other self)]
      rfl
  rw [inside]
  exact consistent.guarded.step effect.lock

theorem keepsChild (consistent : Consistent python runners world) (other : Nat)
    (alive : world'.child other = true) : (world'.phase other).keepsChild = true := by
  by_cases self : other = pid
  · subst self
    rw [effect.phase_self]
    have minding := effect.child
    generalize world'.child = child' at minding alive
    cases minding with
    | kept keeps =>
        apply keeps
        rw [← effect.before]
        exact consistent.child other alive
    | set keeps =>
        rw [Function.update_self] at alive
        exact keeps alive
  · rw [effect.phase_other self]
    have minding := effect.child
    generalize world'.child = child' at minding alive
    cases minding with
    | kept _ => exact consistent.child other alive
    | set _ =>
        rw [Function.update_of_ne self] at alive
        exact consistent.child other alive

theorem owned (consistent : Consistent python runners world) (other : Nat) (site : Site)
    (there : (world'.phase other).site = some site) :
    world'.directories site.directory = some (.runner other) := by
  by_cases self : other = pid
  · subst self
    rw [effect.phase_self] at there
    have making := effect.directories
    generalize world'.directories = directories' at making
    cases making with
    | kept keeps =>
        apply consistent.owned other site
        rw [effect.before]
        exact keeps site there
    | made _ at' _ =>
        cases Option.some.inj (at'.symm.trans there)
        rw [Function.update_self]
  · rw [effect.phase_other self] at there
    exact effect.directories.kept_origin (consistent.owned other site there)

theorem resolved (consistent : Consistent python runners world) (directory : Text) (other : Nat)
    (made : world'.directories directory = some (.runner other)) :
    ∃ site, resolve python (runners other).args (runners other).found = .ok (.inr site) ∧
      site.directory = directory := by
  have making := effect.directories
  generalize world'.directories = directories' at making made
  cases making with
  | kept _ => exact consistent.resolved directory other made
  | @made site resolved _ _ =>
      by_cases same : directory = site.directory
      · subst same
        rw [Function.update_self] at made
        cases made
        exact ⟨site, resolved, rfl⟩
      · rw [Function.update_of_ne same] at made
        exact consistent.resolved directory other made

theorem stays_ended {other : Nat} (ended : (world.phase other).ended = true) :
    (world'.phase other).ended = true := by
  by_cases self : other = pid
  · subst self
    rw [effect.before] at ended
    rw [effect.phase_self]
    exact effect.ended ended
  · rw [effect.phase_other self]
    exact ended

theorem written (consistent : Consistent python runners world) (directory : Text) (other : Nat)
    (wrote : other ∈ world'.writers directory) :
    world'.writers directory = [other] ∧ world'.directories directory = some (.runner other) ∧
      (world'.phase other).ended = true := by
  have earlier (other : Nat) (wrote : other ∈ world.writers directory) :
      world.writers directory = [other] ∧ world'.directories directory = some (.runner other) ∧
        (world'.phase other).ended = true := by
    obtain ⟨only, made, ended⟩ := consistent.written directory other wrote
    exact ⟨only, effect.directories.kept_origin made, effect.stays_ended ended⟩
  have writing := effect.writers
  generalize world'.writers = writers' at writing wrote
  cases writing with
  | kept => exact earlier other wrote
  | @written site there ended =>
      by_cases same : directory = site.directory
      · subst same
        rw [← effect.before] at there
        have owned := consistent.owned pid site there
        have none : world.writers site.directory = [] := by
          rw [List.eq_nil_iff_forall_not_mem]
          intro writer wrote
          obtain ⟨-, made, ended⟩ := consistent.written site.directory writer wrote
          cases owned.symm.trans made
          rw [Phase.ended_site ended] at there
          cases there
        rw [Function.update_self, none] at wrote ⊢
        rw [List.nil_append, List.mem_singleton] at wrote
        subst wrote
        refine ⟨rfl, effect.directories.kept_origin owned, ?_⟩
        rw [effect.phase_self]
        exact ended
      · rw [Function.update_of_ne same] at wrote ⊢
        exact earlier other wrote

end Effect

theorem Consistent.step (consistent : Consistent python runners world)
    (step : Runner.Step python runners world world') : Consistent python runners world' := by
  obtain ⟨pid, phase, phase', effect⟩ := effect_of_step step
  exact {
    reached := effect.reached_self consistent
    guarded := effect.guarded consistent
    child := effect.keepsChild consistent
    owned := effect.owned consistent
    resolved := effect.resolved consistent
    written := effect.written consistent }

theorem consistent_of_reaches {start : World} (fresh : start.Fresh)
    (reaches : Relation.ReflTransGen (Runner.Step python runners) start world) :
    Consistent python runners world := by
  induction reaches with
  | refl => exact fresh.consistent
  | tail _ step inductionHypothesis => exact inductionHypothesis.step step

theorem resolve_directory {args : Arguments} {found : Surroundings} {site : Site}
    (resolved : resolve python args found = .ok (.inr site)) :
    found.directory args.outputDir = some site.directory := by
  unfold resolve at resolved
  split_ifs at resolved
  · cases resolved
  · cases resolved
  · cases resolved
  · split at resolved
    · cases resolved
    · split at resolved
      · split at resolved
        · cases resolved
        · rename_i directory known
          cases resolved
          exact known
      · cases resolved

theorem kept_origin_of_reaches {start : World} {directory : Text} {origin : Origin}
    (known : start.directories directory = some origin)
    (reaches : Relation.ReflTransGen (Runner.Step python runners) start world) :
    world.directories directory = some origin := by
  induction reaches with
  | refl => exact known
  | tail _ step inductionHypothesis =>
      obtain ⟨pid, phase, phase', effect⟩ := effect_of_step step
      exact effect.directories.kept_origin inductionHypothesis

/-- A child of a runner that has not been killed belongs to the runner's session. -/
theorem Consistent.inside (consistent : Consistent python runners world)
    (alive : world.child pid = true) (unharmed : world.phase pid ≠ .killed) :
    world.inside pid = true := by
  have keeps := consistent.child pid alive
  rw [World.inside]
  cases known : world.phase pid with
  | running => rfl
  | killed => exact absurd known unharmed
  | begun | made | holding | reaped | reporting | exited =>
      rw [known] at keeps
      cases keeps

end Consistent

/-- However runners interleave and are killed, those of one lock file are never in session
together, nor do their children live together unless one was left behind by a runner that was
killed; a lock is held by runners in session and no others; each report is written once, into a
directory that its runner asked for and made; and each runner ends as `main` does by itself. -/
theorem sessions_safe (python : Python) (runners : Nat → Runner) (start world : World)
    (fresh : start.Fresh)
    (reaches : Relation.ReflTransGen (Runner.Step python runners) start world) :
    (∀ pid pid', (world.phase pid).inSession = true → (world.phase pid').inSession = true →
      (runners pid).lockFile = (runners pid').lockFile → pid = pid') ∧
    (∀ pid pid', world.child pid = true → world.child pid' = true → world.phase pid ≠ .killed →
      world.phase pid' ≠ .killed → (runners pid).lockFile = (runners pid').lockFile →
      pid = pid') ∧
    (∀ file pid, world.lock file = some pid ↔
      (world.phase pid).inSession = true ∧ (runners pid).lockFile = file) ∧
    (∀ directory pid, pid ∈ world.writers directory →
      world.writers directory = [pid] ∧ world.directories directory = some (.runner pid) ∧
        start.directories directory = none ∧
          (runners pid).found.directory (runners pid).args.outputDir = some directory) ∧
    ∀ pid result, world.phase pid = .exited result →
      world.child pid = false ∧ main python (runners pid).args (runners pid).found = result := by
  have consistent := consistent_of_reaches fresh reaches
  refine ⟨fun pid pid' => consistent.guarded.exclusive, ?_, consistent.guarded, ?_, ?_⟩
  · intro pid pid' alive alive' unharmed unharmed'
    apply consistent.guarded.exclusive (consistent.inside alive unharmed)
    exact consistent.inside alive' unharmed'
  · intro directory pid wrote
    obtain ⟨only, made, -⟩ := consistent.written directory pid wrote
    obtain ⟨site, resolved, rfl⟩ := consistent.resolved directory pid made
    refine ⟨only, made, ?_, resolve_directory resolved⟩
    cases known : start.directories site.directory with
    | none => rfl
    | some origin =>
        have kept := kept_origin_of_reaches known reaches
        rw [made] at kept
        cases kept
        exact absurd known (fresh.directories site.directory pid)
  · intro pid result exited
    constructor
    · cases alive : world.child pid with
      | false => rfl
      | true =>
          have keeps := consistent.child pid alive
          rw [exited] at keeps
          cases keeps
    · have reached := consistent.reached pid
      rw [exited] at reached
      exact reached

section Contention

/-- The first runner to come and one that comes after a child was left behind take the lock; the
runner between them finds it held. -/
def contender (pid : Nat) : Runner where
  args := ⟨ofString "L1", none, [], false, false, false⟩
  found := {
    environ := fun _ => some (ofString "x")
    runfiles := some some
    directory := fun _ => some (ofString "hil-" ++ ofString (toString pid))
    mkdir := .ok ()
    probeLock :=
      if pid = 1 then .error (.os (ofString "Resource temporarily unavailable")) else .ok ()
    session := passingSession
    written := .ok ()
    terminal := ⟨false, false, false, false⟩ }
  lockDirectory := ofString "direct-line-probes-1000"

def emptyWorld : World where
  phase _ := .begun
  directories _ := none
  lock _ := none
  child _ := false
  writers _ := []

theorem emptyWorld_fresh : emptyWorld.Fresh :=
  ⟨fun _ => rfl, nofun, fun _ => rfl, fun _ => rfl, fun _ => rfl⟩

/-- The child of the runner that was killed lives beside that of the next. -/
theorem sessions_safe_contended : ∃ world : World,
    Relation.ReflTransGen (Runner.Step oneSuite contender) emptyWorld world ∧
      world.child 0 = true ∧ world.child 2 = true ∧
      main oneSuite (contender 1).args (contender 1).found =
        .error (.os (ofString "Resource temporarily unavailable")) := by
  have first : Runner.Step oneSuite contender emptyWorld _ := .mkdir 0 rfl rfl rfl rfl
  have run := Relation.ReflTransGen.single first
    |>.tail (.lock 0 rfl rfl rfl)
    |>.tail (.spawn 0 rfl rfl rfl)
    |>.tail (.mkdir 1 rfl rfl rfl rfl)
    |>.tail (.alone 1 (.locked rfl))
    |>.tail (.killInSession 0 rfl)
    |>.tail (.mkdir 2 rfl rfl rfl rfl)
    |>.tail (.lock 2 rfl rfl rfl)
    |>.tail (.spawn 2 rfl rfl rfl)
  refine ⟨_, run, rfl, rfl, ?_⟩
  exact ((sessions_safe oneSuite contender _ _ emptyWorld_fresh run).2.2.2.2 1 _ rfl).2

end Contention

end DirectLine.Host
