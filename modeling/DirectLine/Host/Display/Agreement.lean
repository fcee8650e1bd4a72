import DirectLine.Host.Display
import DirectLine.Host.Stream.Runs
import DirectLine.Text.Parts
import Mathlib.Algebra.Order.BigOperators.Group.List
import Mathlib.Algebra.Order.Group.Nat

/-!
# Agreement of display and validation

Both readings of the transcript, line by line: a line between line feeds is one
record for the display, and as many for the validation as it has parts that
look like JSON.
-/

namespace DirectLine.Host

open Text Interaction

variable {before after line text : Text} {point : CodePoint}

theorem jsonLooking_append_spaces (spaces : ∀ point ∈ before, isSpace point = true) :
    jsonLooking (before ++ after) = jsonLooking after := by
  unfold jsonLooking lstrip
  rw [List.dropWhile_append_of_pos spaces]

theorem jsonLooking_append_visible (visible : ¬∀ point ∈ before, isSpace point = true) :
    jsonLooking (before ++ after) = jsonLooking before := by
  unfold jsonLooking lstrip
  rw [List.dropWhile_append]
  cases rest : before.dropWhile isSpace with
  | nil => exact absurd (List.dropWhile_eq_nil_iff.mp rest) visible
  | cons point rest => rfl

theorem jsonLooking_of_spaces (spaces : ∀ point ∈ text, isSpace point = true) :
    jsonLooking text = false := by
  have same : jsonLooking (text ++ []) = jsonLooking [] := jsonLooking_append_spaces spaces
  rwa [List.append_nil] at same

theorem spaces_concat (spaces : ∀ point ∈ before, isSpace point = true)
    (boundary : isBoundary point = true) : ∀ other ∈ before ++ [point], isSpace other = true := by
  intro other member
  rcases List.mem_append.mp member with member | member
  · exact spaces other member
  · rw [List.mem_singleton.mp member]
    exact isSpace_of_isBoundary boundary

theorem parts_unbroken_cons (unbroken : ∀ point ∈ before, isBoundary point = false)
    (boundary : isBoundary point = true) :
    parts jsonLooking (before ++ point :: text) =
      [before].filter jsonLooking ++ parts jsonLooking text := by
  rw [parts_append_cons boundary, parts_of_unbroken unbroken]

theorem unbroken_concat (unbroken : ∀ point ∈ before, isBoundary point = false)
    (within : ¬isBoundary point = true) :
    ∀ other ∈ before ++ [point], isBoundary other = false := by
  intro other member
  rcases List.mem_append.mp member with member | member
  · exact unbroken other member
  · rw [List.mem_singleton.mp member]
    exact Bool.eq_false_iff.mpr within

theorem parts_ne_nil (before : Text) (unbroken : ∀ point ∈ before, isBoundary point = false)
    (looks : jsonLooking (before ++ text) = true) : parts jsonLooking (before ++ text) ≠ [] := by
  induction text generalizing before with
  | nil =>
      rw [List.append_nil] at looks ⊢
      rw [parts_of_unbroken unbroken]
      simp [looks]
  | cons point text inductionHypothesis =>
      by_cases boundary : isBoundary point = true
      · rw [parts_unbroken_cons unbroken boundary]
        by_cases spaces : ∀ other ∈ before, isSpace other = true
        · have rest : jsonLooking text = true := by
            rw [← looks, List.append_cons]
            exact (jsonLooking_append_spaces (spaces_concat spaces boundary)).symm
          exact List.append_ne_nil_of_right_ne_nil _ (inductionHypothesis [] nofun rest)
        · rw [jsonLooking_append_visible spaces] at looks
          simp [looks]
      · rw [List.append_cons] at looks ⊢
        exact inductionHypothesis _ (unbroken_concat unbroken boundary) looks

theorem parts_eq_nil (before : Text) (unbroken : ∀ point ∈ before, isBoundary point = false)
    (plain : jsonLooking (before ++ text) = false)
    (others : ∀ earlier boundary after, before ++ text = earlier ++ boundary :: after →
      isBoundary boundary = true → jsonLooking after = false) :
    parts jsonLooking (before ++ text) = [] := by
  induction text generalizing before with
  | nil =>
      rw [List.append_nil] at plain ⊢
      rw [parts_of_unbroken unbroken]
      simp [plain]
  | cons point text inductionHypothesis =>
      by_cases boundary : isBoundary point = true
      · rw [parts_unbroken_cons unbroken boundary]
        have rest : parts jsonLooking text = [] := by
          apply inductionHypothesis [] nofun (others before point text rfl boundary)
          intro earlier other after split
          apply others (before ++ point :: earlier) other after
          rw [List.append_assoc, List.cons_append, ← split]
          rfl
        rw [rest]
        by_cases spaces : ∀ other ∈ before, isSpace other = true
        · simp [jsonLooking_of_spaces spaces]
        · rw [jsonLooking_append_visible spaces] at plain
          simp [plain]
      · rw [List.append_cons] at plain others ⊢
        exact inductionHypothesis _ (unbroken_concat unbroken boundary) plain others

theorem parts_of_spaces (spaces : ∀ point ∈ text, isSpace point = true) :
    parts jsonLooking text = [] := by
  apply parts_eq_nil [] nofun (jsonLooking_of_spaces spaces)
  intro earlier boundary after split _
  apply jsonLooking_of_spaces
  intro point member
  apply spaces
  rw [List.nil_append] at split
  rw [split]
  exact List.mem_append_right _ (List.mem_cons_of_mem _ member)

/-- The line up to the last boundary in its leading white space. -/
def leadingParts (line : Text) : Text :=
  (line.takeWhile isSpace).rdropWhile (fun point => !isBoundary point)

/-- The line from the first boundary after its first visible character. -/
def laterParts (line : Text) : Text := (lstrip line).dropWhile (fun point => !isBoundary point)

theorem line_eq (line : Text) : line = leadingParts line ++ (ownPart line ++ laterParts line) := by
  unfold leadingParts ownPart laterParts lstrip
  rw [List.append_assoc, List.takeWhile_append_dropWhile, ← List.append_assoc,
    List.rdropWhile_append_rtakeWhile, List.takeWhile_append_dropWhile]

theorem isSpace_of_mem_leadingParts (member : point ∈ leadingParts line) :
    isSpace point = true :=
  List.mem_takeWhile_imp ((List.rdropWhile_prefix _ _).subset member)

theorem ownPart_unbroken (line : Text) : ∀ point ∈ ownPart line, isBoundary point = false := by
  intro point member
  rcases List.mem_append.mp member with member | member
  · simpa using List.mem_rtakeWhile_imp member
  · simpa using List.mem_takeWhile_imp member

theorem isBoundary_of_laterParts (later : laterParts line = point :: text) :
    isBoundary point = true := by
  have head := List.head?_dropWhile_not (fun point => !isBoundary point) (lstrip line)
  rw [show (lstrip line).dropWhile (fun point => !isBoundary point) = point :: text from later]
    at head
  simpa using head

theorem parts_leadingParts : parts jsonLooking (leadingParts line ++ text) =
    parts jsonLooking text := by
  by_cases none : leadingParts line = []
  · rw [none]
    rfl
  · have last : ¬(!isBoundary ((leadingParts line).getLast none)) = true :=
      List.rdropWhile_last_not (fun point => !isBoundary point) (line.takeWhile isSpace) none
    have boundary : isBoundary ((leadingParts line).getLast none) = true := by
      simpa using last
    have spaces : ∀ point ∈ (leadingParts line).dropLast, isSpace point = true := by
      intro point member
      exact isSpace_of_mem_leadingParts (List.mem_of_mem_dropLast member)
    rw [← List.dropLast_concat_getLast none, List.append_assoc, List.singleton_append,
      parts_append_cons boundary, parts_of_spaces spaces]
    rfl

theorem parts_ownPart : parts jsonLooking (ownPart line ++ laterParts line) =
    [ownPart line].filter jsonLooking ++ parts jsonLooking (laterParts line) := by
  cases later : laterParts line with
  | nil =>
      rw [List.append_nil, parts_of_unbroken (ownPart_unbroken line), parts_nil rfl,
        List.append_nil]
  | cons boundary after =>
      have broken := isBoundary_of_laterParts later
      rw [parts_unbroken_cons (ownPart_unbroken line) broken, parts_cons rfl broken]

theorem ownPart_visible (later : laterParts line ≠ []) :
    ¬∀ point ∈ ownPart line, isSpace point = true := by
  intro spaces
  cases rest : lstrip line with
  | nil => exact later (by rw [laterParts, rest]; rfl)
  | cons point text =>
      have visible := List.head?_dropWhile_not isSpace line
      rw [show line.dropWhile isSpace = point :: text from rest] at visible
      have visible : isSpace point = false := visible
      have unbroken : (!isBoundary point) = true := by
        cases broken : isBoundary point with
        | false => rfl
        | true => exact absurd (isSpace_of_isBoundary broken) (by simp [visible])
      have member : point ∈ ownPart line := by
        unfold ownPart
        rw [rest, List.takeWhile_cons, if_pos unbroken]
        exact List.mem_append_right _ List.mem_cons_self
      rw [spaces point member] at visible
      cases visible

theorem jsonLooking_ownPart (line : Text) : jsonLooking (ownPart line) = jsonLooking line := by
  have whole : jsonLooking line = jsonLooking (ownPart line ++ laterParts line) := by
    conv_lhs => rw [line_eq line]
    exact jsonLooking_append_spaces fun _ member => isSpace_of_mem_leadingParts member
  rw [whole]
  by_cases later : laterParts line = []
  · rw [later, List.append_nil]
  · exact (jsonLooking_append_visible (ownPart_visible later)).symm

theorem parts_line (line : Text) : parts jsonLooking line =
    [ownPart line].filter jsonLooking ++ parts jsonLooking (laterParts line) := by
  conv_lhs => rw [line_eq line]
  rw [parts_leadingParts, parts_ownPart]

theorem length_ownPart (line : Text) :
    ([ownPart line].filter jsonLooking).length = ([line].filter jsonLooking).length := by
  rw [List.filter_singleton, List.filter_singleton, jsonLooking_ownPart]
  cases jsonLooking line <;> rfl

theorem parts_laterParts_eq_nil_iff : parts jsonLooking (laterParts line) = [] ↔
    ∀ before boundary after, line = before ++ boundary :: after →
      isBoundary boundary = true → jsonLooking after = true →
        ∀ point ∈ before, isSpace point = true := by
  constructor
  · intro none before boundary after split broken looks
    by_contra visible
    have counted := congrArg List.length (parts_line line)
    rw [none, List.append_nil, length_ownPart, split, parts_append_cons broken,
      List.length_append, List.filter_singleton, jsonLooking_append_visible visible] at counted
    have last := List.length_pos_of_ne_nil (parts_ne_nil [] nofun looks)
    rw [List.nil_append] at last
    cases first : jsonLooking before with
    | false =>
        rw [first, cond_false, List.length_nil] at counted
        omega
    | true =>
        have more := List.length_pos_of_ne_nil (parts_ne_nil [] nofun first)
        rw [first, cond_true, List.length_singleton] at counted
        rw [List.nil_append] at more
        omega
  · intro others
    have plain : ∀ earlier boundary after, laterParts line = earlier ++ boundary :: after →
        isBoundary boundary = true → jsonLooking after = false := by
      intro earlier boundary after split broken
      by_contra looks
      have spaces := others (leadingParts line ++ ownPart line ++ earlier) boundary after
        (by rw [List.append_assoc, ← split, List.append_assoc]; exact line_eq line) broken
        (by simpa using looks)
      have nonempty : laterParts line ≠ [] := by simp [split]
      apply ownPart_visible nonempty
      intro point member
      apply spaces
      simp [member]
    rw [← List.nil_append (laterParts line)]
    refine parts_eq_nil [] nofun ?_ plain
    rw [List.nil_append]
    cases later : laterParts line with
    | nil => rfl
    | cons boundary after =>
        have broken := isBoundary_of_laterParts later
        rw [← plain [] boundary after later broken, ← List.singleton_append]
        apply jsonLooking_append_spaces
        intro point member
        rw [List.mem_singleton.mp member]
        exact isSpace_of_isBoundary broken

theorem undivided_iff (python : Python) (line : Text) :
    ([line].filter jsonLooking).map (recognise python) =
        (parts jsonLooking line).map (recognise python) ↔ Undivided python line := by
  rw [parts_line line]
  constructor
  · intro same
    have counted := congrArg List.length same
    rw [List.length_map, List.length_map, List.length_append, length_ownPart] at counted
    have none : parts jsonLooking (laterParts line) = [] := by
      apply List.eq_nil_of_length_eq_zero
      omega
    refine ⟨?_, parts_laterParts_eq_nil_iff.mp none⟩
    intro looks
    rw [none] at same
    simpa [jsonLooking_ownPart, looks] using same.symm
  · intro undivided
    rw [parts_laterParts_eq_nil_iff.mpr undivided.others, List.append_nil,
      List.filter_singleton, List.filter_singleton, jsonLooking_ownPart]
    cases looks : jsonLooking line with
    | false => rfl
    | true => simp [undivided.own looks]

/-- Lists that are made up of pieces, of which none is longer on the one side. -/
theorem flatMap_eq_flatMap_iff {Item Piece : Type} {items : List Item}
    {shorter longer : Item → List Piece}
    (bounded : ∀ item ∈ items, (shorter item).length ≤ (longer item).length) :
    items.flatMap shorter = items.flatMap longer ↔
      ∀ item ∈ items, shorter item = longer item := by
  constructor
  · intro same
    induction items with
    | nil => exact nofun
    | cons item items inductionHypothesis =>
        obtain ⟨first, rest⟩ := List.forall_mem_cons.mp bounded
        have below : (items.flatMap shorter).length ≤ (items.flatMap longer).length := by
          rw [List.length_flatMap, List.length_flatMap]
          exact List.sum_le_sum rest
        have total := congrArg List.length same
        rw [List.flatMap_cons, List.flatMap_cons, List.length_append, List.length_append] at total
        obtain ⟨head, tail⟩ := List.append_inj same (by omega)
        exact List.forall_mem_cons.mpr ⟨head, inductionHypothesis rest tail⟩
  · exact List.flatMap_congr

theorem length_line_le (line : Text) :
    ([line].filter jsonLooking).length ≤ (parts jsonLooking line).length := by
  rw [parts_line line, List.length_append, length_ownPart]
  exact Nat.le_add_right _ _

section

variable (python : Python)

theorem displayed_eq_flatMap (lines : List Text) : displayed python lines =
    lines.flatMap fun line => ([line].filter jsonLooking).map (recognise python) := by
  induction lines with
  | nil => rfl
  | cons line lines inductionHypothesis =>
      rw [List.flatMap_cons, ← inductionHypothesis, displayed, ← List.singleton_append,
        List.filter_append, List.map_append]
      rfl

theorem examined_eq_flatMap (transcript : Bytes) : examined python transcript =
    ((segments 0x0a transcript).map decode).flatMap fun line =>
      (parts jsonLooking line).map (recognise python) := by
  rw [examined, readText, filter_splitlines rfl, parts_translateNewlines rfl, parts_decode rfl,
    List.map_flatMap]

/-- The two readings of one transcript are the same when no line is divided, and only then. -/
theorem displayed_segments_iff (transcript : Bytes) :
    displayed python ((segments 0x0a transcript).map decode) = examined python transcript ↔
      ∀ segment ∈ segments 0x0a transcript, Undivided python (decode segment) := by
  rw [displayed_eq_flatMap, examined_eq_flatMap, flatMap_eq_flatMap_iff, List.forall_mem_map]
  · simp only [undivided_iff]
  · intro line _
    simpa using length_line_le line

theorem recognise_eq_event {line : Text} {event : Event} :
    recognise python line = .ok (some event) ↔ testEvent python line = .ok (some event) := by
  unfold recognise
  cases tested : testEvent python line with
  | ok found => exact Iff.rfl
  | error raised => cases raised <;> simp

/-- Display and validation agree on every record exactly when no line is divided. -/
theorem displayed_eq_examined_iff (terminal : Terminal) (progress : Bool)
    (print : List Text → List Text → Option Raised) (relay : List Text → Text → Option Raised)
    {labels : List Label} {machine : Machine} {status : Int}
    (run : Trace (Step (executeCall python terminal false progress print relay)) .start labels
      machine)
    (finished : machine.location = .finished (.ok status)) :
    displayed python machine.streaming.lines = examined python machine.streaming.output ↔
      ∀ segment ∈ segments 0x0a (received .stdout (reads labels)),
        Undivided python (decode segment) := by
  have kept := Kept.run run
  have output : machine.streaming.output = received .stdout (reads labels) :=
    kept.recorded .stdout
  rw [(kept.flushed finished).lines, output]
  exact displayed_segments_iff python (received .stdout (reads labels))

theorem recognise_error {line : Text} {raised : Raised}
    (failed : recognise python line = .error raised) :
    testEvent python line = .error .recursion ∧ raised = .recursion := by
  unfold recognise at failed
  cases tested : testEvent python line with
  | ok event =>
      rw [tested] at failed
      cases failed
  | error error =>
      rw [tested] at failed
      rcases testEvent_raised tested with ⟨rfl, -⟩ | ⟨reason, rfl⟩
      · cases failed
        exact ⟨rfl, rfl⟩
      · cases failed

theorem displayLine_error {terminal : Terminal} {listOnly : Bool} {line : Text} {raised : Raised}
    (failed : displayLine python terminal listOnly line = .error raised) :
    listOnly = false ∧ testEvent python line = .error .recursion ∧ raised = .recursion := by
  unfold displayLine at failed
  cases listOnly with
  | true => cases failed
  | false =>
      rw [if_neg Bool.false_ne_true] at failed
      cases recognised : recognise python line with
      | error error =>
          rw [recognised] at failed
          cases failed
          exact ⟨rfl, recognise_error python recognised⟩
      | ok found =>
          rw [recognised] at failed
          match found with
          | none => cases failed
          | some (.test state name stdout) => cases failed
          | some (.suite .started event) => cases failed
          | some (.suite .ok event) => cases failed
          | some (.suite .failed event) => cases failed

theorem displayLine_ok (decodes : ∀ line, python.loads line ≠ .error .recursion)
    (terminal : Terminal) (listOnly : Bool) (line : Text) :
    ∃ texts, displayLine python terminal listOnly line = .ok texts := by
  cases displayed : displayLine python terminal listOnly line with
  | ok texts => exact ⟨texts, rfl⟩
  | error raised =>
      obtain ⟨-, nested, -⟩ := displayLine_error python displayed
      exact absurd (testEvent_recursion.mp nested).2 (decodes line)

theorem executeCall_quiet (decodes : ∀ line, python.loads line ≠ .error .recursion)
    (terminal : Terminal) (listOnly progress : Bool) :
    Quiet (executeCall python terminal listOnly progress (fun _ _ => none) (fun _ _ => none)) where
  onLine lines line := by
    obtain ⟨texts, printed⟩ := displayLine_ok python decodes terminal listOnly line
    simp [executeCall, printed]
  relay _ _ := rfl

end

def ascii (string : String) : Bytes := string.toList.map fun char => UInt8.ofNat char.toNat

def lineSeparator : Bytes := [0xe2, 0x80, 0xa8]

def separatedEvent : Bytes :=
  ascii "\x7b\"type\":\"test\",\"event\":\"failed\",\"name\":\"a\",\"stdout\":\"x" ++
    lineSeparator ++ ascii "y\"\x7d"

def separatedFailure : Python where
  loads line :=
    if line = decode separatedEvent then
      .ok (.dict [(ofString "type", .str (ofString "test")),
        (ofString "event", .str (ofString "failed")), (ofString "name", .str (ofString "a")),
        (ofString "stdout", .str (ofString "x" ++ [0x2028] ++ ofString "y"))])
    else .error (.decode (ofString "Unterminated string starting at"))
  repr _ := ofString "None"
  isalnum _ := true
  sha256 _ := []

theorem separatedFailure_decodes (line : Text) :
    separatedFailure.loads line ≠ .error .recursion := by
  unfold separatedFailure
  dsimp only
  split_ifs <;> nofun

/-- A process that writes one transcript at once, under a display that prints without fail. -/
theorem runs_once (python : Python) (decodes : ∀ line, python.loads line ≠ .error .recursion)
    (terminal : Terminal) (transcript : Bytes) (written : transcript ≠ []) :
    ∃ labels machine,
      Trace (Step (executeCall python terminal false false (fun _ _ => none) (fun _ _ => none)))
        .start labels machine ∧
      machine.location = .finished (.ok 0) ∧
      received .stdout (reads labels) = transcript ∧
      machine.streaming.lines = (segments 0x0a transcript).map decode ∧
      machine.streaming.output = transcript := by
  have schedule : Schedule false {.stdout, .stderr}
      [(.stdout, .bytes transcript), (.stdout, .bytes []), (.stderr, .bytes [])] := by
    apply Schedule.chunk (by decide) written
    apply Schedule.finish (by decide) rfl
    apply Schedule.finish (by decide) rfl
    exact .drained
  obtain ⟨labels, machine, read, finished, run⟩ :=
    (executeCall_quiet python decodes terminal false false).returns (show 0 < 180 by decide) 0
      schedule
  have kept := Kept.run run
  have taken : received .stdout (reads labels) = transcript := by
    rw [read]
    exact List.append_nil transcript
  refine ⟨labels, machine, run, finished, taken, ?_, (kept.recorded .stdout).trans taken⟩
  rw [(kept.flushed finished).lines, taken]

def isEvent : Except Raised (Option Event) → Bool
  | .ok (some _) => true
  | _ => false

/-- The display shows the failed test; the validation finds a malformed record. -/
theorem displayed_ne_examined_separator :
    ∃ labels machine,
      Trace (Step (executeCall separatedFailure ⟨false, false, false, false⟩ false false
        (fun _ _ => none) (fun _ _ => none))) .start labels machine ∧
      machine.location = .finished (.ok 0) ∧
      received .stdout (reads labels) = separatedEvent ++ [0x0a] ∧
      displayed separatedFailure machine.streaming.lines ≠
        examined separatedFailure machine.streaming.output := by
  obtain ⟨labels, machine, run, finished, taken, lines, output⟩ :=
    runs_once separatedFailure separatedFailure_decodes ⟨false, false, false, false⟩
      (separatedEvent ++ [0x0a]) (by simp)
  refine ⟨labels, machine, run, finished, taken, ?_⟩
  rw [lines, output]
  intro same
  have differs : (displayed separatedFailure
        ((segments 0x0a (separatedEvent ++ [0x0a])).map decode)).map isEvent ≠
      (examined separatedFailure (separatedEvent ++ [0x0a])).map isEvent := by
    decide +kernel
  exact differs (congrArg _ same)

def notedStart : Bytes :=
  ascii "no" ++ lineSeparator ++ ascii "te\n\x7b\"type\":\"suite\"," ++
    ascii "\"event\":\"started\",\"test_count\":1\x7d\n"

/-- A separator in a plain line before the start of a suite. -/
theorem displayed_eq_examined_iff_note :
    ∃ labels machine,
      Trace (Step (executeCall oneSuite ⟨false, false, false, false⟩ false false
        (fun _ _ => none) (fun _ _ => none))) .start labels machine ∧
      displayed oneSuite machine.streaming.lines = examined oneSuite machine.streaming.output ∧
      ∀ segment ∈ segments 0x0a (received .stdout (reads labels)),
        Undivided oneSuite (decode segment) := by
  obtain ⟨labels, machine, run, finished, taken, lines, output⟩ :=
    runs_once oneSuite oneSuite_decodes ⟨false, false, false, false⟩ notedStart (by decide)
  have same : displayed oneSuite machine.streaming.lines =
      examined oneSuite machine.streaming.output := by
    rw [lines, output]
    exact congrArg (List.map (recognise oneSuite)) (by decide +kernel)
  exact ⟨labels, machine, run, same,
    (displayed_eq_examined_iff oneSuite ⟨false, false, false, false⟩ false _ _ run finished).mp
      same⟩

end DirectLine.Host
