import DirectLine.Host.Runner

/-!
# Options and operands

A filter is any text.  `command_line` puts it behind the separator that ends the
options, so that position alone keeps it from being one.
-/

namespace DirectLine.Text

theorem ofChar_injective : Function.Injective CodePoint.ofChar := by
  intro char char' same
  have below : ∀ char : Char, char.toNat < 0x110000 := fun char => by
    have valid := char.valid
    simp only [UInt32.isValidChar, Nat.isValidChar] at valid
    show char.val.toNat < 0x110000
    omega
  have values := congrArg Fin.val same
  simp only [CodePoint.ofChar, Fin.val_ofNat, Nat.mod_eq_of_lt (below _)] at values
  exact Char.toNat_inj.mp values

@[simp] theorem ofString_inj {string string' : String} :
    ofString string = ofString string' ↔ string = string' :=
  (List.map_injective_iff.mpr ofChar_injective).eq_iff.trans String.toList_inj

end DirectLine.Text

namespace DirectLine.Host

open Text

def separator : Text := ofString "--"

def options (argv : List Text) : List Text := argv.takeWhile (· ≠ separator)

def operands (argv : List Text) : List Text := (argv.dropWhile (· ≠ separator)).drop 1

section Parts

variable {first rest : List Text}

theorem options_append (free : separator ∉ first) :
    options (first ++ separator :: rest) = first := by
  have each : ∀ word ∈ first, decide (word ≠ separator) = true :=
    fun word member => decide_eq_true fun same => free (same ▸ member)
  rw [options, List.takeWhile_append_of_pos each, List.takeWhile_cons_of_neg (by simp),
    List.append_nil]

theorem operands_append (free : separator ∉ first) :
    operands (first ++ separator :: rest) = rest := by
  have each : ∀ word ∈ first, decide (word ≠ separator) = true :=
    fun word member => decide_eq_true fun same => free (same ▸ member)
  rw [operands, List.dropWhile_append_of_pos each, List.dropWhile_cons_of_neg (by simp)]
  rfl

end Parts

/-- The options that `command_line` may write. -/
def optionNames : List Text :=
  ["--probe", "--chip-description-path", "--chip", "--protocol", "--speed", "--non-interactive",
    "--verify", "--restore-unwritten", "--format", "--target-output-file",
    "--disable-progressbars", "--preverify", "--list", "--ignored"].map ofString

/-- A path that is neither the separator nor an option. -/
structure Plain (path : Text) : Prop where
  separator : path ≠ separator
  option : path ∉ optionNames

/-- The selector of a probe by its serial. -/
def selector (probe : Text) : Text := ofString "0451:bef3-5:" ++ probe

/-- What `command_line` writes before the separator. -/
def writtenOptions (executable target : Text) (args : Arguments) (targetOutput : Text)
    (progress : Bool) : List Text :=
  [executable, ofString "run", ofString "--probe", selector args.probe,
    ofString "--chip-description-path", target, ofString "--chip", ofString "CC1354P10",
    ofString "--protocol", ofString "jtag", ofString "--speed", ofString "1000",
    ofString "--non-interactive", ofString "--verify", ofString "--restore-unwritten",
    ofString "--format", ofString "json", ofString "--target-output-file", targetOutput] ++
  (if progress then [] else [ofString "--disable-progressbars"]) ++
  (if args.forceFlash then [] else [ofString "--preverify"]) ++
  (if args.list then [ofString "--list"] else []) ++
  (if args.ignored then [ofString "--ignored"] else [])

section Written

variable {executable image target targetOutput : Text} {args : Arguments} {progress : Bool}

theorem commandLine_eq (atMostOne : args.filter.length ≤ 1) :
    commandLine executable image target args targetOutput progress =
      .ok (writtenOptions executable target args targetOutput progress ++
        separator :: image :: args.filter) := by
  rw [commandLine, if_neg (Nat.not_lt.mpr atMostOne)]
  rfl

theorem commandLine_filter (filter : Text) :
    commandLine executable image target { args with filter := [filter] } targetOutput progress =
      .ok (writtenOptions executable target args targetOutput progress ++
        [separator, image, filter]) :=
  commandLine_eq (Nat.le_refl 1)

theorem selector_ne {probe : Text} {name : String} (dashed : name.toList.head? = some '-') :
    selector probe ≠ ofString name := by
  intro same
  have heads := congrArg List.head? same
  rw [ofString, List.head?_map, dashed] at heads
  have digit : (selector probe).head? = some (CodePoint.ofChar '0') := rfl
  rw [digit] at heads
  exact absurd (Option.some.inj heads) (by decide)

theorem Plain.ne {path : Text} (plain : Plain path) {name : String}
    (option : ofString name ∈ optionNames) : path ≠ ofString name :=
  fun same => plain.option (same ▸ option)

variable (paths : ∀ path ∈ [executable, target, targetOutput], Plain path)
include paths

theorem separator_notMem :
    separator ∉ writtenOptions executable target args targetOutput progress := by
  obtain ⟨⟨executablePlain, -⟩, ⟨targetPlain, -⟩, ⟨outputPlain, -⟩⟩ :
    Plain executable ∧ Plain target ∧ Plain targetOutput := by simpa using paths
  have selected : separator ≠ selector args.probe := (selector_ne rfl).symm
  unfold writtenOptions
  simp [executablePlain.symm, targetPlain.symm, outputPlain.symm, selected]
  simp [separator]

theorem count_probe :
    (writtenOptions executable target args targetOutput progress).count (ofString "--probe") =
      1 := by
  obtain ⟨executablePlain, targetPlain, outputPlain⟩ :
    Plain executable ∧ Plain target ∧ Plain targetOutput := by simpa using paths
  have named : ofString "--probe" ∈ optionNames := by simp [optionNames]
  have selected : selector args.probe ≠ ofString "--probe" := selector_ne rfl
  simp [writtenOptions, executablePlain.ne named, targetPlain.ne named, outputPlain.ne named,
    selected, List.count_eq_zero]

theorem mem_preverify :
    ofString "--preverify" ∈ writtenOptions executable target args targetOutput progress ↔
      args.forceFlash = false := by
  obtain ⟨executablePlain, targetPlain, outputPlain⟩ :
    Plain executable ∧ Plain target ∧ Plain targetOutput := by simpa using paths
  have named : ofString "--preverify" ∈ optionNames := by simp [optionNames]
  have selected : selector args.probe ≠ ofString "--preverify" := selector_ne rfl
  simp [writtenOptions, (executablePlain.ne named).symm, (targetPlain.ne named).symm,
    (outputPlain.ne named).symm, selected.symm]

end Written

/-- The options do not depend on the filter, which follows the image behind the separator; they
name the requested probe once, always verify, and skip flashing what matches unless forced to. -/
theorem filters_isolated (executable image target targetOutput : Text) (progress : Bool)
    (paths : ∀ path ∈ [executable, target, targetOutput], Plain path) :
    (∀ args : Arguments, args.filter.length ≤ 1 → ∃ argv,
      commandLine executable image target args targetOutput progress = .ok argv ∧
      separator ∈ argv ∧ operands argv = image :: args.filter ∧
      (options argv).count (ofString "--probe") = 1 ∧
      [ofString "--probe", selector args.probe] <:+: options argv ∧
      ofString "--verify" ∈ options argv ∧
      (ofString "--preverify" ∈ options argv ↔ args.forceFlash = false)) ∧
    (∀ (args : Arguments) (filter filter' : Text) (argv argv' : List Text),
      commandLine executable image target { args with filter := [filter] } targetOutput progress =
        .ok argv →
      commandLine executable image target { args with filter := [filter'] } targetOutput progress =
        .ok argv' →
      options argv = options argv' ∧ operands argv = [image, filter] ∧
        operands argv' = [image, filter']) ∧
    ∀ args : Arguments, 1 < args.filter.length →
      commandLine executable image target args targetOutput progress =
        .error (.value (ofString "Specify at most one --filter")) := by
  refine ⟨fun args atMostOne => ?_, fun args filter filter' argv argv' written written' => ?_,
    fun args several => if_pos several⟩
  · refine ⟨_, commandLine_eq atMostOne, by simp, operands_append (separator_notMem paths), ?_⟩
    rw [options_append (separator_notMem paths)]
    refine ⟨count_probe paths, ?_, by simp [writtenOptions], mem_preverify paths⟩
    exact ⟨[executable, ofString "run"], _, rfl⟩
  · rw [commandLine_filter] at written written'
    cases written
    cases written'
    rw [options_append (separator_notMem paths), options_append (separator_notMem paths),
      operands_append (separator_notMem paths), operands_append (separator_notMem paths)]
    exact ⟨rfl, rfl, rfl⟩

/-- A filter that is the separator, and one that looks like an option. -/
theorem filters_isolated_adversarial :
    ∃ argv argv',
      commandLine (ofString "probe-rs") (ofString "image") (ofString "target.yaml")
        ⟨ofString "1", none, [separator], false, true, false⟩ (ofString "target.txt") false =
          .ok argv ∧
      commandLine (ofString "probe-rs") (ofString "image") (ofString "target.yaml")
        ⟨ofString "1", none, [ofString "--probe"], false, true, false⟩ (ofString "target.txt")
          false = .ok argv' ∧
      options argv = options argv' := by
  have plain : ∀ path ∈ [ofString "probe-rs", ofString "target.yaml", ofString "target.txt"],
      Plain path := by
    intro path member
    simp only [List.mem_cons, List.not_mem_nil, or_false] at member
    rcases member with rfl | rfl | rfl <;>
      exact ⟨by simp [separator], by simp [optionNames]⟩
  exact ⟨_, _, rfl, rfl, ((filters_isolated (ofString "probe-rs") (ofString "image")
    (ofString "target.yaml") (ofString "target.txt") false plain).2.1
      ⟨ofString "1", none, [], false, true, false⟩ _ _ _ _ rfl rfl).1⟩

end DirectLine.Host
