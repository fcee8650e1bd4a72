import DirectLine.Text.Lines
import DirectLine.Text.Segments
import DirectLine.Text.Utf8

/-!
# Parts between line boundaries

The lines of a text that satisfy a predicate which the empty line does not
satisfy.  For these it makes no difference which boundaries are one line ending
together, so the lines of a text file and those of its bytes can be compared.
-/

namespace DirectLine.Text

variable (keep : Text → Bool)

def parts (text : Text) : List Text := (text.splitOnP isBoundary).filter keep

variable {keep} {earlier later text : Text} {point : CodePoint}

theorem parts_append_cons (boundary : isBoundary point = true) :
    parts keep (earlier ++ point :: later) = parts keep earlier ++ parts keep later := by
  rw [parts, List.splitOnP_append_cons earlier later boundary, List.filter_append]
  rfl

theorem parts_of_unbroken (unbroken : ∀ point ∈ text, isBoundary point = false) :
    parts keep text = [text].filter keep := by
  rw [parts, List.splitOnP_eq_singleton unbroken]

theorem isBoundary_lineFeed : isBoundary lineFeed = true := by decide

theorem isBoundary_carriageReturn : isBoundary carriageReturn = true := by decide

section

variable (empty : keep [] = false)
include empty

theorem parts_nil : parts keep [] = [] := by
  simp [parts, empty]

theorem parts_cons (boundary : isBoundary point = true) :
    parts keep (point :: later) = parts keep later := by
  rw [← List.nil_append (point :: later), parts_append_cons boundary, parts_nil empty]
  rfl

theorem filter_close_lineSplitter (splitting : Splitting) (text : Text)
    (unbroken : ∀ point ∈ splitting.pending, isBoundary point = false)
    (fresh : splitting.afterReturn = true → splitting.pending = []) :
    (lineSplitter.close splitting text).filter keep = parts keep (splitting.pending ++ text) := by
  induction text generalizing splitting with
  | nil =>
      rw [List.append_nil, parts_of_unbroken unbroken]
      by_cases nothing : splitting.pending = [] <;>
        simp [Transducer.close, lineSplitter, nothing, empty]
  | cons point text inductionHypothesis =>
      rw [Transducer.close_cons, List.filter_append]
      by_cases pair : (splitting.afterReturn && point = lineFeed) = true
      · rw [lineSplitter_step_pair pair, inductionHypothesis _ (by simp) (by simp)]
        rw [Bool.and_eq_true, decide_eq_true_eq] at pair
        rw [fresh pair.1, pair.2]
        exact (parts_cons empty isBoundary_lineFeed).symm
      · by_cases boundary : isBoundary point = true
        · rw [lineSplitter_step_boundary pair boundary, inductionHypothesis _ (by simp) (by simp),
            parts_append_cons boundary, parts_of_unbroken unbroken]
          rfl
        · rw [lineSplitter_step_point pair boundary, inductionHypothesis]
          · simp
          · intro other member
            rcases List.mem_append.mp member with member | member
            · exact unbroken other member
            · rw [List.mem_singleton.mp member]
              exact Bool.eq_false_iff.mpr boundary
          · simp

theorem filter_splitlines : (splitlines text).filter keep = parts keep text :=
  filter_close_lineSplitter empty ⟨[], false⟩ text (by simp) (by simp)

theorem parts_close_newlineTranslator (afterReturn : Bool) (before text : Text)
    (fresh : afterReturn = true → before = []) :
    parts keep (before ++ newlineTranslator.close afterReturn text) =
      parts keep (before ++ text) := by
  induction text generalizing afterReturn before with
  | nil => rfl
  | cons point text inductionHypothesis =>
      rw [Transducer.close_cons]
      by_cases pair : (afterReturn && point = lineFeed) = true
      · rw [newlineTranslator_step_pair pair]
        rw [Bool.and_eq_true, decide_eq_true_eq] at pair
        rw [fresh pair.1, pair.2]
        have translated := inductionHypothesis false [] nofun
        exact translated.trans (parts_cons empty isBoundary_lineFeed).symm
      · by_cases isReturn : point = carriageReturn
        · have translated := inductionHypothesis true [] (fun _ => rfl)
          rw [newlineTranslator_step_return pair isReturn, isReturn, List.singleton_append,
            parts_append_cons isBoundary_lineFeed, parts_append_cons isBoundary_carriageReturn]
          exact congrArg _ translated
        · have translated := inductionHypothesis false (before ++ [point]) nofun
          rw [newlineTranslator_step_point pair isReturn]
          simpa using translated

/-- Of the lines of a text file, too, only the boundaries between them matter. -/
theorem parts_translateNewlines : parts keep (translateNewlines text) = parts keep text :=
  parts_close_newlineTranslator empty false [] text nofun

end

section

variable (empty : keep [] = false)
include empty

theorem parts_decode_close (pending bytes : Bytes) :
    (((cutter 0x0a).close pending bytes).map decode).flatMap (parts keep) =
      parts keep (decode (pending ++ bytes)) := by
  induction bytes generalizing pending with
  | nil =>
      rw [List.append_nil]
      by_cases nothing : pending = []
      · have none : parts keep (decode []) = [] := parts_nil empty
        simp [Transducer.close, cutter, nothing, none]
      · simp [Transducer.close, cutter, nothing]
  | cons byte bytes inductionHypothesis =>
      rw [Transducer.close_cons]
      by_cases separates : byte = 0x0a
      · have following := inductionHypothesis []
        rw [List.nil_append] at following
        rw [separates, cutter_step_separator, decode_append_lineFeed,
          parts_append_cons isBoundary_lineFeed, ← following]
        simp
      · rw [cutter_step_of_ne separates, List.nil_append, inductionHypothesis, List.append_assoc]
        rfl

/-- The parts of a decoded text are those of its lines, each decoded by itself. -/
theorem parts_decode (bytes : Bytes) :
    parts keep (decode bytes) = ((segments 0x0a bytes).map decode).flatMap (parts keep) := by
  rw [← cutter_output]
  exact (parts_decode_close empty [] bytes).symm

end

end DirectLine.Text
