import DirectLine.Text.CodePoint
import DirectLine.Text.Transducer

/-!
# Lines

`str.splitlines` and the newline translation of text files, as transducers.
-/

namespace DirectLine.Text

/-- The line read so far, and whether a line feed would belong to the boundary just read. -/
structure Splitting where
  pending : Text
  afterReturn : Bool
  deriving DecidableEq

/-- Carriage return and line feed together are one boundary; no line starts after the last. -/
def lineSplitter : Transducer Splitting CodePoint Text where
  start := ⟨[], false⟩
  step splitting point :=
    if splitting.afterReturn && point = lineFeed then (⟨[], false⟩, [])
    else if isBoundary point then (⟨[], point = carriageReturn⟩, [splitting.pending])
    else (⟨splitting.pending ++ [point], false⟩, [])
  finish splitting := if splitting.pending = [] then [] else [splitting.pending]

section

variable {splitting : Splitting} {point : CodePoint}

theorem lineSplitter_step_pair (pair : (splitting.afterReturn && point = lineFeed) = true) :
    lineSplitter.step splitting point = (⟨[], false⟩, []) := if_pos pair

theorem lineSplitter_step_boundary (single : ¬(splitting.afterReturn && point = lineFeed) = true)
    (boundary : isBoundary point = true) :
    lineSplitter.step splitting point =
      (⟨[], point = carriageReturn⟩, [splitting.pending]) :=
  (if_neg single).trans (if_pos boundary)

theorem lineSplitter_step_point (single : ¬(splitting.afterReturn && point = lineFeed) = true)
    (unbroken : ¬isBoundary point = true) :
    lineSplitter.step splitting point = (⟨splitting.pending ++ [point], false⟩, []) :=
  (if_neg single).trans (if_neg unbroken)

end

/-- `str.splitlines()`. -/
def splitlines (text : Text) : List Text := lineSplitter.output text

/-- Universal newlines: what a text file opened for reading makes of its line endings. -/
def newlineTranslator : Transducer Bool CodePoint CodePoint where
  start := false
  step afterReturn point :=
    if afterReturn && point = lineFeed then (false, [])
    else if point = carriageReturn then (true, [lineFeed])
    else (false, [point])
  finish _ := []

section

variable {afterReturn : Bool} {point : CodePoint}

theorem newlineTranslator_step_pair (pair : (afterReturn && point = lineFeed) = true) :
    newlineTranslator.step afterReturn point = (false, []) := if_pos pair

theorem newlineTranslator_step_return (single : ¬(afterReturn && point = lineFeed) = true)
    (isReturn : point = carriageReturn) :
    newlineTranslator.step afterReturn point = (true, [lineFeed]) :=
  (if_neg single).trans (if_pos isReturn)

theorem newlineTranslator_step_point (single : ¬(afterReturn && point = lineFeed) = true)
    (other : point ≠ carriageReturn) :
    newlineTranslator.step afterReturn point = (false, [point]) :=
  (if_neg single).trans (if_neg other)

end

def translateNewlines (text : Text) : Text := newlineTranslator.output text

example : splitlines (ofString "a\r\n\nb\rc") =
    [ofString "a", [], ofString "b", ofString "c"] := by decide

end DirectLine.Text
