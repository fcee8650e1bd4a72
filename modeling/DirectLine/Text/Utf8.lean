import DirectLine.Text.CodePoint
import DirectLine.Text.Transducer

/-!
# UTF-8 with replacement

The decoder for `errors="replace"` as a transducer from bytes to code points.
Every maximal ill-formed subsequence becomes one replacement character.
-/

namespace DirectLine.Text

abbrev Bytes := List UInt8

def replacement : CodePoint := 0xfffd

/-- Between characters, or inside one: the code so far, the range of the next byte and how many
bytes follow it. -/
inductive Decoding where
  | start
  | inside (code lower upper more : Nat)
  deriving DecidableEq, Repr

def Decoding.opening (byte : Nat) : Decoding × Text :=
  if byte < 0x80 then (.start, [Fin.ofNat 0x110000 byte])
  else if 0xc2 ≤ byte ∧ byte ≤ 0xdf then (.inside (byte - 0xc0) 0x80 0xbf 0, [])
  else if 0xe0 ≤ byte ∧ byte ≤ 0xef then
    -- Neither overlong forms nor surrogates.
    let lower := if byte = 0xe0 then 0xa0 else 0x80
    let upper := if byte = 0xed then 0x9f else 0xbf
    (.inside (byte - 0xe0) lower upper 1, [])
  else if 0xf0 ≤ byte ∧ byte ≤ 0xf4 then
    let lower := if byte = 0xf0 then 0x90 else 0x80
    let upper := if byte = 0xf4 then 0x8f else 0xbf
    (.inside (byte - 0xf0) lower upper 2, [])
  else (.start, [replacement])

def Decoding.finish : Decoding → Text
  | .start => []
  | .inside _ _ _ _ => [replacement]

def Decoding.step (decoding : Decoding) (byte : UInt8) : Decoding × Text :=
  match decoding with
  | .start => opening byte.toNat
  | .inside code lower upper more =>
      if lower ≤ byte.toNat ∧ byte.toNat ≤ upper then
        let code := code * 0x40 + (byte.toNat - 0x80)
        match more with
        | 0 => (.start, [Fin.ofNat 0x110000 code])
        | more + 1 => (.inside code 0x80 0xbf more, [])
      else ((opening byte.toNat).1, replacement :: (opening byte.toNat).2)

/-- `codecs.getincrementaldecoder("utf-8")("replace")`. -/
def utf8 : Transducer Decoding UInt8 CodePoint where
  start := .start
  step := Decoding.step
  finish := Decoding.finish

/-- `bytes.decode("utf-8", errors="replace")`. -/
def decode (bytes : Bytes) : Text := utf8.output bytes

/-- The bytes `E2 82 AC`, a truncated copy of them, and an encoded surrogate. -/
example : decode [0xe2, 0x82, 0xac, 0xe2, 0x82, 0x41, 0xed, 0xa0] =
    [0x20ac, replacement, 0x41, replacement, replacement] := by decide

namespace Decoding

/-- A decoder inside a character expects no line feed. -/
def Proper : Decoding → Prop
  | .start => True
  | .inside _ lower _ _ => 0x80 ≤ lower

theorem opening_proper (byte : Nat) : (opening byte).1.Proper := by
  unfold opening
  split_ifs <;> simp [Proper]

theorem step_proper (decoding : Decoding) (byte : UInt8) : (decoding.step byte).1.Proper := by
  cases decoding with
  | start => exact opening_proper byte.toNat
  | inside code lower upper more =>
      rw [step]
      split_ifs
      · cases more with
        | zero => trivial
        | succ more => exact Nat.le_refl 0x80
      · exact opening_proper byte.toNat

theorem step_lineFeed {decoding : Decoding} (proper : decoding.Proper) :
    decoding.step 0x0a = (.start, decoding.finish ++ [lineFeed]) := by
  cases decoding with
  | start => rfl
  | inside code lower upper more =>
      have below : ¬(lower ≤ (0x0a : UInt8).toNat ∧ (0x0a : UInt8).toNat ≤ upper) := by
        intro within
        have above : 0x80 ≤ lower := proper
        have small : (0x0a : UInt8).toNat = 0x0a := rfl
        omega
      rw [step, if_neg below]
      rfl

end Decoding

theorem feed_proper (decoding : Decoding) (proper : decoding.Proper) (bytes : Bytes) :
    (utf8.feed decoding bytes).1.Proper := by
  induction bytes generalizing decoding with
  | nil => exact proper
  | cons byte bytes inductionHypothesis =>
      apply inductionHypothesis
      exact decoding.step_proper byte

theorem decode_append_lineFeed (earlier later : Bytes) :
    decode (earlier ++ 0x0a :: later) = decode earlier ++ lineFeed :: decode later := by
  have proper : (utf8.feed .start earlier).1.Proper :=
    feed_proper .start trivial earlier
  have step : utf8.step (utf8.feed .start earlier).1 0x0a =
      (.start, utf8.finish (utf8.feed .start earlier).1 ++ [lineFeed]) :=
    Decoding.step_lineFeed proper
  have split : utf8.close .start (earlier ++ 0x0a :: later) =
      utf8.close .start earlier ++ lineFeed :: utf8.close .start later := by
    rw [Transducer.close_append, Transducer.close_cons, step]
    simp [Transducer.close]
  exact split

end DirectLine.Text
