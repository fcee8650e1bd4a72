import DirectLine.Text.Utf8

/-!
# Values of the host tools

Decoded JSON, the exceptions the runner distinguishes, and the parts of the
Python library that it calls but does not contain.
-/

namespace DirectLine.Host

open Text

/-- A decoded JSON value.  A float is kept as its `repr`. -/
inductive Json where
  | null
  | bool (value : Bool)
  | int (value : Int)
  | float (repr : Text)
  | str (value : Text)
  | list (items : List Json)
  | dict (items : List (Text × Json))

abbrev Dict := List (Text × Json)

/-- `dict.get(key)`; a missing key gives `None`, as does a null. -/
def Dict.get (dict : Dict) (key : String) : Json := (dict.lookup (ofString key)).getD .null

def Dict.has (dict : Dict) (key : String) : Bool := (dict.lookup (ofString key)).isSome

def Json.isStr (value : Json) (literal : String) : Bool :=
  match value with
  | .str text => text == ofString literal
  | _ => false

inductive Raised where
  /-- `ValueError` and its subclasses, with `str(error)`. -/
  | value (message : Text)
  | recursion
  | timeoutExpired
  | keyboardInterrupt
  | os (message : Text)
  | runtime (message : Text)
  deriving DecidableEq

inductive LoadError where
  | decode (msg : Text)
  /-- Any other `ValueError`, such as the limit on the digits of an integer. -/
  | value (message : Text)
  | recursion
  deriving DecidableEq

structure Python where
  loads : Text → Except LoadError Json
  repr : Json → Text
  isalnum : Text → Bool
  /-- `hashlib.sha256(content).hexdigest()`. -/
  sha256 : Bytes → Text

end DirectLine.Host
