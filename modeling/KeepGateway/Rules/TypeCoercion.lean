import KeepGateway.Lib.Spans
import KeepGateway.Rules.PreprocessCel

/-!
# The type coercion fallback

`RulesEngine._coerce_eq_type_error`, which reads the text of an expression once more where a
comparison has no overload for the types of its sides.
-/

namespace KeepGateway
namespace Rules

open Spans

/-- The values of an activation; those that are no string, integer or map by their `str`. -/
inductive CelValue where
  | string (value : List Char)
  | int (value : Int)
  | map (entries : List (List Char × CelValue))
  | other (text : List Char)

inductive EqualityOp where
  | eq
  | ne
  deriving DecidableEq, Repr

/-- The comparison of two texts. -/
def EqualityOp.holds : EqualityOp -> List Char -> List Char -> Bool
  | eq, left, right => left == right
  | ne, left, right => left != right

/-- What Python and celpy make of texts and values: `str` of the `int` of a text, or of its
`float`, if it is the text of one; the value of the content of a string literal; and `str` of a
map. -/
structure Reading where
  number : List Char -> Option (List Char)
  number_ampersand : forall text, '&' ∈ text -> number text = none
  decode : List Char -> List Char
  /-- an escape stands for one character -/
  length_decode_le : forall content, (decode content).length ≤ content.length
  mapText : List (List Char × CelValue) -> List Char

/-- `str(value)`; none is `None`. -/
def Reading.str (reading : Reading) : Option CelValue -> List Char
  | none => "None".toList
  | some (.string value) => value
  | some (.int value) => (toString value).toList
  | some (.map entries) => reading.mapText entries
  | some (.other text) => text

/-!
## The fallback
-/

/-- `[a-zA-Z0-9_\.]` -/
def isPathChar (c : Char) : Bool := c.isAlphanum || c == '_' || c == '.'

/-- `get_nested` -/
def getNested (d : Option CelValue) : List (List Char) -> Option CelValue
  | [] => d
  | part :: rest =>
      match d with
      | some (.map entries) => getNested (entries.lookup part) rest
      | _ => none

/-- `([!=]=)` and what follows. -/
def readEqualityOp : List Char -> Option (EqualityOp × List Char)
  | '=' :: '=' :: rest => some (.eq, rest)
  | '!' :: '=' :: rest => some (.ne, rest)
  | _ => none

/-- `\s*(.+)`; of blanks alone the group takes the last one that it can. -/
def readLine (text : List Char) : Option (List Char) :=
  match text.dropWhile isSpace with
  | [] => (text.filter fun c => c ≠ '\n').getLast?.map fun c => [c]
  | rest => some (rest.takeWhile fun c => c ≠ '\n')

/-- The groups of the pattern. -/
def readEquality (cel : List Char) : Option (List Char × EqualityOp × List Char) :=
  match cel.takeWhile isPathChar with
  | [] => none
  | left =>
      match readEqualityOp ((cel.dropWhile isPathChar).dropWhile isSpace) with
      | none => none
      | some (op, rest) => (readLine rest).map fun line => (left, op, line)

/-- The right side without blanks around it, and without quotes if it is in quotes. -/
def rightOf (line : List Char) : List Char :=
  let right := strip isSpace line
  if right.head? = some '"' ∧ right.getLast? = some '"' then strip (fun c => c == '"') right
  else right

/-- The text that the left side is compared with. -/
def Reading.rightText (reading : Reading) (right : List Char) : List Char :=
  (reading.number right).getD right

/-- `str(get_nested(activation, path))` -/
def Reading.leftText (reading : Reading) (activation : List (List Char × CelValue))
    (path : List Char) : List Char :=
  reading.str (getNested (some (.map activation)) (path.splitOn '.'))

/-- `_coerce_eq_type_error` -/
def coerceEqTypeError (reading : Reading) (cel : List Char)
    (activation : List (List Char × CelValue)) : Bool :=
  match readEquality cel with
  | none => false
  | some (left, op, line) =>
      op.holds (reading.leftText activation left) (reading.rightText (rightOf line))

end Rules
end KeepGateway
