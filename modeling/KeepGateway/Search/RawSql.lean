import KeepGateway.Lib.Templates

/-!
# Raw SQL of presets

`SearchEngine._create_raw_sql`: the placeholders of a template are replaced by the values of its
parameters, one after another, the last one first.
-/

namespace KeepGateway
namespace Search

open Replace Templates

/-!
## The query
-/

/-- The characters of an `int` or a `float` as `str` writes them. -/
def isNumeralChar (c : Char) : Bool :=
  c.isDigit || decide (c ∈ ['+', '-', '.', 'e', 'i', 'n', 'f', 'a'])

/-- What `str` writes of a number. -/
structure Numeral where
  text : List Char
  ne_nil : text ≠ []
  wellFormed : text.all isNumeralChar = true

inductive ParamValue where
  | string (text : List Char)
  | number (value : Numeral)

/-- `f"'\x7bvalue\x7d'"` of a string, `str(value)` of a number. -/
def ParamValue.rendered : ParamValue -> List Char
  | .string text => '\'' :: (text ++ ['\''])
  | .number value => value.text

/-- `_create_raw_sql`, on the items of `params`. -/
def createRawSql (sqlTemplate : List Char) (params : List (List Char × ParamValue)) : List Char :=
  params.reverse.foldl
    (fun sqlTemplate param => replaceAll (':' :: param.1) param.2.rendered 0 sqlTemplate)
    sqlTemplate

/-!
## Placeholders
-/

/-- `params_k` -/
def paramKey (k : Nat) : List Char := "params_".toList ++ Nat.toDigits 10 k

def placeholder (k : Nat) : List Char := ':' :: paramKey k

/-- The items of a dictionary with the keys `params_1`, `params_2` and so on. -/
def numbered (values : List ParamValue) : List (List Char × ParamValue) :=
  (values.zipIdx 1).map fun item => (paramKey item.2, item.1)

/-- The index of the placeholder at the start of the text, all digits of which are read. -/
def placeholderAt (n : Nat) (text : List Char) : Option Nat :=
  if ":params_".toList <+: text then
    (List.range' 1 n).find? fun k =>
      decide (Nat.toDigits 10 k = (text.drop ":params_".toList.length).takeWhile Char.isDigit)
  else none

/-- The template of a text, with a slot for each placeholder.  Of a placeholder that was found,
`skip` characters are left to pass. -/
def template (n : Nat) : Nat -> List Char -> List (Piece Char)
  | _, [] => []
  | skip + 1, _ :: rest => template n skip rest
  | 0, c :: rest =>
      match placeholderAt n (c :: rest) with
      | some k => .slot k :: template n (paramKey k).length rest
      | none => .element c :: template n 0 rest

/-- What is written for the `k`-th parameter. -/
def renderedAt (values : List ParamValue) (k : Nat) : List Char :=
  (values[k - 1]?.map ParamValue.rendered).getD []

/-- The text with the value of its own for each placeholder. -/
def substituted (values : List ParamValue) (sqlTemplate : List Char) : List Char :=
  fill (renderedAt values) (template values.length 0 sqlTemplate)

def Simultaneous (values : List ParamValue) (sqlTemplate : List Char) : Prop :=
  createRawSql sqlTemplate (numbered values) = substituted values sqlTemplate

/-- With the values of the parameters after it in place, `:params_k` occurs where it is a
placeholder and nowhere else. -/
def PlaceholdersAlone (values : List ParamValue) (sqlTemplate : List Char) : Prop :=
  forall k, 0 < k -> k ≤ values.length ->
    Alone placeholder (renderedAt values) (template values.length 0 sqlTemplate) k

/-- No placeholder is directly followed by another one, or by `:p`. -/
def Separated (n : Nat) (sqlTemplate : List Char) : Prop :=
  Apart ':' 'p' Char.isDigit (template n 0 sqlTemplate)

end Search
end KeepGateway
