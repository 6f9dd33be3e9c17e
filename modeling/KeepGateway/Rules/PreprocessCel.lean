import Mathlib.Data.List.Basic
import Mathlib.Data.List.Infix

/-!
# Preprocessing of CEL expressions

`preprocess_cel_expression`: the three substitutions, one after another, on the raw text.
-/

namespace KeepGateway
namespace Rules

/-!
## Characters
-/

def isQuote (c : Char) : Bool := c == '"' || c == '\''

/-- `\s` and `str.isspace` -/
def isSpace (c : Char) : Bool :=
  let n := c.toNat
  (0x09 ≤ n && n ≤ 0x0d) || (0x1c ≤ n && n ≤ 0x20) || n == 0x85 || n == 0xa0 || n == 0x1680 ||
    (0x2000 ≤ n && n ≤ 0x200a) || n == 0x2028 || n == 0x2029 || n == 0x202f || n == 0x205f ||
    n == 0x3000

/-- `\w`, for a table of the characters beyond ASCII that `str.isalnum` takes. -/
def isWord (isAlnum : Char -> Bool) (c : Char) : Bool :=
  if c.toNat < 128 then c.isAlphanum || c == '_' else isAlnum c && !isSpace c

/-- A letter of a pattern under `re.IGNORECASE`. -/
def sameLetter (p c : Char) : Bool :=
  c.toLower == p || (p == 'i' && (c == '\u0130' || c == '\u0131')) || (p == 's' && c == '\u017f')

/-- What follows a word of the pattern, if the text starts with it. -/
def readWord : List Char -> List Char -> Option (List Char)
  | [], text => some text
  | p :: ps, c :: text => if sameLetter p c then readWord ps text else none
  | _ :: _, [] => none

/-!
## Comparisons
-/

/-- The members of `AlertSeverity`, with their orders. -/
def severities : List (List Char × Nat) :=
  [("critical".toList, 5), ("high".toList, 4), ("warning".toList, 3), ("info".toList, 2),
    ("low".toList, 1)]

/-- `[=><!]=?`; giving the `=` back would leave it where a quote or a blank has to follow. -/
def readOperator : List Char -> Option (List Char × List Char)
  | [] => none
  | c :: rest =>
      if c = '=' ∨ c = '>' ∨ c = '<' ∨ c = '!' then
        match rest with
        | '=' :: rest => some ([c, '='], rest)
        | rest => some ([c], rest)
      else none

/-- A severity in quotes, without the quotes, and what follows. -/
def readSeverity : List Char -> Option (List Char × List Char)
  | [] => none
  | q :: rest =>
      if isQuote q then
        severities.findSome? fun severity =>
          match readWord severity.1 rest with
          | some (q' :: after) =>
              if q' = q then some (rest.take severity.1.length, after) else none
          | _ => none
      else none

/-- What the groups of the first pattern match. -/
structure Comparison where
  fieldName : List Char
  operator : List Char
  quote : Char
  matchedValue : List Char

/-- `match.group(3)` -/
def Comparison.literal (comparison : Comparison) : List Char :=
  comparison.quote :: (comparison.matchedValue ++ [comparison.quote])

section

variable (isAlnum : Char -> Bool)

/-- `(\w+)\s*([=><!]=?)\s*`, with the field, the operator and what follows. -/
def readOperand (text : List Char) : Option (List Char × List Char × List Char) :=
  match text.takeWhile (isWord isAlnum) with
  | [] => none
  | fieldName =>
      match readOperator ((text.dropWhile (isWord isAlnum)).dropWhile isSpace) with
      | none => none
      | some (operator, rest) => some (fieldName, operator, rest.dropWhile isSpace)

/-- The match of the first pattern at the start of the text, and what follows it. -/
def readComparison (text : List Char) : Option (Comparison × List Char) :=
  match readOperand isAlnum text with
  | none => none
  | some (fieldName, operator, rest) =>
      (readSeverity rest).map fun found =>
        (⟨fieldName, operator, rest.headD '"', found.1⟩, found.2)

end

def lower (text : List Char) : List Char := text.map Char.toLower

/-- The order of a severity, which is given in any case. -/
def severityOrder (value : List Char) : Option Nat := severities.lookup (lower value)

/-- `replace_matched`; none for `match.group(0)` -/
def Comparison.replacement (comparison : Comparison) : Option (List Char) :=
  if lower comparison.fieldName = "severity".toList then
    (severityOrder comparison.matchedValue).map fun order =>
      comparison.fieldName ++ [' '] ++ comparison.operator ++ [' '] ++ (toString order).toList
  else if lower comparison.fieldName = "source".toList then
    some ("provider_type ".toList ++ comparison.operator ++ [' '] ++ comparison.literal)
  else none

section

variable (isAlnum : Char -> Bool)

/-- `re.sub` with the first pattern.  Of a match that was found, `skip` characters are left to
pass. -/
def subComparisons : Nat -> List Char -> List Char
  | _, [] => []
  | skip + 1, _ :: rest => subComparisons skip rest
  | 0, c :: rest =>
      match readComparison isAlnum (c :: rest) with
      | none => c :: subComparisons 0 rest
      | some (comparison, after) =>
          let matched := (c :: rest).take ((c :: rest).length - after.length)
          comparison.replacement.getD matched ++ subComparisons (matched.length - 1) rest

/-- `(?<!['"])\bword\b(?!['"])` at the start of the text, which comes after `before`. -/
def isFreeWord (word : List Char) (before : Option Char) (text : List Char) : Bool :=
  (before.all fun c => !isQuote c && !isWord isAlnum c) &&
    match readWord word text with
    | some (c :: _) => !isQuote c && !isWord isAlnum c
    | some [] => true
    | none => false

/-- `re.sub` with the pattern of a word. -/
def subWord (word replacement : List Char) : Nat -> Option Char -> List Char -> List Char
  | _, _, [] => []
  | skip + 1, _, c :: rest => subWord word replacement skip (some c) rest
  | 0, before, c :: rest =>
      if isFreeWord isAlnum word before (c :: rest) then
        replacement ++ subWord word replacement (word.length - 1) (some c) rest
      else c :: subWord word replacement 0 (some c) rest

/-- `preprocess_cel_expression` -/
def preprocessCelExpression (celExpression : List Char) : List Char :=
  let modified := subComparisons isAlnum 0 celExpression
  let modified := subWord isAlnum "source".toList "provider_type".toList 0 none modified
  subWord isAlnum "deleted".toList "false".toList 0 none modified

end

end Rules
end KeepGateway
