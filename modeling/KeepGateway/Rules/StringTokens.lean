import KeepGateway.Lib.Interleaved
import KeepGateway.Rules.PreprocessCel

/-!
# String literals of CEL expressions

The string literals that a CEL lexer reads in a text, and the expressions as code that alternates
with them.
-/

namespace KeepGateway
namespace Rules

open Interleaved

/-!
## The lexer
-/

def isNewline (c : Char) : Bool := c == '\n' || c == '\r'

/-- What is read up to the closing quote; `escaped` after a backslash, which is none in a raw
literal. -/
def readBody (q : Char) (raw : Bool) : Bool -> List Char -> Option (List Char)
  | _, [] => none
  | escaped, c :: rest =>
      if isNewline c then none
      else if escaped = false ∧ c = q then some [c]
      else (readBody q raw (!escaped && !raw && c == '\\') rest).map fun body => c :: body

/-- What is read up to three closing quotes. -/
def readTripleBody (q : Char) (raw : Bool) : Bool -> List Char -> Option (List Char)
  | _, [] => none
  | escaped, c :: rest =>
      if escaped = false ∧ c = q ∧ rest.take 2 = [q, q] then some [q, q, q]
      else (readTripleBody q raw (!escaped && !raw && c == '\\') rest).map fun body => c :: body

/-- The literal at the start of a text that begins with a quote. -/
def readLiteral (raw : Bool) : List Char -> Option (List Char)
  | [] => none
  | q :: rest =>
      if rest.take 2 = [q, q] then
        (readTripleBody q raw false (rest.drop 2)).map fun body => q :: q :: q :: body
      else (readBody q raw false rest).map fun body => q :: body

/-- An `r` right before the opening quote makes a literal raw. -/
def isRawMark (c : Char) : Bool := c == 'r' || c == 'R'

/-- The string literals of a text from left to right; none where one is not closed.  Of a literal
that was read, `skip` characters are left to pass. -/
def stringTokens : Nat -> Bool -> List Char -> Option (List (List Char))
  | _, _, [] => some []
  | skip + 1, _, _ :: rest => stringTokens skip false rest
  | 0, raw, c :: rest =>
      if isQuote c then
        match readLiteral raw (c :: rest) with
        | none => none
        | some literal =>
            (stringTokens (literal.length - 1) false rest).map fun tokens => literal :: tokens
      else stringTokens 0 (isRawMark c) rest

/-!
## Expressions
-/

/-- The code ends with the mark of a raw literal. -/
def endsRaw (code : List Char) : Bool := code.getLast?.any isRawMark

/-- The text is one literal. -/
def IsLiteral (raw : Bool) (literal : List Char) : Prop :=
  (exists q rest, literal = q :: rest ∧ isQuote q = true) ∧ readLiteral raw literal = some literal

/-- The code is one of the words for a severity. -/
def isSeverityWord (code : List Char) : Bool :=
  severities.any fun severity => readWord severity.1 code == some []

/-- Code without quotes that alternates with literals.  Two literals are never next to each other,
or with nothing but one word between them that is no operator. -/
def WellFormed : List Char -> List (List Char × List Char) -> Prop
  | code, [] => Unmarked isQuote code
  | code, (literal, next) :: more =>
      Unmarked isQuote code ∧ IsLiteral (endsRaw code) literal ∧
        (more ≠ [] -> next ≠ [] ∧ isSeverityWord next = false) ∧ WellFormed next more

/-- The text of code that alternates with literals. -/
def joinedText : List Char -> List (List Char × List Char) -> List Char
  | code, [] => code
  | code, (literal, next) :: more => code ++ (literal ++ joinedText next more)

/-- An expression without comments: its code up to the first literal, and each literal with the
code that follows it. -/
structure Expression where
  first : List Char
  rest : List (List Char × List Char)
  wellFormed : WellFormed first rest

def Expression.text (expression : Expression) : List Char :=
  joinedText expression.first expression.rest

section

variable (isAlnum : Char -> Bool)

/-- The comparison that the end of the code makes with a literal, with the code before it. -/
def operandOf (literal : List Char) : List Char -> Option (List Char × Comparison)
  | [] => none
  | c :: code =>
      match readComparison isAlnum (c :: (code ++ literal)) with
      | some (comparison, _) => some ([], comparison)
      | none => (operandOf literal code).map fun found => (c :: found.1, found.2)

/-- The comparison is one of a severity, which is turned into a number. -/
def Comparison.isSeverity (comparison : Comparison) : Bool :=
  decide (lower comparison.fieldName = "severity".toList) &&
    (severityOrder comparison.matchedValue).isSome

/-- The literal after the code is the right operand of a comparison of a severity. -/
def isSeverityOperand (code literal : List Char) : Bool :=
  (operandOf isAlnum literal code).any fun found => found.2.isSeverity

/-- The literals that are not turned into numbers. -/
def keptLiterals : List Char -> List (List Char × List Char) -> List (List Char)
  | _, [] => []
  | code, (literal, next) :: more =>
      if isSeverityOperand isAlnum code literal then keptLiterals next more
      else literal :: keptLiterals next more

/-- The literals of the preprocessed expression are those of the expression, without the severities
that are turned into numbers. -/
def KeepsLiterals (expression : Expression) : Prop :=
  stringTokens 0 false (preprocessCelExpression isAlnum expression.text) =
    some (keptLiterals isAlnum expression.first expression.rest)

/-!
## The condition
-/

/-- The matches of the first pattern, as `re.finditer` gives them. -/
def comparisons : Nat -> List Char -> List Comparison
  | _, [] => []
  | skip + 1, _ :: rest => comparisons skip rest
  | 0, c :: rest =>
      match readComparison isAlnum (c :: rest) with
      | none => comparisons 0 rest
      | some (comparison, after) =>
          comparison :: comparisons ((c :: rest).length - after.length - 1) rest

/-- The word occurs between two characters that are neither of a word nor quotes. -/
def hasFreeWord (word : List Char) : Option Char -> List Char -> Bool
  | _, [] => false
  | before, c :: rest =>
      isFreeWord isAlnum word before (c :: rest) || hasFreeWord word (some c) rest

/-- No comparison of a severity or a source with a quoted severity is in the text, and neither of
the words `source` and `deleted`, unless it is next to a quote. -/
structure Untouched (text : List Char) : Prop where
  comparisons : forall comparison, comparison ∈ comparisons isAlnum 0 text ->
    comparison.isSeverity = false ∧ lower comparison.fieldName ≠ "source".toList
  source : hasFreeWord isAlnum "source".toList none text = false
  deleted : hasFreeWord isAlnum "deleted".toList none text = false

end

end Rules
end KeepGateway
