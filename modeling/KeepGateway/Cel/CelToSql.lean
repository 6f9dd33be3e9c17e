import KeepGateway.Cel.SqlProviders

/-!
# From CEL to SQL

`convert_to_sql_str_v2` and the validation of alert filters that runs it.  The
celpy parser is a parameter.
-/

namespace KeepGateway
namespace Cel

/-- `CelDiagnosticCode` -/
inductive DiagnosticCode where
  | syntaxError
  | expectedBoolean
  | unknownField
  | unsupportedExpression
  deriving DecidableEq, Repr

/-- One-based, the end exclusive; nothing where the failure has no reliable location. -/
structure Span where
  line : Option Nat
  column : Option Nat
  endLine : Option Nat
  endColumn : Option Nat
  deriving DecidableEq, Repr

def Span.nowhere : Span := ⟨none, none, none, none⟩

/-- The span of a `CelToSqlException` that is given its start alone. -/
def Span.point (line column : Option Nat) : Span where
  line := line
  column := column
  endLine := line
  endColumn :=
    match column with
    | some c => if c = 0 then none else some (c + 1)
    | none => none

structure CelToSqlException where
  message : String
  code : DiagnosticCode
  span : Span
  deriving DecidableEq, Repr

/-- `CELParseError` -/
structure ParseError where
  message : String
  line : Option Nat
  column : Option Nat

/-- The parser of celpy, and `str()` of an exception. -/
structure Celpy where
  parse : String -> Except ParseError (Tree .expr)
  str : PyException -> String

structure CelToSqlResult where
  sql : String
  involvedFields : List PropertyMetadataInfo
  deriving DecidableEq, Repr

/-- How a conversion ends without a result. -/
inductive Failure where
  | rejected (e : CelToSqlException)
  | raised (e : PyException)
  deriving DecidableEq, Repr

/-!
## Spans
-/

/-- The line boundaries of `str.splitlines`. -/
def isLineBoundary (c : Char) : Bool :=
  let n := c.toNat
  10 <= n && n <= 13 || 28 <= n && n <= 30 || n == 133 || n == 8232 || n == 8233

/-- `splitlines`, where `line` holds the characters of the current line. -/
def splitLines (line : List Char) : List Char -> List (List Char)
  | [] => if line = [] then [] else [line]
  | '\r' :: '\n' :: cs => line :: splitLines [] cs
  | c :: cs => if isLineBoundary c then line :: splitLines [] cs else splitLines (line ++ [c]) cs

theorem splitLines_boundary {line : List Char} {c : Char} {cs : List Char}
    (hcr : forall rest, c = '\r' -> cs = '\n' :: rest -> False) (h : isLineBoundary c = true) :
    splitLines line (c :: cs) = line :: splitLines [] cs := by
  rw [splitLines, if_pos h]
  exact hcr

theorem splitLines_char {line : List Char} {c : Char} {cs : List Char}
    (h : isLineBoundary c = false) :
    splitLines line (c :: cs) = splitLines (line ++ [c]) cs := by
  rw [splitLines, if_neg (by simp [h])]
  intro rest hc _
  rw [hc] at h
  cases h

theorem splitLines_ne_nil {line cs : List Char} (h : line ≠ [] ∨ cs ≠ []) :
    splitLines line cs ≠ [] := by
  induction line, cs using splitLines.induct with
  | case1 => simp at h
  | case2 line hline =>
      rw [splitLines, if_neg hline]
      exact List.cons_ne_nil _ _
  | case3 line cs _ =>
      rw [splitLines]
      exact List.cons_ne_nil _ _
  | case4 line c cs hcr hboundary _ =>
      rw [splitLines_boundary hcr hboundary]
      exact List.cons_ne_nil _ _
  | case5 line c cs hcr hboundary ih =>
      rw [splitLines_char (Bool.eq_false_iff.mpr hboundary)]
      exact ih (Or.inl (by simp))

def wholeExpressionSpan (cel : String) : Span :=
  let lines := splitLines [] cel.toList
  { line := some 1
    column := some 1
    endLine := some (max 1 lines.length)
    endColumn := some ((lines.getLastD []).length + 1) }

/-!
## The conversion
-/

def Node.isLogical : Node -> Bool
  | .logical _ _ _ => true
  | _ => false

def expectedBoolean (cel : String) (originalQuery : Node) : CelToSqlException where
  message := "A CEL filter must evaluate to true or false"
  code := .expectedBoolean
  span := if originalQuery.isLogical then .nowhere else wholeExpressionSpan cel

def syntaxError (e : ParseError) : CelToSqlException where
  message := "Error parsing CEL expression: " ++ e.message
  code := .syntaxError
  span := .point e.line e.column

def unsupportedExpression (message : String) : CelToSqlException where
  message := message
  code := .unsupportedExpression
  span := .nowhere

def unknownField (message : String) : CelToSqlException where
  message := "Error while mapping columns: " ++ message
  code := .unknownField
  span := .nowhere

/-!
## Diagnostics
-/

/-- `CelDiagnosticRange` -/
structure DiagnosticRange where
  startLine : Nat
  startColumn : Nat
  endLine : Nat
  endColumn : Nat
  deriving DecidableEq, Repr

structure Diagnostic where
  code : DiagnosticCode
  message : String
  range : Option DiagnosticRange
  deriving DecidableEq, Repr

structure ValidationResult where
  valid : Bool
  diagnostics : List Diagnostic
  deriving DecidableEq, Repr

/-- `value or default` of a number. -/
def orDefault (value : Option Nat) (default : Nat) : Nat :=
  match value with
  | some 0 => default
  | some n => n
  | none => default

def rangeFromConverterError (e : CelToSqlException) : Option DiagnosticRange :=
  match e.span.line, e.span.column with
  | some line, some column =>
      some {
        startLine := line
        startColumn := column
        endLine := orDefault e.span.endLine line
        endColumn := orDefault e.span.endColumn (column + 1) }
  | _, _ => none

/-- The texts of `_MESSAGES`. -/
def DiagnosticCode.defaultMessage : DiagnosticCode -> String
  | .syntaxError => "The expression could not be parsed."
  | .expectedBoolean => "A CEL filter must evaluate to true or false."
  | .unknownField => "Unknown field in the expression."
  | .unsupportedExpression => "This expression is not supported by the alert filter."

def diagnosticFromConverterError (e : CelToSqlException) : Diagnostic where
  code := e.code
  message := if e.message = "" then e.code.defaultMessage else e.message
  range := rangeFromConverterError e

namespace Provider

variable (p : Provider)

/-- The exceptions that are translated while the properties are mapped. -/
def mapQuery (originalQuery : Node) : Except Failure Mapped :=
  match mapPropsInAst p.rt p.metadata originalQuery with
  | .ok mapped => .ok mapped
  | .error (.propertiesMappingException message) => .error (.rejected (unknownField message))
  | .error e => .error (.raised e)

/-- The exceptions that are translated while the condition is built. -/
def buildQuery (withMappedProps : Node) : Except Failure String :=
  match p.buildSqlFilter withMappedProps with
  | .ok sql => .ok sql
  | .error (.notImplementedError message) =>
      .error (.rejected (unsupportedExpression
        ("Error while converting CEL expression tree to SQL: " ++ message)))
  | .error e => .error (.raised e)

/-- The conversion of a parsed query. -/
def convertQuery (cel : String) (originalQuery : Node) : Except Failure CelToSqlResult := do
  if isBooleanFilterNode originalQuery then
    let (withMappedProps, involvedFields) <- p.mapQuery originalQuery
    match withMappedProps with
    | none => .ok ⟨"", []⟩
    | some withMappedProps => do
        let sql <- p.buildQuery withMappedProps
        .ok ⟨sql, involvedFields⟩
  else .error (.rejected (expectedBoolean cel originalQuery))

/-- `convert_to_sql_str_v2` -/
def convertToSqlStr (celpy : Celpy) (cel : String) : Except Failure CelToSqlResult :=
  if cel = "" then .ok ⟨"", []⟩
  else
    match celpy.parse cel with
    | .error e => .error (.rejected (syntaxError e))
    | .ok tree =>
        match convertToAst p.rt tree with
        | .error e =>
            .error (.rejected (unsupportedExpression
              ("Unsupported CEL expression: " ++ celpy.str e)))
        | .ok originalQuery => p.convertQuery cel originalQuery

/-- `validate_alert_filter_cel`; an error is an exception that leaves it. -/
def validateAlertFilterCel (celpy : Celpy) (cel : Option String) :
    Except PyException ValidationResult :=
  match cel with
  | none => .ok ⟨true, []⟩
  | some cel =>
      if strip p.rt cel.toList = [] then .ok ⟨true, []⟩
      else
        match p.convertToSqlStr celpy cel with
        | .ok _ => .ok ⟨true, []⟩
        | .error (.rejected e) => .ok ⟨false, [diagnosticFromConverterError e]⟩
        | .error (.raised e) => .error e

end Provider

end Cel
end KeepGateway
