import KeepGateway.Cel.AlertFields
import KeepGateway.Cel.LineBreaks

/-!
# Event filters

Maintenance windows, extraction rules, correlation rules and workflow triggers are evaluated
on the event itself.  `validate_event_filter_cel` asks of them that they parse and that they
evaluate to true or false, which the validation of alert filters asks as well.
-/

namespace KeepGateway
namespace Cel

/-- `_whole_expression_range` -/
def wholeExpressionRange (cel : String) : DiagnosticRange :=
  let lines := cel.toList.splitOn '\n'
  { startLine := 1
    startColumn := 1
    endLine := lines.length
    endColumn := (lines.getLastD []).length + 1 }

/-- `_point_range` -/
def pointRange (line column : Option Nat) : Option DiagnosticRange :=
  match line, column with
  | some line, some column =>
      some {
        startLine := line
        startColumn := column
        endLine := line
        endColumn := column + 1 }
  | _, _ => none

/-- `_diagnostic` with the text of the code. -/
def diagnostic (code : DiagnosticCode) (range : Option DiagnosticRange) : Diagnostic :=
  ⟨code, code.defaultMessage, range⟩

/-- A failed conversion, by the position that its exception carries. -/
def conversionFailure (line column : Option Nat) : Diagnostic :=
  diagnostic
    (if line.isSome || column.isSome then .syntaxError else .unsupportedExpression)
    (pointRange line column)

def notBoolean (cel : String) (ast : Node) : Diagnostic :=
  diagnostic .expectedBoolean
    (if ast.isLogical then none else some (wholeExpressionRange cel))

/-- `validate_event_filter_cel` -/
def validateEventFilterCel (rt : Runtime) (celpy : Celpy) (cel : Option String) :
    ValidationResult :=
  match cel with
  | none => ⟨true, []⟩
  | some cel =>
      if strip rt cel.toList = [] then ⟨true, []⟩
      else
        match celpy.parse cel with
        | .error e => ⟨false, [conversionFailure e.line e.column]⟩
        | .ok tree =>
            match convertToAst rt tree with
            | .error _ => ⟨false, [conversionFailure none none]⟩
            | .ok ast =>
                if isBooleanFilterNode ast then ⟨true, []⟩ else ⟨false, [notBoolean cel ast]⟩

/-!
## Verdicts
-/

def Accepts (verdict : Except PyException ValidationResult) : Prop :=
  exists result, verdict = .ok result ∧ result.valid = true

def Reports (verdict : Except PyException ValidationResult) (code : DiagnosticCode)
    (range : Option DiagnosticRange) : Prop :=
  exists result, verdict = .ok result ∧
    exists d, d ∈ result.diagnostics ∧ d.code = code ∧ d.range = range

theorem reports_rejected {d : Diagnostic} {code : DiagnosticCode}
    {range : Option DiagnosticRange} :
    Reports (.ok ⟨false, [d]⟩) code range <-> d.code = code ∧ d.range = range := by
  simp [Reports]

theorem not_reports_accepted {code : DiagnosticCode} {range : Option DiagnosticRange} :
    ¬ Reports (.ok ⟨true, []⟩) code range := by
  simp [Reports]

theorem not_accepts_rejected {d : Diagnostic} : ¬ Accepts (.ok ⟨false, [d]⟩) := by
  simp [Accepts]

theorem accepts_accepted : Accepts (.ok ⟨true, []⟩) := ⟨_, rfl, rfl⟩

/-- Two verdicts that agree where they overlap. -/
structure Agree (alert event : Except PyException ValidationResult) : Prop where
  accepts : Accepts alert -> Accepts event
  expectedBoolean : forall range,
    Reports alert .expectedBoolean range <-> Reports event .expectedBoolean range
  syntaxError : (exists range, Reports alert .syntaxError range) <->
    exists range, Reports event .syntaxError range

theorem agree_rejected_iff {d d' : Diagnostic} :
    Agree (.ok ⟨false, [d]⟩) (.ok ⟨false, [d']⟩) <->
      (forall range, d.code = .expectedBoolean ∧ d.range = range <->
        d'.code = .expectedBoolean ∧ d'.range = range) ∧
      (d.code = .syntaxError <-> d'.code = .syntaxError) := by
  constructor
  · intro hagree
    refine ⟨fun range => ?_, ?_⟩
    · rw [← reports_rejected, ← reports_rejected]
      exact hagree.expectedBoolean range
    · simpa [reports_rejected] using hagree.syntaxError
  · rintro ⟨hboolean, hsyntax⟩
    refine ⟨fun haccepts => (not_accepts_rejected haccepts).elim, fun range => ?_, ?_⟩
    · rw [reports_rejected, reports_rejected]
      exact hboolean range
    · simpa [reports_rejected] using hsyntax

/-- The verdicts on one filter, as an alert filter and as an event filter. -/
def Provider.ValidatorsAgree (p : Provider) (celpy : Celpy) (cel : String) : Prop :=
  Agree (p.validateAlertFilterCel celpy (some cel))
    (.ok (validateEventFilterCel p.rt celpy (some cel)))

/-- Where the validators agree: the parser locates what it rejects, and a value that is no
filter ends where both rules for lines put its end. -/
def Located (rt : Runtime) (celpy : Celpy) (cel : String) : Prop :=
  strip rt cel.toList = [] ∨
    match celpy.parse cel with
    | .error e => e.line.isSome = true ∨ e.column.isSome = true
    | .ok tree => forall ast, convertToAst rt tree = .ok ast ->
        isBooleanFilterNode ast = false -> ast.isLogical = false -> EndsAlike cel.toList

/-!
## Whole expressions
-/

theorem range_expectedBoolean {cel : String} {ast : Node} (hlogical : ast.isLogical = false) :
    rangeFromConverterError (expectedBoolean cel ast) = some {
      startLine := 1
      startColumn := 1
      endLine := max 1 (splitLines [] cel.toList).length
      endColumn := ((splitLines [] cel.toList).getLastD []).length + 1 } := by
  have hspan : (expectedBoolean cel ast).span = wholeExpressionSpan cel := by
    unfold expectedBoolean
    simp only
    rw [hlogical, if_neg Bool.false_ne_true]
  have hline : max 1 (splitLines [] cel.toList).length ≠ 0 :=
    Nat.ne_of_gt (Nat.lt_of_lt_of_le Nat.one_pos (Nat.le_max_left _ _))
  unfold rangeFromConverterError
  rw [hspan]
  simp only [wholeExpressionSpan]
  congr 2
  · cases hmax : max 1 (splitLines [] cel.toList).length with
    | zero => exact (hline hmax).elim
    | succ n => rfl

/-- Both rules give one range where the text ends alike. -/
theorem wholeExpressionRange_eq_iff {cel : String} {ast : Node} (hcel : cel.toList ≠ [])
    (hlogical : ast.isLogical = false) :
    rangeFromConverterError (expectedBoolean cel ast) = (notBoolean cel ast).range <->
      EndsAlike cel.toList := by
  have hrange : (notBoolean cel ast).range = some (wholeExpressionRange cel) := by
    unfold notBoolean diagnostic
    simp only
    rw [hlogical, if_neg Bool.false_ne_true]
  have hlines : 1 ≤ (splitLines [] cel.toList).length :=
    List.length_pos_iff.mpr (splitLines_ne_nil (Or.inr hcel))
  rw [range_expectedBoolean hlogical, hrange, ← endsAlike_iff hcel, Nat.max_eq_right hlines]
  simp only [wholeExpressionRange, Option.some.injEq, DiagnosticRange.mk.injEq, true_and,
    Nat.add_right_cancel_iff, eq_comm]

theorem range_logical {cel : String} {ast : Node} (hlogical : ast.isLogical = true) :
    rangeFromConverterError (expectedBoolean cel ast) = (notBoolean cel ast).range := by
  unfold expectedBoolean notBoolean diagnostic
  simp only [hlogical, if_true]
  rfl

/-!
## One filter
-/

section Filter

variable {p : Provider} {celpy : Celpy} {cel : String}

theorem blank_empty (rt : Runtime) : strip rt "".toList = [] := rfl

theorem ne_empty_of_not_blank (hblank : strip p.rt cel.toList ≠ []) : cel ≠ "" := by
  intro hcel
  rw [hcel] at hblank
  exact hblank (blank_empty p.rt)

theorem agree_of_blank (hblank : strip p.rt cel.toList = []) : p.ValidatorsAgree celpy cel := by
  unfold Provider.ValidatorsAgree Provider.validateAlertFilterCel validateEventFilterCel
  simp only [if_pos hblank]
  exact ⟨id, fun _ => Iff.rfl, Iff.rfl⟩

/-- A rejection as an alert filter, from the exception of the conversion. -/
theorem validateAlertFilterCel_rejected {e : CelToSqlException}
    (hblank : strip p.rt cel.toList ≠ [])
    (hconvert : p.convertToSqlStr celpy cel = .error (.rejected e)) :
    p.validateAlertFilterCel celpy (some cel) = .ok ⟨false, [diagnosticFromConverterError e]⟩ := by
  unfold Provider.validateAlertFilterCel
  simp only [if_neg hblank, hconvert]

/-- What celpy does not parse is a syntax error to both where its position is known. -/
theorem agree_parse_iff {e : ParseError} (hblank : strip p.rt cel.toList ≠ [])
    (hparse : celpy.parse cel = .error e) :
    p.ValidatorsAgree celpy cel <-> e.line.isSome = true ∨ e.column.isSome = true := by
  have hconvert : p.convertToSqlStr celpy cel = .error (.rejected (syntaxError e)) := by
    unfold Provider.convertToSqlStr
    simp only [if_neg (ne_empty_of_not_blank hblank), hparse]
  have hevent : validateEventFilterCel p.rt celpy (some cel) =
      ⟨false, [conversionFailure e.line e.column]⟩ := by
    unfold validateEventFilterCel
    simp only [if_neg hblank, hparse]
  unfold Provider.ValidatorsAgree
  rw [validateAlertFilterCel_rejected hblank hconvert, hevent]
  rw [agree_rejected_iff]
  have halert : (diagnosticFromConverterError (syntaxError e)).code = .syntaxError := rfl
  have hcode : (conversionFailure e.line e.column).code =
      if e.line.isSome || e.column.isSome then .syntaxError else .unsupportedExpression := rfl
  rw [halert, hcode, ← Bool.or_eq_true_iff]
  cases e.line.isSome || e.column.isSome <;> simp

/-- What does not convert is unsupported to both. -/
theorem agree_of_not_converted {tree : Tree .expr} {e : PyException}
    (hblank : strip p.rt cel.toList ≠ []) (hparse : celpy.parse cel = .ok tree)
    (hast : convertToAst p.rt tree = .error e) : p.ValidatorsAgree celpy cel := by
  have hconvert : p.convertToSqlStr celpy cel = .error (.rejected (unsupportedExpression
      ("Unsupported CEL expression: " ++ celpy.str e))) := by
    unfold Provider.convertToSqlStr
    simp only [if_neg (ne_empty_of_not_blank hblank), hparse, hast]
  have hevent : validateEventFilterCel p.rt celpy (some cel) =
      ⟨false, [conversionFailure none none]⟩ := by
    unfold validateEventFilterCel
    simp only [if_neg hblank, hparse, hast]
  unfold Provider.ValidatorsAgree
  rw [validateAlertFilterCel_rejected hblank hconvert, hevent, agree_rejected_iff]
  simp [diagnosticFromConverterError, unsupportedExpression, conversionFailure, diagnostic]

/-- A value that is no filter is expected to be boolean by both, in one range where the text
ends alike. -/
theorem agree_notBoolean_iff {tree : Tree .expr} {ast : Node}
    (hblank : strip p.rt cel.toList ≠ []) (hparse : celpy.parse cel = .ok tree)
    (hast : convertToAst p.rt tree = .ok ast) (hboolean : isBooleanFilterNode ast = false) :
    p.ValidatorsAgree celpy cel <-> (ast.isLogical = false -> EndsAlike cel.toList) := by
  have hcel := ne_empty_of_not_blank hblank
  have hconvert : p.convertToSqlStr celpy cel = .error (.rejected (expectedBoolean cel ast)) := by
    unfold Provider.convertToSqlStr Provider.convertQuery
    simp only [if_neg hcel, hparse, hast, hboolean, if_neg Bool.false_ne_true]
  have hevent : validateEventFilterCel p.rt celpy (some cel) = ⟨false, [notBoolean cel ast]⟩ := by
    unfold validateEventFilterCel
    simp only [if_neg hblank, hparse, hast, hboolean, if_neg Bool.false_ne_true]
  have hcode : (diagnosticFromConverterError (expectedBoolean cel ast)).code =
      .expectedBoolean := rfl
  have hcode' : (notBoolean cel ast).code = .expectedBoolean := rfl
  unfold Provider.ValidatorsAgree
  rw [validateAlertFilterCel_rejected hblank hconvert, hevent, agree_rejected_iff, hcode, hcode']
  have hranges : (diagnosticFromConverterError (expectedBoolean cel ast)).range =
      (notBoolean cel ast).range <-> (ast.isLogical = false -> EndsAlike cel.toList) := by
    cases hlogical : ast.isLogical with
    | true => simp [diagnosticFromConverterError, range_logical hlogical]
    | false =>
        have hchars : cel.toList ≠ [] := by simpa using hcel
        rw [← wholeExpressionRange_eq_iff hchars hlogical]
        simp [diagnosticFromConverterError]
  rw [← hranges]
  simp only [true_and, and_true, reduceCtorEq]
  constructor
  · intro h
    exact ((h _).mp rfl).symm
  · intro h range
    rw [h]

theorem mapQuery_rejected_code {ast : Node} {e : CelToSqlException}
    (h : p.mapQuery ast = .error (.rejected e)) : e.code = .unknownField := by
  unfold Provider.mapQuery at h
  split at h <;> cases h
  rfl

theorem buildQuery_rejected_code {ast : Node} {e : CelToSqlException}
    (h : p.buildQuery ast = .error (.rejected e)) : e.code = .unsupportedExpression := by
  unfold Provider.buildQuery at h
  split at h <;> cases h
  rfl

/-- The mapping and the rendering report neither of the two codes. -/
theorem convertQuery_boolean_code {ast : Node} {e : CelToSqlException}
    (hboolean : isBooleanFilterNode ast = true)
    (h : p.convertQuery cel ast = .error (.rejected e)) :
    e.code = .unknownField ∨ e.code = .unsupportedExpression := by
  unfold Provider.convertQuery at h
  rw [if_pos hboolean] at h
  cases hmap : p.mapQuery ast with
  | error failure =>
      rw [hmap] at h
      cases h
      exact Or.inl (mapQuery_rejected_code hmap)
  | ok mapped =>
      rcases mapped with ⟨_ | withMappedProps, involvedFields⟩
      · rw [hmap] at h
        cases h
      · cases hbuild : p.buildQuery withMappedProps with
        | error failure =>
            simp only [hmap, hbuild, bind, Except.bind] at h
            cases h
            exact Or.inr (buildQuery_rejected_code hbuild)
        | ok sql =>
            simp only [hmap, hbuild, bind, Except.bind] at h
            cases h

/-- A boolean filter is accepted as an event filter, whatever comes of it as an alert filter. -/
theorem agree_of_boolean {tree : Tree .expr} {ast : Node}
    (hblank : strip p.rt cel.toList ≠ []) (hparse : celpy.parse cel = .ok tree)
    (hast : convertToAst p.rt tree = .ok ast) (hboolean : isBooleanFilterNode ast = true) :
    p.ValidatorsAgree celpy cel := by
  have hconvert : p.convertToSqlStr celpy cel = p.convertQuery cel ast := by
    unfold Provider.convertToSqlStr
    simp only [if_neg (ne_empty_of_not_blank hblank), hparse, hast]
  have hevent : validateEventFilterCel p.rt celpy (some cel) = ⟨true, []⟩ := by
    unfold validateEventFilterCel
    simp only [if_neg hblank, hparse, hast, if_pos hboolean]
  have hneither : forall code range, code = .expectedBoolean ∨ code = .syntaxError ->
      ¬ Reports (p.validateAlertFilterCel celpy (some cel)) code range := by
    intro code range hcode hreports
    cases hquery : p.convertQuery cel ast with
    | ok result =>
        unfold Provider.validateAlertFilterCel at hreports
        simp only [if_neg hblank, hconvert, hquery] at hreports
        exact not_reports_accepted hreports
    | error failure =>
        cases failure with
        | rejected e =>
            rw [validateAlertFilterCel_rejected hblank (hconvert.trans hquery),
              reports_rejected] at hreports
            have hcodes := convertQuery_boolean_code hboolean hquery
            have heq : e.code = code := hreports.1
            rcases hcode with rfl | rfl <;> rw [heq] at hcodes <;> simp at hcodes
        | raised e =>
            unfold Provider.validateAlertFilterCel at hreports
            simp only [if_neg hblank, hconvert, hquery] at hreports
            rcases hreports with ⟨_, hresult, _⟩
            cases hresult
  unfold Provider.ValidatorsAgree
  rw [hevent]
  refine ⟨fun _ => accepts_accepted, fun range => ?_, ?_⟩
  · exact iff_of_false (hneither _ range (Or.inl rfl)) not_reports_accepted
  · constructor
    · rintro ⟨range, hreports⟩
      exact (hneither _ range (Or.inr rfl) hreports).elim
    · rintro ⟨range, hreports⟩
      exact (not_reports_accepted hreports).elim

/-- The two validations of a filter agree exactly where celpy locates what it rejects and a
value that is no filter ends alike for both rules of lines. -/
theorem validatorsAgree_iff : p.ValidatorsAgree celpy cel <-> Located p.rt celpy cel := by
  unfold Located
  rcases Classical.em (strip p.rt cel.toList = []) with hblank | hblank
  · exact iff_of_true (agree_of_blank hblank) (Or.inl hblank)
  · rw [or_iff_right hblank]
    cases hparse : celpy.parse cel with
    | error e => exact agree_parse_iff hblank hparse
    | ok tree =>
        cases hast : convertToAst p.rt tree with
        | error e => simp [agree_of_not_converted hblank hparse hast, hast]
        | ok ast =>
            cases hboolean : isBooleanFilterNode ast with
            | true => simp [agree_of_boolean hblank hparse hast hboolean, hast, hboolean]
            | false => simp [agree_notBoolean_iff hblank hparse hast hboolean, hast, hboolean]

end Filter

namespace EventFiltersSample

def provider : Provider := ⟨asciiRuntime, .postgresql, id, alertMetadata⟩

/-- `42` -/
def celpy : Celpy where
  parse := fun _ => .ok (.ofLiteral "42")
  str := fun _ => ""

theorem convertToAst_value : convertToAst asciiRuntime (.ofLiteral "42") =
    .ok (.constant (.int 42)) := rfl

end EventFiltersSample

open EventFiltersSample in
/-- A number with a newline after it ends on the first line for the alert filter, and on the
second for the event filter. -/
theorem trailingNewline_not_agree : ¬ forall (p : Provider) (celpy : Celpy) (cel : String),
    p.ValidatorsAgree celpy cel := by
  intro h
  rcases validatorsAgree_iff.mp (h provider celpy "42\n") with hblank | hvalue
  · exact absurd hblank (by decide)
  · rcases hvalue _ convertToAst_value rfl rfl with ⟨_, hopen⟩ | ⟨hone, _⟩
    · exact absurd hopen (by decide)
    · exact absurd hone (by decide)

end Cel
end KeepGateway
