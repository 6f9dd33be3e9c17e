import KeepGateway.Cel.PropertiesMapper
import KeepGateway.Lib.Except
import Mathlib.Data.List.Nodup

/-!
# Filters on enumerated fields

What the mapper makes of order comparisons on fields with enumerated values, and
when the mapped filter selects the rows that the positions in the lists of
values demand.
-/

namespace KeepGateway
namespace Cel

/-!
## Positions in a list
-/

theorem mem_drop_iff_le_idxOf {l : List String} (hl : l.Nodup) {x : String} (hx : x ∈ l)
    (k : Nat) : x ∈ l.drop k <-> k <= l.idxOf x := by
  induction l generalizing k with
  | nil => cases hx
  | cons y rest ih =>
      rcases List.nodup_cons.mp hl with ⟨hy, hrest⟩
      cases k with
      | zero => simp [hx]
      | succ k =>
          by_cases hxy : y = x
          · subst hxy
            have hdrop : y ∉ rest.drop k := fun h => hy (List.mem_of_mem_drop h)
            simp [hdrop]
          · have hmem : x ∈ rest := by
              rcases List.mem_cons.mp hx with h | h
              · exact absurd h.symm hxy
              · exact h
            rw [List.drop_succ_cons, ih hrest hmem, List.idxOf_cons_ne rest hxy]
            omega

/-- The first value that meets a test, and its position. -/
theorem find_idxOf {l : List String} {p : String -> Bool} (h : exists v, v ∈ l ∧ p v = true) :
    exists v, l.find? p = some v ∧ v ∈ l ∧ l.idxOf? v = some (l.findIdx p) := by
  induction l with
  | nil =>
      rcases h with ⟨v, hv, _⟩
      cases hv
  | cons y rest ih =>
      cases hy : p y with
      | true =>
          exact ⟨y, by simp [hy], by simp, by simp [List.idxOf?_cons, List.findIdx_cons, hy]⟩
      | false =>
          rcases h with ⟨u, hu, hpu⟩
          have hmem : u ∈ rest := by
            rcases List.mem_cons.mp hu with h | h
            · rw [h, hy] at hpu
              cases hpu
            · exact h
          rcases ih ⟨u, hmem, hpu⟩ with ⟨v, hfind, hv, hidx⟩
          have hyv : y ≠ v := by
            intro h
            have hpv := List.find?_some hfind
            rw [← h, hy] at hpv
            cases hpv
          refine ⟨v, by simp [hy, hfind], by simp [hv], ?_⟩
          simp [List.idxOf?_cons, hyv, hidx, List.findIdx_cons, hy]

/-!
## Filters
-/

inductive OrderOp where
  | lt
  | le
  | gt
  | ge
  deriving DecidableEq, Repr

def OrderOp.operator : OrderOp -> ComparisonNodeOperator
  | lt => .lt
  | le => .le
  | gt => .gt
  | ge => .ge

/-- The order of two positions. -/
def OrderOp.holds : OrderOp -> Nat -> Nat -> Bool
  | lt, i, j => i < j
  | le, i, j => i <= j
  | gt, i, j => i > j
  | ge, i, j => i >= j

/-- A mapped field whose values are distinct, also in lower case. -/
structure EnumField (rt : Runtime) (metadata : PropertiesMetadata) where
  path : List String
  column : Node
  info : PropertyMetadataInfo
  mapped : mapProperty metadata true (.simple path none) = .ok (column, info)
  distinct : (info.enumValues.map rt.lower).Nodup

variable {rt : Runtime} {metadata : PropertiesMetadata}

/-- A literal that resolves to one of the values. -/
structure EnumField.Literal (field : EnumField rt metadata) where
  text : String
  resolves : exists v, v ∈ field.info.enumValues ∧ rt.lower v = rt.lower text

def EnumField.position (field : EnumField rt metadata) (value : String) : Nat :=
  field.info.enumValues.idxOf value

def EnumField.Literal.position {field : EnumField rt metadata} (literal : field.Literal) : Nat :=
  field.info.enumValues.findIdx fun v => rt.lower v = rt.lower literal.text

inductive EnumFilter (rt : Runtime) (metadata : PropertiesMetadata) where
  | constant (b : Bool)
  | compare (field : EnumField rt metadata) (op : OrderOp) (literal : field.Literal)
  | not (operand : EnumFilter rt metadata)
  | parenthesis (expression : EnumFilter rt metadata)
  | logical (left : EnumFilter rt metadata) (op : LogicalNodeOperator)
      (right : EnumFilter rt metadata)

namespace EnumFilter

/-- The tree as the converter builds it. -/
def toNode : EnumFilter rt metadata -> Node
  | constant b => .constant (.bool b)
  | compare field op literal =>
      .comparison (.propertyAccess (.simple field.path none)) op.operator
        (.constant (.str literal.text))
  | not operand => .unary .not operand.toNode
  | parenthesis expression => .parenthesis expression.toNode
  | logical left op right => .logical left.toNode op right.toNode

/-- Every field has one of its values on the row. -/
def Members (row : Node -> String) : EnumFilter rt metadata -> Prop
  | constant _ => True
  | compare field _ _ => row field.column ∈ field.info.enumValues
  | not operand => operand.Members row
  | parenthesis expression => expression.Members row
  | logical left _ right => left.Members row ∧ right.Members row

end EnumFilter

def LogicalNodeOperator.apply : LogicalNodeOperator -> Bool -> Bool -> Bool
  | and, a, b => a && b
  | or, a, b => a || b

/-- The filter as a comparison of positions. -/
def EnumFilter.truth (row : Node -> String) : EnumFilter rt metadata -> Bool
  | constant b => b
  | compare field op literal => op.holds (field.position (row field.column)) literal.position
  | not operand => !operand.truth row
  | parenthesis expression => expression.truth row
  | logical left op right => op.apply (left.truth row) (right.truth row)

/-!
## Mapped filters on a row
-/

def isText (s : String) : Node -> Bool
  | .constant (.str t) => s == t
  | _ => false

/-- The row gives each mapped operand its value. -/
def evalMapped (row : Node -> String) : Node -> Option Bool
  | .constant (.bool b) => some b
  | .comparison column .isIn (.list items) => some (items.any (isText (row column)))
  | .unary .not operand => (evalMapped row operand).map fun b => !b
  | .logical left op right =>
      match evalMapped row left, evalMapped row right with
      | some a, some b => some (op.apply a b)
      | _, _ => none
  | _ => none

/-- `None` is the empty filter. -/
def evalFilter (row : Node -> String) : Option Node -> Option Bool
  | none => some true
  | some x => evalMapped row x

/-- The mapped tree has the truth value of the original one. -/
def EnumFilter.MeaningPreserved (row : Node -> String) (f : EnumFilter rt metadata) : Prop :=
  exists mapped, mapPropsInAst rt metadata f.toNode = .ok mapped ∧
    evalFilter row mapped.1 = some (f.truth row)

theorem any_isText (s : String) (l : List String) :
    (l.map fun item => Node.constant (.str item)).any (isText s) = decide (s ∈ l) := by
  induction l with
  | nil => rfl
  | cons x rest ih =>
      rw [List.map_cons, List.any_cons, ih]
      show (s == x || decide (s ∈ rest)) = _
      by_cases hx : s = x <;> simp [hx]

theorem evalMapped_inEnum (row : Node -> String) (column : Node) (values : List String) :
    evalMapped row (inEnum column values) = some (decide (row column ∈ values)) := by
  show some _ = _
  rw [any_isText]

theorem evalMapped_notInEnum (row : Node -> String) (column : Node) (values : List String) :
    evalMapped row (notInEnum column values) = some (!decide (row column ∈ values)) := by
  show (evalMapped row (inEnum column values)).map _ = _
  rw [evalMapped_inEnum]
  rfl

/-!
## Comparisons
-/

/-- The comparison that the mapper drops: every value is at most the last one. -/
def EnumField.Literal.isUnconditional {field : EnumField rt metadata} (op : OrderOp)
    (literal : field.Literal) : Bool :=
  op == .le && decide (field.info.enumValues.length <= literal.position + 1)

/-- The literal is replaced by its value, at the position where it resolves. -/
theorem EnumField.Literal.canonical {field : EnumField rt metadata} (literal : field.Literal) :
    exists v, canonicalizeEnumValue rt field.info.enumValues (.str literal.text) = .str v ∧
      enumIndex field.info.enumValues (.str v) = some literal.position := by
  have hresolves : exists v, v ∈ field.info.enumValues ∧
      (decide (rt.lower v = rt.lower literal.text)) = true := by
    simpa using literal.resolves
  rcases find_idxOf hresolves with ⟨v, hfind, _, hidx⟩
  refine ⟨v, ?_, hidx⟩
  simp [canonicalizeEnumValue, hfind]

theorem EnumField.Literal.position_lt {field : EnumField rt metadata} (literal : field.Literal) :
    literal.position < field.info.enumValues.length := by
  rcases literal.resolves with ⟨v, hv, hlower⟩
  exact List.findIdx_lt_length_of_exists ⟨v, hv, by simpa using hlower⟩

theorem modifyComparisonNode_compare (field : EnumField rt metadata) (op : OrderOp)
    (literal : field.Literal) :
    exists v, modifyComparisonNode rt field.column op.operator
        (.constant (.str literal.text)) field.info =
          rewriteEnumOrder field.column op.operator (.str v) field.info.enumValues ∧
      enumIndex field.info.enumValues (.str v) = some literal.position := by
  rcases literal.canonical with ⟨v, hv, hindex⟩
  refine ⟨v, ?_, hindex⟩
  have hne : field.info.enumValues ≠ [] := by
    rcases literal.resolves with ⟨u, hu, _⟩
    exact List.ne_nil_of_mem hu
  have hop : op.operator.canonicalizesEnums = true := by
    cases op <;> rfl
  simp [modifyComparisonNode, hne, hop, canonicalizeEnumOperand, hv]

/-- A rewritten comparison is dropped exactly when it is unconditional, and has the
truth value of the comparison of positions. -/
theorem modifyComparisonNode_spec (field : EnumField rt metadata) (op : OrderOp)
    (literal : field.Literal) (row : Node -> String)
    (hrow : row field.column ∈ field.info.enumValues) :
    (modifyComparisonNode rt field.column op.operator (.constant (.str literal.text))
        field.info).isNone = literal.isUnconditional op ∧
      evalFilter row (modifyComparisonNode rt field.column op.operator
          (.constant (.str literal.text)) field.info) =
        some (op.holds (field.position (row field.column)) literal.position) := by
  rcases modifyComparisonNode_compare field op literal with ⟨v, hmodify, hindex⟩
  have hdrop := mem_drop_iff_le_idxOf (List.Nodup.of_map _ field.distinct) hrow
  have hlt : field.position (row field.column) < field.info.enumValues.length :=
    List.idxOf_lt_length_of_mem hrow
  have hliteral := literal.position_lt
  have hposition : field.position (row field.column) =
    field.info.enumValues.idxOf (row field.column) := rfl
  rw [hmodify]
  cases op with
  | lt =>
      simp only [OrderOp.operator, rewriteEnumOrder, hindex]
      constructor
      · rfl
      · show evalMapped row _ = _
        rw [evalMapped_notInEnum]
        congr 1
        rw [Bool.eq_iff_iff]
        simp only [hdrop, OrderOp.holds, Bool.not_eq_true', decide_eq_true_eq,
          decide_eq_false_iff_not]
        omega
  | le =>
      by_cases hlast : field.info.enumValues.length <= literal.position + 1
      · simp only [OrderOp.operator, rewriteEnumOrder, hindex, hlast, if_true]
        constructor
        · simp [EnumField.Literal.isUnconditional, hlast]
        · have hle : field.position (row field.column) <= literal.position := by omega
          simp [evalFilter, OrderOp.holds, hle]
      · simp only [OrderOp.operator, rewriteEnumOrder, hindex, hlast, if_false]
        constructor
        · simp [EnumField.Literal.isUnconditional, hlast]
        · show evalMapped row _ = _
          rw [evalMapped_notInEnum]
          congr 1
          rw [Bool.eq_iff_iff]
          simp only [hdrop, OrderOp.holds, Bool.not_eq_true', decide_eq_true_eq,
            decide_eq_false_iff_not]
          omega
  | gt =>
      by_cases hlast : field.info.enumValues.length <= literal.position + 1
      · simp only [OrderOp.operator, rewriteEnumOrder, hindex, hlast, if_true]
        constructor
        · rfl
        · have hle : field.position (row field.column) <= literal.position := by omega
          simp [evalFilter, evalMapped, OrderOp.holds, hle]
      · simp only [OrderOp.operator, rewriteEnumOrder, hindex, hlast, if_false]
        constructor
        · rfl
        · show evalMapped row _ = _
          rw [evalMapped_inEnum]
          congr 1
          rw [Bool.eq_iff_iff]
          simp only [hdrop, OrderOp.holds, decide_eq_true_eq]
          omega
  | ge =>
      simp only [OrderOp.operator, rewriteEnumOrder, hindex]
      constructor
      · rfl
      · show evalMapped row _ = _
        rw [evalMapped_inEnum]
        congr 1
        rw [Bool.eq_iff_iff]
        simp only [hdrop, OrderOp.holds, decide_eq_true_eq]
        omega

/-!
## Composition

A dropped operand leaves the other one alone.  That is right under `&&`; under
`||` it flips the truth value on the rows where the other operand is false.
-/

namespace EnumFilter

/-- The mapper keeps nothing of the filter. -/
def dropped : EnumFilter rt metadata -> Bool
  | constant _ => false
  | compare _ op literal => literal.isUnconditional op
  | not _ => false
  | parenthesis expression => expression.dropped
  | logical left _ right => left.dropped && right.dropped

end EnumFilter

/-- Whether a flipped operand flips the result, for the truth value of the other. -/
def LogicalNodeOperator.passes : LogicalNodeOperator -> Bool -> Bool
  | and, other => other
  | or, other => !other

/-- A `||` with exactly one dropped operand is flipped where the other one is false,
or is true but flipped itself.  Otherwise flips come from the operands, unless the
operator masks them. -/
def EnumFilter.flipped (row : Node -> String) : EnumFilter rt metadata -> Bool
  | constant _ => false
  | compare _ _ _ => false
  | not operand => operand.flipped row
  | parenthesis expression => expression.flipped row
  | logical left op right =>
      if op = .or ∧ left.dropped ≠ right.dropped then
        if left.dropped then right.truth row == right.flipped row
        else left.truth row == left.flipped row
      else
        match left.flipped row, right.flipped row with
        | false, false => false
        | true, false => op.passes (right.truth row)
        | false, true => op.passes (left.truth row)
        | true, true => left.truth row == right.truth row

theorem apply_flipped (op : LogicalNodeOperator) (a b fa fb : Bool) :
    op.apply (a ^^ fa) (b ^^ fb) =
      (op.apply a b ^^
        match fa, fb with
        | false, false => false
        | true, false => op.passes b
        | false, true => op.passes a
        | true, true => a == b) := by
  cases op <;> cases a <;> cases b <;> cases fa <;> cases fb <;> rfl

/-- A dropped filter selects every row. -/
theorem EnumFilter.dropped_spec (row : Node -> String) (f : EnumFilter rt metadata)
    (hf : f.Members row) (hd : f.dropped = true) :
    f.truth row = true ∧ f.flipped row = false := by
  induction f with
  | constant b => cases hd
  | compare field op literal =>
      simp only [dropped, EnumField.Literal.isUnconditional, Bool.and_eq_true, beq_iff_eq,
        decide_eq_true_eq] at hd
      rcases hd with ⟨rfl, hlast⟩
      have hlt : field.position (row field.column) < field.info.enumValues.length :=
        List.idxOf_lt_length_of_mem hf
      constructor
      · simp only [truth, OrderOp.holds, decide_eq_true_eq]
        omega
      · rfl
  | not operand ih => cases hd
  | parenthesis expression ih => exact ih hf hd
  | logical left op right ihl ihr =>
      simp only [dropped, Bool.and_eq_true] at hd
      rcases ihl hf.left hd.left with ⟨htl, hfl⟩
      rcases ihr hf.right hd.right with ⟨htr, hfr⟩
      constructor
      · cases op <;> simp [truth, LogicalNodeOperator.apply, htl, htr]
      · simp [flipped, hd.left, hd.right, hfl, hfr]

/-- Joining two mapped operands: nothing is left only of two dropped ones, and the
joined filter is flipped as its operands and the dropping demand. -/
theorem joinLogical_spec (row : Node -> String) (op : LogicalNodeOperator)
    (left right : EnumFilter rt metadata) (hl : left.Members row) (hr : right.Members row)
    {x y : Option Node} (hx : x.isNone = left.dropped) (hy : y.isNone = right.dropped)
    (hex : evalFilter row x = some (left.truth row ^^ left.flipped row))
    (hey : evalFilter row y = some (right.truth row ^^ right.flipped row)) :
    (joinLogical x op y).isNone = (left.dropped && right.dropped) ∧
      evalFilter row (joinLogical x op y) =
        some ((EnumFilter.logical left op right).truth row ^^
          (EnumFilter.logical left op right).flipped row) := by
  cases hdl : left.dropped with
  | true =>
      rw [hdl] at hx
      rcases Option.isNone_iff_eq_none.mp hx with rfl
      rcases left.dropped_spec row hl hdl with ⟨htl, hfl⟩
      constructor
      · simpa [joinLogical] using hy
      · show evalFilter row y = _
        rw [hey]
        cases hdr : right.dropped with
        | true =>
            rcases right.dropped_spec row hr hdr with ⟨htr, hfr⟩
            cases op <;>
              simp [EnumFilter.truth, EnumFilter.flipped, LogicalNodeOperator.apply, hdl, hdr,
                htl, hfl, htr, hfr]
        | false =>
            cases op <;> cases htr : right.truth row <;> cases hfr : right.flipped row <;>
              simp [EnumFilter.truth, EnumFilter.flipped, LogicalNodeOperator.apply,
                LogicalNodeOperator.passes, hdl, hdr, htl, hfl, htr, hfr]
  | false =>
      rw [hdl] at hx
      rcases Option.isSome_iff_exists.mp (by simpa using hx) with ⟨a, rfl⟩
      cases hdr : right.dropped with
      | true =>
          rw [hdr] at hy
          rcases Option.isNone_iff_eq_none.mp hy with rfl
          rcases right.dropped_spec row hr hdr with ⟨htr, hfr⟩
          constructor
          · rfl
          · show evalFilter row (some a) = _
            rw [hex]
            cases op <;> cases htl : left.truth row <;> cases hfl : left.flipped row <;>
              simp [EnumFilter.truth, EnumFilter.flipped, LogicalNodeOperator.apply,
                LogicalNodeOperator.passes, hdl, hdr, htl, hfl, htr, hfr]
      | false =>
          rw [hdr] at hy
          rcases Option.isSome_iff_exists.mp (by simpa using hy) with ⟨b, rfl⟩
          constructor
          · rfl
          · have hea : evalMapped row a = _ := hex
            have heb : evalMapped row b = _ := hey
            show evalMapped row (.logical a op b) = _
            simp only [evalMapped, hea, heb, apply_flipped]
            simp [EnumFilter.truth, EnumFilter.flipped, hdl, hdr]

/-- What the visit makes of a filter: it drops what `dropped` says, and the truth
value differs from the original one exactly where the filter is flipped. -/
theorem EnumFilter.visitNodes_spec (row : Node -> String) (f : EnumFilter rt metadata)
    (hf : f.Members row) :
    exists x fields, visitNodes rt metadata f.toNode = .ok (x, fields) ∧
      x.isNone = f.dropped ∧ evalFilter row x = some (f.truth row ^^ f.flipped row) := by
  induction f with
  | constant b =>
      refine ⟨some (.constant (.bool b)), [], rfl, rfl, ?_⟩
      simp [truth, flipped, evalFilter, evalMapped]
  | compare field op literal =>
      rcases modifyComparisonNode_spec field op literal row hf with ⟨hnone, heval⟩
      refine ⟨_, [field.info], ?_, hnone, ?_⟩
      · show (mapProperty metadata true (.simple field.path none) >>= _) = _
        rw [field.mapped]
        rfl
      · rw [heval]
        simp [truth, flipped]
  | not operand ih =>
      rcases ih hf with ⟨x, fields, hvisit, _, heval⟩
      refine ⟨some (joinUnary .not x), fields ++ if x.isSome then fields else [], ?_, rfl, ?_⟩
      · show (visitNodes rt metadata operand.toNode >>= _) = _
        rw [hvisit]
        rfl
      · have hneg : evalFilter row (some (joinUnary .not x)) =
            (evalFilter row x).map fun b => !b := by
          cases x <;> rfl
        rw [hneg, heval]
        simp [truth, flipped]
  | parenthesis expression ih => exact ih hf
  | logical left op right ihl ihr =>
      rcases ihl hf.left with ⟨x, fieldsl, hvisitl, hnonel, hevall⟩
      rcases ihr hf.right with ⟨y, fieldsr, hvisitr, hnoner, hevalr⟩
      rcases joinLogical_spec row op left right hf.left hf.right hnonel hnoner hevall hevalr with
        ⟨hnone, heval⟩
      refine ⟨joinLogical x op y, fieldsl ++ fieldsr, ?_, hnone, heval⟩
      show (visitNodes rt metadata left.toNode >>= _) = _
      rw [hvisitl]
      show (visitNodes rt metadata right.toNode >>= _) = _
      rw [hvisitr]
      rfl

/-- The mapped filter has the meaning of the original one exactly on the rows where
the filter is not flipped. -/
theorem meaningPreserved_iff (row : Node -> String) (f : EnumFilter rt metadata)
    (hf : f.Members row) : f.MeaningPreserved row <-> f.flipped row = false := by
  rcases f.visitNodes_spec row hf with ⟨x, fields, hvisit, _, heval⟩
  have hmap : mapPropsInAst rt metadata f.toNode = .ok (x, distinctFields fields) := by
    show (visitNodes rt metadata f.toNode >>= _) = _
    rw [hvisit]
    rfl
  constructor
  · rintro ⟨mapped, hmapped, htruth⟩
    rw [hmap] at hmapped
    cases hmapped
    rw [heval] at htruth
    have hxor : (f.truth row ^^ f.flipped row) = f.truth row := Option.some.inj htruth
    cases hflipped : f.flipped row with
    | false => rfl
    | true =>
        rw [hflipped, Bool.xor_true] at hxor
        simp at hxor
  · intro hflipped
    exact ⟨_, hmap, by rw [heval, hflipped, Bool.xor_false]⟩

/-!
## A dropped operand of `||`
-/

def severityMetadata : PropertiesMetadata :=
  .ofConfigurations [{
    mapFromPattern := "severity"
    mapTo := ["severity"]
    dataType := none
    enumValues := ["low", "warning", "critical"] }]

def severityField : EnumField asciiRuntime severityMetadata where
  path := ["severity"]
  column := simpleNode ["severity"]
  info := {
    fieldName := "severity"
    fieldMappings := [.simple "severity"]
    enumValues := ["low", "warning", "critical"]
    dataType := none }
  mapped := rfl
  distinct := by decide

def atMostCritical : EnumFilter asciiRuntime severityMetadata :=
  .compare severityField .le ⟨"critical", "critical", by decide, rfl⟩

def aboveLow : EnumFilter asciiRuntime severityMetadata :=
  .compare severityField .gt ⟨"Low", "low", by decide, by decide⟩

def lowRow : Node -> String := fun _ => "low"

theorem meaningPreserved_iff_and :
    (EnumFilter.logical atMostCritical .and aboveLow).MeaningPreserved lowRow <->
      (EnumFilter.logical atMostCritical .and aboveLow).flipped lowRow = false :=
  meaningPreserved_iff lowRow _ ⟨List.mem_cons_self, List.mem_cons_self⟩

/-- `severity <= 'critical' || severity > 'Low'` holds of every row, but is mapped to
its second operand alone. -/
theorem meaning_lost_or :
    ¬ (EnumFilter.logical atMostCritical .or aboveLow).MeaningPreserved lowRow := by
  rintro ⟨mapped, hmapped, htruth⟩
  have hmap : mapPropsInAst asciiRuntime severityMetadata
      (EnumFilter.logical atMostCritical .or aboveLow).toNode =
        .ok (some (inEnum severityField.column ["warning", "critical"]),
          [severityField.info]) := rfl
  rw [hmap] at hmapped
  cases hmapped
  have hfalse : evalFilter lowRow
      (some (inEnum severityField.column ["warning", "critical"])) = some false := rfl
  have htrue : (EnumFilter.logical atMostCritical .or aboveLow).truth lowRow = true := rfl
  rw [hfalse, htrue] at htruth
  cases htruth

end Cel
end KeepGateway
