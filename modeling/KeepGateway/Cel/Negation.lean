import KeepGateway.Cel.FilterConditions
import KeepGateway.Cel.MapperVisits
import KeepGateway.Cel.ContextIndependence

/-!
# Filters and their negations

What a filter over plain columns says of a row in which fields may be NULL.  The rendering
of a comparison or of a list is unknown on NULL, those of method calls and of bare fields
are guarded; a filter and its negation split the rows where the filter is decided.
-/

namespace KeepGateway
namespace Cel

open Sql

/-!
## The reading of a filter
-/

/-- The value of a field, which may have several columns. -/
def fieldValue {V : Type} (row : Row V) : Node -> Option V
  | .propertyAccess (.simple path _) => row (".".intercalate path)
  | .multipleFields fields _ => (fields.filterMap PropertyAccessNode.columnText).findSome? row
  | _ => none

/-- A test that is unknown on NULL. -/
def unguarded {V : Type} (test : V -> Truth) : Option V -> Truth
  | none => .unknown
  | some v => test v

/-- A test that is decided on NULL. -/
def guarded {V : Type} (onNull : Bool) (test : V -> Truth) : Option V -> Truth
  | none => .ofBool onNull
  | some v => test v

namespace Provider

variable {V : Type} (p : Provider) (db : Database V)

/-- Whether an expression on a value meets a test. -/
def meets (function : Option Function) (frame : Frame) (value : Option V) : Truth :=
  match (function.getD .same).eval db value with
  | none => .unknown
  | some v => .ofBool (db.test frame v)

/-- A comparison is unknown on NULL, except under a cast to a Boolean. -/
def comparisonReading (first : Node) (op : ComparisonNodeOperator) (constant : Value) :
    Option V -> Truth :=
  meets db (p.comparisonCast first constant) (p.comparisonFrame first op constant)

def methodReading (op : ComparisonNodeOperator) (constant : Value) : Option V -> Truth :=
  guarded false fun v => .ofBool (db.test (p.likeFrame op constant) v)

/-- A list is unknown on NULL unless it holds null. -/
def inReading (first : Node) (items : List Node) : Option V -> Truth :=
  let member := fun v =>
    if constantsWithoutNone items = [] then .no
    else meets db (p.inCast first ((castTo items).toOption.getD none)) (p.inFrame first items)
      (some v)
  if isNoneFound items then guarded true member else unguarded member

/-- Whether an array holds null; one without items counts. -/
def holdsNull (v : V) : Bool :=
  (p.nullItemFrame.any fun frame => db.test frame v) || db.test p.emptyArrayFrame v

/-- A subquery that finds no row is NULL, where the other dialects have a test. -/
def holdsItem (constant : Value) (v : V) : Truth :=
  match p.dialect with
  | .sqlite => if db.finds (p.itemFrame constant) v then .yes else .unknown
  | _ => .ofBool (db.test (p.itemFrame constant) v)

def arrayItemReading (constant : Value) : Option V -> Truth :=
  if p.isNullConstant constant then guarded true fun v => .ofBool (p.holdsNull db v)
  else unguarded (p.holdsItem db constant)

def itemReading (value : Option V) : Node -> Truth
  | .constant constant => p.arrayItemReading db constant value
  | _ => .no

def arrayInReading (items : List Node) (value : Option V) : Truth :=
  match p.dialect with
  | .sqlite =>
      let found := fun v =>
        if (p.itemsFrame items).any fun frame => db.finds frame v then .yes else .unknown
      if isNoneFound items then
        guarded true (fun v => if db.test p.emptyArrayFrame v then .yes else found v) value
      else unguarded found value
  | _ => items.foldl (fun t item => t.or (p.itemReading db value item)) .no

/-- What a mapped comparison says of the value of its field. -/
def leafReading (first : Node) (op : ComparisonNodeOperator) (second : Node) :
    Option V -> Truth :=
  match op, second with
  | .isIn, .list items =>
      match isArray first with
      | some _ => p.arrayInReading db items
      | none => p.inReading db first items
  | .eq, .constant constant =>
      match isArray first with
      | some _ => p.arrayItemReading db constant
      | none => p.comparisonReading db first .eq constant
  | .contains, .constant constant => p.methodReading db .contains constant
  | .startsWith, .constant constant => p.methodReading db .startsWith constant
  | .endsWith, .constant constant => p.methodReading db .endsWith constant
  | op, .constant constant => p.comparisonReading db first op constant
  | _, _ => fun _ => .unknown

/-- A comparison as the mapper leaves it; nothing is left of one that every row meets. -/
def mappedReading (value : Option V) : Option Node -> Option Truth
  | some (.comparison first op second) => some (p.leafReading db first op second value)
  | some (.unary .not (.comparison first op second)) =>
      some (p.leafReading db first op second value).not
  | some (.constant (.bool b)) => some (.ofBool b)
  | _ => none

/-- A bare field holds unless it is NULL or one of the falsy constants. -/
def bareReading (fields : Node) (info : PropertyMetadataInfo) : Option V -> Truth :=
  guarded false fun v =>
    (falsyValues info.dataType).foldl
      (fun t falsy => t.and (p.comparisonReading db fields .ne falsy (some v))) .yes

def joinReadings (op : LogicalNodeOperator) : Option Truth -> Option Truth -> Option Truth
  | none, right => right
  | left, none => left
  | some left, some right =>
      match op with
      | .and => some (left.and right)
      | .or => some (left.or right)

/-- What a filter says of a row; `none` where nothing is left to filter. -/
def reading (row : Row V) : Node -> Option Truth
  | .parenthesis expression => reading row expression
  | .logical left op right => joinReadings op (reading row left) (reading row right)
  | .comparison (.propertyAccess property) op second =>
      match mapProperty p.metadata true property with
      | .ok (fields, info) =>
          p.mappedReading db (fieldValue row fields)
            (modifyComparisonNode p.rt fields op second info)
      | .error _ => none
  | .propertyAccess property =>
      match mapProperty p.metadata true property with
      | .ok (fields, info) => some (p.bareReading db fields info (fieldValue row fields))
      | .error _ => none
  | .unary .not operand => some ((reading row operand).getD .yes).not
  | _ => none

end Provider

/-!
## Filters over plain columns
-/

/-- A constant other than null, as it comes from the parser: the text of a float is not that
of null. -/
def Value.isNonNull : Value -> Bool
  | .none => false
  | .float r => r != "NULL"
  | _ => true

/-- A field that is mapped to plain columns. -/
def Provider.IsSimpleField (p : Provider) (property : PropertyAccessNode) : Prop :=
  exists mapped scalar, mapProperty p.metadata true property = .ok mapped ∧
    scalarOf mapped.1 = some scalar

def isMethod : ComparisonNodeOperator -> Bool
  | .contains => true
  | .startsWith => true
  | .endsWith => true
  | _ => false

inductive Provider.IsFilter (p : Provider) : Node -> Prop where
  | comparison {property : PropertyAccessNode} {op : ComparisonNodeOperator} {value : Value} :
      p.IsSimpleField property -> Provider.isCastOperator op = true -> value.isNonNull = true ->
        p.IsFilter (.comparison (.propertyAccess property) op (.constant value))
  | method {property : PropertyAccessNode} {op : ComparisonNodeOperator} {value : Value} :
      p.IsSimpleField property -> isMethod op = true ->
        p.IsFilter (.comparison (.propertyAccess property) op (.constant value))
  | isIn {property : PropertyAccessNode} {values : List Value} :
      p.IsSimpleField property -> values ≠ [] ->
        p.IsFilter (.comparison (.propertyAccess property) .isIn (.list (values.map .constant)))
  | field {property : PropertyAccessNode} :
      p.IsSimpleField property -> p.IsFilter (.propertyAccess property)
  | parenthesis {expression : Node} : p.IsFilter expression -> p.IsFilter (.parenthesis expression)
  | logical {left right : Node} {op : LogicalNodeOperator} :
      p.IsFilter left -> p.IsFilter right -> p.IsFilter (.logical left op right)
  | not {operand : Node} : p.IsFilter operand -> p.IsFilter (.unary .not operand)

/-!
## Constants
-/

section Constants

variable {p : Provider}

theorem toString_int_ne_null (n : Int) : toString n ≠ "NULL" := by
  intro h
  cases n with
  | ofNat n =>
      have hn : Nat.repr n = "NULL" := h
      have hmem : 'N' ∈ Nat.toDigits 10 n := by
        rw [← Nat.toList_repr, hn]
        decide
      exact absurd (Nat.isDigit_of_mem_toDigits (by decide) (by decide) hmem) (by decide)
  | negSucc n =>
      have hhead := congrArg (fun s => s.toList.head?) (show "-" ++ toString (n + 1) = "NULL" from h)
      simp [String.toList_append] at hhead

theorem quoted_ne_null (s : String) : "'" ++ s ++ "'" ≠ "NULL" := by
  intro h
  have hhead := congrArg (fun s => s.toList.head?) h
  simp [String.toList_append] at hhead

theorem boolExp_ne_null (b : Bool) : p.boolExp b ≠ "NULL" := by
  unfold Provider.boolExp
  cases p.dialect <;> cases b <;> decide

theorem isNonNull_asUuid {value : Value} (h : value.isNonNull = true)
    (expected : Option DataType) : (p.asUuid value expected).isNonNull = true := by
  unfold Provider.asUuid
  split
  · split
    · rfl
    · exact h
  · exact h

theorem asUuid_none (expected : Option DataType) : p.asUuid .none expected = .none := by
  have hparse : parseUuid p.rt (Value.text .none) = none := by
    unfold parseUuid
    exact if_neg (by decide)
  unfold Provider.asUuid
  rw [hparse]
  exact ite_self _

theorem visitConstantNode_none (expected : Option DataType) :
    p.visitConstantNode .none expected = "NULL" := by
  unfold Provider.visitConstantNode
  rw [asUuid_none]

/-- Only null is rendered as NULL. -/
theorem visitConstantNode_ne_null {value : Value} (h : value.isNonNull = true)
    (expected : Option DataType) : p.visitConstantNode value expected ≠ "NULL" := by
  have hvalue := isNonNull_asUuid (p := p) h expected
  unfold Provider.visitConstantNode
  generalize p.asUuid value expected = value at hvalue
  cases value with
  | none => cases hvalue
  | bool b => exact boolExp_ne_null b
  | int n => exact toString_int_ne_null n
  | float r => exact bne_iff_ne.mp hvalue
  | str s => exact quoted_ne_null _
  | datetime d =>
      intro hnull
      have hhead := congrArg (fun s => s.toList.head?) hnull
      unfold Provider.datetimeExp at hhead
      cases hdialect : p.dialect <;> simp [hdialect, String.toList_append] at hhead

theorem falsyValues_isNonNull {dataType : Option DataType} {falsy : Value}
    (h : falsy ∈ falsyValues dataType) : falsy.isNonNull = true := by
  cases dataType with
  | none =>
      simp only [falsyValues, List.mem_cons, List.not_mem_nil, or_false] at h
      rcases h with h | h <;> rw [h] <;> rfl
  | some dataType =>
      cases dataType <;> simp only [falsyValues, List.mem_cons, List.not_mem_nil, or_false] at h <;>
        first
        | (rw [h]; rfl)
        | (rcases h with h | h <;> rw [h] <;> rfl)

end Constants

/-!
## Comparisons
-/

section Leaves

variable {p : Provider}

theorem filterMap_of_mapM {fields : List PropertyAccessNode} {columns : List String}
    (h : fields.mapM PropertyAccessNode.columnText = some columns) :
    fields.filterMap PropertyAccessNode.columnText = columns := by
  induction fields generalizing columns with
  | nil =>
      cases h
      rfl
  | cons field rest ih =>
      rw [List.mapM_cons] at h
      rcases Option.bind_eq_some_iff.mp h with ⟨text, htext, h⟩
      rcases Option.bind_eq_some_iff.mp h with ⟨texts, htexts, h⟩
      cases h
      rw [List.filterMap_cons_some htext, ih htexts]

theorem eval_scalarOf {x : Node} {scalar : Scalar} (h : scalarOf x = some scalar) {V : Type}
    (db : Database V) (row : Row V) : scalar.eval db row = fieldValue row x := by
  cases Provider.scalarOf_cases h with
  | column _ => rfl
  | coalesce hcolumns =>
      rw [fieldValue, filterMap_of_mapM hcolumns]
      rfl

/-- The types of constants can be cast to in every dialect. -/
theorem castFunction_constant (value : Value) :
    exists function, p.castFunction (some (fromTypeToDataType value)) = some function := by
  unfold Provider.castFunction
  cases value <;> cases p.dialect <;> exact ⟨_, rfl⟩

theorem comparisonCast_isSome (first : Node) (value : Value) :
    exists function, p.comparisonCast first value = some function := by
  unfold Provider.comparisonCast
  split
  · exact castFunction_constant value
  · exact ⟨_, rfl⟩

theorem meets_some {V : Type} (db : Database V) (function : Function) (frame : Frame)
    (value : Option V) :
    Provider.meets db (some function) frame value =
      Condition.strictly (db.test frame) (function.eval db value) := by
  unfold Provider.meets
  rw [Option.getD_some]
  cases function.eval db value <;> rfl

theorem eval_comparisonCondition {first : Node} {scalar : Scalar}
    (op : ComparisonNodeOperator) {value : Value} (hscalar : scalarOf first = some scalar) (hvalue : value.isNonNull = true) :
    exists c, p.comparisonCondition first op value = some c ∧
      forall {V : Type} (db : Database V) (row : Row V),
        c.eval db row = p.comparisonReading db first op value (fieldValue row first) := by
  rcases comparisonCast_isSome (p := p) first value with ⟨function, hcast⟩
  refine ⟨.test (p.comparisonFrame first op value) (.apply function scalar), ?_, ?_⟩
  · unfold Provider.comparisonCondition
    rw [hscalar, hcast]
    exact if_neg (visitConstantNode_ne_null hvalue _)
  · intro V db row
    unfold Provider.comparisonReading
    rw [hcast, ← eval_scalarOf hscalar db row, meets_some]
    rfl

theorem eval_methodCondition {first : Node} {scalar : Scalar} (op : ComparisonNodeOperator)
    (value : Value) (hscalar : scalarOf first = some scalar) :
    exists c, p.methodCondition first op value = some c ∧
      forall {V : Type} (db : Database V) (row : Row V),
        c.eval db row = p.methodReading db op value (fieldValue row first) := by
  refine ⟨.and (.isNotNull scalar) (.test (p.likeFrame op value) scalar), ?_, ?_⟩
  · unfold Provider.methodCondition
    rw [hscalar]
    rfl
  · intro V db row
    rw [← eval_scalarOf hscalar db row]
    unfold Provider.methodReading
    simp only [Condition.eval]
    cases scalar.eval db row with
    | none => rfl
    | some v => exact Truth.yes_and _

/-!
## Lists
-/

theorem allInstances_constants (other : Value) (values : List Value) :
    exists same, Provider.allInstances other (values.map .constant) = .ok same := by
  induction values with
  | nil => exact ⟨true, rfl⟩
  | cons value rest ih =>
      show exists same, (if Provider.isInstance value other = true then
        Provider.allInstances other (rest.map .constant) else .ok false) = .ok same
      split
      · exact ih
      · exact ⟨false, rfl⟩

theorem castTo_constants {values : List Value} (hne : values ≠ []) :
    exists target, Provider.castTo (values.map .constant) = .ok target ∧
      (target = none ∨ target = some .string) := by
  cases values with
  | nil => exact absurd rfl hne
  | cons value rest =>
      rcases allInstances_constants value (value :: rest) with ⟨same, hsame⟩
      refine ⟨if same then none else some .string, ?_, ?_⟩
      · rw [List.map_cons, Provider.castTo]
        show (Provider.allInstances value ((value :: rest).map .constant) >>= _) = _
        rw [hsame]
        rfl
      · cases same
        · exact .inr rfl
        · exact .inl rfl

/-- What a list is cast to keeps NULL, and no more. -/
theorem inCast_keeps (first : Node) {target : Option DataType}
    (htarget : target = none ∨ target = some .string) :
    exists function, p.inCast first target = some function ∧
      forall {V : Type} (db : Database V),
        function.eval db none = none ∧ forall v, exists w, function.eval db (some v) = some w := by
  have hsame : forall {V : Type} (db : Database V),
      Function.same.eval db none = none ∧
        forall v, exists w, Function.same.eval db (some v) = some w :=
    fun db => ⟨rfl, fun v => ⟨v, rfl⟩⟩
  unfold Provider.inCast
  rcases htarget with h | h
  · rw [h, Option.isSome_none, Bool.and_false]
    exact ⟨_, rfl, hsame⟩
  · rw [h, Option.isSome_some, Bool.and_true]
    split
    · unfold Provider.castFunction
      cases p.dialect with
      | mysql => exact ⟨_, rfl, hsame⟩
      | _ => exact ⟨_, rfl, fun db => ⟨rfl, fun v => ⟨_, rfl⟩⟩⟩
    · exact ⟨_, rfl, hsame⟩

theorem constants_not_empty {values : List Value} (hne : values ≠ []) :
    Provider.constantsWithoutNone (values.map .constant) ≠ [] ∨
      Provider.isNoneFound (values.map .constant) = true := by
  cases values with
  | nil => exact absurd rfl hne
  | cons value rest =>
      cases value with
      | none => exact .inr rfl
      | _ => exact .inl (List.cons_ne_nil _ _)

theorem eval_inCondition {first : Node} {scalar : Scalar} {values : List Value}
    (hscalar : scalarOf first = some scalar) (hne : values ≠ []) :
    exists c, p.inCondition first (values.map .constant) = some c ∧
      forall {V : Type} (db : Database V) (row : Row V),
        c.eval db row =
          p.inReading db first (values.map .constant) (fieldValue row first) := by
  rcases castTo_constants hne with ⟨target, hcastTo, htarget⟩
  rcases inCast_keeps (p := p) first htarget with ⟨function, hcast, hkeeps⟩
  have hnotEmpty := constants_not_empty hne
  generalize values.map Node.constant = items at hcastTo hnotEmpty
  have hreading : forall {V : Type} (db : Database V) (value : Option V),
      p.inReading db first items value =
        (if Provider.isNoneFound items then guarded true else unguarded)
          (fun v => if Provider.constantsWithoutNone items = [] then .no
            else Condition.strictly (db.test (p.inFrame first items))
              (function.eval db (some v))) value := by
    intro V db value
    unfold Provider.inReading
    rw [hcastTo]
    simp only [Except.toOption, Option.getD_some, hcast, meets_some]
    split <;> rfl
  simp only [Provider.inCondition, hscalar, hcastTo, Except.toOption, Option.bind_eq_bind,
    Option.bind_some, hcast]
  cases hvalues : Provider.constantsWithoutNone items with
  | nil =>
      rcases hnotEmpty with hnotEmpty | hnone
      · exact absurd hvalues hnotEmpty
      · rw [hnone]
        refine ⟨_, rfl, ?_⟩
        intro V db row
        rw [hreading, hnone, hvalues, ← eval_scalarOf hscalar db row]
        simp only [Condition.eval, Scalar.eval]
        cases scalar.eval db row with
        | none =>
            rw [(hkeeps db).1]
            rfl
        | some v =>
            rcases (hkeeps db).2 v with ⟨w, hw⟩
            rw [hw]
            rfl
  | cons constant rest =>
      cases hnone : Provider.isNoneFound items with
      | false =>
          refine ⟨_, rfl, ?_⟩
          intro V db row
          rw [hreading, hnone, hvalues, ← eval_scalarOf hscalar db row]
          simp only [Condition.eval, Scalar.eval]
          cases scalar.eval db row with
          | none =>
              rw [(hkeeps db).1]
              rfl
          | some v => rfl
      | true =>
          refine ⟨_, rfl, ?_⟩
          intro V db row
          rw [hreading, hnone, hvalues, ← eval_scalarOf hscalar db row]
          simp only [Condition.eval, Scalar.eval]
          cases scalar.eval db row with
          | none =>
              rw [(hkeeps db).1]
              rfl
          | some v =>
              rcases (hkeeps db).2 v with ⟨w, hw⟩
              show Truth.or (Condition.strictly _ (function.eval db (some v)))
                (.ofBool (function.eval db (some v)).isNone) =
                  Condition.strictly _ (function.eval db (some v))
              rw [hw]
              exact Truth.or_no _

/-!
## Arrays
-/

theorem eval_arrayEqualCondition (column : Scalar) (constant : Value) {V : Type}
    (db : Database V) (row : Row V) :
    (p.arrayEqualCondition column constant).eval db row =
      p.arrayItemReading db constant (column.eval db row) := by
  unfold Provider.arrayEqualCondition Provider.arrayItemReading
  split
  · unfold Provider.arrayContainsNull Provider.holdsNull
    cases p.nullItemFrame with
    | none =>
        simp only [Condition.eval, Option.any_none, Bool.false_or]
        cases column.eval db row with
        | none => rfl
        | some v => exact Truth.no_or _
    | some frame =>
        simp only [Condition.eval, Option.any_some]
        cases column.eval db row with
        | none => rfl
        | some v =>
            show Truth.or (Truth.or (.ofBool _) .no) (.ofBool _) = Truth.ofBool _
            rw [Truth.or_no, Truth.or_ofBool]
  · unfold Provider.arrayContains Provider.holdsItem
    cases p.dialect <;> simp only [Condition.eval] <;> cases column.eval db row <;> rfl

/-- One alternative for each constant of the list. -/
theorem eval_arrayAlternatives (column : Scalar) (values : List Value) (filter : Condition) :
    exists c, p.arrayAlternatives column filter (values.map .constant) = some c ∧
      forall {V : Type} (db : Database V) (row : Row V),
        c.eval db row = (values.map Node.constant).foldl
          (fun t item => t.or (p.itemReading db (column.eval db row) item))
          (filter.eval db row) := by
  induction values generalizing filter with
  | nil => exact ⟨filter, rfl, fun db row => rfl⟩
  | cons value rest ih =>
      rcases ih (.paren (.or filter (p.arrayEqualCondition column value))) with ⟨c, hc, heval⟩
      refine ⟨c, hc, ?_⟩
      intro V db row
      rw [heval, List.map_cons, List.foldl_cons]
      simp only [Condition.eval, eval_arrayEqualCondition, Provider.itemReading]

theorem visitIn_arrayValue {values : List Value} (hne : values ≠ []) :
    exists frame, p.itemsFrame (values.map .constant) = some frame := by
  have hscalar : scalarOf Provider.jsonArrayValue = some (.column "json_array.value") := rfl
  rcases eval_inCondition (p := p) hscalar hne with ⟨c, hc, _⟩
  unfold Provider.itemsFrame
  rw [Provider.inCondition_text hc]
  exact ⟨_, rfl⟩

theorem eval_arrayInCondition (column : Scalar) {values : List Value} (hne : values ≠ []) :
    exists c, p.arrayInCondition column (values.map .constant) = some c ∧
      forall {V : Type} (db : Database V) (row : Row V),
        c.eval db row =
          p.arrayInReading db (values.map .constant) (column.eval db row) := by
  rcases visitIn_arrayValue (p := p) hne with ⟨frame, hframe⟩
  unfold Provider.arrayInCondition Provider.arrayInReading
  cases p.dialect with
  | sqlite =>
      simp only [hframe, bind, Option.bind_some, Option.any_some]
      split
      · refine ⟨_, rfl, ?_⟩
        intro V db row
        simp only [Condition.eval]
        cases column.eval db row with
        | none => rfl
        | some v =>
            show Truth.or (Truth.or (.ofBool _) .no) (if _ then .yes else .unknown) =
              (if _ then .yes else if _ then .yes else .unknown)
            cases db.test p.emptyArrayFrame v <;> cases db.finds frame v <;> rfl
      · refine ⟨_, rfl, ?_⟩
        intro V db row
        simp only [Condition.eval]
        cases column.eval db row <;> rfl
  | _ =>
      cases values with
      | nil => exact absurd rfl hne
      | cons value rest =>
          rcases eval_arrayAlternatives (p := p) column rest
            (p.arrayEqualCondition column value) with ⟨c, hc, heval⟩
          refine ⟨c, hc, ?_⟩
          intro V db row
          simp only [List.map_cons, List.foldl_cons, Provider.itemReading, Truth.no_or]
          rw [heval, eval_arrayEqualCondition]
          rfl

/-!
## Mapped comparisons
-/

theorem isArray_eq_some {first : Node} {property : PropertyAccessNode}
    (h : Provider.isArray first = some property) : first = .propertyAccess property := by
  cases first with
  | propertyAccess other =>
      simp only [Provider.isArray] at h
      split at h
      · cases h
        rfl
      · cases h
  | _ => cases h

/-- The comparisons that filters over plain columns are mapped to. -/
inductive IsLeaf : ComparisonNodeOperator -> Node -> Prop where
  | comparison {op : ComparisonNodeOperator} {value : Value} :
      Provider.isCastOperator op = true -> value.isNonNull = true -> IsLeaf op (.constant value)
  | method {op : ComparisonNodeOperator} {value : Value} :
      isMethod op = true -> IsLeaf op (.constant value)
  | isIn {values : List Value} : values ≠ [] -> IsLeaf .isIn (.list (values.map .constant))

theorem isLeaf_enumConstants {values : List String} (hne : values ≠ []) :
    IsLeaf .isIn (enumConstants values) := by
  have hitems : enumConstants values = .list ((values.map Value.str).map .constant) := by
    unfold enumConstants
    rw [List.map_map]
    rfl
  rw [hitems]
  exact .isIn (fun h => hne (List.map_eq_nil_iff.mp h))

theorem hasConstantItems_of_isLeaf {op : ComparisonNodeOperator} {second : Node}
    (h : IsLeaf op second) : Node.hasConstantItems second := by
  cases h with
  | comparison _ _ => trivial
  | method _ => trivial
  | @isIn values _ => exact ⟨values, rfl⟩

theorem eval_leafCondition {first second : Node} {op : ComparisonNodeOperator} {scalar : Scalar}
    (hscalar : scalarOf first = some scalar) (hleaf : IsLeaf op second) :
    exists c, p.leafCondition first op second = some c ∧
      forall {V : Type} (db : Database V) (row : Row V),
        c.eval db row = p.leafReading db first op second (fieldValue row first) := by
  have harrayScalar : forall property, Provider.isArray first = some property ->
      Provider.arrayScalar property = some scalar := by
    intro property harray
    rw [isArray_eq_some harray] at hscalar
    exact hscalar
  cases hleaf with
  | @comparison _ value hop hvalue =>
      have hcomparison := eval_comparisonCondition (p := p) op hscalar hvalue
      cases op with
      | isIn => cases hop
      | contains => cases hop
      | startsWith => cases hop
      | endsWith => cases hop
      | eq =>
          unfold Provider.leafCondition Provider.leafReading
          cases harray : Provider.isArray first with
          | none => exact hcomparison
          | some property =>
              refine ⟨p.arrayEqualCondition scalar value, ?_, ?_⟩
              · show (do some (p.arrayEqualCondition (<- Provider.arrayScalar property) value)) = _
                rw [harrayScalar property harray]
                rfl
              · intro V db row
                rw [← eval_scalarOf hscalar db row]
                exact eval_arrayEqualCondition scalar value db row
      | _ => exact hcomparison
  | @method _ value hop =>
      cases op with
      | contains => exact eval_methodCondition .contains value hscalar
      | startsWith => exact eval_methodCondition .startsWith value hscalar
      | endsWith => exact eval_methodCondition .endsWith value hscalar
      | _ => cases hop
  | @isIn values hne =>
      unfold Provider.leafCondition Provider.leafReading
      cases harray : Provider.isArray first with
      | none => exact eval_inCondition hscalar hne
      | some property =>
          rcases eval_arrayInCondition (p := p) scalar hne with ⟨c, hc, heval⟩
          refine ⟨c, ?_, ?_⟩
          · show (do p.arrayInCondition (<- Provider.arrayScalar property) _) = _
            rw [harrayScalar property harray]
            exact hc
          · intro V db row
            rw [← eval_scalarOf hscalar db row]
            exact heval db row

end Leaves

/-!
## Mapped filters
-/

section Filters

variable {p : Provider}

/-- What a filter says of a row, in every database. -/
abbrev RowReading := forall V : Type, Database V -> Row V -> Option Truth

/-- A mapped filter has a condition, and its value on a row is the reading. -/
def ReadsAs (p : Provider) (mapped : Option Node) (reading : RowReading) : Prop :=
  match mapped with
  | none => forall (V : Type) (db : Database V) (row : Row V), reading V db row = none
  | some x =>
      Provider.HasConstantLists x ∧ exists c, p.sqlCondition x = some c ∧
        forall (V : Type) (db : Database V) (row : Row V),
          reading V db row = some (c.eval db row)

theorem readsAs_leaf {first second : Node} {op : ComparisonNodeOperator} {scalar : Scalar}
    (hscalar : scalarOf first = some scalar) (hleaf : IsLeaf op second) :
    ReadsAs p (some (.comparison first op second)) fun _ db row =>
      p.mappedReading db (fieldValue row first) (some (.comparison first op second)) := by
  rcases eval_leafCondition (p := p) hscalar hleaf with ⟨c, hc, heval⟩
  refine ⟨hasConstantItems_of_isLeaf hleaf, c, ?_, ?_⟩
  · rw [Provider.sqlCondition]
    exact hc
  · intro V db row
    rw [heval]
    rfl

theorem readsAs_notInEnum {first : Node} {scalar : Scalar} {values : List String}
    (hscalar : scalarOf first = some scalar) (hne : values ≠ []) :
    ReadsAs p (some (notInEnum first values)) fun _ db row =>
      p.mappedReading db (fieldValue row first) (some (notInEnum first values)) := by
  have hleaf := isLeaf_enumConstants hne
  rcases eval_leafCondition (p := p) hscalar hleaf with ⟨c, hc, heval⟩
  refine ⟨hasConstantItems_of_isLeaf hleaf, .not (.paren c), ?_, ?_⟩
  · show p.sqlCondition (.unary .not (.comparison first .isIn (enumConstants values))) = _
    rw [Provider.sqlCondition, Provider.sqlCondition, hc]
    rfl
  · intro V db row
    show _ = some (c.eval db row).not
    rw [heval]
    rfl

theorem isNonNull_canonicalizeEnumValue {rt : Runtime} {enumValues : List String}
    {value : Value} (h : value.isNonNull = true) :
    (canonicalizeEnumValue rt enumValues value).isNonNull = true := by
  cases value with
  | str s =>
      simp only [canonicalizeEnumValue]
      split <;> rfl
  | _ => exact h

theorem isLeaf_canonicalOperand (rt : Runtime) {op : ComparisonNodeOperator} {second : Node}
    (info : PropertyMetadataInfo) (h : IsLeaf op second) :
    IsLeaf op (canonicalOperand rt op second info) := by
  unfold canonicalOperand
  split
  · cases h with
    | comparison hop hvalue => exact .comparison hop (isNonNull_canonicalizeEnumValue hvalue)
    | method hop => exact .method hop
    | @isIn values hne =>
        have hitems : (values.map Node.constant).map (canonicalizeEnumItem rt info.enumValues) =
            (values.map (canonicalizeEnumValue rt info.enumValues)).map .constant := by
          simp only [List.map_map]
          rfl
        show IsLeaf .isIn (.list ((values.map Node.constant).map _))
        rw [hitems]
        exact .isIn (fun h => hne (List.map_eq_nil_iff.mp h))
  · exact h

/-- A comparison of a plain field reads as the mapper leaves it. -/
theorem readsAs_modifyComparisonNode {first second : Node} {op : ComparisonNodeOperator}
    {scalar : Scalar} (hscalar : scalarOf first = some scalar) (hleaf : IsLeaf op second)
    (info : PropertyMetadataInfo) :
    ReadsAs p (modifyComparisonNode p.rt first op second info) fun _ db row =>
      p.mappedReading db (fieldValue row first)
        (modifyComparisonNode p.rt first op second info) := by
  have hcanonical := isLeaf_canonicalOperand p.rt info hleaf
  have hmodified := modified_modifyComparisonNode p.rt first op second info
  generalize modifyComparisonNode p.rt first op second info = x at hmodified
  cases hmodified with
  | kept _ => exact readsAs_leaf hscalar hcanonical
  | rewritten _ hvalue _ _ hrewritten =>
      rw [hvalue] at hcanonical
      cases hrewritten with
      | everyRow _ => exact fun _ db row => rfl
      | noRow _ => exact ⟨trivial, .constant false (p.boolExp false), rfl, fun _ db row => rfl⟩
      | inEnum hne => exact readsAs_leaf hscalar (isLeaf_enumConstants hne)
      | notInEnum hne => exact readsAs_notInEnum hscalar hne
      | kept _ _ _ _ => exact readsAs_leaf hscalar hcanonical

/-!
## Bare fields
-/

theorem leafCondition_ne (first : Node) (value : Value) :
    p.leafCondition first .ne (.constant value) = p.comparisonCondition first .ne value := rfl

theorem sqlCondition_notNull {fields : Node} {scalar : Scalar}
    (hscalar : scalarOf fields = some scalar) :
    exists c, p.sqlCondition (notEqual fields .none) = some c ∧
      forall {V : Type} (db : Database V) (row : Row V),
        c.eval db row = .ofBool (fieldValue row fields).isSome := by
  have hcast : p.comparisonCast fields .none = some .same := by
    unfold Provider.comparisonCast
    split
    · unfold Provider.castFunction fromTypeToDataType
      cases p.dialect <;> rfl
    · rfl
  refine ⟨.isNotNull (.apply .same scalar), ?_, ?_⟩
  · unfold notEqual
    rw [Provider.sqlCondition, leafCondition_ne]
    unfold Provider.comparisonCondition
    rw [hscalar, hcast]
    exact if_pos (visitConstantNode_none _)
  · intro V db row
    rw [← eval_scalarOf hscalar db row]
    rfl

/-- The constants that are excluded, one after another. -/
theorem readsAs_falsy {fields : Node} {scalar : Scalar} (hscalar : scalarOf fields = some scalar)
    (values : List Value) (hvalues : forall value, value ∈ values -> value.isNonNull = true)
    {filter : Node} {c : Condition} (hlists : Provider.HasConstantLists filter)
    (hfilter : p.sqlCondition filter = some c) :
    ReadsAs p
      (some (values.foldl (fun filter falsy => .logical filter .and (notEqual fields falsy)) filter))
      fun _ db row => some (values.foldl
        (fun t falsy => t.and (p.comparisonReading db fields .ne falsy (fieldValue row fields)))
        (c.eval db row)) := by
  induction values generalizing filter c with
  | nil => exact ⟨hlists, c, hfilter, fun _ db row => rfl⟩
  | cons value rest ih =>
      have hvalue := hvalues value List.mem_cons_self
      have hrest : forall other, other ∈ rest -> other.isNonNull = true :=
        fun other hother => hvalues other (List.mem_cons_of_mem _ hother)
      rcases eval_comparisonCondition (p := p) .ne hscalar hvalue with ⟨next, hnext, heval⟩
      have hjoined : p.sqlCondition (.logical filter .and (notEqual fields value)) =
          some (.paren (.conj c next)) := by
        have hne : p.sqlCondition (notEqual fields value) = some next := by
          unfold notEqual
          rw [Provider.sqlCondition, leafCondition_ne]
          exact hnext
        rw [Provider.sqlCondition, hfilter, hne]
        rfl
      have hboth : Provider.HasConstantLists (.logical filter .and (notEqual fields value)) :=
        ⟨hlists, trivial⟩
      have hall := ih hrest hboth hjoined
      have hsame : forall {V : Type} (db : Database V) (row : Row V),
          (Condition.paren (.conj c next)).eval db row =
            (c.eval db row).and
              (p.comparisonReading db fields .ne value (fieldValue row fields)) := by
        intro V db row
        rw [← heval]
        exact Condition.eval_conj db row c next
      simp only [hsame] at hall
      exact hall

theorem readsAs_truthiness {fields : Node} {scalar : Scalar} (info : PropertyMetadataInfo)
    (hscalar : scalarOf fields = some scalar) :
    ReadsAs p (some (truthiness fields info)) fun _ db row =>
      some (p.bareReading db fields info (fieldValue row fields)) := by
  rcases sqlCondition_notNull (p := p) hscalar with ⟨c, hc, heval⟩
  have hlists : Provider.HasConstantLists (notEqual fields .none) := trivial
  have hall := readsAs_falsy hscalar (falsyValues info.dataType)
    (fun value hvalue => falsyValues_isNonNull hvalue) hlists hc
  have hreading : forall {V : Type} (db : Database V) (row : Row V),
      (falsyValues info.dataType).foldl
        (fun t falsy => t.and (p.comparisonReading db fields .ne falsy (fieldValue row fields)))
        (c.eval db row) = p.bareReading db fields info (fieldValue row fields) := by
    intro V db row
    rw [heval]
    cases fieldValue row fields with
    | none => exact Truth.foldl_no _ _
    | some v => rfl
  simp only [hreading] at hall
  exact hall

/-!
## Whole filters
-/

theorem readsAs_joinLogical {left right : Option Node} (op : LogicalNodeOperator)
    {l r : RowReading} (hleft : ReadsAs p left l) (hright : ReadsAs p right r) :
    ReadsAs p (joinLogical left op right) fun V db row =>
      Provider.joinReadings op (l V db row) (r V db row) := by
  cases left with
  | none =>
      simp only [hleft _ _ _]
      exact hright
  | some x =>
      rcases hleft with ⟨hx, c, hc, hl⟩
      cases right with
      | none =>
          simp only [hl _ _ _, hright _ _ _]
          exact ⟨hx, c, hc, fun _ db row => rfl⟩
      | some y =>
          rcases hright with ⟨hy, d, hd, hr⟩
          simp only [hl _ _ _, hr _ _ _]
          have hboth : Provider.HasConstantLists (.logical x op y) := ⟨hx, hy⟩
          cases op with
          | and =>
              refine ⟨hboth, .paren (.conj c d), ?_, ?_⟩
              · rw [Provider.sqlCondition, hc, hd]
                rfl
              · intro V db row
                exact congrArg some (Condition.eval_conj db row c d).symm
          | or =>
              refine ⟨hboth, .paren (.or c d), ?_, ?_⟩
              · rw [Provider.sqlCondition, hc, hd]
                rfl
              · intro V db row
                rfl

theorem readsAs_joinUnary {operand : Option Node} {reading : RowReading}
    (h : ReadsAs p operand reading) :
    ReadsAs p (some (joinUnary .not operand)) fun V db row =>
      some ((reading V db row).getD .yes).not := by
  cases operand with
  | none =>
      simp only [h _ _ _]
      exact ⟨trivial, .not (.paren (.constant true (p.boolExp true))), rfl, fun _ db row => rfl⟩
  | some x =>
      rcases h with ⟨hx, c, hc, hreading⟩
      simp only [hreading _ _ _]
      refine ⟨hx, .not (.paren c), ?_, ?_⟩
      · rw [joinUnary, Provider.sqlCondition, hc]
        rfl
      · intro V db row
        rfl

/-- The mapper leaves of a filter what reads as the filter does. -/
theorem readsAs_visitNodes {E : Node} (h : p.IsFilter E) :
    exists mapped, visitNodes p.rt p.metadata E = .ok mapped ∧
      ReadsAs p mapped.1 fun _ db row => p.reading db row E := by
  have hcompared : forall {property : PropertyAccessNode} {op : ComparisonNodeOperator}
      {second : Node}, p.IsSimpleField property -> IsLeaf op second ->
        exists mapped, visitNodes p.rt p.metadata (.comparison (.propertyAccess property) op second) =
            .ok mapped ∧
          ReadsAs p mapped.1 fun _ db row =>
            p.reading db row (.comparison (.propertyAccess property) op second) := by
    rintro property op second ⟨⟨fields, info⟩, scalar, hmapped, hscalar⟩ hleaf
    refine ⟨(modifyComparisonNode p.rt fields op second info, [info]), ?_, ?_⟩
    · rw [visitNodes, hmapped]
      rfl
    · simp only [Provider.reading, hmapped]
      exact readsAs_modifyComparisonNode hscalar hleaf info
  induction h with
  | comparison hfield hop hvalue => exact hcompared hfield (.comparison hop hvalue)
  | method hfield hop => exact hcompared hfield (.method hop)
  | isIn hfield hne => exact hcompared hfield (.isIn hne)
  | @field property hfield =>
      rcases hfield with ⟨⟨fields, info⟩, scalar, hmapped, hscalar⟩
      refine ⟨(some (truthiness fields info), [info]), ?_, ?_⟩
      · rw [visitNodes, hmapped]
        rfl
      · simp only [Provider.reading, hmapped]
        exact readsAs_truthiness info hscalar
  | parenthesis _ ih =>
      rcases ih with ⟨mapped, hvisit, hreads⟩
      exact ⟨mapped, by rw [visitNodes, hvisit], hreads⟩
  | @logical left right op _ _ ihleft ihright =>
      rcases ihleft with ⟨l, hl, hleft⟩
      rcases ihright with ⟨r, hr, hright⟩
      refine ⟨(joinLogical l.1 op r.1, l.2 ++ r.2), ?_, ?_⟩
      · rw [visitNodes, hl, hr]
        rfl
      · exact readsAs_joinLogical op hleft hright
  | @not operand _ ih =>
      rcases ih with ⟨mapped, hvisit, hreads⟩
      refine ⟨(some (joinUnary .not mapped.1), visitedAgain mapped), ?_, ?_⟩
      · rw [visitNodes, hvisit]
        · rfl
        · intro property hop
          cases hop
      · exact readsAs_joinUnary hreads

theorem isBooleanFilterNode_of_isFilter {E : Node} (h : p.IsFilter E) :
    isBooleanFilterNode E = true := by
  induction h with
  | parenthesis _ ih => exact ih
  | logical _ _ ihleft ihright => exact Bool.and_eq_true_iff.mpr ⟨ihleft, ihright⟩
  | not _ ih => exact ih
  | _ => rfl

end Filters

/-!
## Negations
-/

/-- The WHERE clause for a parsed filter. -/
def Provider.filterOf (p : Provider) (E : Node) : Option Filter :=
  match mapPropsInAst p.rt p.metadata E with
  | .ok (some x, _) => (p.sqlCondition x).map some
  | .ok (none, _) => some none
  | .error _ => none

/-- The WHERE clause for a filter, as a condition. -/
def Provider.sqlFilter (p : Provider) (celpy : Celpy) (cel : String) : Option Filter :=
  match celpy.parse cel with
  | .ok tree =>
      match convertToAst p.rt tree with
      | .ok E => p.filterOf E
      | .error _ => none
  | .error _ => none

/-- `!(t)` -/
def Tree.negation (t : Tree .expr) : Tree .expr :=
  .ofRelation (.ofUnary (.unary .not (.memberPrimary (.parenExpr t))))

theorem validateNode_of_isFilter {p : Provider} {E : Node} (h : p.IsFilter E) :
    validateNode E = .ok E := by
  cases h <;> rfl

/-- The negation of an expression converts to that of its AST. -/
theorem convertToAst_negation {rt : Runtime} {t : Tree .expr} {E : Node}
    (h : convertToAst rt t = .ok E) (hnode : validateNode E = .ok E) :
    convertToAst rt t.negation = .ok (.unary .not (.parenthesis E)) := by
  have hdeficit : t.deficit = 0 := by
    rcases Nat.eq_zero_or_pos t.deficit with hzero | hpos
    · exact hzero
    · exact absurd h (convertToAst_of_deficit rt t (Nat.ne_of_gt hpos) E)
  have heffect := visit_hasEffect rt t hdeficit
  cases hrun : visit rt t ([], []) with
  | error e =>
      rw [convertToAst_of_visit_error hrun] at h
      cases h
  | ok s =>
      have hlength : s.1.length = 1 := heffect.length (show ([] : List Node).length = 0 from rfl) hrun
      rcases List.length_eq_one_iff.mp hlength with ⟨x, hx⟩
      rcases s with ⟨stack, m⟩
      cases hx
      rw [convertToAst_of_visit hrun] at h
      cases h
      have hframe := heffect.frame_nil [.unary .not .none] []
      rw [hrun] at hframe
      have hvisit : visit rt t.negation ([], []) = .ok ([.unary .not (.parenthesis E)], m) := by
        show (visit rt t ([.unary .not .none], []) >>= parenExpr) >>= unary = _
        rw [hframe]
        show (validateNode E >>= fun expression =>
          Except.ok (push (.parenthesis expression) ([.unary .not .none], m))) >>= unary = _
        rw [hnode]
        rfl
      exact convertToAst_of_visit hvisit

theorem Provider.convertQuery_mapped {p : Provider} {E : Node} {mapped : Option Node}
    {fields : List PropertyMetadataInfo} (hboolean : isBooleanFilterNode E = true)
    (hmap : mapPropsInAst p.rt p.metadata E = .ok (mapped, fields)) (cel : String) :
    p.convertQuery cel E =
      mapped.elim (.ok ⟨"", []⟩) fun x => p.buildQuery x >>= fun sql => .ok ⟨sql, fields⟩ := by
  unfold Provider.convertQuery Provider.mapQuery
  rw [if_pos hboolean, hmap]
  cases mapped <;> rfl

theorem Provider.filterOf_spec {p : Provider} {E : Node} (h : p.IsFilter E) :
    exists filter, p.filterOf E = some filter ∧
      (forall cel, exists involved, p.convertQuery cel E = .ok ⟨filter.text, involved⟩) ∧
      (forall c, filter = some c -> c.Grouped) ∧
      forall {V : Type} (db : Database V) (row : Row V),
        p.reading db row E = filter.map fun c => c.eval db row := by
  rcases readsAs_visitNodes h with ⟨⟨mapped, fields⟩, hvisit, hreads⟩
  have hmap : mapPropsInAst p.rt p.metadata E = .ok (mapped, distinctFields fields) := by
    unfold mapPropsInAst
    rw [hvisit]
    rfl
  have hquery := Provider.convertQuery_mapped (isBooleanFilterNode_of_isFilter h) hmap
  unfold Provider.filterOf
  rw [hmap]
  cases mapped with
  | none =>
      refine ⟨none, rfl, ?_, ?_, ?_⟩
      · intro cel
        exact ⟨[], hquery cel⟩
      · intro c hc
        cases hc
      · intro V db row
        exact hreads V db row
  | some x =>
      rcases hreads with ⟨hlists, c, hc, hreading⟩
      refine ⟨some c, ?_, ?_, ?_, ?_⟩
      · show (p.sqlCondition x).map some = _
        rw [hc]
        rfl
      · intro cel
        refine ⟨distinctFields fields, (hquery cel).trans ?_⟩
        rw [Option.elim_some]
        unfold Provider.buildQuery
        rw [Provider.sqlCondition_text hlists hc]
        rfl
      · intro d hd
        cases hd
        exact (Provider.isOperand_sqlCondition hc).2
      · intro V db row
        exact hreading V db row

/-- The SQL of an expression is the text of a condition, grouped as SQL groups it. -/
structure Provider.Renders (p : Provider) (celpy : Celpy) (cel : String) (filter : Filter) :
    Prop where
  sqlFilter : p.sqlFilter celpy cel = some filter
  text : exists involved, p.convertToSqlStr celpy cel = .ok ⟨filter.text, involved⟩
  grouped : forall c, filter = some c -> c.Grouped

/-- Exactly one of the SQL of a filter and that of its negation selects the row. -/
def Provider.SplitsRow (p : Provider) (celpy : Celpy) (cel : String) {V : Type}
    (db : Database V) (row : Row V) : Prop :=
  exists filter negation,
    p.Renders celpy cel filter ∧ p.Renders celpy ("!(" ++ cel ++ ")") negation ∧
      Xor (filter.Selects db row) (negation.Selects db row)

theorem Provider.renders_filter {p : Provider} {celpy : Celpy} {cel : String}
    {tree : Tree .expr} {E : Node} (hcel : cel ≠ "") (hparse : celpy.parse cel = .ok tree)
    (hast : convertToAst p.rt tree = .ok E) (hE : p.IsFilter E) :
    exists filter, p.Renders celpy cel filter ∧
      forall {V : Type} (db : Database V) (row : Row V),
        p.reading db row E = filter.map fun c => c.eval db row := by
  rcases p.filterOf_spec hE with ⟨filter, hfilter, htext, hgrouped, hreading⟩
  refine ⟨filter, ⟨?_, ?_, hgrouped⟩, hreading⟩
  · unfold Provider.sqlFilter
    rw [hparse]
    simp only [hast]
    exact hfilter
  · rcases htext cel with ⟨involved, hinvolved⟩
    refine ⟨involved, ?_⟩
    unfold Provider.convertToSqlStr
    rw [if_neg hcel, hparse]
    simp only [hast]
    exact hinvolved

/-- A filter and its negation split the rows on which the reading of the filter is
decided. -/
theorem splitsRow_iff {p : Provider} {celpy : Celpy} {cel : String} {tree : Tree .expr}
    {E : Node} (hcel : cel ≠ "") (hparse : celpy.parse cel = .ok tree)
    (hnegation : celpy.parse ("!(" ++ cel ++ ")") = .ok tree.negation)
    (hast : convertToAst p.rt tree = .ok E) (hE : p.IsFilter E) {V : Type}
    (db : Database V) (row : Row V) :
    p.SplitsRow celpy cel db row <-> p.reading db row E ≠ some .unknown := by
  have hnegated : "!(" ++ cel ++ ")" ≠ "" := by
    intro hempty
    have hlength := congrArg String.length hempty
    simp [String.length_append] at hlength
  have hnot : p.IsFilter (.unary .not (.parenthesis E)) := .not (.parenthesis hE)
  have hnotAst := convertToAst_negation hast (validateNode_of_isFilter hE)
  rcases Provider.renders_filter hcel hparse hast hE with ⟨filter, hfilter, hreading⟩
  rcases Provider.renders_filter hnegated hnegation hnotAst hnot with
    ⟨negation, hrenders, hnotReading⟩
  have hxor : Xor (filter.Selects db row) (negation.Selects db row) <->
      p.reading db row E ≠ some .unknown := by
    have hcondition := hnotReading db row
    rw [hreading db row]
    simp only [Provider.reading, hreading db row] at hcondition
    cases negation with
    | none => cases hcondition
    | some d =>
        have hd : d.eval db row = ((filter.map fun c : Condition => c.eval db row).getD .yes).not :=
          (Option.some.inj hcondition).symm
        simp only [Filter.Selects, hd]
        cases filter with
        | none => simp [Truth.not, Xor]
        | some c =>
            simp only [Option.map_some, Option.getD_some]
            rw [Truth.xor_not_iff]
            simp
  constructor
  · rintro ⟨filter', negation', hfilter', hrenders', hsplits⟩
    cases hfilter.sqlFilter.symm.trans hfilter'.sqlFilter
    cases hrenders.sqlFilter.symm.trans hrenders'.sqlFilter
    exact hxor.mp hsplits
  · intro hdecided
    exact ⟨filter, negation, hfilter, hrenders, hxor.mpr hdecided⟩

namespace NegationSample

def metadata : PropertiesMetadata :=
  .ofConfigurations [⟨"severity", ["alert.severity"], some .string,
    ["low", "info", "warning", "high", "critical"]⟩]

def provider : Provider := ⟨asciiRuntime, .postgresql, id, metadata⟩

/-- `severity == 'high'` -/
def tree : Tree .expr :=
  .ofRelation (.relation .eq
    (.relationOne (.additionOne (.multiplicationOne (.unaryOne (.memberPrimary
      (.ident "severity"))))))
    (.additionOne (.multiplicationOne (.unaryOne (.memberPrimary (.literal "'high'"))))))

def celpy : Celpy where
  parse := fun cel => .ok (if cel = "severity == 'high'" then tree else tree.negation)
  str := fun _ => ""

def query : Node := .comparison (simpleNode ["severity"]) .eq (.constant (.str "high"))

/-- A database that compares texts. -/
def db : Database String where
  literal := id
  ofBool := fun b => if b then "true" else "false"
  apply := fun _ v => v
  test := fun frame v => frame.after = " = '" ++ v ++ "'"
  finds := fun _ _ => false

/-- A row without a severity. -/
def row : Row String := fun _ => none

def equality : Condition :=
  .test ⟨"", " = 'high'"⟩ (.apply .same (.column "alert.severity"))

theorem convertToAst_tree : convertToAst asciiRuntime tree = .ok query := rfl

theorem mapProperty_severity : exists mapped scalar,
    mapProperty metadata true (.simple ["severity"] none) = .ok mapped ∧
      scalarOf mapped.1 = some scalar :=
  ⟨_, .column "alert.severity", rfl, rfl⟩

theorem isFilter_query : provider.IsFilter query :=
  .comparison mapProperty_severity rfl rfl

theorem parse_query : celpy.parse "severity == 'high'" = .ok tree := rfl

theorem parse_negation : celpy.parse ("!(" ++ "severity == 'high'" ++ ")") = .ok tree.negation :=
  rfl

theorem sqlFilter_query : provider.sqlFilter celpy "severity == 'high'" = some (some equality) :=
  rfl

theorem sqlFilter_negation : provider.sqlFilter celpy ("!(" ++ "severity == 'high'" ++ ")") =
    some (some (.not (.paren equality))) :=
  rfl

end NegationSample

open NegationSample in
theorem splitsRow_iff_equality :
    provider.SplitsRow celpy "severity == 'high'" db row <->
      provider.reading db row query ≠ some .unknown :=
  splitsRow_iff (p := provider) (E := query) (by decide) parse_query parse_negation
    convertToAst_tree isFilter_query db row

open NegationSample in
/-- Neither an equality nor its negation selects a row in which the field is NULL. -/
theorem equality_not_split :
    ¬ forall (p : Provider) (celpy : Celpy) (cel : String) (tree : Tree .expr) (E : Node),
      cel ≠ "" -> celpy.parse cel = .ok tree ->
        celpy.parse ("!(" ++ cel ++ ")") = .ok tree.negation ->
          convertToAst p.rt tree = .ok E -> p.IsFilter E ->
            forall (V : Type) (db : Database V) (row : Row V), p.SplitsRow celpy cel db row := by
  intro h
  rcases h provider celpy "severity == 'high'" tree query (by decide) parse_query
    parse_negation convertToAst_tree isFilter_query String db row with
    ⟨filter, negation, hfilter, hnegation, hsplits⟩
  cases sqlFilter_query.symm.trans hfilter.sqlFilter
  cases sqlFilter_negation.symm.trans hnegation.sqlFilter
  rcases hsplits with ⟨hselects, _⟩ | ⟨hselects, _⟩
  · cases hselects
  · cases hselects

end Cel
end KeepGateway
