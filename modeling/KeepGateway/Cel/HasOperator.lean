import KeepGateway.Cel.AlertFields
import KeepGateway.Cel.SqlProviders
import KeepGateway.Lib.SqlConditions

/-!
# The operator `has`

The SQL for `has(path)` over fields of plain columns.  The operand is replaced by its columns
first, and the columns are then looked up as if they were paths.
-/

namespace KeepGateway
namespace Cel

open Sql

/-!
## Truth values
-/

def constantText (b : Bool) : String := if b then "TRUE" else "FALSE"

/-- Conditions over the two constants. -/
inductive Constants : Condition -> Prop where
  | constant (b : Bool) : Constants (.constant b (constantText b))
  | or {left right : Condition} (hleft : Constants left) (hright : Constants right) :
      Constants (.paren (.or left right))

/-- The text is a condition that has this truth value on every row of every database. -/
def MeansBool (sql : String) (b : Bool) : Prop :=
  exists c : Condition, Constants c ∧ c.Grouped ∧ c.text = sql ∧
    forall (V : Type) (db : Database V) (row : Row V), c.eval db row = .ofBool b

/-- The SQL that is generated for `has(path)`. -/
def Provider.hasFilter (p : Provider) (path : List String) : Except PyException String := do
  let mapped <- visitNodes p.rt p.metadata (.unary .has (simpleNode path))
  match mapped.1 with
  | some filter => p.buildSqlFilter filter
  | none => .ok ""

/-- The SQL is TRUE or FALSE, as the path has metadata or not. -/
def TellsFields (p : Provider) (path : List String) : Prop :=
  exists sql b, p.hasFilter path = .ok sql ∧ MeansBool sql b ∧
    (b = true <-> exists info, p.metadata.getPropertyMetadata path = .ok (some info))

/-- Configurations without wildcards, each for one or several plain columns. -/
def SimpleFields (configurations : List FieldMappingConfiguration) : Prop :=
  forall config, config ∈ configurations ->
    '*' ∉ config.mapFromPattern.toList ∧ config.mapTo ≠ [] ∧
      forall item, item ∈ config.mapTo -> jsonColumn item = none

/-- The path, rendered as a key, has a configuration. -/
def PropertiesMetadata.hasConfiguration (metadata : PropertiesMetadata) (path : List String) : Bool :=
  (metadata.knownConfigurations.lookup (getPropertyPathStr path)).isSome

/-- One of the columns of a field that is known is itself the path of a field. -/
def SomeColumnKnown (metadata : PropertiesMetadata) (path : List String) : Prop :=
  forall config, metadata.knownConfigurations.lookup (getPropertyPathStr path) = some config ->
    exists item, item ∈ config.mapTo ∧ metadata.hasConfiguration [item] = true

theorem Constants.eval {c : Condition} (h : Constants c) {V : Type} (db : Database V)
    (row : Row V) : c.eval db row = .ofBool (c.text.toList.contains 'T') := by
  induction h with
  | constant b =>
      cases b with
      | true => rfl
      | false => rfl
  | or hleft hright ihleft ihright =>
      rename_i left right
      have hcontains : (Condition.text (.paren (.or left right))).toList.contains 'T' =
          (left.text.toList.contains 'T' || right.text.toList.contains 'T') := by
        simp only [Condition.text, String.toList_append, List.contains_eq_mem]
        simp
      rw [hcontains]
      show (left.eval db row).or (right.eval db row) = _
      rw [ihleft, ihright]
      cases left.text.toList.contains 'T' with
      | true => rfl
      | false =>
          cases right.text.toList.contains 'T' with
          | true => rfl
          | false => rfl

/-- A text has one truth value. -/
theorem MeansBool.unique {sql : String} {b b' : Bool} (h : MeansBool sql b)
    (h' : MeansBool sql b') : b = b' := by
  rcases h with ⟨c, hc, _, htext, heval⟩
  rcases h' with ⟨c', hc', _, htext', heval'⟩
  have hofBool : forall {x y : Bool}, Truth.ofBool x = Truth.ofBool y -> x = y := by
    intro x y hxy
    cases x with
    | true =>
        cases y with
        | true => rfl
        | false => cases hxy
    | false =>
        cases y with
        | true => cases hxy
        | false => rfl
  let db : Database Unit := ⟨fun _ => (), fun _ => (), fun _ _ => (), fun _ _ => true, fun _ _ => true⟩
  have hleft := (heval Unit db fun _ => none).symm.trans (hc.eval db _)
  have hright := (heval' Unit db fun _ => none).symm.trans (hc'.eval db _)
  rw [htext] at hleft
  rw [htext'] at hright
  exact hofBool (hleft.trans hright.symm)

theorem meansBool_constant (b : Bool) : MeansBool (constantText b) b :=
  ⟨.constant b (constantText b), .constant b, trivial, rfl, fun _ _ _ => rfl⟩

theorem Constants.grouped {c : Condition} (h : Constants c) : c.level = 3 ∧ c.Grouped := by
  induction h with
  | constant b => exact ⟨rfl, trivial⟩
  | or hleft hright ihleft ihright =>
      refine ⟨rfl, ihleft.2, ?_, ihright.2⟩
      rw [ihright.1]
      exact Nat.le_add_left 1 2

theorem MeansBool.or {left right : String} {a b : Bool} (hleft : MeansBool left a)
    (hright : MeansBool right b) : MeansBool (Provider.visitLogicalOr left right) (a || b) := by
  rcases hleft with ⟨c, hc, _, hctext, hceval⟩
  rcases hright with ⟨d, hd, _, hdtext, hdeval⟩
  refine ⟨.paren (.or c d), hc.or hd, (hc.or hd).grouped.2, ?_, ?_⟩
  · rw [← hctext, ← hdtext]
    simp only [Condition.text, Provider.visitLogicalOr, String.append_assoc]
  · intro V db row
    show (c.eval db row).or (d.eval db row) = _
    rw [hceval, hdeval]
    cases a with
    | true => rfl
    | false =>
        cases b with
        | true => rfl
        | false => rfl

/-!
## Columns
-/

section Columns

variable {p : Provider} {configurations : List FieldMappingConfiguration}

theorem ofColumns_ofConfigurations (h : SimpleFields configurations) :
    (PropertiesMetadata.ofConfigurations configurations).OfColumns := by
  have hkeep : forall (config : FieldMappingConfiguration) (pattern : String),
      (config.mapTo ≠ [] ∧ forall item, item ∈ config.mapTo -> jsonColumn item = none) ->
        FieldMappingConfiguration.mapTo { config with mapFromPattern := pattern } ≠ [] ∧
          forall item,
            item ∈ FieldMappingConfiguration.mapTo { config with mapFromPattern := pattern } ->
              jsonColumn item = none :=
    fun _ _ hconfig => hconfig
  rcases PropertiesMetadata.known_ofConfigurations hkeep h with ⟨hwildcards, hknown⟩
  exact ⟨hwildcards, hknown⟩

theorem hasConfiguration_iff (h : p.metadata.OfColumns) (path : List String) :
    p.metadata.hasConfiguration path = true <->
      exists info, p.metadata.getPropertyMetadata path = .ok (some info) := by
  rw [h.getPropertyMetadata]
  unfold PropertiesMetadata.hasConfiguration
  cases p.metadata.knownConfigurations.lookup (getPropertyPathStr path) with
  | none => exact iff_of_false Bool.false_ne_true fun ⟨info, hinfo⟩ => (by cases hinfo)
  | some config => exact iff_of_true rfl ⟨_, rfl⟩

/-- A column is looked up as a path of one segment. -/
theorem visitHasProperty_simple (h : p.metadata.OfColumns) (path : List String)
    (dataType : Option DataType) :
    p.visitHasProperty (.simple path dataType) =
      .ok (constantText (p.metadata.hasConfiguration path)) := by
  simp only [Provider.visitHasProperty]
  rw [h.getPropertyMetadata]
  unfold PropertiesMetadata.hasConfiguration constantText
  cases p.metadata.knownConfigurations.lookup (getPropertyPathStr path) with
  | none => rfl
  | some config => rfl

/-- Several columns are joined by OR, from the first on. -/
theorem visitHas_columns (h : p.metadata.OfColumns) (dataType : Option DataType)
    (items : List String) {filter : String} {b : Bool} (hfilter : MeansBool filter b) :
    exists sql,
      (items.map fun item => PropertyAccessNode.simple [item] dataType).foldlM
          (fun filter field => do
            let current <- p.visitHasProperty field
            .ok (Provider.visitLogicalOr filter current))
          filter = .ok sql ∧
        MeansBool sql (b || items.any fun item => p.metadata.hasConfiguration [item]) := by
  induction items generalizing filter b with
  | nil =>
      rw [List.any_nil, Bool.or_false]
      exact ⟨filter, rfl, hfilter⟩
  | cons item rest ih =>
      rw [List.map_cons, List.foldlM_cons, visitHasProperty_simple h, List.any_cons,
        ← Bool.or_assoc]
      exact ih (hfilter.or (meansBool_constant (p.metadata.hasConfiguration [item])))

/-- The SQL for the columns of a field. -/
theorem visitUnaryHas_columns (h : p.metadata.OfColumns) {info : PropertyMetadataInfo}
    {items : List String} (hmappings : info.fieldMappings = items.map .simple)
    (hitems : items ≠ []) :
    exists fields sql, mappedFields info = .ok fields ∧ p.visitUnaryHas fields = .ok sql ∧
      MeansBool sql (items.any fun item => p.metadata.hasConfiguration [item]) := by
  have hfields : info.fieldMappings.map (createPropertyAccessNode info.dataType) =
      items.map fun item => PropertyAccessNode.simple [item] info.dataType := by
    rw [hmappings, List.map_map]
    rfl
  unfold mappedFields
  rw [hfields]
  cases items with
  | nil => exact absurd rfl hitems
  | cons first rest =>
      cases rest with
      | nil =>
          refine ⟨_, _, rfl, visitHasProperty_simple h [first] info.dataType, ?_⟩
          rw [List.any_cons, List.any_nil, Bool.or_false]
          exact meansBool_constant _
      | cons second rest =>
          have hfirst := meansBool_constant (p.metadata.hasConfiguration [first])
          rcases visitHas_columns h info.dataType (second :: rest) hfirst with
            ⟨sql, hsql, hmeans⟩
          refine ⟨_, sql, rfl, ?_, hmeans⟩
          show (p.visitHasProperty (.simple [first] info.dataType) >>= _) = _
          rw [visitHasProperty_simple h]
          exact hsql

end Columns

/-!
## Fields
-/

section Fields

variable {p : Provider} {path : List String}

theorem hasFilter_unknown (h : p.metadata.OfColumns)
    (hlookup : p.metadata.knownConfigurations.lookup (getPropertyPathStr path) = none) :
    p.hasFilter path = .ok (constantText false) := by
  have hknown : p.metadata.hasConfiguration path = false := by
    unfold PropertiesMetadata.hasConfiguration
    rw [hlookup]
    rfl
  have hvisit : visitNodes p.rt p.metadata (.unary .has (simpleNode path)) =
      .ok (some (.unary .has (.propertyAccess (.simple path none))),
        [unmappedInfo (".".intercalate path)]) := by
    simp only [simpleNode, visitNodes, mapProperty]
    rw [h.getPropertyMetadata, hlookup]
    rfl
  unfold Provider.hasFilter
  rw [hvisit]
  show p.visitHasProperty (.simple path none) = _
  rw [visitHasProperty_simple h, hknown]

theorem hasFilter_known (h : p.metadata.OfColumns) {config : FieldMappingConfiguration}
    (hlookup : p.metadata.knownConfigurations.lookup (getPropertyPathStr path) = some config) :
    exists sql, p.hasFilter path = .ok sql ∧
      MeansBool sql (config.mapTo.any fun item => p.metadata.hasConfiguration [item]) := by
  have hentry := h.known _ (mem_of_lookup hlookup)
  let info : PropertyMetadataInfo :=
    { fieldName := getPropertyPathStr path
      fieldMappings := config.mapTo.map .simple
      enumValues := config.enumValues
      dataType := config.dataType }
  rcases @visitUnaryHas_columns p h info config.mapTo rfl hentry.2.1 with
    ⟨fields, sql, hfields, hsql, hmeans⟩
  refine ⟨sql, ?_, hmeans⟩
  have hvisit : visitNodes p.rt p.metadata (.unary .has (simpleNode path)) =
      .ok (some (.unary .has fields), [info]) := by
    simp only [simpleNode, visitNodes, mapProperty]
    rw [h.getPropertyMetadata, hlookup]
    show (mappedFields info >>= _) >>= _ = _
    rw [hfields]
    rfl
  unfold Provider.hasFilter
  rw [hvisit]
  exact hsql

/-- `has` tells a field from others exactly where one of its columns is itself a field. -/
theorem tellsFields_iff {configurations : List FieldMappingConfiguration}
    (hsimple : SimpleFields configurations)
    (hp : p.metadata = .ofConfigurations configurations) (path : List String) :
    TellsFields p path <-> SomeColumnKnown p.metadata path := by
  have h : p.metadata.OfColumns := by
    rw [hp]
    exact ofColumns_ofConfigurations hsimple
  unfold TellsFields SomeColumnKnown
  cases hlookup : p.metadata.knownConfigurations.lookup (getPropertyPathStr path) with
  | none =>
      refine iff_of_true ?_ fun _ hnone => (by cases hnone)
      refine ⟨constantText false, false, hasFilter_unknown h hlookup, meansBool_constant false, ?_⟩
      rw [← hasConfiguration_iff h]
      unfold PropertiesMetadata.hasConfiguration
      rw [hlookup]
      exact Iff.rfl
  | some config =>
      have hknown : exists info, p.metadata.getPropertyMetadata path = .ok (some info) := by
        rw [← hasConfiguration_iff h]
        unfold PropertiesMetadata.hasConfiguration
        rw [hlookup]
        rfl
      rcases hasFilter_known h hlookup with ⟨sql, hsql, hmeans⟩
      constructor
      · intro ⟨sql', b, hsql', hmeans', htells⟩ config' hconfig'
        cases hconfig'
        rw [hsql] at hsql'
        cases hsql'
        rw [htells.mpr hknown] at hmeans'
        exact List.any_eq_true.mp (hmeans.unique hmeans')
      · intro hcolumn
        rw [List.any_eq_true.mpr (hcolumn config rfl)] at hmeans
        exact ⟨sql, true, hsql, hmeans, iff_of_true rfl hknown⟩

end Fields

namespace HasSample

/-- A field that is mapped to a column of another name, and one of the same name. -/
def configurations : List FieldMappingConfiguration :=
  [⟨"name", ["alert.name"], none, []⟩, ⟨"severity", ["severity"], none, []⟩]

def provider : Provider := ⟨asciiRuntime, .postgresql, id, .ofConfigurations configurations⟩

theorem simpleFields : SimpleFields configurations := by
  intro config hconfig
  rcases List.mem_cons.mp hconfig with heq | hrest
  · rw [heq]
    decide
  · rw [List.mem_singleton.mp hrest]
    decide

end HasSample

open HasSample in
theorem severity_tellsFields : TellsFields provider ["severity"] := by
  refine (tellsFields_iff simpleFields rfl ["severity"]).mpr ?_
  intro config hconfig
  cases hconfig
  exact ⟨"severity", List.mem_cons_self, rfl⟩

open HasSample in
/-- The column of a known field is no field. -/
theorem name_not_tellsFields :
    ¬ forall (configurations : List FieldMappingConfiguration) (p : Provider)
        (path : List String), SimpleFields configurations ->
      p.metadata = .ofConfigurations configurations -> TellsFields p path := by
  intro h
  rcases h configurations provider ["name"] simpleFields rfl with ⟨sql, b, hsql, hmeans, htells⟩
  have hfalse : provider.hasFilter ["name"] = .ok (constantText false) := by rfl
  rw [hfalse] at hsql
  cases hsql
  rw [htells.mpr ⟨_, rfl⟩] at hmeans
  cases hmeans.unique (meansBool_constant false)

end Cel
end KeepGateway
