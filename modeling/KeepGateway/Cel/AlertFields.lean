import KeepGateway.Cel.PropertiesMapper

/-!
# The fields of alerts

The field configurations of the alert queries.  They use neither wildcards nor JSON
columns nor arrays, so looking a field up and mapping it cannot fail halfway.
-/

namespace KeepGateway
namespace Cel

/-!
## Plain metadata
-/

/-- A configuration of plain columns. -/
structure FieldMappingConfiguration.IsPlain (config : FieldMappingConfiguration) : Prop where
  mapTo : config.mapTo ≠ []
  columns : forall item, item ∈ config.mapTo -> jsonColumn item = none ∧ item ≠ ""
  dataType : config.dataType ≠ some .array

/-- Metadata without wildcards, JSON columns and arrays. -/
structure PropertiesMetadata.IsPlain (metadata : PropertiesMetadata) : Prop where
  wildcards : metadata.wildcardConfigurations = []
  known : forall entry, entry ∈ metadata.knownConfigurations ->
    '*' ∉ entry.1.toList ∧ entry.2.IsPlain

/-- Metadata without wildcards, over columns of any kind. -/
structure PropertiesMetadata.OfColumns (metadata : PropertiesMetadata) : Prop where
  wildcards : metadata.wildcardConfigurations = []
  known : forall entry, entry ∈ metadata.knownConfigurations ->
    '*' ∉ entry.1.toList ∧ entry.2.mapTo ≠ [] ∧
      forall item, item ∈ entry.2.mapTo -> jsonColumn item = none

theorem PropertiesMetadata.IsPlain.ofColumns {metadata : PropertiesMetadata}
    (h : metadata.IsPlain) : metadata.OfColumns where
  wildcards := h.wildcards
  known := by
    intro entry hentry
    rcases h.known entry hentry with ⟨hstar, hplain⟩
    exact ⟨hstar, hplain.mapTo, fun item hitem => (hplain.columns item hitem).1⟩

theorem takeRun_mem {p : Char -> Bool} {cs : List Char} {c : Char} :
    (c ∈ (takeRun p cs).1 -> c ∈ cs) ∧ (c ∈ (takeRun p cs).2 -> c ∈ cs) :=
  ⟨fun h => (List.takeWhile_prefix p).mem h, fun h => (List.dropWhile_suffix p).mem h⟩

theorem takeBracketed_mem {cs group rest : List Char}
    (h : takeBracketed cs = some (group, rest)) {c : Char} :
    (c ∈ group -> c ∈ cs) ∧ (c ∈ rest -> c ∈ cs) := by
  unfold takeBracketed at h
  split at h
  · rename_i tail
    have hrun : (c ∈ (takeRun (fun c => c != '[' && c != ']') tail).1 -> c ∈ tail) ∧
        (c ∈ (takeRun (fun c => c != '[' && c != ']') tail).2 -> c ∈ tail) := takeRun_mem
    split at h
    · cases h
    · rename_i group' rest' _ heq
      cases h
      rw [heq] at hrun
      exact ⟨fun hc => List.mem_cons_of_mem _ (hrun.1 hc),
        fun hc => List.mem_cons_of_mem _ (hrun.2 (List.mem_cons_of_mem _ hc))⟩
    · cases h
  · cases h

/-- Splitting a path into its fields adds no character. -/
theorem findFields_mem {n : Nat} {cs field : List Char} {c : Char}
    (h : field ∈ findFields n cs) (hc : c ∈ field) : c ∈ cs := by
  induction n generalizing cs with
  | zero =>
      rw [findFields] at h
      cases h
  | succ n ih =>
      cases cs with
      | nil =>
          rw [findFields] at h
          cases h
      | cons first tail =>
          rw [findFields] at h
          split at h
          · rename_i group rest heq
            rcases List.mem_cons.mp h with hgroup | hrest
            · rw [hgroup] at hc
              exact (takeBracketed_mem heq).1 hc
            · exact (takeBracketed_mem heq).2 (ih hrest)
          · split at h
            · exact List.mem_cons_of_mem _ (ih h)
            · rcases List.mem_cons.mp h with hrun | hrest
              · rw [hrun] at hc
                exact (List.takeWhile_prefix _).mem hc
              · exact (List.dropWhile_suffix _).mem (ih hrest)

theorem intercalate_mem {sep c : Char} {items : List (List Char)}
    (h : c ∈ [sep].intercalate items) : c = sep ∨ exists item, item ∈ items ∧ c ∈ item := by
  induction items with
  | nil => cases h
  | cons item rest ih =>
      cases rest with
      | nil =>
          rw [List.intercalate_singleton] at h
          exact Or.inr ⟨item, List.mem_cons_self, h⟩
      | cons next rest =>
          rw [List.intercalate_cons_cons] at h
          rcases List.mem_append.mp h with hleft | hright
          · rcases List.mem_append.mp hleft with hitem | hsep
            · exact Or.inr ⟨item, List.mem_cons_self, hitem⟩
            · exact Or.inl (List.mem_singleton.mp hsep)
          · rcases ih hright with hsep | ⟨other, hother, hc⟩
            · exact Or.inl hsep
            · exact Or.inr ⟨other, List.mem_cons_of_mem _ hother, hc⟩

/-- The text of a path has the characters of its segments, dots and brackets. -/
theorem getPropertyPathStr_mem {path : List String} {c : Char}
    (h : c ∈ (getPropertyPathStr path).toList) :
    c = '.' ∨ c = '[' ∨ c = ']' ∨ exists item, item ∈ path ∧ c ∈ item.toList := by
  unfold getPropertyPathStr at h
  rw [String.toList_intercalate] at h
  rcases intercalate_mem h with hdot | ⟨item, hitem, hc⟩
  · exact Or.inl hdot
  · rw [List.map_map] at hitem
    rcases List.mem_map.mp hitem with ⟨segment, hsegment, heq⟩
    rw [← heq] at hc
    simp only [Function.comp_apply] at hc
    split at hc
    · rw [String.toList_append, String.toList_append] at hc
      rcases List.mem_append.mp hc with hleft | hclose
      · rcases List.mem_append.mp hleft with hopen | hmem
        · exact Or.inr (Or.inl (List.mem_singleton.mp hopen))
        · exact Or.inr (Or.inr (Or.inr ⟨segment, hsegment, hmem⟩))
      · exact Or.inr (Or.inr (Or.inl (List.mem_singleton.mp hclose)))
    · exact Or.inr (Or.inr (Or.inr ⟨segment, hsegment, hc⟩))

theorem pattern_star {text : String} (h : '*' ∉ text.toList) :
    '*' ∉ (getPropertyPathStr (extractFields text)).toList := by
  intro hstar
  rcases getPropertyPathStr_mem hstar with hdot | hopen | hclose | ⟨item, hitem, hc⟩
  · cases hdot
  · cases hopen
  · cases hclose
  · rcases List.mem_map.mp hitem with ⟨field, hfield, heq⟩
    rw [← heq, String.toList_ofList] at hc
    exact h (findFields_mem hfield hc)

/-- Without wildcards every configuration is kept, under a pattern without one. -/
theorem PropertiesMetadata.known_ofConfigurations {q : FieldMappingConfiguration -> Prop}
    (hq : forall config pattern, q config -> q { config with mapFromPattern := pattern })
    {configurations : List FieldMappingConfiguration}
    (h : forall config, config ∈ configurations ->
      '*' ∉ config.mapFromPattern.toList ∧ q config) :
    (PropertiesMetadata.ofConfigurations configurations).wildcardConfigurations = [] ∧
      forall entry,
        entry ∈ (PropertiesMetadata.ofConfigurations configurations).knownConfigurations ->
          '*' ∉ entry.1.toList ∧ q entry.2 := by
  have hfold : forall metadata : PropertiesMetadata, metadata.wildcardConfigurations = [] ->
      (forall entry, entry ∈ metadata.knownConfigurations ->
        '*' ∉ entry.1.toList ∧ q entry.2) ->
      (configurations.foldl PropertiesMetadata.add metadata).wildcardConfigurations = [] ∧
        forall entry,
          entry ∈ (configurations.foldl PropertiesMetadata.add metadata).knownConfigurations ->
            '*' ∉ entry.1.toList ∧ q entry.2 := by
    induction configurations with
    | nil =>
        intro metadata hwildcards hknown
        exact ⟨hwildcards, hknown⟩
    | cons config rest ih =>
        intro metadata hwildcards hknown
        rcases h config List.mem_cons_self with ⟨hstar, hconfig⟩
        have hcontains : config.mapFromPattern.toList.contains '*' = false := by
          rw [List.contains_eq_mem]
          exact decide_eq_false hstar
        have hadd : metadata.add config =
            { metadata with
              knownConfigurations :=
                Dict.set (getPropertyPathStr (extractFields config.mapFromPattern))
                  { config with
                    mapFromPattern :=
                      getPropertyPathStr (extractFields config.mapFromPattern) }
                  metadata.knownConfigurations } := by
          unfold PropertiesMetadata.add
          simp only [hcontains]
          rfl
        rw [List.foldl_cons, hadd]
        refine ih (fun c hc => h c (List.mem_cons_of_mem _ hc)) _ hwildcards ?_
        intro entry hentry
        rcases Dict.mem_set hentry with heq | hold
        · rw [heq]
          exact ⟨pattern_star hstar, hq config _ hconfig⟩
        · exact hknown entry hold
  exact hfold .empty rfl fun entry hentry => (List.not_mem_nil hentry).elim

theorem PropertiesMetadata.isPlain_ofConfigurations
    {configurations : List FieldMappingConfiguration}
    (h : forall config, config ∈ configurations ->
      '*' ∉ config.mapFromPattern.toList ∧ config.IsPlain) :
    (PropertiesMetadata.ofConfigurations configurations).IsPlain := by
  have hkeep : forall (config : FieldMappingConfiguration) (pattern : String), config.IsPlain ->
      FieldMappingConfiguration.IsPlain { config with mapFromPattern := pattern } :=
    fun _ _ hconfig => ⟨hconfig.mapTo, hconfig.columns, hconfig.dataType⟩
  rcases PropertiesMetadata.known_ofConfigurations hkeep h with ⟨hwildcards, hknown⟩
  exact ⟨hwildcards, hknown⟩

theorem fieldMapping_of_plain {template item : String} (h : jsonColumn item = none) :
    fieldMapping template item = .simple item := by
  unfold fieldMapping
  rw [h]

theorem mem_of_lookup {entries : List (String × FieldMappingConfiguration)} {key : String}
    {config : FieldMappingConfiguration} (h : entries.lookup key = some config) :
    (key, config) ∈ entries := by
  induction entries with
  | nil => cases h
  | cons entry rest ih =>
      rcases entry with ⟨k, c⟩
      rw [Dict.lookup_cons_eq] at h
      split at h
      · rename_i hk
        cases h
        rw [hk]
        exact List.mem_cons_self
      · exact List.mem_cons_of_mem _ (ih h)

/-- Adding a configuration leaves the known fields known. -/
theorem PropertiesMetadata.known_add (metadata : PropertiesMetadata)
    (config : FieldMappingConfiguration) {key : String}
    (h : (metadata.knownConfigurations.lookup key).isSome = true) :
    ((metadata.add config).knownConfigurations.lookup key).isSome = true := by
  unfold PropertiesMetadata.add
  simp only
  split
  · exact h
  · rw [Dict.lookup_set]
    split
    · rfl
    · exact h

/-- A configuration without a wildcard makes its field known. -/
theorem PropertiesMetadata.known_of_mem {configurations : List FieldMappingConfiguration}
    {config : FieldMappingConfiguration} (h : config ∈ configurations)
    (hstar : config.mapFromPattern.toList.contains '*' = false) :
    ((PropertiesMetadata.ofConfigurations configurations).knownConfigurations.lookup
      (getPropertyPathStr (extractFields config.mapFromPattern))).isSome = true := by
  have hkeep : forall (rest : List FieldMappingConfiguration) (metadata : PropertiesMetadata)
      (key : String), (metadata.knownConfigurations.lookup key).isSome = true ->
        ((rest.foldl PropertiesMetadata.add metadata).knownConfigurations.lookup key).isSome =
          true := by
    intro rest
    induction rest with
    | nil =>
        intro metadata key hknown
        exact hknown
    | cons next rest ih =>
        intro metadata key hknown
        exact ih _ key (metadata.known_add next hknown)
  rcases List.append_of_mem h with ⟨before, after, heq⟩
  unfold PropertiesMetadata.ofConfigurations
  rw [heq, List.foldl_append, List.foldl_cons]
  apply hkeep
  unfold PropertiesMetadata.add
  simp only [hstar]
  show (List.lookup _ (Dict.set _ _ _)).isSome = true
  rw [Dict.lookup_set_self]
  rfl

/-- The key of a configuration among the known ones. -/
def FieldMappingConfiguration.key (config : FieldMappingConfiguration) : String :=
  getPropertyPathStr (extractFields config.mapFromPattern)

theorem PropertiesMetadata.OfColumns.findMappingConfiguration {metadata : PropertiesMetadata}
    (h : metadata.OfColumns) (propPathStr : String) :
    metadata.findMappingConfiguration propPathStr =
      (metadata.knownConfigurations.lookup propPathStr).map fun config =>
        (config, propPathStr) := by
  unfold PropertiesMetadata.findMappingConfiguration
  cases hlookup : metadata.knownConfigurations.lookup propPathStr with
  | none =>
      rw [h.wildcards]
      rfl
  | some config => rfl

/-- A lookup in metadata of columns finds the configured columns or nothing. -/
theorem PropertiesMetadata.OfColumns.getPropertyMetadata {metadata : PropertiesMetadata}
    (h : metadata.OfColumns) (path : List String) :
    metadata.getPropertyMetadata path =
      .ok ((metadata.knownConfigurations.lookup (getPropertyPathStr path)).map fun config =>
        { fieldName := getPropertyPathStr path
          fieldMappings := config.mapTo.map .simple
          enumValues := config.enumValues
          dataType := config.dataType }) := by
  simp only [PropertiesMetadata.getPropertyMetadata]
  rw [h.findMappingConfiguration]
  cases hlookup : metadata.knownConfigurations.lookup (getPropertyPathStr path) with
  | none => rfl
  | some config =>
      have hentry := h.known _ (mem_of_lookup hlookup)
      have htemplate : templateProp (getPropertyPathStr path) (getPropertyPathStr path) =
          .ok (getPropertyPathStr path) := by
        have hcontains : (getPropertyPathStr path).toList.contains '*' = false := by
          rw [List.contains_eq_mem]
          exact decide_eq_false hentry.1
        unfold templateProp
        rw [hcontains]
        rfl
      have hmap : config.mapTo.map (fieldMapping (getPropertyPathStr path)) =
          config.mapTo.map .simple := by
        apply List.map_congr_left
        intro item hitem
        exact fieldMapping_of_plain (hentry.2.2 item hitem)
      simp only [Option.map_some]
      rw [htemplate]
      show Except.ok _ = _
      rw [hmap]

theorem PropertiesMetadata.IsPlain.getPropertyMetadata {metadata : PropertiesMetadata}
    (h : metadata.IsPlain) (path : List String) :
    metadata.getPropertyMetadata path =
      .ok ((metadata.knownConfigurations.lookup (getPropertyPathStr path)).map fun config =>
        { fieldName := getPropertyPathStr path
          fieldMappings := config.mapTo.map .simple
          enumValues := config.enumValues
          dataType := config.dataType }) :=
  h.ofColumns.getPropertyMetadata path

/-!
## Alert fields
-/

def FieldMappingConfiguration.column (mapFromPattern mapTo : String) (dataType : DataType) :
    FieldMappingConfiguration where
  mapFromPattern := mapFromPattern
  mapTo := [mapTo]
  dataType := some dataType
  enumValues := []

open FieldMappingConfiguration (column)

/-- The values of `AlertStatus`, the last first. -/
def alertStatusValues : List String :=
  ["maintenance", "pending", "suppressed", "acknowledged", "resolved", "firing"]

/-- The values of `AlertSeverity` by their order. -/
def alertSeverityValues : List String := ["low", "info", "warning", "high", "critical"]

def alertEnvironmentValues : List String :=
  ["production", "integration", "load", "development", "test"]

/-- `alert_field_configurations`, as first written. -/
def explicitFieldConfigurations : List FieldMappingConfiguration :=
  [column "id" "lastalert.alert_id" .uuid,
    column "source" "alert.provider_type" .string,
    column "providerId" "alert.provider_id" .string,
    column "providerType" "alert.provider_type" .string,
    column "timestamp" "lastalert.timestamp" .datetime,
    column "fingerprint" "lastalert.fingerprint" .string,
    column "started_at" "lastalert.first_timestamp" .datetime,
    column "incident.id" "incident.id" .uuid,
    column "incident.is_visible" "incident.is_visible" .boolean,
    ⟨"incident.name", ["incident.user_generated_name", "incident.ai_generated_name"],
      some .string, []⟩,
    column "severity_order"
      ("CASE alert.severity " ++ "WHEN 'critical' THEN 5 " ++ "WHEN 'high' THEN 4 " ++
        "WHEN 'warning' THEN 3 " ++ "WHEN 'info' THEN 2 " ++ "WHEN 'low' THEN 1 " ++ "ELSE 0 END")
      .integer,
    column "labels.severity" "alert.severity" .string]

/-- `_STRICT_SCHEMA_FIELD_CONFIGS` -/
def strictSchemaFieldConfigs : List FieldMappingConfiguration :=
  [⟨"status", ["lastalert.status", "alert.status"], some .string, alertStatusValues⟩,
    ⟨"severity", ["alert.severity"], some .string, alertSeverityValues⟩,
    ⟨"environment", ["alert.environment"], some .string, alertEnvironmentValues⟩,
    column "assignee" "lastalert.assignee" .string,
    column "note" "lastalert.note" .string,
    column "dismiss_mode" "lastalert.dismiss_mode" .string,
    column "dismissed_until" "lastalert.dismissed_until" .datetime,
    column "deleted" "lastalert.deleted" .boolean,
    column "dismissed"
      "CASE WHEN lastalert.status = 'suppressed' THEN 'true' ELSE 'false' END" .boolean,
    column "last_received" "lastalert.last_received" .datetime,
    column "firing_counter" "lastalert.firing_counter" .integer,
    column "unresolved_counter" "lastalert.unresolved_counter" .integer,
    column "firing_start_time" "lastalert.firing_start_time" .string,
    column "firing_start_time_since_last_resolved"
      "lastalert.firing_start_time_since_last_resolved" .string]

/-- The columns of `alert` that the generic loop adds, with their types. -/
def alertColumns : List (String × DataType) :=
  [("application", .string), ("object", .string), ("node_name", .string),
    ("operator", .string), ("time_created", .string), ("network", .string),
    ("timezone", .string), ("custom_key", .string), ("expiry_in_minutes", .integer),
    ("site", .string), ("impact", .string), ("runbook_url", .string),
    ("alert_rule_url", .string), ("service", .string), ("key_field", .string),
    ("name", .string), ("description", .string), ("is_full_duplicate", .boolean),
    ("is_partial_duplicate", .boolean), ("duplicate_reason", .string),
    ("received_at", .string)]

def unprefixedFieldConfigurations : List FieldMappingConfiguration :=
  explicitFieldConfigurations ++ strictSchemaFieldConfigs ++
    alertColumns.map fun c => column c.1 ("alert." ++ c.1) c.2

/-- The same configurations again under the prefix `alert.`, which come first. -/
def alertFieldConfigurations : List FieldMappingConfiguration :=
  (unprefixedFieldConfigurations.map fun config =>
    { config with mapFromPattern := "alert." ++ config.mapFromPattern }) ++
    unprefixedFieldConfigurations

def alertMetadata : PropertiesMetadata := .ofConfigurations alertFieldConfigurations

/-- What makes a configuration plain, as a test. -/
def FieldMappingConfiguration.isPlainTest (config : FieldMappingConfiguration) : Bool :=
  !config.mapFromPattern.toList.contains '*' && !config.mapTo.isEmpty &&
    config.mapTo.all (fun item => (jsonColumn item).isNone && item != "") &&
    config.dataType != some .array

theorem isPlainTest_spec {config : FieldMappingConfiguration} (h : config.isPlainTest = true) :
    '*' ∉ config.mapFromPattern.toList ∧ config.IsPlain := by
  simp only [FieldMappingConfiguration.isPlainTest, Bool.and_eq_true, Bool.not_eq_true',
    List.contains_eq_mem, decide_eq_false_iff_not, List.isEmpty_eq_false_iff, List.all_eq_true,
    Option.isNone_iff_eq_none, bne_iff_ne] at h
  rcases h with ⟨⟨⟨hstar, hmapTo⟩, hcolumns⟩, hdataType⟩
  exact ⟨hstar, hmapTo, hcolumns, hdataType⟩

theorem isPlainTest_prefixed (config : FieldMappingConfiguration) :
    FieldMappingConfiguration.isPlainTest
      { config with mapFromPattern := "alert." ++ config.mapFromPattern } =
        config.isPlainTest := by
  have hstar : ("alert." ++ config.mapFromPattern).toList.contains '*' =
      config.mapFromPattern.toList.contains '*' := by
    rw [String.toList_append]
    simp
  simp only [FieldMappingConfiguration.isPlainTest, hstar]

theorem jsonColumn_of_toList {item : String} {c : Char} {cs : List Char}
    (h : item.toList = c :: cs) (hc : c ≠ 'J') : jsonColumn item = none := by
  unfold jsonColumn
  rw [h]
  split
  · rename_i heq
    exact absurd (List.cons.inj heq).1 hc
  · rfl

/-- A text that goes on after a first part of another letter than that of `JSON`. -/
theorem plain_append {first : String} {c : Char} {cs : List Char} (h : first.toList = c :: cs)
    (hc : c ≠ 'J') (rest : String) :
    jsonColumn (first ++ rest) = none ∧ first ++ rest ≠ "" := by
  have hlist : (first ++ rest).toList = c :: (cs ++ rest.toList) := by
    rw [String.toList_append, h]
    rfl
  refine ⟨jsonColumn_of_toList hlist hc, ?_⟩
  intro hempty
  rw [hempty] at hlist
  cases hlist

theorem isPlainTest_column {mapFromPattern mapTo : String} {dataType : DataType}
    (hstar : mapFromPattern.toList.contains '*' = false) (hjson : jsonColumn mapTo = none)
    (hne : mapTo ≠ "") (harray : dataType ≠ .array) :
    (column mapFromPattern mapTo dataType).isPlainTest = true := by
  simp only [FieldMappingConfiguration.isPlainTest, column, hstar, List.isEmpty_cons, List.all_cons,
    List.all_nil, hjson, Option.isNone_none, Bool.not_false, Bool.true_and, Bool.and_true,
    Bool.and_eq_true, bne_iff_ne]
  exact ⟨hne, fun h => harray (Option.some.inj h)⟩

/-- The text of the order of the severities starts with `CASE`. -/
theorem explicitFieldConfigurations_plain :
    explicitFieldConfigurations.all FieldMappingConfiguration.isPlainTest = true := by
  have hsplit : explicitFieldConfigurations =
      explicitFieldConfigurations.take 10 ++ explicitFieldConfigurations.drop 10 := rfl
  have hfirst : (explicitFieldConfigurations.take 10).all
      FieldMappingConfiguration.isPlainTest = true := by
    decide +kernel
  have hlabels : (column "labels.severity" "alert.severity" .string).isPlainTest = true := by
    decide +kernel
  rw [hsplit, List.all_append, hfirst, Bool.true_and]
  refine Bool.and_eq_true_iff.mpr ⟨?_, Bool.and_eq_true_iff.mpr ⟨hlabels, rfl⟩⟩
  have hcase : "CASE alert.severity ".toList = 'C' :: "ASE alert.severity ".toList := by
    decide +kernel
  simp only [String.append_assoc]
  rcases plain_append hcase (by decide) _ with ⟨hjson, hne⟩
  exact isPlainTest_column (by decide) hjson hne (by decide)

theorem strictSchemaFieldConfigs_plain :
    strictSchemaFieldConfigs.all FieldMappingConfiguration.isPlainTest = true := by
  have hsplit : strictSchemaFieldConfigs =
      strictSchemaFieldConfigs.take 8 ++ strictSchemaFieldConfigs.drop 8 := rfl
  have hfirst : (strictSchemaFieldConfigs.take 8).all
      FieldMappingConfiguration.isPlainTest = true := by
    decide +kernel
  have hrest : (strictSchemaFieldConfigs.drop 9).all
      FieldMappingConfiguration.isPlainTest = true := by
    decide +kernel
  rw [hsplit, List.all_append, hfirst, Bool.true_and]
  exact Bool.and_eq_true_iff.mpr
    ⟨isPlainTest_column (by decide) (jsonColumn_of_toList String.toList_ofList (by decide))
      (by decide) (by decide), hrest⟩

theorem alertColumns_plain (c : String × DataType) (h : c ∈ alertColumns) :
    (column c.1 ("alert." ++ c.1) c.2).isPlainTest = true := by
  have htest : (alertColumns.all fun c => !c.1.toList.contains '*' && c.2 != .array) = true := by
    decide +kernel
  have hc := List.all_eq_true.mp htest c h
  rw [Bool.and_eq_true, Bool.not_eq_true', bne_iff_ne] at hc
  have halert : "alert.".toList = 'a' :: "lert.".toList := by decide +kernel
  rcases plain_append halert (by decide) c.1 with ⟨hjson, hne⟩
  exact isPlainTest_column hc.1 hjson hne hc.2

theorem unprefixedFieldConfigurations_plain :
    unprefixedFieldConfigurations.all FieldMappingConfiguration.isPlainTest = true := by
  unfold unprefixedFieldConfigurations
  rw [List.all_append, List.all_append, explicitFieldConfigurations_plain,
    strictSchemaFieldConfigs_plain, Bool.true_and, Bool.true_and, List.all_map]
  exact List.all_eq_true.mpr alertColumns_plain

theorem alertFieldConfigurations_plain :
    alertFieldConfigurations.all FieldMappingConfiguration.isPlainTest = true := by
  have hplain := List.all_eq_true.mp unprefixedFieldConfigurations_plain
  apply List.all_eq_true.mpr
  intro config hconfig
  rcases List.mem_append.mp hconfig with hprefixed | hunprefixed
  · rcases List.mem_map.mp hprefixed with ⟨original, horiginal, heq⟩
    rw [← heq, isPlainTest_prefixed]
    exact hplain original horiginal
  · exact hplain config hunprefixed

theorem isPlain_alertMetadata : alertMetadata.IsPlain :=
  PropertiesMetadata.isPlain_ofConfigurations fun config hconfig =>
    isPlainTest_spec (List.all_eq_true.mp alertFieldConfigurations_plain config hconfig)

end Cel
end KeepGateway
