import KeepGateway.Facets.FacetOptions

/-!
# Options of enumerated fields

The options of a facet whose field has enumerated values: every value is there once, with the rows
of the facet, in the order of the values.
-/

namespace KeepGateway
namespace Facets

open Cel (DataType Dialect Failure PropertiesMetadata PropertyMetadataInfo PyException)

section

variable {F : Type} [DecidableEq F]

/-!
## Complete options
-/

/-- The index of a value that is enumerated. -/
def enumIndex (enumValues : List String) : FacetValue F -> Option Nat
  | .text text => if text ∈ enumValues then some (enumValues.idxOf text) else none
  | _ => none

/-- The rows of a key up to the limit of SQLite. -/
def limited (dialect : Dialect) (rows : List (FacetRow F)) : List (FacetRow F) :=
  if dialect = .sqlite then rows.take 50 else rows

/-- The rows of a key that are kept. -/
def keptRows (dialect : Dialect) (rows : List (FacetRow F)) (key : String) : List (FacetRow F) :=
  limited dialect (rows.filter fun row => row.facetId == key)

/-- The options have every enumerated value once, without matches where no row has it, and all
rows; and a value that is enumerated comes after larger ones only. -/
structure CompleteOptions (numbers : Numbers F) (mapping : PropertyMetadataInfo)
    (rows : List (FacetRow F)) (options : List (FacetOptionDto F)) : Prop where
  once : forall enumValue, enumValue ∈ mapping.enumValues ->
    (options.countP fun option => option.value == .text enumValue) = 1
  unmatched : forall enumValue, enumValue ∈ mapping.enumValues ->
    (forall row, row ∈ rows -> row.facetValue ≠ .text enumValue) ->
      zeroMatches enumValue ∈ options
  rows : forall row, row ∈ rows -> exists option,
    facetOption numbers mapping row = .ok option ∧ option ∈ options
  ordered : options.Pairwise fun a b =>
    forall j, enumIndex mapping.enumValues b.value = some j ->
      exists i, enumIndex mapping.enumValues a.value = some i ∧ j < i

omit [DecidableEq F] in
/-- The rank of an enumerated value is its index, and that of another one is below. -/
theorem enumRank_eq (enumValues : List String) (value : FacetValue F) :
    enumRank enumValues value =
      match enumIndex enumValues value with
      | some index => (index : Int)
      | none => -100 := by
  cases value with
  | text text =>
      show (if text ∈ enumValues then (enumValues.idxOf text : Int) else -100) =
        match (if text ∈ enumValues then some (enumValues.idxOf text) else none) with
        | some index => (index : Int)
        | none => -100
      rcases Classical.em (text ∈ enumValues) with hmem | hmem
      · rw [if_pos hmem, if_pos hmem]
      · rw [if_neg hmem, if_neg hmem]
  | null => rfl
  | int number => rfl
  | float number => rfl
  | bool value => rfl

omit [DecidableEq F] in
theorem enumIndex_eq_some {enumValues : List String} {value : FacetValue F} {index : Nat}
    (h : enumIndex enumValues value = some index) :
    exists text, value = .text text ∧ text ∈ enumValues ∧ enumValues.idxOf text = index := by
  cases value with
  | text text =>
      have hindex : (if text ∈ enumValues then some (enumValues.idxOf text) else none) =
        some index := h
      rcases Classical.em (text ∈ enumValues) with hmem | hmem
      · rw [if_pos hmem] at hindex
        exact ⟨text, rfl, hmem, Option.some.inj hindex⟩
      · rw [if_neg hmem] at hindex
        cases hindex
  | null => cases h
  | int number => cases h
  | float number => cases h
  | bool value => cases h

/-!
## Completion
-/

theorem mem_completeOptions {enumValues : List String} {options : List (FacetOptionDto F)}
    {option : FacetOptionDto F} :
    option ∈ completeOptions enumValues options <->
      option ∈ options ∨ exists enumValue,
        enumValue ∈ valuesWithZeroMatches enumValues options ∧ zeroMatches enumValue = option := by
  unfold completeOptions
  rw [List.mem_insertionSort, List.mem_append, List.mem_map]

theorem mem_valuesWithZeroMatches {enumValues : List String} {options : List (FacetOptionDto F)}
    {enumValue : String} :
    enumValue ∈ valuesWithZeroMatches enumValues options <->
      enumValue ∈ enumValues ∧
        (options.countP fun option => option.value == .text enumValue) = 0 := by
  unfold valuesWithZeroMatches
  rw [List.mem_filter, Bool.not_eq_true', List.any_eq_false, List.countP_eq_zero]

/-- A value that is added is added once. -/
theorem countP_zeroMatches {enumValues : List String} (hnodup : enumValues.Nodup)
    (options : List (FacetOptionDto F)) (enumValue : String) :
    (((valuesWithZeroMatches enumValues options).map zeroMatches).countP
        fun option : FacetOptionDto F => option.value == .text enumValue) =
      if enumValue ∈ valuesWithZeroMatches enumValues options then 1 else 0 := by
  have hsame : (fun option : FacetOptionDto F => option.value == .text enumValue) ∘ zeroMatches =
      fun other => other == enumValue := by
    funext other
    show ((FacetValue.text other : FacetValue F) == .text enumValue) = (other == enumValue)
    apply Bool.eq_iff_iff.mpr
    rw [beq_iff_eq, beq_iff_eq, FacetValue.text.injEq]
  rw [List.countP_map, hsame]
  exact (hnodup.filter _).count

/-- Completion has every enumerated value once, if no value was there twice. -/
theorem countP_completeOptions {enumValues : List String} (hnodup : enumValues.Nodup)
    {options : List (FacetOptionDto F)} {enumValue : String} (hmem : enumValue ∈ enumValues)
    (hle : (options.countP fun option => option.value == .text enumValue) ≤ 1) :
    ((completeOptions enumValues options).countP fun option =>
      option.value == .text enumValue) = 1 := by
  unfold completeOptions
  rw [(List.perm_insertionSort _ _).countP_eq, List.countP_append, countP_zeroMatches hnodup]
  split
  case isTrue hzero => rw [(mem_valuesWithZeroMatches.mp hzero).2]
  case isFalse hnonzero =>
    have hpos : (options.countP fun option => option.value == .text enumValue) ≠ 0 :=
      fun hzero => hnonzero (mem_valuesWithZeroMatches.mpr ⟨hmem, hzero⟩)
    omega

/-- Sorted options are ordered, where every enumerated value is there once. -/
theorem ordered_completeOptions {enumValues : List String} {options : List (FacetOptionDto F)}
    (honce : forall enumValue, enumValue ∈ enumValues ->
      ((completeOptions enumValues options).countP fun option =>
        option.value == .text enumValue) = 1) :
    (completeOptions enumValues options).Pairwise fun a b =>
      forall j, enumIndex enumValues b.value = some j ->
        exists i, enumIndex enumValues a.value = some i ∧ j < i := by
  rw [List.pairwise_iff_forall_sublist]
  intro a b hsub j hj
  have hsorted : (completeOptions enumValues options).Pairwise fun a b =>
      enumRank enumValues b.value ≤ enumRank enumValues a.value := by
    have htotal : Std.Total fun a b : FacetOptionDto F =>
        enumRank enumValues b.value ≤ enumRank enumValues a.value :=
      ⟨fun a b => Int.le_total _ _⟩
    have htrans : IsTrans (FacetOptionDto F) fun a b =>
        enumRank enumValues b.value ≤ enumRank enumValues a.value :=
      ⟨fun _ _ _ hab hbc => Int.le_trans hbc hab⟩
    exact List.pairwise_insertionSort _ _
  have hrank := List.pairwise_iff_forall_sublist.mp hsorted hsub
  rw [enumRank_eq, enumRank_eq, hj] at hrank
  cases hi : enumIndex enumValues a.value with
  | none =>
      rw [hi] at hrank
      exact absurd hrank (by simp only; omega)
  | some i =>
      rw [hi] at hrank
      have hle : j ≤ i := Int.ofNat_le.mp hrank
      rcases Nat.lt_or_eq_of_le hle with hlt | heq
      · exact ⟨i, rfl, hlt⟩
      · -- of one value there would be two
        rcases enumIndex_eq_some hi with ⟨first, hfirst, hmem, hfirstIndex⟩
        rcases enumIndex_eq_some hj with ⟨second, hsecond, hmem', hsecondIndex⟩
        have hsame : first = second := by
          apply (List.idxOf_inj hmem).mp
          rw [hfirstIndex, hsecondIndex, heq]
        have hcount := hsub.countP_le (p := fun option => option.value == .text first)
        rw [honce first hmem, List.countP_cons, List.countP_cons, hfirst, hsecond, hsame,
          beq_self_eq_true] at hcount
        exact absurd hcount (by simp)

/-!
## Groups
-/

/-- The group of some rows, where there are any. -/
def asGroup : List (FacetRow F) -> Option (List (FacetRow F))
  | [] => none
  | row :: rows => some (row :: rows)

omit [DecidableEq F] in
theorem asGroup_getD (rows : List (FacetRow F)) : (asGroup rows).getD [] = rows := by
  cases rows with
  | nil => rfl
  | cons row rows => rfl

omit [DecidableEq F] in
theorem asGroup_append (rows : List (FacetRow F)) (row : FacetRow F) :
    asGroup (rows ++ [row]) = some (rows ++ [row]) := by
  cases rows with
  | nil => rfl
  | cons first rows => rfl

omit [DecidableEq F] in
/-- A row is added to its group, unless the group is full. -/
theorem lookup_addRow {dialect : Dialect} {grouped : List (String × List (FacetRow F))}
    {key : String} {seen : List (FacetRow F)}
    (h : grouped.lookup key = asGroup (limited dialect seen)) (row : FacetRow F) :
    (addRow dialect grouped row).lookup key =
      asGroup (limited dialect (seen ++ [row].filter fun row => row.facetId == key)) := by
  unfold addRow
  rcases Classical.em (row.facetId = key) with heq | hne
  · rw [List.filter_singleton, heq, beq_self_eq_true, cond_true]
    show (if dialect = .sqlite ∧ 50 ≤ ((grouped.lookup key).getD []).length then grouped
      else Dict.set key ((grouped.lookup key).getD [] ++ [row]) grouped).lookup key = _
    rw [h, asGroup_getD]
    unfold limited at h ⊢
    rcases Classical.em (dialect = .sqlite) with hsqlite | hother
    · rw [if_pos hsqlite] at h
      simp only [hsqlite, true_and, if_true]
      rcases Nat.lt_or_ge seen.length 50 with hlt | hge
      · have htake : seen.take 50 = seen := List.take_of_length_le (Nat.le_of_lt hlt)
        have hroom : ¬ 50 ≤ seen.length := Nat.not_le_of_lt hlt
        rw [htake, if_neg hroom, Dict.lookup_set_self,
          List.take_of_length_le (by rw [List.length_append]; exact hlt), asGroup_append]
      · have hfull : 50 ≤ (seen.take 50).length := by
          rw [List.length_take]
          exact Nat.le_min.mpr ⟨Nat.le_refl 50, hge⟩
        rw [if_pos hfull, List.take_append_of_le_length hge]
        exact h
    · rw [if_neg hother, if_neg fun hboth => hother hboth.1, if_neg hother,
        Dict.lookup_set_self, asGroup_append]
  · rw [List.filter_singleton, beq_eq_false_iff_ne.mpr hne, cond_false]
    show (if _ then grouped else Dict.set row.facetId _ grouped).lookup key = _
    rw [List.append_nil, ← h]
    split
    · rfl
    · exact Dict.lookup_set_ne hne _ _

omit [DecidableEq F] in
theorem lookup_groupedById (dialect : Dialect) (rows : List (FacetRow F)) (key : String) :
    (groupedById dialect rows).lookup key = asGroup (keptRows dialect rows key) := by
  have hrun : forall (rest seen : List (FacetRow F))
      (grouped : List (String × List (FacetRow F))),
      grouped.lookup key = asGroup (limited dialect seen) ->
        (rest.foldl (addRow dialect) grouped).lookup key =
          asGroup (limited dialect (seen ++ rest.filter fun row => row.facetId == key)) := by
    intro rest
    induction rest with
    | nil =>
        intro seen grouped h
        rw [List.filter_nil, List.append_nil]
        exact h
    | cons row rest ih =>
        intro seen grouped h
        have hrest := ih _ _ (lookup_addRow h row)
        rw [List.append_assoc, ← List.filter_append] at hrest
        exact hrest
  have hempty : limited dialect ([] : List (FacetRow F)) = [] := by
    unfold limited
    split
    · rfl
    · rfl
  exact hrun rows [] [] (by rw [hempty]; rfl)

/-!
## Entries
-/

section

variable {α : Type} {numbers : Numbers F} {mapping : PropertyMetadataInfo}

omit [DecidableEq F] in
theorem valueUnlessNumber_eq_text {value : FacetValue F} {number : Except PyException α}
    {f : α -> FacetValue F} (hf : forall a text, f a ≠ .text text) {text : String}
    (h : valueUnlessNumber value (number.map f) = .ok (.text text)) : value = .text text := by
  cases number with
  | ok a => exact absurd (Except.ok.inj h) (hf a text)
  | error e =>
      cases e with
      | valueError message => exact Except.ok.inj h
      | _ => cases h

/-- Only a text is shown as a text. -/
theorem facetValue_of_text {row : FacetRow F} {option : FacetOptionDto F} {text : String}
    (h : facetOption numbers mapping row = .ok option) (hvalue : option.value = .text text) :
    row.facetValue = .text text := by
  have hmapped : mapFacetOptionValue numbers row.facetValue mapping.dataType =
      .ok (.text text) := by
    unfold facetOption at h
    cases hmap : mapFacetOptionValue numbers row.facetValue mapping.dataType with
    | ok value =>
        rw [hmap] at h
        rw [← Except.ok.inj h] at hvalue
        exact congrArg Except.ok hvalue
    | error e =>
        rw [hmap] at h
        cases h
  unfold mapFacetOptionValue at hmapped
  split at hmapped
  · exact valueUnlessNumber_eq_text (fun _ _ h => by cases h) hmapped
  · exact valueUnlessNumber_eq_text (fun _ _ h => by cases h) hmapped
  · cases hmapped
  · exact Except.ok.inj hmapped

/-- Options to be completed: those of the rows, with no enum value shown twice. -/
structure Completable (numbers : Numbers F) (mapping : PropertyMetadataInfo)
    (kept : List (FacetRow F)) (base : List (FacetOptionDto F)) : Prop where
  atMostOnce : forall enumValue, enumValue ∈ mapping.enumValues ->
    (base.countP fun option => option.value == .text enumValue) ≤ 1
  rows : forall row, row ∈ kept -> exists option,
    facetOption numbers mapping row = .ok option ∧ option ∈ base
  unmatched : forall enumValue, enumValue ∈ mapping.enumValues ->
    (forall row, row ∈ kept -> row.facetValue ≠ .text enumValue) ->
      (base.countP fun option => option.value == .text enumValue) ≠ 0 ->
        zeroMatches enumValue ∈ base

theorem Completable.complete {kept : List (FacetRow F)} {base : List (FacetOptionDto F)}
    (h : Completable numbers mapping kept base) (hnodup : mapping.enumValues.Nodup) :
    CompleteOptions numbers mapping kept (completeOptions mapping.enumValues base) := by
  have honce := fun enumValue hmem =>
    countP_completeOptions hnodup hmem (h.atMostOnce enumValue hmem)
  refine ⟨honce, ?_, ?_, ordered_completeOptions honce⟩
  · intro enumValue hmem hnone
    apply mem_completeOptions.mpr
    rcases Classical.em
      ((base.countP fun option => option.value == .text enumValue) = 0) with hcount | hcount
    · exact Or.inr ⟨enumValue, mem_valuesWithZeroMatches.mpr ⟨hmem, hcount⟩, rfl⟩
    · exact Or.inl (h.unmatched enumValue hmem hnone hcount)
  · intro row hrow
    rcases h.rows row hrow with ⟨option, hoption, hmem⟩
    exact ⟨option, hoption, mem_completeOptions.mpr (Or.inl hmem)⟩

/-- Without rows the entry is completed. -/
theorem completable_entry {entry : List (FacetOptionDto F)}
    (hentry : entry = [] ∨ CompleteOptions numbers mapping [] entry) :
    Completable numbers mapping [] entry := by
  refine ⟨?_, fun _ h => absurd h List.not_mem_nil, ?_⟩
  · intro enumValue hmem
    rcases hentry with hempty | hcomplete
    · rw [hempty]
      exact Nat.zero_le 1
    · exact Nat.le_of_eq (hcomplete.once enumValue hmem)
  · intro enumValue hmem hnone hcount
    rcases hentry with hempty | hcomplete
    · rw [hempty] at hcount
      exact absurd rfl hcount
    · exact hcomplete.unmatched enumValue hmem hnone

/-- The options of rows that differ in their values. -/
theorem completable_options {kept : List (FacetRow F)} {base : List (FacetOptionDto F)}
    (hdistinct : (kept.map FacetRow.facetValue).Nodup)
    (hmapM : kept.mapM (facetOption numbers mapping) = .ok base) :
    Completable numbers mapping kept base := by
  have hle : forall enumValue,
      (base.countP fun option => option.value == .text enumValue) ≤
        kept.countP fun row => row.facetValue == .text enumValue := by
    intro enumValue
    apply countP_mapM_le _ hmapM
    intro row option hoption hvalue
    exact beq_iff_eq.mpr (facetValue_of_text hoption (beq_iff_eq.mp hvalue))
  refine ⟨?_, fun row hrow => mem_of_mapM hmapM hrow, ?_⟩
  · intro enumValue _
    have honce := List.nodup_iff_count_le_one.mp hdistinct (.text enumValue)
    rw [List.count_eq_countP, List.countP_map] at honce
    exact Nat.le_trans (hle enumValue) honce
  · intro enumValue _ hnone hcount
    have hzero : kept.countP (fun row => row.facetValue == .text enumValue) = 0 := by
      rw [List.countP_eq_zero]
      intro row hrow hvalue
      exact hnone row hrow (beq_iff_eq.mp hvalue)
    have hnot := hle enumValue
    rw [hzero] at hnot
    exact absurd (Nat.le_zero.mp hnot) hcount

/-- The entry of a facet is complete after its turn, and stays so in further ones. -/
theorem facetEntry_complete (henum : mapping.enumValues ≠ []) (hnodup : mapping.enumValues.Nodup)
    {kept : List (FacetRow F)} (hdistinct : (kept.map FacetRow.facetValue).Nodup)
    (hconverted : forall row, row ∈ kept ->
      exists option, facetOption numbers mapping row = .ok option)
    {entry : List (FacetOptionDto F)}
    (hentry : entry = [] ∨ CompleteOptions numbers mapping kept entry) :
    exists options, facetEntry numbers (some mapping) (asGroup kept) entry = .ok options ∧
      CompleteOptions numbers mapping kept options := by
  cases kept with
  | nil =>
      refine ⟨completeOptions mapping.enumValues entry, ?_,
        (completable_entry hentry).complete hnodup⟩
      unfold facetEntry
      exact if_neg henum
  | cons row rows =>
      rcases mapM_isOk.mpr hconverted with ⟨base, hmapM⟩
      refine ⟨completeOptions mapping.enumValues base, ?_,
        (completable_options hdistinct hmapM).complete hnodup⟩
      unfold facetEntry
      show ((row :: rows).mapM (facetOption numbers mapping) >>= fun options =>
        if mapping.enumValues = [] then .ok options
        else .ok (completeOptions mapping.enumValues options)) = _
      rw [hmapM]
      exact if_neg henum

end

/-!
## All facets
-/

section

variable {numbers : Numbers F} {dialect : Dialect} {metadata : PropertiesMetadata}
  {sha1 : String -> String} {query : FacetOptionsQueryDto} {facets : List FacetDto}
  {rows : List (FacetRow F)}

/-- What the code relies on: the paths can be looked up, each row has the key of a valid facet, its
value can be converted or is kept as it is, and hashes are of one length. -/
structure Readable (numbers : Numbers F) (metadata : PropertiesMetadata) (sha1 : String -> String)
    (query : FacetOptionsQueryDto) (facets : List FacetDto) (rows : List (FacetRow F)) : Prop where
  paths : forall facet, facet ∈ facets ->
    exists mapping, getPropertyMetadataForStr metadata facet.propertyPath = .ok mapping
  keys : forall row, row ∈ rows -> exists facet mapping, facet ∈ facets ∧
    getPropertyMetadataForStr metadata facet.propertyPath = .ok (some mapping) ∧
      row.facetId = query.facetKey facet sha1
  values : forall facet mapping, facet ∈ facets ->
    getPropertyMetadataForStr metadata facet.propertyPath = .ok (some mapping) ->
      forall row, row ∈ rows -> row.facetId = query.facetKey facet sha1 ->
        exists value, mapFacetOptionValue numbers row.facetValue mapping.dataType = .ok value
  hash : forall text, (sha1 text).length = 40

/-- The path of the facet is the only one with its id, and its field is enumerated. -/
structure Enumerated (metadata : PropertiesMetadata) (facets : List FacetDto) (facet : FacetDto)
    (mapping : PropertyMetadataInfo) : Prop where
  valid : getPropertyMetadataForStr metadata facet.propertyPath = .ok (some mapping)
  enumerated : mapping.enumValues ≠ []
  nodup : mapping.enumValues.Nodup
  own : forall other, other ∈ facets -> other.id = facet.id ->
    other.propertyPath = facet.propertyPath

/-- The requested facets have entries, and those of valid ones with enumerated values are
complete. -/
structure CompleteEntries (numbers : Numbers F) (dialect : Dialect)
    (metadata : PropertiesMetadata) (sha1 : String -> String) (query : FacetOptionsQueryDto)
    (facets : List FacetDto) (rows : List (FacetRow F)) (result : FacetResult F) : Prop where
  requested : forall facet, facet ∈ facets -> exists entry, result.lookup facet.id = some entry
  complete : forall facet mapping, facet ∈ facets -> Enumerated metadata facets facet mapping ->
    exists entry, result.lookup facet.id = some entry ∧
      CompleteOptions numbers mapping (keptRows dialect rows (query.facetKey facet sha1)) entry

omit [DecidableEq F] in
theorem keptRows_subset {key : String} {row : FacetRow F}
    (h : row ∈ keptRows dialect rows key) : row ∈ rows ∧ row.facetId = key := by
  have hmem : row ∈ rows.filter fun row => row.facetId == key := by
    unfold keptRows limited at h
    split at h
    · exact List.mem_of_mem_take h
    · exact h
  exact ⟨List.mem_of_mem_filter hmem, beq_iff_eq.mp (List.mem_filter.mp hmem).2⟩

omit [DecidableEq F] in
/-- The kept rows of a key have different values. -/
theorem keptRows_nodup (h : (rows.map fun row => (row.facetId, row.facetValue)).Nodup)
    (key : String) : ((keptRows dialect rows key).map FacetRow.facetValue).Nodup := by
  have hfilter : ((rows.filter fun row => row.facetId == key).map FacetRow.facetValue).Nodup := by
    apply List.Nodup.map_on
    · intro a ha b hb hvalue
      have hkeys : a.facetId = b.facetId := by
        rw [beq_iff_eq.mp (List.mem_filter.mp ha).2, beq_iff_eq.mp (List.mem_filter.mp hb).2]
      exact List.inj_on_of_nodup_map h (List.mem_of_mem_filter ha) (List.mem_of_mem_filter hb)
        (Prod.ext hkeys hvalue)
    · exact (List.Nodup.of_map _ h).filter _
  unfold keptRows limited
  split
  · rw [List.map_take]
    exact hfilter.sublist (List.take_sublist _ _)
  · exact hfilter

/-- Facets with one key have one path, since the hash behind it is as long. -/
theorem propertyPath_of_facetKey (hhash : forall text, (sha1 text).length = 40)
    {facet other : FacetDto} (h : query.facetKey facet sha1 = query.facetKey other sha1) :
    facet.propertyPath = other.propertyPath := by
  have hlist := congrArg String.toList h
  unfold FacetOptionsQueryDto.facetKey getFacetKey at hlist
  rw [String.toList_append, String.toList_append] at hlist
  apply String.toList_injective
  apply (List.append_inj' hlist _).1
  rw [String.length_toList, String.length_toList, hhash, hhash]

/-- A facet without a mapping has no rows. -/
theorem keptRows_of_invalid (h : Readable numbers metadata sha1 query facets rows)
    {facet : FacetDto}
    (hmapping : getPropertyMetadataForStr metadata facet.propertyPath = .ok none) :
    keptRows dialect rows (query.facetKey facet sha1) = [] := by
  apply List.eq_nil_iff_forall_not_mem.mpr
  intro row hrow
  rcases keptRows_subset hrow with ⟨hmem, hkey⟩
  rcases h.keys row hmem with ⟨other, mapping, _, hother, hotherKey⟩
  have hpath := propertyPath_of_facetKey h.hash (hkey.symm.trans hotherKey)
  rw [hpath, hother] at hmapping
  cases hmapping

theorem converted_of_readable (dialect : Dialect) (h : Readable numbers metadata sha1 query facets rows)
    {facet : FacetDto} (hfacet : facet ∈ facets) {mapping : PropertyMetadataInfo}
    (hmapping : getPropertyMetadataForStr metadata facet.propertyPath = .ok (some mapping)) :
    forall row, row ∈ keptRows dialect rows (query.facetKey facet sha1) ->
      exists option, facetOption numbers mapping row = .ok option := by
  intro row hrow
  rcases keptRows_subset hrow with ⟨hmem, hkey⟩
  rcases h.values facet mapping hfacet hmapping row hmem hkey with ⟨value, hvalue⟩
  unfold facetOption
  rw [hvalue]
  exact ⟨_, rfl⟩

/-- The entry of a facet can be computed. -/
theorem facetEntry_ok (dialect : Dialect)
    (h : Readable numbers metadata sha1 query facets rows) {facet : FacetDto}
    (hfacet : facet ∈ facets) {mapping : Option PropertyMetadataInfo}
    (hmapping : getPropertyMetadataForStr metadata facet.propertyPath = .ok mapping)
    (entry : List (FacetOptionDto F)) :
    exists options, facetEntry numbers mapping
      (asGroup (keptRows dialect rows (query.facetKey facet sha1))) entry = .ok options := by
  cases mapping with
  | none =>
      rw [keptRows_of_invalid h hmapping]
      exact ⟨[], rfl⟩
  | some mapping =>
      have hconverted := converted_of_readable dialect h hfacet hmapping
      have hfinish : forall options : List (FacetOptionDto F), exists entry,
          (if mapping.enumValues = [] then Except.ok options
            else .ok (completeOptions mapping.enumValues options) :
              Except Failure (List (FacetOptionDto F))) = .ok entry := by
        intro options
        split
        · exact ⟨_, rfl⟩
        · exact ⟨_, rfl⟩
      cases hkept : keptRows dialect rows (query.facetKey facet sha1) with
      | nil => exact hfinish entry
      | cons row rest =>
          rw [hkept] at hconverted
          rcases mapM_isOk.mpr hconverted with ⟨options, hmapM⟩
          unfold facetEntry
          show exists entry, ((row :: rest).mapM (facetOption numbers mapping) >>= fun options =>
            if mapping.enumValues = [] then .ok options
            else .ok (completeOptions mapping.enumValues options)) = .ok entry
          rw [hmapM]
          exact hfinish options

/-- What the loop over the facets has reached. -/
structure Entered (numbers : Numbers F) (dialect : Dialect) (metadata : PropertiesMetadata)
    (sha1 : String -> String) (query : FacetOptionsQueryDto) (facets : List FacetDto)
    (rows : List (FacetRow F)) (seen : List FacetDto) (result : FacetResult F) : Prop where
  requested : forall facet, facet ∈ seen -> exists entry, result.lookup facet.id = some entry
  complete : forall facet mapping entry, Enumerated metadata facets facet mapping ->
    result.lookup facet.id = some entry ->
      CompleteOptions numbers mapping (keptRows dialect rows (query.facetKey facet sha1)) entry

/-- A turn of the loop. -/
theorem Entered.addFacet (h : Readable numbers metadata sha1 query facets rows)
    (hdistinct : (rows.map fun row => (row.facetId, row.facetValue)).Nodup)
    {seen : List FacetDto} {result : FacetResult F}
    (hentered : Entered numbers dialect metadata sha1 query facets rows seen result)
    {facet : FacetDto} (hfacet : facet ∈ facets) :
    exists result', Facets.addFacet numbers metadata sha1 query (groupedById dialect rows) result
        facet = .ok result' ∧
      Entered numbers dialect metadata sha1 query facets rows (facet :: seen) result' := by
  rcases h.paths facet hfacet with ⟨mapping, hmapping⟩
  rcases facetEntry_ok dialect h hfacet hmapping
    ((result.lookup facet.id).getD []) with ⟨entry, hentry⟩
  refine ⟨Dict.set facet.id entry result, ?_, ?_, ?_⟩
  · unfold Facets.addFacet
    rw [hmapping, lookup_groupedById]
    show (facetEntry numbers mapping _ _ >>= fun entry =>
      .ok (Dict.set facet.id entry result)) = _
    rw [hentry]
    rfl
  · intro other hother
    rcases Classical.em (facet.id = other.id) with heq | hne
    · rw [heq]
      exact ⟨_, Dict.lookup_set_self _ _ _⟩
    · rw [Dict.lookup_set_ne hne]
      rcases List.mem_cons.mp hother with hsame | hmem
      · rw [hsame] at hne
        exact absurd rfl hne
      · exact hentered.requested other hmem
  · intro other otherMapping otherEntry henum hlookup
    rcases Classical.em (facet.id = other.id) with heq | hne
    · rw [heq, Dict.lookup_set_self] at hlookup
      have hpath := henum.own facet hfacet heq
      have hkey : query.facetKey facet sha1 = query.facetKey other sha1 := by
        unfold FacetOptionsQueryDto.facetKey FacetOptionsQueryDto.facetCel
        rw [heq, hpath]
      have hsame : mapping = some otherMapping := by
        have hvalid := henum.valid
        rw [← hpath, hmapping] at hvalid
        exact Except.ok.inj hvalid
      have hbefore : (result.lookup facet.id).getD [] = [] ∨ CompleteOptions numbers otherMapping
          (keptRows dialect rows (query.facetKey facet sha1))
            ((result.lookup facet.id).getD []) := by
        cases hold : result.lookup facet.id with
        | none => exact Or.inl rfl
        | some old =>
            rw [heq] at hold
            rw [hkey]
            exact Or.inr (hentered.complete other otherMapping old henum hold)
      rw [hsame] at hentry hmapping
      rcases facetEntry_complete henum.enumerated henum.nodup (keptRows_nodup hdistinct _)
        (converted_of_readable dialect h hfacet hmapping) hbefore with ⟨options, hoptions, hcomplete⟩
      rw [hentry] at hoptions
      rw [← Option.some.inj hlookup, Except.ok.inj hoptions, ← hkey]
      exact hcomplete
    · rw [Dict.lookup_set_ne hne] at hlookup
      exact hentered.complete other otherMapping otherEntry henum hlookup

/-- The loop over the facets. -/
theorem Entered.foldlM (h : Readable numbers metadata sha1 query facets rows)
    (hdistinct : (rows.map fun row => (row.facetId, row.facetValue)).Nodup)
    {rest seen : List FacetDto} (hrest : forall facet, facet ∈ rest -> facet ∈ facets)
    {result : FacetResult F}
    (hentered : Entered numbers dialect metadata sha1 query facets rows seen result) :
    exists result', rest.foldlM
        (Facets.addFacet numbers metadata sha1 query (groupedById dialect rows)) result =
          .ok result' ∧
      Entered numbers dialect metadata sha1 query facets rows (rest.reverse ++ seen) result' := by
  induction rest generalizing seen result with
  | nil => exact ⟨result, rfl, hentered⟩
  | cons facet rest ih =>
      rcases hentered.addFacet h hdistinct (hrest facet List.mem_cons_self) with
        ⟨next, hnext, hstep⟩
      rcases ih (fun other hother => hrest other (List.mem_cons_of_mem facet hother)) hstep with
        ⟨result', hresult, hrun⟩
      refine ⟨result', ?_, ?_⟩
      · rw [List.foldlM_cons, hnext]
        exact hresult
      · rw [List.reverse_cons, List.append_assoc]
        exact hrun

/-- The path of the facet has a mapping. -/
def isValid (metadata : PropertiesMetadata) (facet : FacetDto) : Bool :=
  match getPropertyMetadataForStr metadata facet.propertyPath with
  | .ok (some _) => true
  | _ => false

/-- The facets are divided by whether they have a mapping. -/
theorem splitFacets_eq {facets : List FacetDto}
    (h : forall facet, facet ∈ facets ->
      exists mapping, getPropertyMetadataForStr metadata facet.propertyPath = .ok mapping) :
    splitFacets metadata facets =
      .ok (facets.filter (isValid metadata),
        facets.filter fun facet => !isValid metadata facet) := by
  induction facets with
  | nil => rfl
  | cons facet facets ih =>
      rcases h facet List.mem_cons_self with ⟨mapping, hmapping⟩
      have hrest := ih fun other hother => h other (List.mem_cons_of_mem facet hother)
      rw [List.filter_cons, List.filter_cons]
      unfold splitFacets
      rw [hmapping, hrest]
      cases mapping with
      | none =>
          have hinvalid : isValid metadata facet = false := by
            unfold isValid
            rw [hmapping]
          rw [hinvalid]
          rfl
      | some mapping =>
          have hvalid : isValid metadata facet = true := by
            unfold isValid
            rw [hmapping]
          rw [hvalid]
          rfl

omit [DecidableEq F] in
/-- The last loop empties the entries of the facets without a mapping. -/
theorem lookup_foldl_invalid (invalid : List FacetDto) (result : FacetResult F) (id : String) :
    (invalid.foldl (fun result facet => Dict.set facet.id [] result) result).lookup id =
      if exists facet, facet ∈ invalid ∧ facet.id = id then some [] else result.lookup id := by
  induction invalid generalizing result with
  | nil =>
      rw [if_neg]
      · rfl
      · intro h
        rcases h with ⟨facet, hmem, _⟩
        exact List.not_mem_nil hmem
  | cons facet invalid ih =>
      rw [List.foldl_cons, ih]
      rcases Classical.em (exists other, other ∈ invalid ∧ other.id = id) with hrest | hrest
      · rcases hrest with ⟨other, hmem, hid⟩
        rw [if_pos ⟨other, hmem, hid⟩, if_pos ⟨other, List.mem_cons_of_mem facet hmem, hid⟩]
      · rw [if_neg hrest]
        rcases Classical.em (facet.id = id) with heq | hne
        · rw [if_pos ⟨facet, List.mem_cons_self, heq⟩, heq, Dict.lookup_set_self]
        · rw [if_neg, Dict.lookup_set_ne hne]
          intro h
          rcases h with ⟨other, hmem, hid⟩
          rcases List.mem_cons.mp hmem with hsame | hmem
          · rw [hsame] at hid
            exact hne hid
          · exact hrest ⟨other, hmem, hid⟩

/-- The options of all facets are complete. -/
theorem getFacetOptions_complete (numbers : Numbers F) (dialect : Dialect)
    (metadata : PropertiesMetadata) (sha1 : String -> String) (query : FacetOptionsQueryDto)
    (facets : List FacetDto) (rows : List (FacetRow F))
    (h : Readable numbers metadata sha1 query facets rows)
    (hdistinct : (rows.map fun row => (row.facetId, row.facetValue)).Nodup) :
    exists result,
      getFacetOptions numbers dialect metadata sha1 query facets rows = .ok result ∧
        CompleteEntries numbers dialect metadata sha1 query facets rows result := by
  have hinit : Entered numbers dialect metadata sha1 query facets rows [] [] :=
    ⟨fun _ hmem => absurd hmem List.not_mem_nil, fun _ _ _ _ hlookup => by cases hlookup⟩
  -- without a valid facet the loop is left out, and nothing is enumerated
  have hloop : exists result seen,
      addFacets numbers dialect metadata sha1 query (facets.filter (isValid metadata)) facets rows =
        .ok result ∧
      Entered numbers dialect metadata sha1 query facets rows seen result ∧
      forall facet, facet ∈ facets -> isValid metadata facet = true -> facet ∈ seen := by
    unfold addFacets
    split
    case isTrue hnone =>
      refine ⟨[], [], rfl, hinit, ?_⟩
      intro facet hfacet hvalid
      have hmem := List.mem_filter.mpr ⟨hfacet, hvalid⟩
      rw [hnone] at hmem
      exact absurd hmem List.not_mem_nil
    case isFalse hsome =>
      rcases hinit.foldlM h hdistinct (fun _ hmem => hmem) with ⟨result, hresult, hentered⟩
      refine ⟨result, _, hresult, hentered, ?_⟩
      intro facet hfacet _
      exact List.mem_append_left _ (List.mem_reverse.mpr hfacet)
  rcases hloop with ⟨result, seen, hresult, hentered, hseen⟩
  refine ⟨(facets.filter fun facet => !isValid metadata facet).foldl
    (fun result facet => Dict.set facet.id [] result) result, ?_, ?_, ?_⟩
  · unfold getFacetOptions
    rw [splitFacets_eq h.paths]
    show (addFacets numbers dialect metadata sha1 query (facets.filter (isValid metadata)) facets
      rows >>= _) = _
    rw [hresult]
    rfl
  · intro facet hfacet
    rw [lookup_foldl_invalid]
    split
    case isTrue hinvalid => exact ⟨[], rfl⟩
    case isFalse hvalid =>
      apply hentered.requested facet (hseen facet hfacet _)
      cases hfacetValid : isValid metadata facet with
      | true => rfl
      | false =>
          have hmem : facet ∈ facets.filter fun facet => !isValid metadata facet :=
            List.mem_filter.mpr ⟨hfacet, by rw [hfacetValid]; rfl⟩
          exact absurd ⟨facet, hmem, rfl⟩ hvalid
  · intro facet mapping hfacet henum
    have hvalid : isValid metadata facet = true := by
      unfold isValid
      rw [henum.valid]
    rcases hentered.requested facet (hseen facet hfacet hvalid) with ⟨entry, hentry⟩
    rw [lookup_foldl_invalid, if_neg]
    · exact ⟨entry, hentry, hentered.complete facet mapping entry henum hentry⟩
    · intro hsame
      rcases hsame with ⟨other, hother, hid⟩
      rcases List.mem_filter.mp hother with ⟨hmem, hinvalid⟩
      have hboth : isValid metadata other = isValid metadata facet := by
        unfold isValid
        rw [henum.own other hmem hid]
      rw [hboth, hvalid] at hinvalid
      cases hinvalid

end

end

/-!
## Severities
-/

namespace SeveritySample

open Cel (PropertiesMetadata)

def metadata : PropertiesMetadata :=
  .ofConfigurations [⟨"severity", ["alert.severity"], some .string, ["low", "high"]⟩]

def mapping : PropertyMetadataInfo :=
  ⟨"severity", [.simple "alert.severity"], ["low", "high"], some .string⟩

/-- Floats are left out. -/
def numbers : Numbers Unit where
  int := fun value =>
    match value with
    | .null => .error .typeError
    | .text text =>
        match text.toInt? with
        | some number => .ok number
        | none => .error (.valueError text)
    | .int number => .ok number
    | .float _ => .ok 0
    | .bool value => .ok (if value then 1 else 0)
  float := fun value =>
    match value with
    | .null => .error .typeError
    | .text text => .error (.valueError text)
    | _ => .ok ()
  floatText := fun _ => "0.0"

/-- The hash of the empty text. -/
def hash (_ : String) : String := "da39a3ee5e6b4b0d3255bfef95601890afd80709"

def facet : FacetDto := ⟨"facet", "severity"⟩

def query : FacetOptionsQueryDto := ⟨none, none⟩

def row (i : Nat) : FacetRow Unit := ⟨query.facetKey facet hash, .int i, some 1⟩

/-- One more row than the limit. -/
def rows : List (FacetRow Unit) := (List.range 51).map row

theorem metadata_severity :
    getPropertyMetadataForStr metadata facet.propertyPath = .ok (some mapping) := rfl

theorem readable : Readable numbers metadata hash query [facet] rows where
  paths := by
    intro other hother
    rw [List.mem_singleton.mp hother]
    exact ⟨_, metadata_severity⟩
  keys := by
    intro row hrow
    rcases List.mem_map.mp hrow with ⟨i, _, heq⟩
    rw [← heq]
    exact ⟨facet, mapping, List.mem_cons_self, metadata_severity, rfl⟩
  values := by
    intro other otherMapping hother hmapping row _ _
    rw [List.mem_singleton.mp hother, metadata_severity] at hmapping
    rw [← Option.some.inj (Except.ok.inj hmapping)]
    exact ⟨row.facetValue, rfl⟩
  hash := by
    intro _
    unfold hash
    decide

theorem distinct : (rows.map fun row => (row.facetId, row.facetValue)).Nodup := by
  unfold rows
  rw [List.map_map]
  apply List.Nodup.map _ List.nodup_range
  intro i j h
  exact Int.ofNat.inj (FacetValue.int.inj (congrArg Prod.snd h))

theorem enumerated : Enumerated metadata [facet] facet mapping where
  valid := metadata_severity
  enumerated := by decide
  nodup := by decide
  own := by
    intro other hother _
    rw [List.mem_singleton.mp hother]

/-- The last row has no option. -/
theorem last_not_mem {result : FacetResult Unit} {entry : List (FacetOptionDto Unit)}
    (hresult : getFacetOptions numbers .sqlite metadata hash query [facet] rows = .ok result)
    (hentry : result.lookup facet.id = some entry) : ⟨"50", .int 50, 1⟩ ∉ entry := by
  have hnone : ((getFacetOptions numbers .sqlite metadata hash query [facet] rows).toOption.bind
      fun result => result.lookup facet.id).any (fun entry =>
        entry.all fun option => option.displayName != "50") = true := by decide +kernel
  rw [hresult] at hnone
  have hall : (result.lookup facet.id).any (fun entry =>
      entry.all fun option => option.displayName != "50") = true := hnone
  rw [hentry] at hall
  intro hmem
  exact absurd (List.all_eq_true.mp hall _ hmem) (by decide)

end SeveritySample

open SeveritySample in
theorem getFacetOptions_complete_severity :
    exists result,
      getFacetOptions numbers .sqlite metadata hash query [facet] rows = .ok result ∧
        CompleteEntries numbers .sqlite metadata hash query [facet] rows result :=
  getFacetOptions_complete numbers .sqlite metadata hash query [facet] rows readable distinct

open SeveritySample in
/-- Of 51 rows of a facet SQLite keeps 50. -/
theorem lastRow_not_kept :
    ¬ forall (numbers : Numbers Unit) (dialect : Dialect) (metadata : PropertiesMetadata)
        (sha1 : String -> String) (query : FacetOptionsQueryDto) (facets : List FacetDto)
        (rows : List (FacetRow Unit)), Readable numbers metadata sha1 query facets rows ->
          (rows.map fun row => (row.facetId, row.facetValue)).Nodup ->
            exists result,
              getFacetOptions numbers dialect metadata sha1 query facets rows = .ok result ∧
                forall facet mapping, facet ∈ facets ->
                  Enumerated metadata facets facet mapping ->
                    exists entry, result.lookup facet.id = some entry ∧
                      CompleteOptions numbers mapping
                        (rows.filter fun row => row.facetId == query.facetKey facet sha1)
                        entry := by
  intro h
  rcases h numbers .sqlite metadata hash query [facet] rows readable distinct with
    ⟨result, hresult, hcomplete⟩
  rcases hcomplete facet mapping List.mem_cons_self enumerated with ⟨entry, hentry, hoptions⟩
  have hlast : row 50 ∈ rows.filter fun row => row.facetId == query.facetKey facet hash :=
    List.mem_filter.mpr ⟨List.mem_map.mpr ⟨50, List.mem_range.mpr (Nat.lt_succ_self 50), rfl⟩,
      beq_iff_eq.mpr rfl⟩
  rcases hoptions.rows (row 50) hlast with ⟨option, hoption, hmem⟩
  have hoption' : facetOption numbers mapping (row 50) = .ok ⟨"50", .int 50, 1⟩ := by rfl
  rw [hoption'] at hoption
  rw [← Except.ok.inj hoption] at hmem
  exact last_not_mem hresult hentry hmem

end Facets
end KeepGateway
