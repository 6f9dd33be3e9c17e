import KeepGateway.Lib.FirstMatch
import KeepGateway.Presets.OwnTags

/-!
# When a request stays within its tenant

A request does so exactly where it cannot come to a lookup that another tenant decides.
-/

namespace KeepGateway
namespace Presets

variable {ν : Type}

/-!
## What follows the loop
-/

/-- The request fails on what the tables have, after the loop. -/
def Conflicts (request : Request) (preset : Preset ν) (db : Db ν) (tags : List Tag) : Prop :=
  (request = .create ∧ nameTaken db.presets preset = true) ∨ ¬ (tags.map Tag.id).Nodup

/-- What a request that fails so leaves: a new preset has been committed before its links. -/
def conflicted (request : Request) (preset : Preset ν) (db : Db ν) : Db ν :=
  match request with
  | .create =>
      if nameTaken db.presets preset then db else { db with presets := db.presets ++ [preset] }
  | .update _ => db

/-- What a request that succeeds leaves. -/
def written (ctx : Context ν) (request : Request) (preset : Preset ν) (db : Db ν)
    (tags : List Tag) : Db ν :=
  { tags := db.tags
    presets :=
      match request with
      | .create => db.presets ++ [preset]
      | .update _ => replacePreset preset db.presets
    links :=
      (match request with
        | .create => db.links
        | .update _ => db.links.filter fun link => link.presetId != preset.id) ++
      tags.map fun tag => ⟨ctx.tenantId, preset.id, tag.id⟩ }

section Finish

variable {ctx : Context ν} {request : Request} {preset : Preset ν} {db : Db ν} {tags : List Tag}

theorem finish_conflicts (h : Conflicts request preset db tags) :
    finish ctx request preset (db, .ok tags) =
      refuse (conflicted request preset db) 500 "IntegrityError" := by
  unfold finish linkTags conflicted
  rcases h with ⟨hcreate, htaken⟩ | hids
  · cases hcreate
    simp only [htaken, if_true]
  · cases request with
    | create =>
        simp only [if_neg hids]
        split
        · rfl
        · rfl
    | update presetId => simp only [if_neg hids]

theorem conflicted_tags (request : Request) (preset : Preset ν) (db : Db ν) :
    (conflicted request preset db).tags = db.tags := by
  unfold conflicted
  split
  · split
    · rfl
    · rfl
  · rfl

theorem conflicted_sameOwn {tenantId : String} {db' : Db ν} (h : SameOwn tenantId db db') :
    SameOwn tenantId (conflicted request preset db) (conflicted request preset db') := by
  unfold conflicted
  cases request with
  | create =>
      simp only [h.presets]
      split
      · exact h
      · exact ⟨rfl, h.links, h.tags⟩
  | update presetId => exact h

theorem finish_succeeds (h : ¬ Conflicts request preset db tags) :
    finish ctx request preset (db, .ok tags) =
      { db := written ctx request preset db tags, status := 200, detail := "", linked := tags
        returned := presetTags (written ctx request preset db tags) preset.id } := by
  rcases not_or.mp h with ⟨hname, hids⟩
  unfold finish linkTags
  cases request with
  | create =>
      have htaken : nameTaken db.presets preset ≠ true := fun htaken => hname ⟨rfl, htaken⟩
      simp only [if_neg htaken, if_pos (not_not.mp hids)]
      rfl
  | update presetId =>
      simp only [if_pos (not_not.mp hids)]
      rfl

/-- No tag is written after the loop. -/
theorem finish_tags (looked : Db ν × Except String (List Tag)) :
    (finish ctx request preset looked).db.tags = looked.1.tags := by
  rcases looked with ⟨db, result⟩
  cases result with
  | error detail => rfl
  | ok tags =>
      rcases Classical.em (Conflicts request preset db tags) with h | h
      · rw [finish_conflicts h]
        exact conflicted_tags request preset db
      · rw [finish_succeeds h]
        rfl

theorem finish_status_of_error {looked : Db ν × Except String (List Tag)} {detail : String}
    (h : looked.2 = .error detail) : (finish ctx request preset looked).status = 400 := by
  rcases looked with ⟨db, result⟩
  cases h
  rfl

theorem finish_status_of_ok {looked : Db ν × Except String (List Tag)}
    (h : looked.2 = .ok tags) : (finish ctx request preset looked).status ≠ 400 := by
  rcases looked with ⟨db, result⟩
  cases h
  rcases Classical.em (Conflicts request preset db tags) with h | h
  · rw [finish_conflicts h]
    simp [refuse]
  · rw [finish_succeeds h]
    simp

/-- What follows the loop does not see the tags of others. -/
theorem finish_sameFor {db' : Db ν} (h : SameOwn ctx.tenantId db db') :
    SameFor ctx.tenantId (finish ctx request preset (db, .ok tags))
      (finish ctx request preset (db', .ok tags)) := by
  have hiff : Conflicts request preset db tags <-> Conflicts request preset db' tags := by
    unfold Conflicts
    rw [h.presets]
  rcases Classical.em (Conflicts request preset db tags) with hfails | hfails
  · rw [finish_conflicts hfails, finish_conflicts (hiff.mp hfails)]
    exact ⟨rfl, rfl, conflicted_sameOwn h⟩
  · rw [finish_succeeds hfails, finish_succeeds fun hother => hfails (hiff.mpr hother)]
    refine ⟨rfl, rfl, ?_, ?_, h.tags⟩
    · unfold written
      rw [h.presets]
    · unfold written
      rw [h.links]

theorem refuse_sameFor {db' : Db ν} (h : SameOwn ctx.tenantId db db') (status : Nat)
    (detail : String) :
    SameFor ctx.tenantId (refuse db status detail) (refuse db' status detail) :=
  ⟨rfl, rfl, h⟩

theorem refuse_confined (tenantId : String) (status : Nat) (detail : String) :
    Confined tenantId (refuse db status detail) :=
  ⟨fun _ h => absurd h List.not_mem_nil, fun _ h => absurd h List.not_mem_nil⟩

end Finish

/-!
## The tags that are found
-/

theorem find?_id {tags : List Tag} {tag : Tag} (hids : (tags.map Tag.id).Nodup)
    (hmem : tag ∈ tags) : (tags.find? fun other => other.id == tag.id) = some tag :=
  (FirstMatch.find?_key hids).mpr ⟨hmem, rfl⟩

theorem mem_ownTags {tenantId : String} {tags : List Tag} {tag : Tag} :
    tag ∈ ownTags tenantId tags <-> tag ∈ tags ∧ tag.tenantId = tenantId := by
  unfold ownTags
  rw [List.mem_filter, beq_iff_eq]

/-- No tag of another tenant comes before an own one that is asked for by its id. -/
theorem findTag_of_own {tenantId id : String} {tags : List Tag} {tag : TagDto} {existing : Tag}
    (hids : (tags.map Tag.id).Nodup) (hid : tag.givenId = some id)
    (h : findTag (ownTags tenantId tags) tag = some existing) :
    findTag tags tag = some existing := by
  rw [findTag_given hid, ← id_of_findTag hid h]
  exact find?_id hids (mem_ownTags.mp (mem_of_findTag h)).1

theorem findTag_isSome_of_own {tenantId : String} {tags : List Tag} {tag : TagDto}
    (h : (findTag (ownTags tenantId tags) tag).isSome = true) :
    (findTag tags tag).isSome = true := by
  rcases findTag_isSome.mp h with ⟨existing, hmem, hkey⟩
  exact findTag_isSome.mpr ⟨existing, (mem_ownTags.mp hmem).1, hkey⟩

/-- The id of the tag that is found under a key. -/
def idOfKey (tags : List Tag) (key : String ⊕ String) : String :=
  let found : Option Tag :=
    match key with
    | .inl id => tags.find? fun existing => existing.id == id
    | .inr name => tags.find? fun existing => existing.name == name
  (found.map Tag.id).getD ""

theorem idOfKey_key {tags : List Tag} {tag : TagDto} {existing : Tag}
    (h : findTag tags tag = some existing) : idOfKey tags tag.key = existing.id := by
  unfold idOfKey TagDto.key
  cases hid : tag.givenId with
  | some id =>
      rw [findTag_given hid] at h
      simp only [h, Option.map_some, Option.getD_some]
  | none =>
      rw [findTag_named hid] at h
      simp only [h, Option.map_some, Option.getD_some]

theorem found_ids {existing : List Tag} {tags : List TagDto}
    (h : forall tag, tag ∈ tags -> (findTag existing tag).isSome = true) :
    (tags.filterMap (findTag existing)).map Tag.id =
      (tags.map TagDto.key).map (idOfKey existing) := by
  rw [List.map_filterMap, List.map_map]
  refine List.filterMap_eq_map_iff_forall_eq_some.mpr ?_
  intro tag hmem
  rcases Option.isSome_iff_exists.mp (h tag hmem) with ⟨found, hfound⟩
  rw [hfound]
  exact congrArg some (idOfKey_key hfound).symm

/-!
## What is harmless stays within
-/

section Harmless

variable {ctx : Context ν} {request : Request} {preset : Preset ν}

/-- Links that are written lead to the tags that they were written for. -/
theorem finish_confined {db : Db ν} {tags : List Tag} (hids : (db.tags.map Tag.id).Nodup)
    (hlinks : request = .create -> forall link, link ∈ db.links -> link.presetId ≠ preset.id)
    (hown : forall tag, tag ∈ tags -> tag ∈ ownTags ctx.tenantId db.tags) :
    Confined ctx.tenantId (finish ctx request preset (db, .ok tags)) := by
  rcases Classical.em (Conflicts request preset db tags) with hfails | hfails
  · rw [finish_conflicts hfails]
    exact refuse_confined _ _ _
  · rw [finish_succeeds hfails]
    refine ⟨fun tag hmem => (mem_ownTags.mp (hown tag hmem)).2, ?_⟩
    intro tag hmem
    rcases List.mem_filterMap.mp hmem with ⟨link, hlink, hfound⟩
    rcases Classical.em (link.presetId = preset.id) with hpreset | hpreset
    · rcases List.mem_append.mp hlink with hold | hnew
      · cases request with
        | create => exact absurd hpreset (hlinks rfl link hold)
        | update presetId =>
            have hkept := (List.mem_filter.mp hold).2
            exact absurd hpreset (bne_iff_ne.mp hkept)
      · rcases List.mem_map.mp hnew with ⟨linked, hlinked, heq⟩
        rcases mem_ownTags.mp (hown linked hlinked) with ⟨hthere, htenant⟩
        rw [← heq] at hfound
        rw [if_pos rfl] at hfound
        have hid := find?_id hids hthere
        cases hid.symm.trans hfound
        exact htenant
    · rw [if_neg hpreset] at hfound
      cases hfound

theorem newPreset_id {body : Body ν} (h : newPreset ctx body = .ok preset) :
    preset.id = ctx.newPresetId := by
  unfold newPreset at h
  simp only at h
  split at h
  · cases h
  · rcases bind_eq_ok.mp h with ⟨-, -, h⟩
    split at h
    · cases h
    · cases h
      rfl

theorem prepared_links {body : Body ν} {db : Db ν}
    (hpreset : forall link, link ∈ db.links -> link.presetId ≠ ctx.newPresetId)
    (h : prepared ctx request body db.presets = .ok preset) :
    request = .create -> forall link, link ∈ db.links -> link.presetId ≠ preset.id := by
  intro hcreate link hlink
  cases hcreate
  rw [newPreset_id h]
  exact hpreset link hlink

/-- A tag that is given twice is found twice. -/
theorem conflicts_of_found {db : Db ν} {tags : List TagDto}
    (hfound : forall tag, tag ∈ tags -> (findTag db.tags tag).isSome = true)
    (h : (request = .create ∧ nameTaken db.presets preset = true) ∨
      ¬ (tags.map TagDto.key).Nodup) :
    Conflicts request preset db (tags.filterMap (findTag db.tags)) := by
  rcases h with hname | hkeys
  · exact .inl hname
  · refine .inr fun hids => hkeys ?_
    rw [found_ids hfound] at hids
    exact List.Nodup.of_map _ hids

theorem staysWithin_of_harmless {body : Body ν} {db : Db ν} (hvalid : Valid db.tags)
    (hpreset : forall link, link ∈ db.links -> link.presetId ≠ ctx.newPresetId)
    (h : Harmless ctx request body db) : StaysWithin ctx request body db := by
  intro db' hvalid' hsame
  rw [respond_eq, respond_eq, ← hsame.presets]
  unfold Harmless at h
  cases hprepared : prepared ctx request body db.presets with
  | error error => exact ⟨refuse_confined _ _ _, refuse_sameFor hsame _ _⟩
  | ok preset =>
      rw [hprepared] at h
      rcases h with ⟨hown, hcase⟩
      have hown' : forall tag, tag ∈ body.tags ->
          (findTag (ownTags ctx.tenantId db'.tags) tag).isSome = true := by
        rw [← hsame.tags]
        exact hown
      have hfound := fun tag hmem => findTag_isSome_of_own (hown tag hmem)
      have hfound' := fun tag hmem => findTag_isSome_of_own (hown' tag hmem)
      simp only [handleTags_found hfound, handleTags_found hfound']
      rcases hcase with hgiven | hfails
      · -- By its id, the same own tag is found in both tables.
        have hthere : forall (some_db : Db ν), Valid some_db.tags ->
            ownTags ctx.tenantId db.tags = ownTags ctx.tenantId some_db.tags ->
            body.tags.filterMap (findTag some_db.tags) =
              body.tags.filterMap (findTag (ownTags ctx.tenantId db.tags)) := by
          intro some_db hsome heq
          refine List.filterMap_congr fun tag hmem => ?_
          rcases Option.isSome_iff_exists.mp (hgiven tag hmem) with ⟨id, hid⟩
          rcases Option.isSome_iff_exists.mp (hown tag hmem) with ⟨existing, hexisting⟩
          rw [hexisting]
          rw [heq] at hexisting
          exact findTag_of_own hsome.ids hid hexisting
        rw [hthere db hvalid rfl, hthere db' hvalid' hsame.tags]
        refine ⟨finish_confined hvalid'.ids ?_ ?_, finish_sameFor hsame⟩
        · rw [← hsame.links]
          exact prepared_links hpreset hprepared
        · intro tag hmem
          rcases List.mem_filterMap.mp hmem with ⟨dto, -, hdto⟩
          rw [← hsame.tags]
          exact mem_of_findTag hdto
      · have hfails' : (request = .create ∧ nameTaken db'.presets preset = true) ∨
            ¬ (body.tags.map TagDto.key).Nodup := by
          rw [← hsame.presets]
          exact hfails
        rw [finish_conflicts (conflicts_of_found hfound hfails),
          finish_conflicts (conflicts_of_found hfound' hfails')]
        exact ⟨refuse_confined _ _ _, refuse_sameFor (conflicted_sameOwn hsame) _ _⟩

end Harmless

/-!
## Tags of a stranger
-/

section Strangers

variable {ctx : Context ν}

/-- Tags of another tenant, one for each of the names. -/
def strangers (tenantId : String) (idOf : String -> String) (names : List String) : List Tag :=
  names.map fun name => ⟨idOf name, tenantId ++ "'", name⟩

/-- The tables of a tenant, after those of a stranger. -/
def among (tenantId : String) (idOf : String -> String) (names : List String) (db : Db ν) : Db ν :=
  { db with tags := strangers tenantId idOf names ++ ownTags tenantId db.tags }

theorem stranger_ne (tenantId : String) : tenantId ++ "'" ≠ tenantId := by
  intro h
  have hlength := congrArg String.length h
  rw [String.length_append] at hlength
  have hone : "'".length = 1 := rfl
  omega

theorem mem_strangers {tenantId : String} {idOf : String -> String} {names : List String}
    {tag : Tag} (h : tag ∈ strangers tenantId idOf names) :
    tag.name ∈ names ∧ tag.id = idOf tag.name ∧ tag.tenantId = tenantId ++ "'" := by
  rcases List.mem_map.mp h with ⟨name, hname, heq⟩
  cases heq
  exact ⟨hname, rfl, rfl⟩

theorem ownTags_strangers (tenantId : String) (idOf : String -> String) (names : List String)
    (tags : List Tag) :
    ownTags tenantId (strangers tenantId idOf names ++ ownTags tenantId tags) =
      ownTags tenantId tags := by
  have hnone : ownTags tenantId (strangers tenantId idOf names) = [] := by
    refine List.eq_nil_iff_forall_not_mem.mpr fun tag hmem => ?_
    rcases mem_ownTags.mp hmem with ⟨hstranger, hown⟩
    exact stranger_ne tenantId ((mem_strangers hstranger).2.2.symm.trans hown)
  unfold ownTags at hnone ⊢
  rw [List.filter_append, hnone, List.nil_append, List.filter_filter]
  simp only [Bool.and_self]

theorem among_sameOwn (tenantId : String) (idOf : String -> String) (names : List String)
    (db : Db ν) : SameOwn tenantId db (among tenantId idOf names db) :=
  ⟨rfl, rfl, (ownTags_strangers tenantId idOf names db.tags).symm⟩

theorem among_valid {tenantId : String} {idOf : String -> String} {names : List String}
    {db : Db ν} (hvalid : Valid db.tags) (hnames : names.Nodup)
    (hidOf : forall name, name ∈ names -> forall other, other ∈ names ->
      idOf name = idOf other -> name = other)
    (hfresh : forall name, name ∈ names -> forall tag, tag ∈ ownTags tenantId db.tags ->
      tag.id ≠ idOf name) : Valid (among tenantId idOf names db).tags := by
  have hown := List.filter_sublist (p := fun tag : Tag => tag.tenantId == tenantId) (l := db.tags)
  constructor
  · unfold among strangers
    rw [List.map_append, List.map_map]
    refine List.Nodup.append (List.Nodup.map_on hidOf hnames) (hvalid.ids.sublist (hown.map _)) ?_
    intro id hstranger htag
    rcases List.mem_map.mp hstranger with ⟨name, hname, heq⟩
    rcases List.mem_map.mp htag with ⟨tag, hmem, hid⟩
    exact hfresh name hname tag hmem (hid.trans heq.symm)
  · unfold among strangers
    rw [List.map_append, List.map_map]
    refine List.Nodup.append ?_ (hvalid.names.sublist (hown.map _)) ?_
    · exact List.Nodup.map_on (fun name _ other _ heq => (Prod.mk.inj heq).2) hnames
    · intro key hstranger htag
      rcases List.mem_map.mp hstranger with ⟨name, hname, heq⟩
      rcases List.mem_map.mp htag with ⟨tag, hmem, hkey⟩
      have htenant := congrArg Prod.fst (heq.trans hkey.symm)
      exact stranger_ne tenantId (htenant.trans (mem_ownTags.mp hmem).2)

/-- No tag has an id that is longer than all that there are. -/
theorem exists_fresh (tags : List Tag) :
    exists fresh : String, forall name tag, tag ∈ tags -> tag.id ≠ fresh ++ name := by
  have hlong : exists fresh : String, forall tag, tag ∈ tags ->
      tag.id.length < fresh.length := by
    induction tags with
    | nil => exact ⟨"", fun _ h => absurd h List.not_mem_nil⟩
    | cons head rest ih =>
        rcases ih with ⟨fresh, hfresh⟩
        refine ⟨fresh ++ head.id ++ "'", fun tag hmem => ?_⟩
        have hone : "'".length = 1 := rfl
        rw [String.length_append, String.length_append]
        rcases List.mem_cons.mp hmem with hhead | hrest
        · rw [hhead]
          omega
        · have hlt := hfresh tag hrest
          omega
  rcases hlong with ⟨fresh, hfresh⟩
  refine ⟨fresh, fun name tag hmem heq => ?_⟩
  have hlt := hfresh tag hmem
  rw [heq, String.length_append] at hlt
  omega

/-- A name is looked up among the tags of the stranger first. -/
theorem findTag_among {idOf : String -> String} {names : List String} {db : Db ν} {tag : TagDto}
    {found : Tag} (hid : tag.givenId = none) (hname : tag.name ∈ names)
    (h : findTag (among ctx.tenantId idOf names db).tags tag = some found) :
    found.tenantId ≠ ctx.tenantId := by
  rw [findTag_named hid] at h
  unfold among at h
  rw [List.find?_append] at h
  cases hstranger : (strangers ctx.tenantId idOf names).find? fun existing =>
      existing.name == tag.name with
  | none =>
      have hmem := List.mem_map_of_mem
        (f := fun name => (⟨idOf name, ctx.tenantId ++ "'", name⟩ : Tag)) hname
      exact absurd (beq_self_eq_true tag.name) (List.find?_eq_none.mp hstranger _ hmem)
  | some existing =>
      rw [hstranger] at h
      cases h
      rw [(mem_strangers (List.mem_of_find?_eq_some hstranger)).2.2]
      exact stranger_ne ctx.tenantId

end Strangers

/-!
## What stays within is harmless
-/

section Necessity

variable {ctx : Context ν} {request : Request} {body : Body ν} {db : Db ν} {preset : Preset ν}

theorem respond_among (hprepared : prepared ctx request body db.presets = .ok preset)
    (idOf : String -> String) (names : List String) :
    respond ctx request body (among ctx.tenantId idOf names db) =
      finish ctx request preset (handleTags ctx (pendingOf request preset) 0
        (among ctx.tenantId idOf names db) body.tags) := by
  rw [respond_eq]
  have heq : prepared ctx request body (among ctx.tenantId idOf names db).presets = .ok preset :=
    hprepared
  rw [heq]

theorem among_none_valid (hvalid : Valid db.tags) :
    Valid (among ctx.tenantId (fun id => id) [] db).tags :=
  among_valid hvalid List.nodup_nil (fun _ h => absurd h List.not_mem_nil)
    fun _ h => absurd h List.not_mem_nil

/-- A stranger who has all the names of a request. -/
theorem exists_stranger (hvalid : Valid db.tags) (body : Body ν) :
    exists idOf, Valid (among ctx.tenantId idOf (body.tags.map TagDto.name).dedup db).tags := by
  rcases exists_fresh (ownTags ctx.tenantId db.tags) with ⟨fresh, hfresh⟩
  refine ⟨fun name => fresh ++ name, among_valid hvalid (List.nodup_dedup _) ?_ ?_⟩
  · intro name _ other _ heq
    exact (String.append_right_inj fresh).mp heq
  · intro name _ tag hmem
    exact hfresh name tag hmem

/-- A stranger whose tags have all the ids of a request that are not of own ones. -/
theorem exists_stranger_with_ids (hvalid : Valid db.tags) (body : Body ν) :
    exists ids, Valid (among ctx.tenantId (fun id => id) ids db).tags ∧
      forall tag, tag ∈ body.tags -> forall id, tag.givenId = some id ->
        exists existing,
          existing ∈ (among ctx.tenantId (fun id => id) ids db).tags ∧ existing.id = id := by
  let ownIds := (ownTags ctx.tenantId db.tags).map Tag.id
  let ids := (body.tags.filterMap TagDto.givenId).filter fun id => !ownIds.contains id
  have hmem : forall id, id ∈ ids.dedup <->
      (exists tag, tag ∈ body.tags ∧ tag.givenId = some id) ∧ id ∉ ownIds := by
    intro id
    rw [List.mem_dedup, List.mem_filter, List.mem_filterMap, Bool.not_eq_true',
      List.contains_eq_mem, decide_eq_false_iff_not]
  refine ⟨ids.dedup, among_valid hvalid (List.nodup_dedup _) (fun _ _ _ _ heq => heq) ?_, ?_⟩
  · intro id hid existing hexisting heq
    exact ((hmem id).mp hid).2 (List.mem_map.mpr ⟨existing, hexisting, heq⟩)
  · intro tag htag id hid
    rcases Classical.em (id ∈ ownIds) with hown | hforeign
    · rcases List.mem_map.mp hown with ⟨existing, hexisting, heq⟩
      exact ⟨existing, List.mem_append_right _ hexisting, heq⟩
    · have hthere := (hmem id).mpr ⟨⟨tag, htag, hid⟩, hforeign⟩
      exact ⟨⟨id, ctx.tenantId ++ "'", id⟩,
        List.mem_append_left _ (List.mem_map.mpr ⟨id, hthere, rfl⟩), rfl⟩

/-- The status tells whether an id that is not of an own tag is one of another tenant. -/
theorem givenIds_own (hvalid : Valid db.tags)
    (hnew : forall tag, tag ∈ body.tags -> forall n, tag.id ≠ some (ctx.newTagId n))
    (hprepared : prepared ctx request body db.presets = .ok preset)
    (h : StaysWithin ctx request body db) :
    forall tag, tag ∈ body.tags -> forall id, tag.givenId = some id ->
      exists existing, existing ∈ ownTags ctx.tenantId db.tags ∧ existing.id = id := by
  intro tag hmem id hid
  refine Classical.byContradiction fun hforeign => ?_
  rcases @exists_stranger_with_ids ν ctx db hvalid body with ⟨ids, hids, hasked⟩
  have hstatus := (h _ (among_none_valid hvalid) (among_sameOwn _ _ _ _)).2.status.symm.trans
    (h _ hids (among_sameOwn _ _ _ _)).2.status
  rw [respond_among hprepared, respond_among hprepared] at hstatus
  rcases @handleTags_ok ν ctx (pendingOf request preset) 0 _ _ hasked with ⟨found, hok⟩
  refine finish_status_of_ok hok (hstatus.symm.trans ?_)
  cases hresult : (handleTags ctx (pendingOf request preset) 0
    (among ctx.tenantId (fun id => id) [] db) body.tags).2 with
  | error detail => exact finish_status_of_error hresult
  | ok found =>
      rcases givenId_of_handleTags_ok hresult tag hmem id hid with hthere | ⟨k, hk⟩
      · exact absurd hthere hforeign
      · have hdto : tag.id = some id := (Option.filter_eq_some_iff.mp hid).1
        rw [hk] at hdto
        exact absurd hdto (hnew tag hmem k)

/-- All tags of a request are there with those of the stranger who has all its names. -/
theorem found_among (idOf : String -> String)
    (hgiven : forall tag, tag ∈ body.tags -> forall id, tag.givenId = some id ->
      exists existing, existing ∈ ownTags ctx.tenantId db.tags ∧ existing.id = id) :
    forall tag, tag ∈ body.tags ->
      (findTag (among ctx.tenantId idOf (body.tags.map TagDto.name).dedup db).tags tag).isSome =
        true := by
  intro tag hmem
  refine findTag_isSome.mpr ?_
  cases hid : tag.givenId with
  | some id =>
      rcases hgiven tag hmem id hid with ⟨existing, hexisting, heq⟩
      exact ⟨existing, List.mem_append_right _ hexisting, heq⟩
  | none =>
      have hname := List.mem_dedup.mpr (List.mem_map_of_mem (f := TagDto.name) hmem)
      exact ⟨⟨idOf tag.name, ctx.tenantId ++ "'", tag.name⟩,
        List.mem_append_left _ (List.mem_map.mpr ⟨tag.name, hname, rfl⟩), rfl⟩

/-- What the tenant is left with tells whether a name that it lacks is one of another tenant. -/
theorem names_own (hvalid : Valid db.tags)
    (hgiven : forall tag, tag ∈ body.tags -> forall id, tag.givenId = some id ->
      exists existing, existing ∈ ownTags ctx.tenantId db.tags ∧ existing.id = id)
    (hprepared : prepared ctx request body db.presets = .ok preset)
    (h : StaysWithin ctx request body db) :
    forall tag, tag ∈ body.tags -> tag.givenId = none ->
      exists existing, existing ∈ ownTags ctx.tenantId db.tags ∧ existing.name = tag.name := by
  intro tag hmem hid
  rcases @exists_stranger ν ctx db hvalid body with ⟨idOf, hstranger⟩
  have htags := (h _ (among_none_valid hvalid) (among_sameOwn _ _ _ _)).2.db.tags.symm.trans
    (h _ hstranger (among_sameOwn _ _ _ _)).2.db.tags
  rw [respond_among hprepared, respond_among hprepared, finish_tags, finish_tags,
    handleTags_found (found_among idOf hgiven)] at htags
  have hthere : forall tag, tag ∈ body.tags -> forall id, tag.givenId = some id ->
      exists existing, existing ∈ (among ctx.tenantId (fun id => id) [] db).tags ∧
        existing.id = id := hgiven
  rcases @handleTags_ok ν ctx (pendingOf request preset) 0 _ _ hthere with ⟨found, hok⟩
  rcases name_of_handleTags_ok hok tag hmem hid with ⟨existing, hexisting, hname⟩
  rcases @handleTags_tags ν ctx (pendingOf request preset) 0
    (among ctx.tenantId (fun id => id) [] db) body.tags with ⟨created, hcreated, htenant⟩
  have hown : existing ∈ ownTags ctx.tenantId (handleTags ctx (pendingOf request preset) 0
      (among ctx.tenantId (fun id => id) [] db) body.tags).1.tags := by
    refine mem_ownTags.mpr ⟨hexisting, ?_⟩
    rw [hcreated] at hexisting
    rcases List.mem_append.mp hexisting with hold | hnew
    · exact (mem_ownTags.mp hold).2
    · exact (htenant existing hnew).1
  rw [htags] at hown
  have hsame := ownTags_strangers ctx.tenantId idOf (body.tags.map TagDto.name).dedup db.tags
  exact ⟨existing, hsame ▸ hown, hname⟩

/-- Different keys find different tags, also next to the stranger. -/
theorem found_among_nodup {idOf : String -> String}
    (hstranger : Valid (among ctx.tenantId idOf (body.tags.map TagDto.name).dedup db).tags)
    (hgiven : forall tag, tag ∈ body.tags -> forall id, tag.givenId = some id ->
      exists existing, existing ∈ ownTags ctx.tenantId db.tags ∧ existing.id = id)
    (hkeys : (body.tags.map TagDto.key).Nodup) :
    ((body.tags.filterMap (findTag
      (among ctx.tenantId idOf (body.tags.map TagDto.name).dedup db).tags)).map Tag.id).Nodup := by
  have hfound := @found_among ν ctx body db idOf hgiven
  rw [found_ids hfound]
  refine List.Nodup.map_on ?_ hkeys
  have hforeign : forall tag, tag ∈ body.tags -> forall found,
      findTag (among ctx.tenantId idOf (body.tags.map TagDto.name).dedup db).tags tag =
        some found -> tag.givenId = none -> found.tenantId ≠ ctx.tenantId := by
    intro tag hmem found heq hid
    have hname := List.mem_dedup.mpr (List.mem_map_of_mem (f := TagDto.name) hmem)
    exact findTag_among hid hname heq
  have hown : forall tag, tag ∈ body.tags -> forall found,
      findTag (among ctx.tenantId idOf (body.tags.map TagDto.name).dedup db).tags tag =
        some found -> forall id, tag.givenId = some id -> found.tenantId = ctx.tenantId := by
    intro tag hmem found heq id hid
    rcases hgiven tag hmem id hid with ⟨existing, hexisting, hkey⟩
    have hsame := List.inj_on_of_nodup_map hstranger.ids (mem_of_findTag heq)
      (List.mem_append_right _ hexisting) ((id_of_findTag hid heq).trans hkey.symm)
    rw [hsame]
    exact (mem_ownTags.mp hexisting).2
  intro key hkey key' hkey' heq
  rcases List.mem_map.mp hkey with ⟨tag, hmem, htag⟩
  rcases List.mem_map.mp hkey' with ⟨tag', hmem', htag'⟩
  rcases Option.isSome_iff_exists.mp (hfound tag hmem) with ⟨found, htagFound⟩
  rcases Option.isSome_iff_exists.mp (hfound tag' hmem') with ⟨found', htagFound'⟩
  rw [← htag, ← htag', idOfKey_key htagFound, idOfKey_key htagFound'] at heq
  have hsame := List.inj_on_of_nodup_map hstranger.ids (mem_of_findTag htagFound)
    (mem_of_findTag htagFound') heq
  rw [← htag, ← htag']
  unfold TagDto.key
  cases hid : tag.givenId with
  | some id =>
      cases hid' : tag'.givenId with
      | some id' =>
          rw [← id_of_findTag hid htagFound, ← id_of_findTag hid' htagFound', hsame]
      | none =>
          have htenant := hown tag hmem found htagFound id hid
          rw [hsame] at htenant
          exact absurd htenant (hforeign tag' hmem' found' htagFound' hid')
  | none =>
      cases hid' : tag'.givenId with
      | some id' =>
          have htenant := hown tag' hmem' found' htagFound' id' hid'
          rw [← hsame] at htenant
          exact absurd htenant (hforeign tag hmem found htagFound hid)
      | none =>
          rw [← name_of_findTag hid htagFound, ← name_of_findTag hid' htagFound', hsame]

/-- A name that is looked up leads to a tag of the stranger, unless the request fails. -/
theorem byId_or_fails (hvalid : Valid db.tags)
    (hgiven : forall tag, tag ∈ body.tags -> forall id, tag.givenId = some id ->
      exists existing, existing ∈ ownTags ctx.tenantId db.tags ∧ existing.id = id)
    (hprepared : prepared ctx request body db.presets = .ok preset)
    (h : StaysWithin ctx request body db) :
    (forall tag, tag ∈ body.tags -> tag.givenId.isSome = true) ∨
      (request = .create ∧ nameTaken db.presets preset = true) ∨
      ¬ (body.tags.map TagDto.key).Nodup := by
  refine Classical.byContradiction fun hnone => ?_
  rcases not_or.mp hnone with ⟨hnamed, hfails⟩
  rcases not_or.mp hfails with ⟨hname, hkeys⟩
  rcases @exists_stranger ν ctx db hvalid body with ⟨idOf, hstranger⟩
  have hconfined := (h _ hstranger (among_sameOwn _ _ _ _)).1.linked
  have hfound := @found_among ν ctx body db idOf hgiven
  have hids := found_among_nodup hstranger hgiven (not_not.mp hkeys)
  have hsucceeds : ¬ Conflicts request preset
      (among ctx.tenantId idOf (body.tags.map TagDto.name).dedup db)
      (body.tags.filterMap (findTag
        (among ctx.tenantId idOf (body.tags.map TagDto.name).dedup db).tags)) :=
    not_or.mpr ⟨hname, not_not.mpr hids⟩
  rw [respond_among hprepared, handleTags_found hfound, finish_succeeds hsucceeds] at hconfined
  refine hnamed fun tag hmem => ?_
  cases hid : tag.givenId with
  | some id => rfl
  | none =>
      rcases Option.isSome_iff_exists.mp (hfound tag hmem) with ⟨found, htagFound⟩
      have hlisted := List.mem_dedup.mpr (List.mem_map_of_mem (f := TagDto.name) hmem)
      have hlinked := hconfined found (List.mem_filterMap.mpr ⟨tag, hmem, htagFound⟩)
      exact absurd hlinked (findTag_among hid hlisted htagFound)

theorem harmless_of_staysWithin (hvalid : Valid db.tags)
    (hnew : forall tag, tag ∈ body.tags -> forall n, tag.id ≠ some (ctx.newTagId n))
    (h : StaysWithin ctx request body db) : Harmless ctx request body db := by
  unfold Harmless
  cases hprepared : prepared ctx request body db.presets with
  | error error => trivial
  | ok preset =>
      have hgiven := givenIds_own hvalid hnew hprepared h
      have hnames := names_own hvalid hgiven hprepared h
      refine ⟨fun tag hmem => ?_, byId_or_fails hvalid hgiven hprepared h⟩
      refine findTag_isSome.mpr ?_
      cases hid : tag.givenId with
      | some id => exact hgiven tag hmem id hid
      | none => exact hnames tag hmem hid

end Necessity

/-!
## The condition
-/

/-- A request stays within its tenant exactly where it is harmless. -/
theorem staysWithin_iff {ctx : Context ν} {request : Request} {body : Body ν} {db : Db ν}
    (hvalid : Valid db.tags)
    (hnewTag : forall tag, tag ∈ body.tags -> forall n, tag.id ≠ some (ctx.newTagId n))
    (hnewPreset : forall link, link ∈ db.links -> link.presetId ≠ ctx.newPresetId) :
    StaysWithin ctx request body db <-> Harmless ctx request body db :=
  ⟨harmless_of_staysWithin hvalid hnewTag, staysWithin_of_harmless hvalid hnewPreset⟩

section Runs

def caller : Context Unit where
  tenantId := "ours"
  email := "user@ours"
  newPresetId := 1
  newTagId := fun n => String.ofList (List.replicate (n + 1) 'n')
  celError := fun _ => none

def askedFor (tag : TagDto) : Body Unit where
  name := some "Errors"
  options := [⟨"CEL", ()⟩]
  isPrivate := false
  isNoisy := false
  tags := [tag]
  counterShowsFiringOnly := true

def tagged (tags : List Tag) : Db Unit where
  tags := tags
  presets := []
  links := []

/-- A tag that the tenant has itself comes by its id. -/
theorem ownId_staysWithin :
    StaysWithin caller .create (askedFor ⟨some "t", "prod"⟩) (tagged [⟨"t", "ours", "prod"⟩]) := by
  refine (staysWithin_iff ?_ ?_ ?_).mpr ?_
  · exact ⟨by decide, by decide⟩
  · intro tag hmem n heq
    cases List.mem_singleton.mp hmem
    have hchars := String.ofList_injective (Option.some.inj heq)
    cases hchars
  · exact fun _ h => absurd h List.not_mem_nil
  · refine ⟨?_, .inl ?_⟩
    · intro tag hmem
      cases List.mem_singleton.mp hmem
      decide
    · intro tag hmem
      cases List.mem_singleton.mp hmem
      decide

/-- A tag that is asked for by its name is the tag of another tenant who has that name. -/
theorem foreignName_not_staysWithin :
    Valid (tagged []).tags ∧
      ¬ StaysWithin caller .create (askedFor ⟨none, "prod"⟩) (tagged []) := by
  refine ⟨⟨List.nodup_nil, List.nodup_nil⟩, fun h => ?_⟩
  have hother : Valid (tagged [⟨"t", "theirs", "prod"⟩]).tags := ⟨by decide, by decide⟩
  have hlinked := (h _ hother ⟨rfl, rfl, by decide⟩).1.linked ⟨"t", "theirs", "prod"⟩ (by decide)
  exact absurd hlinked (by decide)

end Runs

end Presets
end KeepGateway
