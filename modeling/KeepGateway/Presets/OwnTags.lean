import KeepGateway.Lib.Except
import KeepGateway.Presets.PresetTags
import Mathlib.Data.List.Dedup

/-!
# Tags of other tenants

Whether a request stays within the tags of its tenant, and does not tell which tags others have.
-/

namespace KeepGateway
namespace Presets

variable {ν : Type}

inductive Request where
  | create
  | update (presetId : Nat)
  deriving DecidableEq, Repr

def respond (ctx : Context ν) (request : Request) (body : Body ν) (db : Db ν) : Outcome ν :=
  match request with
  | .create => createPreset ctx body db
  | .update presetId => updatePreset ctx presetId body db

/-!
## What others have
-/

def ownTags (tenantId : String) (tags : List Tag) : List Tag :=
  tags.filter fun tag => tag.tenantId == tenantId

/-- Ids are unique, and names for each tenant. -/
structure Valid (tags : List Tag) : Prop where
  ids : (tags.map Tag.id).Nodup
  names : (tags.map fun tag => (tag.tenantId, tag.name)).Nodup

/-- The same but for tags of other tenants. -/
structure SameOwn (tenantId : String) (db db' : Db ν) : Prop where
  presets : db.presets = db'.presets
  links : db.links = db'.links
  tags : ownTags tenantId db.tags = ownTags tenantId db'.tags

structure SameFor (tenantId : String) (o o' : Outcome ν) : Prop where
  status : o.status = o'.status
  linkedNames : o.linked.map Tag.name = o'.linked.map Tag.name
  db : SameOwn tenantId o.db o'.db

/-- What is linked and returned is of the tenant. -/
structure Confined (tenantId : String) (o : Outcome ν) : Prop where
  linked : forall tag, tag ∈ o.linked -> tag.tenantId = tenantId
  returned : forall tag, tag ∈ o.returned -> tag.tenantId = tenantId

/-- Whatever tags other tenants have, the request stays within its own and comes to the same. -/
def StaysWithin (ctx : Context ν) (request : Request) (body : Body ν) (db : Db ν) : Prop :=
  forall db', Valid db'.tags -> SameOwn ctx.tenantId db db' ->
    Confined ctx.tenantId (respond ctx request body db') ∧
      SameFor ctx.tenantId (respond ctx request body db) (respond ctx request body db')

/-- What is done before the tags are looked at. -/
def prepared (ctx : Context ν) (request : Request) (body : Body ν) (presets : List (Preset ν)) :
    Except (Nat × String) (Preset ν) :=
  match request with
  | .create => newPreset ctx body
  | .update presetId => updatedPreset ctx presets presetId body

/-- What a tag is looked up by. -/
def TagDto.key (tag : TagDto) : String ⊕ String :=
  match tag.givenId with
  | some id => .inl id
  | none => .inr tag.name

/-- The request is refused before its tags are looked at; or all its tags are there for the
tenant, and they come by id, or the request fails in any case, for the name of the preset or for
a tag that is given twice. -/
def Harmless (ctx : Context ν) (request : Request) (body : Body ν) (db : Db ν) : Prop :=
  match prepared ctx request body db.presets with
  | .error _ => True
  | .ok preset =>
      (forall tag, tag ∈ body.tags ->
        (findTag (ownTags ctx.tenantId db.tags) tag).isSome = true) ∧
      ((forall tag, tag ∈ body.tags -> tag.givenId.isSome = true) ∨
        (request = .create ∧ nameTaken db.presets preset = true) ∨
        ¬ (body.tags.map TagDto.key).Nodup)

/-!
## The stages of a request
-/

def pendingOf (request : Request) (preset : Preset ν) : List (Preset ν) -> List (Preset ν) :=
  match request with
  | .create => id
  | .update _ => replacePreset preset

/-- What follows the loop over the tags. -/
def finish (ctx : Context ν) (request : Request) (preset : Preset ν)
    (looked : Db ν × Except String (List Tag)) : Outcome ν :=
  match looked with
  | (db, .error detail) => refuse db 400 detail
  | (db, .ok tags) =>
      match request with
      | .create =>
          if nameTaken db.presets preset then refuse db 500 "IntegrityError"
          else
            let db := { db with presets := db.presets ++ [preset] }
            match linkTags ctx preset.id db tags with
            | none => refuse db 500 "IntegrityError"
            | some db =>
                { db := db, status := 200, detail := "", linked := tags
                  returned := presetTags db preset.id }
      | .update _ =>
          let cleared := {
            db with
            presets := replacePreset preset db.presets
            links := db.links.filter fun link => link.presetId != preset.id }
          match linkTags ctx preset.id cleared tags with
          | none => refuse db 500 "IntegrityError"
          | some db =>
              { db := db, status := 200, detail := "", linked := tags
                returned := presetTags db preset.id }

theorem respond_eq (ctx : Context ν) (request : Request) (body : Body ν) (db : Db ν) :
    respond ctx request body db =
      match prepared ctx request body db.presets with
      | .error (status, detail) => refuse db status detail
      | .ok preset =>
          finish ctx request preset
            (handleTags ctx (pendingOf request preset) 0 db body.tags) := by
  cases request with
  | create =>
      unfold respond createPreset prepared finish pendingOf
      split
      · rfl
      · rfl
  | update presetId =>
      unfold respond updatePreset prepared finish pendingOf
      split
      · rfl
      · rfl

/-!
## The lookup of one tag
-/

theorem findTag_given {tag : TagDto} {id : String} (h : tag.givenId = some id) (tags : List Tag) :
    findTag tags tag = tags.find? fun existing => existing.id == id := by
  unfold findTag
  rw [h]

theorem findTag_named {tag : TagDto} (h : tag.givenId = none) (tags : List Tag) :
    findTag tags tag = tags.find? fun existing => existing.name == tag.name := by
  unfold findTag
  rw [h]

theorem mem_of_findTag {tags : List Tag} {tag : TagDto} {existing : Tag}
    (h : findTag tags tag = some existing) : existing ∈ tags := by
  unfold findTag at h
  split at h
  · exact List.mem_of_find?_eq_some h
  · exact List.mem_of_find?_eq_some h

theorem id_of_findTag {tags : List Tag} {tag : TagDto} {existing : Tag} {id : String}
    (hid : tag.givenId = some id) (h : findTag tags tag = some existing) : existing.id = id := by
  rw [findTag_given hid] at h
  have hkey := List.find?_some h
  exact beq_iff_eq.mp hkey

theorem name_of_findTag {tags : List Tag} {tag : TagDto} {existing : Tag}
    (hid : tag.givenId = none) (h : findTag tags tag = some existing) :
    existing.name = tag.name := by
  rw [findTag_named hid] at h
  have hkey := List.find?_some h
  exact beq_iff_eq.mp hkey

/-- A tag is found where its id, or its name if it has no id, is one of the table. -/
theorem findTag_isSome {tags : List Tag} {tag : TagDto} :
    (findTag tags tag).isSome = true <->
      exists existing, existing ∈ tags ∧
        match tag.givenId with
        | some id => existing.id = id
        | none => existing.name = tag.name := by
  cases hid : tag.givenId with
  | some id =>
      rw [findTag_given hid, List.find?_isSome]
      simp only [beq_iff_eq]
  | none =>
      rw [findTag_named hid, List.find?_isSome]
      simp only [beq_iff_eq]

/-!
## The loop
-/

section Loop

variable {ctx : Context ν} {pending : List (Preset ν) -> List (Preset ν)}

/-- Where all tags are found, nothing is written. -/
theorem handleTags_found {db : Db ν} {tags : List TagDto}
    (h : forall tag, tag ∈ tags -> (findTag db.tags tag).isSome = true) (n : Nat) :
    handleTags ctx pending n db tags = (db, .ok (tags.filterMap (findTag db.tags))) := by
  induction tags with
  | nil => rfl
  | cons tag rest ih =>
      rcases Option.isSome_iff_exists.mp (h tag List.mem_cons_self) with ⟨existing, hfound⟩
      unfold handleTags
      rw [hfound, ih fun other hother => h other (List.mem_cons_of_mem _ hother),
        List.filterMap_cons_some hfound]
      rfl

/-- What the loop adds are new tags of the tenant. -/
theorem handleTags_tags {n : Nat} {db : Db ν} {tags : List TagDto} :
    exists created, (handleTags ctx pending n db tags).1.tags = db.tags ++ created ∧
      forall tag, tag ∈ created ->
        tag.tenantId = ctx.tenantId ∧ exists k, tag.id = ctx.newTagId k := by
  induction tags generalizing n db with
  | nil => exact ⟨[], (List.append_nil _).symm, fun _ h => absurd h List.not_mem_nil⟩
  | cons tag rest ih =>
      unfold handleTags
      split
      · exact ih
      · rcases @ih (n + 1) { db with
          tags := db.tags ++ [⟨ctx.newTagId n, ctx.tenantId, tag.name⟩]
          presets := pending db.presets } with ⟨created, heq, hcreated⟩
        refine ⟨⟨ctx.newTagId n, ctx.tenantId, tag.name⟩ :: created, ?_, ?_⟩
        · show (handleTags ctx pending (n + 1) _ rest).1.tags = _
          rw [heq, List.append_assoc]
          rfl
        · intro other hother
          rcases List.mem_cons.mp hother with hnew | hrest
          · rw [hnew]
            exact ⟨rfl, n, rfl⟩
          · exact hcreated other hrest
      · exact ⟨[], (List.append_nil _).symm, fun _ h => absurd h List.not_mem_nil⟩

/-- The loop ends when every id that is given is one of a tag. -/
theorem handleTags_ok {n : Nat} {db : Db ν} {tags : List TagDto}
    (h : forall tag, tag ∈ tags -> forall id, tag.givenId = some id ->
      exists existing, existing ∈ db.tags ∧ existing.id = id) :
    exists found, (handleTags ctx pending n db tags).2 = .ok found := by
  induction tags generalizing n db with
  | nil => exact ⟨[], rfl⟩
  | cons tag rest ih =>
      have hrest := fun other hother => h other (List.mem_cons_of_mem tag hother)
      unfold handleTags
      split
      · rename_i existing hfound
        rcases @ih n db hrest with ⟨found, hok⟩
        exact ⟨existing :: found, congrArg (Except.map _) hok⟩
      · rename_i hfound hname
        have hgrown := @ih (n + 1) { db with
          tags := db.tags ++ [⟨ctx.newTagId n, ctx.tenantId, tag.name⟩]
          presets := pending db.presets } fun other hother id hid => by
            rcases hrest other hother id hid with ⟨existing, hmem, heq⟩
            exact ⟨existing, List.mem_append_left _ hmem, heq⟩
        rcases hgrown with ⟨found, hok⟩
        exact ⟨_ :: found, congrArg (Except.map _) hok⟩
      · rename_i id hfound hid
        rcases h tag List.mem_cons_self id hid with ⟨existing, hmem, heq⟩
        rw [findTag_given hid] at hfound
        have hnone := List.find?_eq_none.mp hfound existing hmem
        exact absurd (beq_iff_eq.mpr heq) hnone

/-- Where the loop ends, every id that is given was one of a tag, or has become one. -/
theorem givenId_of_handleTags_ok {n : Nat} {db : Db ν} {tags : List TagDto} {found : List Tag}
    (h : (handleTags ctx pending n db tags).2 = .ok found) :
    forall tag, tag ∈ tags -> forall id, tag.givenId = some id ->
      (exists existing, existing ∈ db.tags ∧ existing.id = id) ∨
        exists k, id = ctx.newTagId k := by
  induction tags generalizing n db found with
  | nil => exact fun _ hmem => absurd hmem List.not_mem_nil
  | cons head rest ih =>
      intro tag hmem id hid
      unfold handleTags at h
      split at h
      · rename_i existing hfound
        rcases map_eq_ok.mp h with ⟨found', hok, -⟩
        rcases List.mem_cons.mp hmem with hhead | hrest
        · rw [← hhead] at hfound
          exact .inl ⟨existing, mem_of_findTag hfound, id_of_findTag hid hfound⟩
        · exact ih hok tag hrest id hid
      · rename_i hfound hname
        rcases map_eq_ok.mp h with ⟨found', hok, -⟩
        rcases List.mem_cons.mp hmem with hhead | hrest
        · rw [hhead, hname] at hid
          cases hid
        · rcases ih hok tag hrest id hid with ⟨existing, hexisting, heq⟩ | hnew
          · rcases List.mem_append.mp hexisting with hold | hcreated
            · exact .inl ⟨existing, hold, heq⟩
            · rw [List.mem_singleton.mp hcreated] at heq
              exact .inr ⟨n, heq.symm⟩
          · exact .inr hnew
      · cases h

/-- Where the loop ends, every name that comes without an id is one of a tag. -/
theorem name_of_handleTags_ok {n : Nat} {db : Db ν} {tags : List TagDto} {found : List Tag}
    (h : (handleTags ctx pending n db tags).2 = .ok found) :
    forall tag, tag ∈ tags -> tag.givenId = none ->
      exists existing, existing ∈ (handleTags ctx pending n db tags).1.tags ∧
        existing.name = tag.name := by
  induction tags generalizing n db found with
  | nil => exact fun _ hmem => absurd hmem List.not_mem_nil
  | cons head rest ih =>
      intro tag hmem hnone
      unfold handleTags at h ⊢
      split at h
      · rename_i existing hfound
        rcases map_eq_ok.mp h with ⟨found', hok, -⟩
        rcases List.mem_cons.mp hmem with hhead | hrest
        · rw [← hhead] at hfound
          rcases @handleTags_tags ν ctx pending n db rest with ⟨created, heq, -⟩
          have hold : existing ∈ (handleTags ctx pending n db rest).1.tags := by
            rw [heq]
            exact List.mem_append_left _ (mem_of_findTag hfound)
          exact ⟨existing, hold, name_of_findTag hnone hfound⟩
        · exact ih hok tag hrest hnone
      · rename_i hfound hname
        rcases map_eq_ok.mp h with ⟨found', hok, -⟩
        rcases List.mem_cons.mp hmem with hhead | hrest
        · let newTag : Tag := ⟨ctx.newTagId n, ctx.tenantId, head.name⟩
          let grown : Db ν := { db with
            tags := db.tags ++ [newTag], presets := pending db.presets }
          rcases @handleTags_tags ν ctx pending (n + 1) grown rest with ⟨created, heq, -⟩
          have hnew : newTag ∈ (handleTags ctx pending (n + 1) grown rest).1.tags := by
            rw [heq]
            exact List.mem_append_left _ (List.mem_append_right _ List.mem_cons_self)
          exact ⟨newTag, hnew, congrArg TagDto.name hhead.symm⟩
        · exact ih hok tag hrest hnone
      · cases h

end Loop

end Presets
end KeepGateway
