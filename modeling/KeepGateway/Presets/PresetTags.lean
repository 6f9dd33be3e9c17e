import Mathlib.Data.List.Nodup

/-!
# Presets and their tags

`create_preset` and `update_preset`.  A tag of the request is looked up by its name where it
has no id, and created where there is none; the commit of a new tag also commits what is
pending in the session.  `ν` is the type of the values of options.
-/

namespace KeepGateway
namespace Presets

variable {ν : Type}

structure Tag where
  id : String
  tenantId : String
  name : String
  deriving DecidableEq, Repr

structure TagDto where
  id : Option String
  name : String
  deriving DecidableEq, Repr

/-- The id of a tag that is not new: `if not tag.id` -/
def TagDto.givenId (tag : TagDto) : Option String :=
  tag.id.filter fun id => id != ""

structure PresetOption (ν : Type) where
  label : String
  value : ν

structure Preset (ν : Type) where
  id : Nat
  tenantId : String
  createdBy : String
  name : String
  options : List (PresetOption ν)
  isPrivate : Bool
  isNoisy : Bool
  counterShowsFiringOnly : Bool

structure PresetTagLink where
  tenantId : String
  presetId : Nat
  tagId : String
  deriving DecidableEq, Repr

/-- `CreateOrUpdatePresetDto` -/
structure Body (ν : Type) where
  name : Option String
  options : List (PresetOption ν)
  isPrivate : Bool
  isNoisy : Bool
  tags : List TagDto
  counterShowsFiringOnly : Bool

structure Db (ν : Type) where
  tags : List Tag
  presets : List (Preset ν)
  links : List PresetTagLink

/-- The caller, the ids that `uuid4` gives, and the answer for a CEL option that is no filter. -/
structure Context (ν : Type) where
  tenantId : String
  email : String
  newPresetId : Nat
  newTagId : Nat -> String
  celError : ν -> Option (Nat × String)

/-- What a request leaves and answers; `linked` are the tags that it linked. -/
structure Outcome (ν : Type) where
  db : Db ν
  status : Nat
  detail : String
  linked : List Tag
  returned : List Tag

def refuse (db : Db ν) (status : Nat) (detail : String) : Outcome ν :=
  { db := db, status := status, detail := detail, linked := [], returned := [] }

/-- The tags of a preset, over its links. -/
def presetTags (db : Db ν) (presetId : Nat) : List Tag :=
  db.links.filterMap fun link =>
    if link.presetId = presetId then db.tags.find? fun tag => tag.id == link.tagId else none

section Requests

variable (ctx : Context ν)

/-- `_validate_preset_cel_options` -/
def validatePresetCelOptions (options : List (PresetOption ν)) : Except (Nat × String) Unit :=
  match options.findSome? fun option =>
      if option.label = "CEL" then ctx.celError option.value else none with
  | some error => .error error
  | none => .ok ()

def findTag (tags : List Tag) (tag : TagDto) : Option Tag :=
  match tag.givenId with
  | none => tags.find? fun existing => existing.name == tag.name
  | some id => tags.find? fun existing => existing.id == id

/-- The loop over the tags; `pending` is what the session has to write to the presets, and `n`
counts the new tags. -/
def handleTags (pending : List (Preset ν) -> List (Preset ν)) :
    Nat -> Db ν -> List TagDto -> Db ν × Except String (List Tag)
  | _, db, [] => (db, .ok [])
  | n, db, tag :: rest =>
      match findTag db.tags tag, tag.givenId with
      | some existing, _ =>
          let (db, tags) := handleTags pending n db rest
          (db, tags.map (existing :: ·))
      | none, none =>
          let newTag : Tag := { id := ctx.newTagId n, tenantId := ctx.tenantId, name := tag.name }
          let db := { db with tags := db.tags ++ [newTag], presets := pending db.presets }
          let (db, tags) := handleTags pending (n + 1) db rest
          (db, tags.map (newTag :: ·))
      | none, some id => (db, .error ("Tag with id " ++ id ++ " does not exist"))

/-- The links are written, unless two of them have one key. -/
def linkTags (presetId : Nat) (db : Db ν) (tags : List Tag) : Option (Db ν) :=
  if (tags.map Tag.id).Nodup then
    some { db with
      links := db.links ++ tags.map fun tag => ⟨ctx.tenantId, presetId, tag.id⟩ }
  else none

/-!
## Creating
-/

def isReserved (name : String) : Prop := name = "Feed" ∨ name = "Deleted"

instance (name : String) : Decidable (isReserved name) :=
  inferInstanceAs (Decidable (name = "Feed" ∨ name = "Deleted"))

/-- The new preset, before its tags are looked at. -/
def newPreset (body : Body ν) : Except (Nat × String) (Preset ν) := do
  let name := body.name.getD ""
  if body.options.isEmpty = true ∨ name = "" then
    throw (400, "Options and name are required")
  validatePresetCelOptions ctx body.options
  if isReserved name then throw (400, "Cannot create preset with this name")
  return {
    id := ctx.newPresetId
    tenantId := ctx.tenantId
    createdBy := ctx.email
    name := name
    options := body.options
    isPrivate := body.isPrivate
    isNoisy := body.isNoisy
    counterShowsFiringOnly := body.counterShowsFiringOnly }

/-- `UniqueConstraint("tenant_id", "name")` -/
def nameTaken (presets : List (Preset ν)) (preset : Preset ν) : Bool :=
  presets.any fun other =>
    other.id != preset.id && other.tenantId == preset.tenantId && other.name == preset.name

def createPreset (body : Body ν) (db : Db ν) : Outcome ν :=
  match newPreset ctx body with
  | .error (status, detail) => refuse db status detail
  | .ok preset =>
      match handleTags ctx id 0 db body.tags with
      | (db, .error detail) => refuse db 400 detail
      | (db, .ok tags) =>
          if nameTaken db.presets preset then refuse db 500 "IntegrityError"
          else
            let db := { db with presets := db.presets ++ [preset] }
            match linkTags ctx preset.id db tags with
            | none => refuse db 500 "IntegrityError"
            | some db =>
                { db := db, status := 200, detail := "", linked := tags
                  returned := presetTags db preset.id }

/-!
## Updating
-/

/-- The preset with what the body gives for it, before its tags are looked at. -/
def updatedPreset (presets : List (Preset ν)) (presetId : Nat) (body : Body ν) :
    Except (Nat × String) (Preset ν) := do
  match presets.find? fun preset =>
      preset.tenantId == ctx.tenantId && preset.id == presetId with
  | none => throw (404, "Preset not found")
  | some preset =>
      let name := body.name.getD ""
      if name ≠ "" ∧ isReserved name then throw (400, "Cannot create preset with this name")
      if body.options.isEmpty then throw (400, "Options cannot be empty")
      validatePresetCelOptions ctx body.options
      let kept := preset.options.filter fun option =>
        !(body.options.map PresetOption.label).contains option.label
      let updated := {
        preset with
        name := if name = "" then preset.name else name
        isPrivate := body.isPrivate
        isNoisy := body.isNoisy
        counterShowsFiringOnly := body.counterShowsFiringOnly
        options := body.options ++ kept }
      -- The change of the name is flushed before the first query for a tag.
      if nameTaken presets updated then throw (500, "IntegrityError")
      return updated

def replacePreset (updated : Preset ν) (presets : List (Preset ν)) : List (Preset ν) :=
  presets.map fun preset => if preset.id = updated.id then updated else preset

def updatePreset (presetId : Nat) (body : Body ν) (db : Db ν) : Outcome ν :=
  match updatedPreset ctx db.presets presetId body with
  | .error (status, detail) => refuse db status detail
  | .ok preset =>
      match handleTags ctx (replacePreset preset) 0 db body.tags with
      | (db, .error detail) => refuse db 400 detail
      | (db, .ok tags) =>
          let cleared := {
            db with
            presets := replacePreset preset db.presets
            links := db.links.filter fun link => link.presetId != preset.id }
          match linkTags ctx preset.id cleared tags with
          | none => refuse db 500 "IntegrityError"
          | some db =>
              { db := db, status := 200, detail := "", linked := tags
                returned := presetTags db preset.id }

end Requests

end Presets
end KeepGateway
