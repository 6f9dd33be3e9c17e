import KeepGateway.Presets.TagIsolation

/-!
# Rejected preset requests

Whether a request that is answered with an error leaves presets, tags and links as they were.
-/

namespace KeepGateway
namespace Presets

variable {ν : Type}

/-- The handler raises `HTTPException`; a flush that fails raises something else. -/
def Outcome.IsRejected (o : Outcome ν) : Prop :=
  o.status ≠ 200 ∧ ¬ (o.status = 500 ∧ o.detail = "IntegrityError")

/-- A request that is rejected changes nothing. -/
def ChangesNothing (ctx : Context ν) (request : Request) (body : Body ν) (db : Db ν) : Prop :=
  (respond ctx request body db).IsRejected -> (respond ctx request body db).db = db

/-- A tag is asked for that the request creates, as the first that is not there, and later one
with an id that no tag has. -/
def NewBeforeUnknown (tags : List Tag) (asked : List TagDto) : Prop :=
  exists found new rest unknown, asked = found ++ new :: rest ∧
    (forall tag, tag ∈ found -> (findTag tags tag).isSome = true) ∧
    new.givenId = none ∧ findTag tags new = none ∧
    unknown ∈ rest ∧ unknown.givenId.isSome = true ∧ findTag tags unknown = none

/-- The request is refused before its tags are looked at, or creates no tag before one with an id
that no tag has. -/
def KeepsOrder (ctx : Context ν) (request : Request) (body : Body ν) (db : Db ν) : Prop :=
  match prepared ctx request body db.presets with
  | .error _ => True
  | .ok _ => ¬ NewBeforeUnknown db.tags body.tags

section Loop

variable {ctx : Context ν} {pending : List (Preset ν) -> List (Preset ν)}

theorem handleTags_existing {n : Nat} {db : Db ν} {tag : TagDto} {existing : Tag}
    (h : findTag db.tags tag = some existing) (rest : List TagDto) :
    handleTags ctx pending n db (tag :: rest) =
      ((handleTags ctx pending n db rest).1,
        (handleTags ctx pending n db rest).2.map (existing :: ·)) := by
  rw [handleTags, h]

theorem handleTags_unknown {n : Nat} {db : Db ν} {tag : TagDto} {id : String}
    (h : findTag db.tags tag = none) (hid : tag.givenId = some id) (rest : List TagDto) :
    handleTags ctx pending n db (tag :: rest) =
      (db, .error ("Tag with id " ++ id ++ " does not exist")) := by
  rw [handleTags, h, hid]

/-- A new tag is there to stay. -/
theorem handleTags_new {n : Nat} {db : Db ν} {tag : TagDto} (h : findTag db.tags tag = none)
    (hid : tag.givenId = none) (rest : List TagDto) :
    (handleTags ctx pending n db (tag :: rest)).1 ≠ db := by
  intro heq
  have htags := congrArg (fun after => after.tags.length) heq
  rw [handleTags, h, hid] at htags
  rcases @handleTags_tags ν ctx pending (n + 1) { db with
    tags := db.tags ++ [⟨ctx.newTagId n, ctx.tenantId, tag.name⟩]
    presets := pending db.presets } rest with ⟨created, hcreated, _⟩
  have hlength := congrArg List.length hcreated
  simp only [List.length_append, List.length_singleton] at htags hlength
  omega

/-- The loop ends in an error where an id is given that no tag has. -/
theorem handleTags_error {n : Nat} {db : Db ν} {asked : List TagDto}
    (hnew : forall tag, tag ∈ asked -> forall k, tag.id ≠ some (ctx.newTagId k)) :
    (exists detail, (handleTags ctx pending n db asked).2 = .error detail) <->
      exists tag, tag ∈ asked ∧ tag.givenId.isSome = true ∧ findTag db.tags tag = none := by
  have hunknown : forall {tag : TagDto} {id : String}, tag.givenId = some id ->
      (findTag db.tags tag = none <->
        ¬ exists existing, existing ∈ db.tags ∧ existing.id = id) := by
    intro tag id hid
    rw [← Option.not_isSome_iff_eq_none, findTag_isSome, hid]
  constructor
  · rintro ⟨detail, herror⟩
    refine Classical.byContradiction fun hnone => ?_
    have hgiven : forall tag, tag ∈ asked -> forall id, tag.givenId = some id ->
        exists existing, existing ∈ db.tags ∧ existing.id = id := by
      intro tag hmem id hid
      refine Classical.byContradiction fun habsent => hnone ⟨tag, hmem, ?_, ?_⟩
      · rw [hid]
        rfl
      · exact (hunknown hid).mpr habsent
    rcases @handleTags_ok ν ctx pending n db asked hgiven with ⟨found, hok⟩
    rw [herror] at hok
    cases hok
  · rintro ⟨tag, hmem, hgiven, habsent⟩
    rcases Option.isSome_iff_exists.mp hgiven with ⟨id, hid⟩
    cases hlooked : (handleTags ctx pending n db asked).2 with
    | error detail => exact ⟨detail, rfl⟩
    | ok found =>
        rcases givenId_of_handleTags_ok hlooked tag hmem id hid with hold | ⟨k, hk⟩
        · exact absurd hold ((hunknown hid).mp habsent)
        · rw [hk] at hid
          exact absurd (Option.filter_eq_some_iff.mp hid).1 (hnew tag hmem k)

/-- A tag that is found does not matter. -/
theorem newBeforeUnknown_found {tags : List Tag} {tag : TagDto} {rest : List TagDto}
    (h : (findTag tags tag).isSome = true) :
    NewBeforeUnknown tags (tag :: rest) <-> NewBeforeUnknown tags rest := by
  constructor
  · rintro ⟨found, new, rest', unknown, heq, hfound, hnamed, hnone, hunknown⟩
    cases found with
    | nil =>
        cases heq
        rw [hnone] at h
        cases h
    | cons first found =>
        cases heq
        rcases List.forall_mem_cons.mp hfound with ⟨_, hrest⟩
        exact ⟨found, new, rest', unknown, rfl, hrest, hnamed, hnone, hunknown⟩
  · rintro ⟨found, new, rest', unknown, heq, hfound, hnamed, hnone, hunknown⟩
    refine ⟨tag :: found, new, rest', unknown, ?_, ?_, hnamed, hnone, hunknown⟩
    · rw [heq]
      rfl
    · exact List.forall_mem_cons.mpr ⟨h, hfound⟩

theorem NewBeforeUnknown.exists_unknown {tags : List Tag} {asked : List TagDto}
    (h : NewBeforeUnknown tags asked) :
    exists unknown, unknown ∈ asked ∧ unknown.givenId.isSome = true ∧
      findTag tags unknown = none := by
  rcases h with ⟨found, new, rest, unknown, heq, _, _, _, hmem, hgiven, hnone⟩
  refine ⟨unknown, ?_, hgiven, hnone⟩
  rw [heq]
  exact List.mem_append_right found (List.mem_cons_of_mem new hmem)

/-- A request that comes to an unknown id first creates nothing. -/
theorem not_newBeforeUnknown {tags : List Tag} {tag : TagDto} {rest : List TagDto} {id : String}
    (hid : tag.givenId = some id) (h : findTag tags tag = none) :
    ¬ NewBeforeUnknown tags (tag :: rest) := by
  rintro ⟨found, new, rest', unknown, heq, hfound, hnamed, hnone, hunknown⟩
  cases found with
  | nil =>
      cases heq
      rw [hid] at hnamed
      cases hnamed
  | cons first found =>
      cases heq
      have hfirst := hfound tag List.mem_cons_self
      rw [h] at hfirst
      cases hfirst

/-- Where the loop ends in an error, it leaves the tables as they were unless it came to a new tag
first. -/
theorem handleTags_unchanged {n : Nat} {db : Db ν} {asked : List TagDto}
    (hnew : forall tag, tag ∈ asked -> forall k, tag.id ≠ some (ctx.newTagId k))
    (herror : exists detail, (handleTags ctx pending n db asked).2 = .error detail) :
    (handleTags ctx pending n db asked).1 = db <-> ¬ NewBeforeUnknown db.tags asked := by
  induction asked with
  | nil =>
      rcases herror with ⟨detail, herror⟩
      cases herror
  | cons tag rest ih =>
      have hunknown := (handleTags_error hnew).mp herror
      cases hfound : findTag db.tags tag with
      | some existing =>
          have hsome : (findTag db.tags tag).isSome = true := Option.isSome_of_eq_some hfound
          rw [handleTags_existing hfound] at herror
          rw [handleTags_existing hfound, newBeforeUnknown_found hsome]
          cases hrest : (handleTags ctx pending n db rest).2 with
          | ok found =>
              rcases herror with ⟨detail, herror⟩
              rw [hrest] at herror
              cases herror
          | error detail =>
              exact ih (fun other hother => hnew other (List.mem_cons_of_mem tag hother))
                ⟨detail, hrest⟩
      | none =>
          cases hid : tag.givenId with
          | some id =>
              rw [handleTags_unknown hfound hid]
              exact iff_of_true rfl (not_newBeforeUnknown hid hfound)
          | none =>
              refine iff_of_false (handleTags_new hfound hid rest) (not_not_intro ?_)
              rcases hunknown with ⟨unknown, hmem, hgiven, habsent⟩
              refine ⟨[], tag, rest, unknown, rfl, ?_, hid, hfound, ?_, hgiven, habsent⟩
              · exact fun _ h => absurd h List.not_mem_nil
              · rcases List.mem_cons.mp hmem with hhead | hrest
                · rw [hhead, hid] at hgiven
                  cases hgiven
                · exact hrest

end Loop

/-- What follows the loop raises `HTTPException` only for an id that no tag has. -/
theorem isRejected_finish {ctx : Context ν} {request : Request} {preset : Preset ν}
    {looked : Db ν × Except String (List Tag)} :
    (finish ctx request preset looked).IsRejected <-> exists detail, looked.2 = .error detail := by
  rcases looked with ⟨db, result⟩
  cases result with
  | error detail =>
      refine iff_of_true ⟨?_, ?_⟩ ⟨detail, rfl⟩
      · exact fun h => absurd h (by decide : (400 : Nat) ≠ 200)
      · exact fun h => absurd h.1 (by decide : (400 : Nat) ≠ 500)
  | ok tags =>
      refine iff_of_false ?_ fun h => ?_
      · rintro ⟨hfails, hother⟩
        rcases Classical.em (Conflicts request preset db tags) with h | h
        · rw [finish_conflicts h] at hother
          exact hother ⟨rfl, rfl⟩
        · rw [finish_succeeds h] at hfails
          exact hfails rfl
      · rcases h with ⟨detail, h⟩
        cases h

theorem finish_db_of_error {ctx : Context ν} {request : Request} {preset : Preset ν}
    {looked : Db ν × Except String (List Tag)} {detail : String} (h : looked.2 = .error detail) :
    (finish ctx request preset looked).db = looked.1 := by
  rcases looked with ⟨db, result⟩
  cases h
  rfl

/-- A rejected request changes nothing exactly where it creates no tag before it comes to an id
that no tag has. -/
theorem changesNothing_iff {ctx : Context ν} {request : Request} {body : Body ν} {db : Db ν}
    (hnew : forall tag, tag ∈ body.tags -> forall n, tag.id ≠ some (ctx.newTagId n)) :
    ChangesNothing ctx request body db <-> KeepsOrder ctx request body db := by
  unfold ChangesNothing KeepsOrder
  rw [respond_eq]
  cases prepared ctx request body db.presets with
  | error error => exact iff_of_true (fun _ => rfl) trivial
  | ok preset =>
      show ((finish ctx request preset _).IsRejected -> (finish ctx request preset _).db = db) <->
        ¬ NewBeforeUnknown db.tags body.tags
      rw [isRejected_finish]
      have herror := @handleTags_error ν ctx (pendingOf request preset) 0 db body.tags hnew
      cases hlooked : (handleTags ctx (pendingOf request preset) 0 db body.tags).2 with
      | error detail =>
          rw [finish_db_of_error hlooked, ← handleTags_unchanged hnew ⟨detail, hlooked⟩]
          exact ⟨fun h => h ⟨detail, rfl⟩, fun h _ => h⟩
      | ok tags =>
          refine iff_of_true (fun h => ?_) ?_
          · rcases h with ⟨detail, h⟩
            cases h
          · intro hbefore
            rcases herror.mpr hbefore.exists_unknown with ⟨detail, h⟩
            rw [hlooked] at h
            cases h

section Runs

/-- A request to create a preset with a new tag and then one with an id. -/
def newThen (id : String) : Body Unit where
  name := some "Errors"
  options := [⟨"CEL", ()⟩]
  isPrivate := false
  isNoisy := false
  tags := [⟨none, "fresh"⟩, ⟨some id, "prod"⟩]
  counterShowsFiringOnly := true

theorem newTagIds_fresh (tag : TagDto) (h : tag ∈ (newThen "t").tags) (n : Nat) :
    tag.id ≠ some (caller.newTagId n) := by
  intro heq
  rcases List.mem_cons.mp h with hhead | hrest
  · rw [hhead] at heq
    cases heq
  · rw [List.mem_singleton.mp hrest] at heq
    have hchars := String.ofList_injective (Option.some.inj heq)
    cases hchars

/-- The id is that of a tag. -/
theorem newThenKnown_changesNothing :
    ChangesNothing caller .create (newThen "t") (tagged [⟨"t", "ours", "prod"⟩]) := by
  refine (changesNothing_iff newTagIds_fresh).mpr ?_
  intro hbefore
  rcases hbefore.exists_unknown with ⟨unknown, hasked, hgiven, hnone⟩
  rcases List.mem_cons.mp hasked with hhead | hrest
  · rw [hhead] at hgiven
    exact absurd hgiven (by decide)
  · rw [List.mem_singleton.mp hrest] at hnone
    exact absurd hnone (by decide)

/-- No tag has the id: the request is rejected, and the new tag stays. -/
theorem newThenUnknown_not_changesNothing :
    ¬ ChangesNothing caller .create (newThen "t") (tagged []) := by
  intro h
  have htags := congrArg (fun after => after.tags) (h ⟨by decide, by decide⟩)
  exact absurd htags (by decide)

end Runs

end Presets
end KeepGateway
