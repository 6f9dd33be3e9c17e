import KeepGateway.Deduplication.AlertDeduplicator

/-!
# Ignored fields

What it means for an alert to be without the fields that a rule ignores, and when the hash of
the rule depends on the rest alone.
-/

namespace KeepGateway
namespace Deduplication

open JsonText (Value ReadableMembers readableMembers_iff dumps dumps_sorted_inj
  sorted_object_eq_iff)

/-- The fields without what a path leads to, if it leads anywhere. -/
def dropPath : List String -> Attributes -> Attributes
  | [], alert => alert
  | [name], alert => Dict.erase name alert
  | name :: rest, alert =>
      match alert.lookup name with
      | some (.object members) => Dict.set name (.object (dropPath rest members)) alert
      | _ => alert

def withoutIgnored (fields : List String) (alert : Attributes) : Attributes :=
  fields.foldl (fun alert field => dropPath (fieldParts field) alert) alert

/-- The alerts have the same fields, with the same values, apart from the ignored ones. -/
def AgreeOutside (fields : List String) (a b : AlertDto) : Prop :=
  forall name, ((withoutIgnored fields a.attributes).lookup name).map Value.sorted =
    ((withoutIgnored fields b.attributes).lookup name).map Value.sorted

/-- The rule raises for neither alert, and gives both one hash exactly if they agree outside
the fields that it ignores. -/
def IgnoresExactly (sha256 : String -> String) (lastHashes : LastHashes)
    (rule : DeduplicationRuleDto) (a b : AlertDto) : Prop :=
  exists a' b', applyDeduplicationRule sha256 lastHashes rule a = .ok a' ∧
    applyDeduplicationRule sha256 lastHashes rule b = .ok b' ∧
    (a'.alertHash = b'.alertHash <-> AgreeOutside rule.ignoreFields a b)

def IsDotted (field : String) : Prop := 1 < (fieldParts field).length

instance (field : String) : Decidable (IsDotted field) :=
  inferInstanceAs (Decidable (1 < (fieldParts field).length))

/-- What the two parts of a path lead to. -/
def Leads (alert : Attributes) (first last : String) : Prop :=
  exists members inner, alert.lookup first = some (.object members) ∧
    members.lookup last = some inner

/-- Every path of two parts leads to something when its turn to be removed comes. -/
def PresentInTurn : List String -> Attributes -> Prop
  | [], _ => True
  | field :: rest, alert =>
      (forall first last, fieldParts field = [first, last] -> Leads alert first last) ∧
        PresentInTurn rest (dropPath (fieldParts field) alert)

/-!
## Fields without paths
-/

theorem distinct_dropPath {alert : Attributes} (h : Dict.Distinct alert) (path : List String) :
    Dict.Distinct (dropPath path alert) := by
  unfold dropPath
  split
  · exact h
  · exact h.erase _
  · split
    · exact h.set _ _
    · exact h

theorem readable_erase {members : List (String × Value)} (h : ReadableMembers members)
    (name : String) : ReadableMembers (Dict.erase name members) := by
  rw [readableMembers_iff] at h ⊢
  exact fun m hm => h m (Dict.mem_of_mem_erase hm)

theorem readable_dropPath (path : List String) {alert : Attributes} (h : ReadableMembers alert) :
    ReadableMembers (dropPath path alert) := by
  induction path generalizing alert with
  | nil => exact h
  | cons name rest ih =>
      cases rest with
      | nil => exact readable_erase h name
      | cons next rest =>
          rw [dropPath]
          split
          · rename_i members hlookup
            have hmembers : ReadableMembers members := readable_of_lookup h hlookup
            have hrest : (Value.object (dropPath (next :: rest) members)).Readable := ih hmembers
            exact readableMembers_set h hrest name
          · exact h
          · exact List.cons_ne_nil next rest

theorem distinct_withoutIgnored (fields : List String) {alert : Attributes}
    (h : Dict.Distinct alert) : Dict.Distinct (withoutIgnored fields alert) := by
  induction fields generalizing alert with
  | nil => exact h
  | cons field rest ih => exact ih (distinct_dropPath h (fieldParts field))

theorem readable_withoutIgnored (fields : List String) {alert : Attributes}
    (h : ReadableMembers alert) : ReadableMembers (withoutIgnored fields alert) := by
  induction fields generalizing alert with
  | nil => exact h
  | cons field rest ih => exact ih (readable_dropPath (fieldParts field) h)

/-!
## What the code removes
-/

theorem fieldParts_ne_nil (field : String) : fieldParts field ≠ [] := by
  unfold fieldParts
  rw [Ne, List.map_eq_nil_iff]
  exact List.splitOn_ne_nil '.' field.toList

theorem fieldParts_eq_singleton {field : String} (h : ¬ IsDotted field) :
    fieldParts field = [field] := by
  unfold IsDotted fieldParts at h
  have hjoin := @List.intercalate_splitOn Char field.toList _ _ '.'
  unfold fieldParts
  cases hsplit : field.toList.splitOn '.' with
  | nil => exact absurd hsplit (List.splitOn_ne_nil '.' field.toList)
  | cons first rest =>
      cases rest with
      | nil =>
          rw [hsplit] at hjoin
          have hfirst : first = field.toList := by simpa using hjoin
          rw [hfirst, List.map_singleton, String.ofList_toList]
      | cons second rest =>
          rw [hsplit] at h
          simp at h

theorem removeField_of_not_dotted {field : String} (h : ¬ IsDotted field) (alert : Attributes) :
    removeField alert field = .ok (dropPath (fieldParts field) alert) := by
  unfold removeField
  rw [fieldParts_eq_singleton h]
  rfl

/-- A path of two parts is removed where it leads to something, and raises elsewhere. -/
theorem removeField_eq_ok {field first last : String} (h : fieldParts field = [first, last])
    {alert rest : Attributes} :
    removeField alert field = .ok rest <->
      Leads alert first last ∧ rest = dropPath (fieldParts field) alert := by
  unfold removeField
  rw [h]
  show removePath first [] last alert = .ok rest <-> _
  unfold removePath
  cases hfirst : alert.lookup first with
  | none =>
      constructor
      · intro hok
        cases hok
      · intro ⟨⟨_, _, hleads, _⟩, _⟩
        rw [hfirst] at hleads
        cases hleads
  | some value =>
      show (delItem value last).bind (fun d => .ok (Dict.set first d alert)) = .ok rest <-> _
      constructor
      · intro hok
        rcases bind_eq_ok.mp hok with ⟨d, hdel, hset⟩
        unfold delItem at hdel
        split at hdel
        · rename_i members
          split at hdel
          · rename_i inner hlast
            cases hdel
            cases hset
            constructor
            · exact ⟨members, inner, hfirst, hlast⟩
            · unfold dropPath
              rw [hfirst]
              rfl
          · cases hdel
        · cases hdel
      · intro ⟨⟨members, inner, hleads, hlast⟩, hrest⟩
        rw [hfirst] at hleads
        cases hleads
        rw [hrest, dropPath, hfirst]
        · simp only [delItem, hlast]
          rfl
        · exact List.cons_ne_nil last []

theorem removeFields_cons (field : String) (rest : List String) (alert : Attributes) :
    removeFields (field :: rest) alert = removeField alert field >>= removeFields rest := rfl

theorem removeFields_of_not_dotted {fields : List String}
    (h : forall field, field ∈ fields -> ¬ IsDotted field) (alert : Attributes) :
    removeFields fields alert = .ok (withoutIgnored fields alert) := by
  induction fields generalizing alert with
  | nil => rfl
  | cons field rest ih =>
      rcases List.forall_mem_cons.mp h with ⟨hfield, hrest⟩
      rw [removeFields_cons, removeField_of_not_dotted hfield]
      exact ih hrest (dropPath (fieldParts field) alert)

theorem removeFields_eq_ok {fields : List String}
    (h : forall field, field ∈ fields -> (fieldParts field).length ≤ 2)
    {alert rest : Attributes} :
    removeFields fields alert = .ok rest <->
      PresentInTurn fields alert ∧ rest = withoutIgnored fields alert := by
  induction fields generalizing alert with
  | nil =>
      constructor
      · intro hok
        cases hok
        exact ⟨trivial, rfl⟩
      · intro ⟨_, hrest⟩
        rw [hrest]
        rfl
  | cons field fields ih =>
      rcases List.forall_mem_cons.mp h with ⟨hfield, hfields⟩
      have hstep : (exists after, removeField alert field = .ok after ∧
          removeFields fields after = .ok rest) <->
          (forall first last, fieldParts field = [first, last] -> Leads alert first last) ∧
            removeFields fields (dropPath (fieldParts field) alert) = .ok rest := by
        rcases Classical.em (IsDotted field) with hdotted | hflat
        · obtain ⟨first, last, hparts⟩ : exists first last, fieldParts field = [first, last] :=
            List.length_eq_two.mp (le_antisymm hfield hdotted)
          constructor
          · intro ⟨after, hremove, hafter⟩
            rcases (removeField_eq_ok hparts).mp hremove with ⟨hleads, heq⟩
            rw [heq] at hafter
            constructor
            · intro first' last' hparts'
              rw [hparts] at hparts'
              cases hparts'
              exact hleads
            · exact hafter
          · intro ⟨hleads, hafter⟩
            exact ⟨_, (removeField_eq_ok hparts).mpr ⟨hleads first last hparts, rfl⟩, hafter⟩
        · rw [removeField_of_not_dotted hflat]
          constructor
          · intro ⟨after, hremove, hafter⟩
            cases hremove
            constructor
            · intro first last hparts
              rw [fieldParts_eq_singleton hflat] at hparts
              cases hparts
            · exact hafter
          · intro ⟨_, hafter⟩
            exact ⟨_, rfl, hafter⟩
      rw [removeFields_cons, bind_eq_ok, hstep, ih hfields, ← and_assoc]
      rfl

/-!
## Hashes
-/

section

variable {sha256 : String -> String} {lastHashes : LastHashes} {rule : DeduplicationRuleDto}

theorem hashOf_eq_ok {alert : AlertDto} {hash : String} :
    hashOf sha256 rule alert = .ok hash <->
      exists copy, removeFields rule.ignoreFields alert.attributes = .ok copy ∧
        hash = sha256 (dumps (Value.object copy).sorted) := by
  unfold hashOf
  rw [bind_eq_ok]
  constructor
  · intro ⟨copy, hcopy, hhash⟩
    cases hhash
    exact ⟨copy, hcopy, rfl⟩
  · intro ⟨copy, hcopy, hhash⟩
    rw [hhash]
    exact ⟨copy, hcopy, rfl⟩

theorem applyDeduplicationRule_eq_ok {alert alert' : AlertDto} :
    applyDeduplicationRule sha256 lastHashes rule alert = .ok alert' <->
      exists hash, hashOf sha256 rule alert = .ok hash ∧
        alert' = (alert.setHash hash).compare hash (lastHashes.of alert.fingerprint) := by
  unfold applyDeduplicationRule
  rw [bind_eq_ok]
  constructor
  · intro ⟨hash, hhash, halert⟩
    cases halert
    exact ⟨hash, hhash, rfl⟩
  · intro ⟨hash, hhash, halert⟩
    rw [halert]
    exact ⟨hash, hhash, rfl⟩

/-- Where the code removes what the rule ignores, its hash covers the rest and only the rest. -/
theorem hashes_eq_iff (hsha : Function.Injective sha256) (fields : List String) (a b : AlertDto) :
    sha256 (dumps (Value.object (withoutIgnored fields a.attributes)).sorted) =
        sha256 (dumps (Value.object (withoutIgnored fields b.attributes)).sorted) <->
      AgreeOutside fields a b := by
  have ha : (Value.object (withoutIgnored fields a.attributes)).Readable :=
    readable_withoutIgnored fields a.readable
  have hb : (Value.object (withoutIgnored fields b.attributes)).Readable :=
    readable_withoutIgnored fields b.readable
  rw [hsha.eq_iff, dumps_sorted_inj ha hb,
    sorted_object_eq_iff (distinct_withoutIgnored fields a.distinct)
      (distinct_withoutIgnored fields b.distinct)]
  rfl

theorem apply_of_removed {alert : AlertDto} {copy : Attributes}
    (h : removeFields rule.ignoreFields alert.attributes = .ok copy) :
    exists alert', applyDeduplicationRule sha256 lastHashes rule alert = .ok alert' ∧
      alert'.alertHash = some (.string (sha256 (dumps (Value.object copy).sorted))) := by
  let hash := sha256 (dumps (Value.object copy).sorted)
  have hhash : hashOf sha256 rule alert = .ok hash := hashOf_eq_ok.mpr ⟨copy, h, rfl⟩
  exact ⟨_, applyDeduplicationRule_eq_ok.mpr ⟨hash, hhash, rfl⟩, by simp [hash]⟩

theorem removed_of_apply {alert alert' : AlertDto}
    (h : applyDeduplicationRule sha256 lastHashes rule alert = .ok alert') :
    exists copy, removeFields rule.ignoreFields alert.attributes = .ok copy := by
  rcases applyDeduplicationRule_eq_ok.mp h with ⟨hash, hhash, _⟩
  rcases hashOf_eq_ok.mp hhash with ⟨copy, hcopy, _⟩
  exact ⟨copy, hcopy⟩

theorem ignoresExactly_of_removed (hsha : Function.Injective sha256) {a b : AlertDto}
    (ha : removeFields rule.ignoreFields a.attributes =
      .ok (withoutIgnored rule.ignoreFields a.attributes))
    (hb : removeFields rule.ignoreFields b.attributes =
      .ok (withoutIgnored rule.ignoreFields b.attributes)) :
    IgnoresExactly sha256 lastHashes rule a b := by
  rcases @apply_of_removed sha256 lastHashes rule a _ ha with ⟨a', hokA, hhashA⟩
  rcases @apply_of_removed sha256 lastHashes rule b _ hb with ⟨b', hokB, hhashB⟩
  have hiff : a'.alertHash = b'.alertHash <-> AgreeOutside rule.ignoreFields a b := by
    rw [hhashA, hhashB, Option.some.injEq, Value.string.injEq]
    exact hashes_eq_iff hsha rule.ignoreFields a b
  exact ⟨a', b', hokA, hokB, hiff⟩

/-- A rule that ignores a path raises for an alert none of whose fields is a dictionary. -/
theorem removeFields_ne_ok {fields : List String} {field : String} (hfield : field ∈ fields)
    (hdotted : IsDotted field) {alert rest : Attributes}
    (hflat : forall name members, alert.lookup name ≠ some (.object members)) :
    removeFields fields alert ≠ .ok rest := by
  induction fields generalizing alert with
  | nil => exact absurd hfield List.not_mem_nil
  | cons first fields ih =>
      rw [removeFields_cons, Ne, bind_eq_ok]
      intro ⟨after, hremove, hafter⟩
      rcases Classical.em (IsDotted first) with hpath | hname
      · unfold removeField at hremove
        split at hremove
        · unfold removePath at hremove
          split at hremove
          · cases hremove
          · rename_i value hlookup
            have hvalue : forall members, value ≠ .object members := by
              intro members heq
              exact hflat _ members (hlookup.trans (congrArg some heq))
            rename_i part parts _ _
            rcases bind_eq_ok.mp hremove with ⟨d, hmiddle, hremove⟩
            rcases bind_eq_ok.mp hremove with ⟨d', hdel, _⟩
            have hnone : forall p d, getItem value p ≠ .ok d := by
              intro p d hget
              unfold getItem at hget
              split at hget
              · exact hvalue _ rfl
              · cases hget
            cases hmid : (part :: parts).dropLast with
            | nil =>
                rw [hmid] at hmiddle
                cases hmiddle
                unfold delItem at hdel
                split at hdel
                · exact hvalue _ rfl
                · cases hdel
            | cons p ps =>
                rw [hmid, List.foldlM_cons] at hmiddle
                rcases bind_eq_ok.mp hmiddle with ⟨inner, hget, _⟩
                exact hnone p inner hget
        · rename_i hparts
          unfold IsDotted at hpath
          cases hsplit : fieldParts first with
          | nil => exact fieldParts_ne_nil first hsplit
          | cons x xs =>
              cases xs with
              | nil =>
                  rw [hsplit] at hpath
                  exact absurd hpath (lt_irrefl 1)
              | cons y ys => exact hparts x y ys hsplit
      · rcases List.mem_cons.mp hfield with heq | hrest
        · rw [heq] at hdotted
          exact hname hdotted
        · rw [removeField_of_not_dotted hname] at hremove
          cases hremove
          apply ih hrest _ hafter
          intro name members
          rw [fieldParts_eq_singleton hname, dropPath, Dict.lookup_erase]
          split
          · exact fun h => nomatch h
          · exact hflat name members

end

/-!
## Exactness
-/

/-- An alert with no field but declared ones, those that are None left out. -/
def plainAlert : AlertDto where
  attributes := [("id", .string "1"), ("name", .string "cpu"), ("status", .string "firing"),
    ("severity", .string "critical"), ("last_received", .string "2024-01-01T00:00:00.000Z"),
    ("is_full_duplicate", .bool false), ("is_partial_duplicate", .bool false),
    ("source", .array [.string "prometheus"]), ("fingerprint", .string "cpu"),
    ("deleted", .bool false), ("environment", .string "production")]
  fingerprint := "cpu"
  distinct := by
    unfold Dict.Distinct
    decide
  readable := by simp [ReadableMembers, Value.Readable, JsonText.ReadableItems]
  fingerprint_eq := rfl

theorem plainAlert_flat (name : String) (members : List (String × Value)) :
    plainAlert.attributes.lookup name ≠ some (.object members) := by
  intro h
  have hmem := plainAlert.distinct.lookup.mp h
  simp [plainAlert] at hmem

section

variable {sha256 : String -> String} {rule : DeduplicationRuleDto}

theorem ignoresExactly_of_not_dotted (hsha : Function.Injective sha256)
    (h : forall field, field ∈ rule.ignoreFields -> ¬ IsDotted field) (lastHashes : LastHashes)
    (a b : AlertDto) : IgnoresExactly sha256 lastHashes rule a b :=
  ignoresExactly_of_removed hsha (removeFields_of_not_dotted h a.attributes)
    (removeFields_of_not_dotted h b.attributes)

theorem not_ignoresExactly_plainAlert {field : String} (hfield : field ∈ rule.ignoreFields)
    (hdotted : IsDotted field) (lastHashes : LastHashes) :
    ¬ IgnoresExactly sha256 lastHashes rule plainAlert plainAlert := by
  intro ⟨a', _, ha, _⟩
  rcases removed_of_apply ha with ⟨copy, hcopy⟩
  exact removeFields_ne_ok hfield hdotted plainAlert_flat hcopy

theorem ignoresExactly_iff_presentInTurn (hsha : Function.Injective sha256)
    (h : forall field, field ∈ rule.ignoreFields -> (fieldParts field).length ≤ 2)
    (lastHashes : LastHashes) (a b : AlertDto) :
    IgnoresExactly sha256 lastHashes rule a b <->
      PresentInTurn rule.ignoreFields a.attributes ∧
        PresentInTurn rule.ignoreFields b.attributes := by
  constructor
  · intro ⟨a', b', ha, hb, _⟩
    rcases removed_of_apply ha with ⟨copyA, hcopyA⟩
    rcases removed_of_apply hb with ⟨copyB, hcopyB⟩
    exact ⟨((removeFields_eq_ok h).mp hcopyA).1, ((removeFields_eq_ok h).mp hcopyB).1⟩
  · intro ⟨ha, hb⟩
    exact ignoresExactly_of_removed hsha ((removeFields_eq_ok h).mpr ⟨ha, rfl⟩)
      ((removeFields_eq_ok h).mpr ⟨hb, rfl⟩)

end

/-- A rule ignores its fields exactly, in all alerts, when none of them is a path.  One whose
paths have two parts still does so for two alerts in which each path leads to something. -/
theorem ignoresExactly_throughout_iff {sha256 : String -> String}
    (hsha : Function.Injective sha256) (lastHashes : LastHashes) (rule : DeduplicationRuleDto) :
    ((forall a b, a.fingerprint = b.fingerprint -> IgnoresExactly sha256 lastHashes rule a b) <->
        forall field, field ∈ rule.ignoreFields -> ¬ IsDotted field) ∧
      ((forall field, field ∈ rule.ignoreFields -> (fieldParts field).length ≤ 2) ->
        forall a b, IgnoresExactly sha256 lastHashes rule a b <->
          PresentInTurn rule.ignoreFields a.attributes ∧
            PresentInTurn rule.ignoreFields b.attributes) := by
  constructor
  · constructor
    · intro h field hfield hdotted
      exact not_ignoresExactly_plainAlert hfield hdotted lastHashes (h plainAlert plainAlert rfl)
    · intro h a b _
      exact ignoresExactly_of_not_dotted hsha h lastHashes a b
  · intro h a b
    exact ignoresExactly_iff_presentInTurn hsha h lastHashes a b

def labelled (labels : List (String × Value)) (h : ReadableMembers labels) : AlertDto :=
  plainAlert.setAttribute "labels" (.object labels) (by decide) h

def noHashes : LastHashes := ⟨[], fun _ => []⟩

/-- The team of two alerts is ignored where both have one. -/
theorem team_ignoresExactly :
    IgnoresExactly id noHashes ⟨some "1", ["labels.team"]⟩
      (labelled [("team", .string "core"), ("zone", .string "eu")] ⟨trivial, trivial, trivial⟩)
      (labelled [("team", .string "web"), ("zone", .string "eu")] ⟨trivial, trivial, trivial⟩) := by
  have hpresent : forall team : String, PresentInTurn ["labels.team"]
      (labelled [("team", .string team), ("zone", .string "eu")]
        ⟨trivial, trivial, trivial⟩).attributes := by
    intro team
    constructor
    · intro first last hparts
      have hlabels : fieldParts "labels.team" = ["labels", "team"] := by decide
      rw [hlabels] at hparts
      cases hparts
      exact ⟨_, _, rfl, rfl⟩
    · trivial
  exact ((ignoresExactly_throughout_iff Function.injective_id noHashes
    ⟨some "1", ["labels.team"]⟩).2 (by decide) _ _).mpr ⟨hpresent "core", hpresent "web"⟩

/-- Ignoring the team of an alert without labels raises; and where the team is deeper, alerts
that differ in their zone have one hash. -/
theorem labels_not_ignoresExactly :
    ¬ IgnoresExactly id noHashes ⟨some "1", ["labels.team"]⟩ plainAlert plainAlert ∧
      ¬ IgnoresExactly id noHashes ⟨some "1", ["labels.k8s.team"]⟩
        (labelled [("k8s", .object [("team", .string "core")]), ("zone", .string "eu")]
          ⟨⟨trivial, trivial⟩, trivial, trivial⟩)
        (labelled [("k8s", .object [("team", .string "core")]), ("zone", .string "us")]
          ⟨⟨trivial, trivial⟩, trivial, trivial⟩) := by
  constructor
  · exact not_ignoresExactly_plainAlert List.mem_cons_self (by decide) noHashes
  · intro ⟨a', b', ha, hb, hiff⟩
    have hsame : a'.alertHash = b'.alertHash := by
      cases ha
      cases hb
      rfl
    have hlabels : (Value.object [("k8s", .object []), ("zone", .string "eu")]).sorted =
        (Value.object [("k8s", .object []), ("zone", .string "us")]).sorted :=
      Option.some.inj (hiff.mp hsame "labels")
    have hdistinct (zone : String) :
        Dict.Distinct [("k8s", Value.object []), ("zone", .string zone)] := by
      simp [Dict.Distinct]
    have hzone := (sorted_object_eq_iff (hdistinct "eu") (hdistinct "us")).mp hlabels "zone"
    exact absurd (Value.string.inj (Option.some.inj hzone)) (by decide)

end Deduplication
end KeepGateway
