import KeepGateway.Tenants.SingleTenant
import KeepGateway.Lib.Except

/-!
# Default API keys

What a start of the gateway leaves of the tenant, the default user and the default API keys, and
when it leaves everything that it should.
-/

namespace KeepGateway
namespace Tenants
namespace SingleTenant

/-!
## The entries that need a key
-/

def keyNames (db : Database) : List String := db.keys.map TenantApiKey.referenceId

/-- The well-formed entries. -/
def wellFormed (settings : Settings) : List Entry :=
  (Separated.split "," settings.defaultApiKeys).filterMap parseEntry

/-- The first entry of each name that is not there. -/
def newEntries : List String -> List Entry -> List Entry
  | _, [] => []
  | names, entry :: rest =>
      if entry.name ∈ names then newEntries names rest
      else entry :: newEntries (names ++ [entry.name]) rest

theorem newEntries_of_mem {names : List String} {entry : Entry} (h : entry.name ∈ names)
    (rest : List Entry) : newEntries names (entry :: rest) = newEntries names rest := if_pos h

theorem newEntries_of_not_mem {names : List String} {entry : Entry} (h : entry.name ∉ names)
    (rest : List Entry) :
    newEntries names (entry :: rest) = entry :: newEntries (names ++ [entry.name]) rest := if_neg h

theorem mem_newEntries {names : List String} {entries : List Entry} {entry : Entry}
    (h : entry ∈ newEntries names entries) : entry ∈ entries ∧ entry.name ∉ names := by
  induction entries generalizing names with
  | nil => cases h
  | cons first rest ih =>
      rcases Classical.em (first.name ∈ names) with hmem | hnot
      · rw [newEntries_of_mem hmem] at h
        rcases ih h with ⟨hrest, hname⟩
        exact ⟨List.mem_cons_of_mem first hrest, hname⟩
      · rw [newEntries_of_not_mem hnot] at h
        rcases List.mem_cons.mp h with heq | hrest
        · rw [heq]
          exact ⟨List.mem_cons_self, hnot⟩
        · rcases ih hrest with ⟨hrest, hname⟩
          exact ⟨List.mem_cons_of_mem first hrest, fun hbefore =>
            hname (List.mem_append_left _ hbefore)⟩

def Entry.isNamed (name : String) (entry : Entry) : Bool := entry.name == name

/-- Of each name that is not there, the first entry and no other. -/
theorem filter_newEntries (names : List String) (entries : List Entry) (name : String) :
    (newEntries names entries).filter (Entry.isNamed name) =
      if name ∈ names then [] else (entries.find? (Entry.isNamed name)).toList := by
  induction entries generalizing names with
  | nil =>
      rw [List.find?_nil]
      split
      · rfl
      · rfl
  | cons first rest ih =>
      rcases Classical.em (first.name ∈ names) with hmem | hnot
      · rw [newEntries_of_mem hmem, ih]
        split
        · rfl
        case isFalse hname =>
          have hne : ¬ first.isNamed name = true := fun heq => hname (beq_iff_eq.mp heq ▸ hmem)
          rw [List.find?_cons_of_neg hne]
      · rw [newEntries_of_not_mem hnot, List.filter_cons, ih]
        rcases Classical.em (first.name = name) with heq | hne
        · have hfirst : first.isNamed name = true := beq_iff_eq.mpr heq
          rw [if_pos hfirst, if_pos (by rw [heq]; exact List.mem_concat_self),
            if_neg (heq ▸ hnot), List.find?_cons_of_pos hfirst]
          rfl
        · have hkeep : ¬ first.isNamed name = true := fun h => hne (beq_iff_eq.mp h)
          rw [if_neg hkeep, List.find?_cons_of_neg hkeep]
          refine if_congr ?_ rfl rfl
          rw [List.mem_append, List.mem_singleton, or_iff_left (Ne.symm hne)]

theorem nodup_newEntries (names : List String) (entries : List Entry) :
    ((newEntries names entries).map Entry.name).Nodup := by
  induction entries generalizing names with
  | nil => exact List.nodup_nil
  | cons first rest ih =>
      rcases Classical.em (first.name ∈ names) with hmem | hnot
      · rw [newEntries_of_mem hmem]
        exact ih names
      · rw [newEntries_of_not_mem hnot, List.map_cons]
        refine List.nodup_cons.mpr ⟨?_, ih _⟩
        intro hagain
        rcases List.mem_map.mp hagain with ⟨entry, hentry, hname⟩
        exact (mem_newEntries hentry).2 (hname ▸ List.mem_concat_self)

/-!
## The loop
-/

section

variable (sha256 : String -> String) (settings : Settings) (tenantId : String)

/-- The rows with a key for each of these entries. -/
def withKeys (db : Database) (entries : List Entry) : Database :=
  { db with keys := db.keys ++ entries.map (newKey sha256 tenantId) }

theorem withKeys_nil (db : Database) : withKeys sha256 tenantId db [] = db := by
  unfold withKeys
  rw [List.map_nil, List.append_nil]

theorem uniqueKeys_iff {rows : List TenantApiKey} :
    uniqueKeys rows = true <-> (rows.map TenantApiKey.keyHash).Nodup ∧
      (rows.map fun row => (row.tenantId, row.referenceId)).Nodup := by
  unfold uniqueKeys
  rw [Bool.and_eq_true_iff, decide_eq_true_iff, decide_eq_true_iff]

theorem consistent_iff {db : Database} :
    db.consistent = true <-> (db.tenants.map Tenant.id).Nodup ∧
      (db.tenants.map Tenant.name).Nodup ∧ (db.users.map User.username).Nodup ∧
        uniqueKeys db.keys = true := by
  unfold Database.consistent
  rw [Bool.and_eq_true_iff, Bool.and_eq_true_iff, Bool.and_eq_true_iff, decide_eq_true_iff,
    decide_eq_true_iff, decide_eq_true_iff, and_assoc, and_assoc]

/-- Keys that are added later do not help rows that break a constraint. -/
theorem consistent_of_withKeys {db : Database} {entries : List Entry}
    (h : (withKeys sha256 tenantId db entries).consistent = true) : db.consistent = true := by
  rcases consistent_iff.mp h with ⟨hids, hnames, husers, hkeys⟩
  rcases uniqueKeys_iff.mp hkeys with ⟨hhashes, hreferences⟩
  refine consistent_iff.mpr ⟨hids, hnames, husers, uniqueKeys_iff.mpr ⟨?_, ?_⟩⟩
  · exact hhashes.sublist ((List.sublist_append_left _ _).map _)
  · exact hreferences.sublist ((List.sublist_append_left _ _).map _)

theorem flush_of_consistent {db : Database} (h : db.consistent = true) : flush db = .ok db :=
  if_pos h

theorem flush_of_inconsistent {db : Database} (h : ¬ db.consistent = true) :
    flush db = .error .integrityError := if_neg h

theorem any_reference_iff {db : Database} {name : String} :
    (db.keys.any fun key => key.referenceId == name) = true <-> name ∈ keyNames db := by
  unfold keyNames
  rw [List.any_eq_true, List.mem_map]
  constructor
  · rintro ⟨key, hkey, hname⟩
    exact ⟨key, hkey, beq_iff_eq.mp hname⟩
  · rintro ⟨key, hkey, hname⟩
    exact ⟨key, hkey, beq_iff_eq.mpr hname⟩

/-- One entry, whatever its text was. -/
theorem provisionKeys_cons {text : String} {rest : List String} {last : Option Entry}
    {entry : Entry} (hentry : (parseEntry text).or last = some entry) {db : Database}
    (hdb : db.consistent = true) (secrets : List (String × String)) :
    exists secrets', provisionKeys sha256 settings tenantId (text :: rest) last db secrets =
      provisionKeys sha256 settings tenantId rest (some entry)
        (withKeys sha256 tenantId db (newEntries (keyNames db) [entry])) secrets' := by
  rw [provisionKeys, hentry]
  dsimp only
  rw [flush_of_consistent hdb]
  dsimp only
  rcases Classical.em (entry.name ∈ keyNames db) with hmem | hnot
  · rw [if_pos (any_reference_iff.mpr hmem), newEntries_of_mem hmem, newEntries, withKeys_nil]
    exact ⟨secrets, rfl⟩
  · rw [if_neg (fun h => hnot (any_reference_iff.mp h)), newEntries_of_not_mem hnot, newEntries]
    exact ⟨_, rfl⟩

theorem provisionKeys_of_inconsistent {text : String} {rest : List String} {last : Option Entry}
    {entry : Entry} (hentry : (parseEntry text).or last = some entry) {db : Database}
    (hdb : ¬ db.consistent = true) (secrets : List (String × String)) :
    (provisionKeys sha256 settings tenantId (text :: rest) last db secrets).1 =
      .error .integrityError := by
  rw [provisionKeys, hentry]
  dsimp only
  rw [flush_of_inconsistent hdb]

theorem newEntries_one (names : List String) (entry : Entry) (rest : List Entry) :
    newEntries names (entry :: rest) = newEntries names [entry] ++
      newEntries (names ++ (newEntries names [entry]).map Entry.name) rest := by
  rcases Classical.em (entry.name ∈ names) with hmem | hnot
  · rw [newEntries_of_mem hmem, newEntries_of_mem hmem, newEntries, List.map_nil, List.append_nil,
      List.nil_append]
  · rw [newEntries_of_not_mem hnot, newEntries_of_not_mem hnot, newEntries]
    rfl

theorem withKeys_append (db : Database) (first rest : List Entry) :
    withKeys sha256 tenantId db (first ++ rest) =
      withKeys sha256 tenantId (withKeys sha256 tenantId db first) rest := by
  unfold withKeys
  rw [List.map_append, ← List.append_assoc]

theorem keyNames_withKeys (db : Database) (entries : List Entry) :
    keyNames (withKeys sha256 tenantId db entries) = keyNames db ++ entries.map Entry.name := by
  unfold keyNames withKeys
  rw [List.map_append, List.map_map]
  rfl

/-- The entry that the variables hold has its key by then. -/
theorem name_mem_keyNames (db : Database) (entry : Entry) :
    entry.name ∈ keyNames (withKeys sha256 tenantId db (newEntries (keyNames db) [entry])) := by
  rw [keyNames_withKeys]
  rcases Classical.em (entry.name ∈ keyNames db) with hmem | hnot
  · exact List.mem_append_left _ hmem
  · rw [newEntries_of_not_mem hnot, newEntries]
    exact List.mem_append_right _ (List.mem_singleton_self _)

/-- The variables of an earlier entry find its key, so that a malformed one adds nothing. -/
theorem newEntries_of_text {text : String} {last : Option Entry} {entry : Entry} {db : Database}
    (hentry : (parseEntry text).or last = some entry)
    (hlast : forall entry, last = some entry -> entry.name ∈ keyNames db) (rest : List String) :
    newEntries (keyNames db) ((text :: rest).filterMap parseEntry) =
      newEntries (keyNames db) (entry :: rest.filterMap parseEntry) := by
  cases hparse : parseEntry text with
  | some found =>
      rw [hparse, Option.some_or] at hentry
      rw [List.filterMap_cons_some hparse, Option.some.inj hentry]
  | none =>
      rw [hparse, Option.none_or] at hentry
      rw [List.filterMap_cons_none hparse, newEntries_of_mem (hlast entry hentry)]

/-- The loop and the commit after it, where the variables have values at the first entry. -/
theorem provisionKeys_flush {texts : List String} {last : Option Entry} {db : Database}
    (hlast : forall entry, last = some entry -> entry.name ∈ keyNames db)
    (hstart : forall text, texts.head? = some text -> exists entry,
      (parseEntry text).or last = some entry) (secrets : List (String × String)) :
    (provisionKeys sha256 settings tenantId texts last db secrets).1 >>= flush =
      flush (withKeys sha256 tenantId db
        (newEntries (keyNames db) (texts.filterMap parseEntry))) := by
  induction texts generalizing last db secrets with
  | nil =>
      rw [List.filterMap_nil, newEntries, withKeys_nil]
      rfl
  | cons text rest ih =>
      rcases hstart text rfl with ⟨entry, hentry⟩
      rw [newEntries_of_text hentry hlast]
      rcases Classical.em (db.consistent = true) with hdb | hdb
      · rcases provisionKeys_cons sha256 settings tenantId hentry hdb secrets with ⟨secrets', heq⟩
        have hkept : forall kept, some entry = some kept ->
            kept.name ∈ keyNames (withKeys sha256 tenantId db
              (newEntries (keyNames db) [entry])) := by
          intro kept hkept
          rw [← Option.some.inj hkept]
          exact name_mem_keyNames sha256 tenantId db entry
        have hnext : forall next, rest.head? = some next -> exists found,
            (parseEntry next).or (some entry) = some found := by
          intro next _
          cases parseEntry next with
          | some found => exact ⟨found, rfl⟩
          | none => exact ⟨entry, rfl⟩
        rw [heq, ih hkept hnext, newEntries_one _ entry (rest.filterMap parseEntry),
          withKeys_append, keyNames_withKeys]
      · rw [provisionKeys_of_inconsistent sha256 settings tenantId hentry hdb,
          flush_of_inconsistent fun h => hdb (consistent_of_withKeys sha256 tenantId h)]
        rfl

/-- A malformed first entry leaves the variables without values. -/
theorem provisionKeys_of_malformed {texts : List String} {text : String}
    (hfirst : texts.head? = some text) (hparse : parseEntry text = none) (db : Database)
    (secrets : List (String × String)) :
    (provisionKeys sha256 settings tenantId texts none db secrets).1 =
      .error .unboundLocalError := by
  cases texts with
  | nil => cases hfirst
  | cons first rest =>
      rw [provisionKeys, Option.some.inj hfirst, hparse]
      rfl

/-!
## The transaction
-/

/-- The loop is not needed, or its modules are found and its first entry is well-formed. -/
def Starts : Prop :=
  settings.defaultApiKeys = "" ∨ (settings.modulesFound = true ∧
    exists text entry, (Separated.split "," settings.defaultApiKeys).head? = some text ∧
      parseEntry text = some entry)

/-- Everything that a start should leave. -/
def provisioned (createDefaultUser : Bool) (db : Database) : Database :=
  withKeys sha256 tenantId
    (provisionUser sha256 settings createDefaultUser (addTenant tenantId db))
    (newEntries (keyNames db) (wellFormed settings))

theorem wellFormed_of_empty (h : settings.defaultApiKeys = "") : wellFormed settings = [] := by
  unfold wellFormed
  rw [h]
  decide

theorem exists_users (createDefaultUser : Bool) (db : Database) :
    exists users, provisionUser sha256 settings createDefaultUser db =
      { db with users := users } := by
  unfold provisionUser
  split
  · split
    · exact ⟨_, rfl⟩
    · exact ⟨db.users, rfl⟩
  · split
    · exact ⟨_, rfl⟩
    · exact ⟨db.users, rfl⟩

theorem provisionUser_tenants (createDefaultUser : Bool) (db : Database) :
    (provisionUser sha256 settings createDefaultUser db).tenants = db.tenants := by
  rcases exists_users sha256 settings createDefaultUser db with ⟨users, heq⟩
  rw [heq]

theorem provisionUser_keys (createDefaultUser : Bool) (db : Database) :
    (provisionUser sha256 settings createDefaultUser db).keys = db.keys := by
  rcases exists_users sha256 settings createDefaultUser db with ⟨users, heq⟩
  rw [heq]

theorem exists_tenants (db : Database) :
    exists tenants, addTenant tenantId db = { db with tenants := tenants } := by
  unfold addTenant
  split
  · exact ⟨db.tenants, rfl⟩
  · exact ⟨_, rfl⟩

theorem addTenant_users (db : Database) : (addTenant tenantId db).users = db.users := by
  rcases exists_tenants tenantId db with ⟨tenants, heq⟩
  rw [heq]

theorem addTenant_keys (db : Database) : (addTenant tenantId db).keys = db.keys := by
  rcases exists_tenants tenantId db with ⟨tenants, heq⟩
  rw [heq]

theorem provisionDefaultApiKeys_flush (h : Starts settings) (db : Database)
    (secrets : List (String × String)) :
    (provisionDefaultApiKeys sha256 settings tenantId db secrets).1 >>= flush =
      flush (withKeys sha256 tenantId db (newEntries (keyNames db) (wellFormed settings))) := by
  unfold provisionDefaultApiKeys
  rcases Classical.em (settings.defaultApiKeys = "") with hempty | hne
  · rw [if_pos hempty, wellFormed_of_empty settings hempty, newEntries, withKeys_nil]
    rfl
  · rcases h.resolve_left hne with ⟨hfound, first, entry, hfirst, hparse⟩
    rw [if_neg hne, if_pos hfound]
    apply provisionKeys_flush
    · intro kept hkept
      cases hkept
    · intro text htext
      rw [hfirst] at htext
      rw [← Option.some.inj htext, hparse]
      exact ⟨entry, rfl⟩

/-- Without a start nothing is committed. -/
theorem provisionDefaultApiKeys_error (h : ¬ Starts settings) (db : Database)
    (secrets : List (String × String)) :
    exists e, (provisionDefaultApiKeys sha256 settings tenantId db secrets).1 = .error e := by
  unfold provisionDefaultApiKeys
  rw [if_neg fun hempty => h (Or.inl hempty)]
  split
  case isTrue hfound =>
    cases hsplit : Separated.split "," settings.defaultApiKeys with
    | nil => exact absurd (List.map_eq_nil_iff.mp hsplit) (Separated.splitFrom_ne_nil _ _ _ _)
    | cons text rest =>
        refine ⟨.unboundLocalError, provisionKeys_of_malformed sha256 settings tenantId rfl ?_ _ _⟩
        by_contra hparse
        rcases Option.ne_none_iff_exists'.mp hparse with ⟨entry, hentry⟩
        exact h (Or.inr ⟨hfound, text, entry, by rw [hsplit]; rfl, hentry⟩)
  case isFalse => exact ⟨.moduleNotFoundError, rfl⟩

/-- Rows whose tenants break a constraint are refused at the end as well. -/
theorem consistent_addTenant (stored : Stored) {createDefaultUser : Bool}
    (h : (provisioned sha256 settings tenantId createDefaultUser stored.db).consistent = true) :
    (addTenant tenantId stored.db).consistent = true := by
  rcases consistent_iff.mp stored.consistent with ⟨_, _, husers, hkeys⟩
  rcases consistent_iff.mp h with ⟨hids, hnames, _, _⟩
  unfold provisioned withKeys at hids hnames
  rw [provisionUser_tenants] at hids hnames
  refine consistent_iff.mpr ⟨hids, hnames, ?_, ?_⟩
  · rw [addTenant_users]
    exact husers
  · rw [addTenant_keys]
    exact hkeys

theorem transaction_flush (h : Starts settings) (createDefaultUser : Bool) (stored : Stored)
    (secrets : List (String × String)) :
    (transaction sha256 settings tenantId createDefaultUser stored.db secrets).1 >>= flush =
      flush (provisioned sha256 settings tenantId createDefaultUser stored.db) := by
  unfold transaction
  rcases Classical.em ((addTenant tenantId stored.db).consistent = true) with htenant | htenant
  · rw [flush_of_consistent htenant]
    dsimp only
    rw [provisionDefaultApiKeys_flush sha256 settings tenantId h]
    unfold keyNames
    rw [provisionUser_keys, addTenant_keys]
    rfl
  · rw [flush_of_inconsistent htenant, flush_of_inconsistent fun hall =>
      htenant (consistent_addTenant sha256 settings tenantId stored hall)]
    rfl

theorem transaction_error (h : ¬ Starts settings) (createDefaultUser : Bool) (db : Database)
    (secrets : List (String × String)) :
    exists e, (transaction sha256 settings tenantId createDefaultUser db secrets).1 >>= flush =
      .error e := by
  unfold transaction
  split
  case h_1 e _ => exact ⟨e, rfl⟩
  case h_2 db' _ =>
    rcases provisionDefaultApiKeys_error sha256 settings tenantId h
      (provisionUser sha256 settings createDefaultUser db') secrets with ⟨e, he⟩
    rw [he]
    exact ⟨e, rfl⟩

/-- A start leaves everything or nothing. -/
theorem tryCreateSingleTenant_db (createDefaultUser : Bool) (stored : Stored)
    (secrets : List (String × String)) :
    (Starts settings ∧
        (provisioned sha256 settings tenantId createDefaultUser stored.db).consistent = true ∧
          (tryCreateSingleTenant sha256 settings tenantId createDefaultUser stored secrets).db =
            provisioned sha256 settings tenantId createDefaultUser stored.db) ∨
      (¬ (Starts settings ∧
        (provisioned sha256 settings tenantId createDefaultUser stored.db).consistent = true) ∧
          (tryCreateSingleTenant sha256 settings tenantId createDefaultUser stored secrets).db =
            stored.db) := by
  have hlost : forall e,
      (transaction sha256 settings tenantId createDefaultUser stored.db secrets).1 >>= flush =
        .error e ->
      (tryCreateSingleTenant sha256 settings tenantId createDefaultUser stored secrets).db =
        stored.db := by
    intro e he
    unfold tryCreateSingleTenant
    dsimp only
    rw [he]
    cases e with
    | integrityError => rfl
    | moduleNotFoundError => rfl
    | unboundLocalError => rfl
  rcases Classical.em (Starts settings) with hstarts | hstarts
  · have hflush := transaction_flush sha256 settings tenantId hstarts createDefaultUser stored
      secrets
    rcases Classical.em ((provisioned sha256 settings tenantId createDefaultUser
        stored.db).consistent = true) with hall | hall
    · left
      refine ⟨hstarts, hall, ?_⟩
      rw [flush_of_consistent hall] at hflush
      unfold tryCreateSingleTenant
      dsimp only
      rw [hflush]
    · right
      rw [flush_of_inconsistent hall] at hflush
      exact ⟨fun h => hall h.2, hlost _ hflush⟩
  · right
    rcases transaction_error sha256 settings tenantId hstarts createDefaultUser stored.db secrets
      with ⟨e, he⟩
    exact ⟨fun h => hstarts h.1, hlost e he⟩

/-!
## Conflicts
-/

/-- No constraint stands against what a start should leave. -/
structure Free (db : Database) : Prop where
  tenant : (forall tenant, tenant ∈ db.tenants -> tenant.id ≠ tenantId) ->
    forall tenant, tenant ∈ db.tenants -> tenant.name ≠ "Single Tenant"
  username : settings.forceResetDefaultPassword = true -> forall user others,
    db.users = user :: others -> settings.defaultUsername ∉ others.map User.username
  secrets : ((newEntries (keyNames db) (wellFormed settings)).map fun entry =>
    sha256 entry.secret).Nodup
  hashes : forall entry, entry ∈ newEntries (keyNames db) (wellFormed settings) ->
    sha256 entry.secret ∉ db.keys.map TenantApiKey.keyHash

theorem nodup_addTenant_iff (stored : Stored) :
    (((addTenant tenantId stored.db).tenants.map Tenant.id).Nodup ∧
        ((addTenant tenantId stored.db).tenants.map Tenant.name).Nodup) <->
      ((forall tenant, tenant ∈ stored.db.tenants -> tenant.id ≠ tenantId) ->
        forall tenant, tenant ∈ stored.db.tenants -> tenant.name ≠ "Single Tenant") := by
  rcases consistent_iff.mp stored.consistent with ⟨hids, hnames, _, _⟩
  unfold addTenant
  split
  case isTrue hthere =>
    constructor
    · intro _ hmissing
      rcases List.any_eq_true.mp hthere with ⟨tenant, hmem, hid⟩
      exact absurd (beq_iff_eq.mp hid) (hmissing tenant hmem)
    · intro _
      exact ⟨hids, hnames⟩
  case isFalse hmissing =>
    have hid : tenantId ∉ stored.db.tenants.map Tenant.id := by
      intro hmem
      rcases List.mem_map.mp hmem with ⟨tenant, htenant, heq⟩
      exact hmissing (List.any_eq_true.mpr ⟨tenant, htenant, beq_iff_eq.mpr heq⟩)
    dsimp only
    rw [List.map_append, List.map_append, List.map_singleton, List.map_singleton,
      ← List.concat_eq_append, ← List.concat_eq_append, List.nodup_concat, List.nodup_concat]
    constructor
    · rintro ⟨_, hname⟩ _ tenant htenant heq
      exact hname.1 (List.mem_map.mpr ⟨tenant, htenant, heq⟩)
    · intro h
      refine ⟨⟨hid, hids⟩, ?_, hnames⟩
      intro hname
      rcases List.mem_map.mp hname with ⟨tenant, htenant, heq⟩
      refine h ?_ tenant htenant heq
      intro other hother hsame
      exact hid (List.mem_map.mpr ⟨other, hother, hsame⟩)

theorem nodup_provisionUser_iff {db : Database} (husers : (db.users.map User.username).Nodup)
    (createDefaultUser : Bool) :
    ((provisionUser sha256 settings createDefaultUser db).users.map User.username).Nodup <->
      (settings.forceResetDefaultPassword = true -> forall user others,
        db.users = user :: others -> settings.defaultUsername ∉ others.map User.username) := by
  unfold provisionUser
  split
  case h_1 hnone =>
    constructor
    · intro _ _ user others hsome
      rw [hnone] at hsome
      cases hsome
    · intro _
      split
      · exact List.nodup_singleton _
      · exact husers
  case h_2 user others hsome =>
    rw [hsome] at husers
    split
    case isTrue hforce =>
      dsimp only
      rw [List.map_cons, List.nodup_cons]
      constructor
      · rintro ⟨hother, _⟩ _ user' others' heq
        rw [hsome] at heq
        cases heq
        exact hother
      · intro h
        exact ⟨h hforce user others hsome, (List.nodup_cons.mp husers).2⟩
    case isFalse hkeep =>
      constructor
      · intro _ hforce
        exact absurd hforce hkeep
      · intro _
        rw [hsome]
        exact husers

/-- New keys have new references; only their hashes may be there. -/
theorem uniqueKeys_withKeys_iff {db : Database} (hkeys : uniqueKeys db.keys = true)
    (entries : List Entry) :
    uniqueKeys (db.keys ++ (newEntries (keyNames db) entries).map (newKey sha256 tenantId)) =
        true <->
      ((newEntries (keyNames db) entries).map fun entry => sha256 entry.secret).Nodup ∧
        forall entry, entry ∈ newEntries (keyNames db) entries ->
          sha256 entry.secret ∉ db.keys.map TenantApiKey.keyHash := by
  rcases uniqueKeys_iff.mp hkeys with ⟨hhashes, hreferences⟩
  have hnew : (((newEntries (keyNames db) entries).map (newKey sha256 tenantId)).map
      fun row => (row.tenantId, row.referenceId)).Nodup := by
    rw [List.map_map]
    show ((newEntries (keyNames db) entries).map fun entry => (tenantId, entry.name)).Nodup
    have hnames := nodup_newEntries (keyNames db) entries
    rw [List.nodup_map_iff_inj_on hnames.of_map] at hnames
    refine (List.nodup_map_iff_inj_on (nodup_newEntries (keyNames db) entries).of_map).mpr ?_
    intro a ha b hb heq
    exact hnames a ha b hb (congrArg Prod.snd heq)
  rw [uniqueKeys_iff, List.map_append, List.map_append, List.nodup_append', List.nodup_append']
  have hsame : ((newEntries (keyNames db) entries).map (newKey sha256 tenantId)).map
      TenantApiKey.keyHash = (newEntries (keyNames db) entries).map fun entry =>
        sha256 entry.secret := by
    rw [List.map_map]
    rfl
  rw [hsame]
  constructor
  · rintro ⟨⟨_, hsecrets, hdisjoint⟩, _⟩
    refine ⟨hsecrets, ?_⟩
    intro entry hentry hmem
    exact hdisjoint hmem (List.mem_map.mpr ⟨entry, hentry, rfl⟩)
  · rintro ⟨hsecrets, hfresh⟩
    refine ⟨⟨hhashes, hsecrets, ?_⟩, hreferences, hnew, ?_⟩
    · intro hash hold hmem
      rcases List.mem_map.mp hmem with ⟨entry, hentry, heq⟩
      exact hfresh entry hentry (heq ▸ hold)
    · intro reference hold hmem
      rcases List.mem_map.mp hold with ⟨key, hkey, hkeyref⟩
      rcases List.mem_map.mp hmem with ⟨row, hrow, hrowref⟩
      rcases List.mem_map.mp hrow with ⟨entry, hentry, rfl⟩
      have hname : key.referenceId = entry.name :=
        congrArg Prod.snd (hkeyref.trans hrowref.symm)
      exact (mem_newEntries hentry).2 (List.mem_map.mpr ⟨key, hkey, hname⟩)

theorem consistent_provisioned_iff (createDefaultUser : Bool) (stored : Stored) :
    (provisioned sha256 settings tenantId createDefaultUser stored.db).consistent = true <->
      Free sha256 settings tenantId stored.db := by
  rcases consistent_iff.mp stored.consistent with ⟨_, _, husers, hkeys⟩
  have htenant := nodup_addTenant_iff tenantId stored
  have huser : ((addTenant tenantId stored.db).users.map User.username).Nodup := by
    rw [addTenant_users]
    exact husers
  have husername := nodup_provisionUser_iff sha256 settings huser createDefaultUser
  rw [addTenant_users] at husername
  have hunique := uniqueKeys_withKeys_iff sha256 tenantId hkeys (wellFormed settings)
  unfold provisioned withKeys
  rw [consistent_iff]
  dsimp only
  rw [provisionUser_tenants, provisionUser_keys, addTenant_keys, husername, hunique, ← and_assoc,
    htenant]
  constructor
  · rintro ⟨ht, hu, hs, hh⟩
    exact ⟨ht, hu, hs, hh⟩
  · intro h
    exact ⟨h.tenant, h.username, h.secrets, h.hashes⟩

/-!
## Nothing else is affected
-/

/-- Whatever entries are malformed: the tenant is there, the default user where there was no user,
and the keys that are new are those of the first entries of their names. -/
structure NothingElse (createDefaultUser : Bool) (before after : Database) : Prop where
  tenant : exists tenant, tenant ∈ after.tenants ∧ tenant.id = tenantId
  user : createDefaultUser = true -> before.users = [] ->
    defaultUser sha256 settings ∈ after.users
  keys : exists added, after.keys = before.keys ++ added ∧
    (forall entry, entry ∈ wellFormed settings -> entry.name ∉ keyNames before ->
      exists first, (wellFormed settings).find? (Entry.isNamed entry.name) = some first ∧
        added.filter (fun key => key.referenceId == entry.name) =
          [newKey sha256 tenantId first]) ∧
    forall key, key ∈ added -> key.referenceId ∈ (wellFormed settings).map Entry.name ∧
      key.referenceId ∉ keyNames before

/-- There is nothing that a start would have to leave. -/
structure NothingToDo (createDefaultUser : Bool) (db : Database) : Prop where
  tenant : exists tenant, tenant ∈ db.tenants ∧ tenant.id = tenantId
  user : createDefaultUser = true -> db.users ≠ []
  keys : forall entry, entry ∈ wellFormed settings -> entry.name ∈ keyNames db

theorem exists_tenant_addTenant (db : Database) :
    exists tenant, tenant ∈ (addTenant tenantId db).tenants ∧ tenant.id = tenantId := by
  unfold addTenant
  split
  case isTrue hthere =>
    rcases List.any_eq_true.mp hthere with ⟨tenant, hmem, hid⟩
    exact ⟨tenant, hmem, beq_iff_eq.mp hid⟩
  case isFalse => exact ⟨⟨tenantId, "Single Tenant"⟩, List.mem_concat_self, rfl⟩

/-- The new keys of a name. -/
theorem filter_newKeys (entries : List Entry) (name : String) :
    (entries.map (newKey sha256 tenantId)).filter (fun key => key.referenceId == name) =
      (entries.filter (Entry.isNamed name)).map (newKey sha256 tenantId) := by
  rw [List.filter_map]
  rfl

theorem nothingElse_provisioned (createDefaultUser : Bool) (db : Database) :
    NothingElse sha256 settings tenantId createDefaultUser db
      (provisioned sha256 settings tenantId createDefaultUser db) := by
  refine ⟨?_, ?_, (newEntries (keyNames db) (wellFormed settings)).map (newKey sha256 tenantId),
    ?_, ?_, ?_⟩
  · rcases exists_tenant_addTenant tenantId db with ⟨tenant, hmem, hid⟩
    refine ⟨tenant, ?_, hid⟩
    unfold provisioned withKeys
    rw [provisionUser_tenants]
    exact hmem
  · intro hcreate hnone
    unfold provisioned withKeys provisionUser
    rw [addTenant_users, hnone, hcreate]
    exact List.mem_singleton_self _
  · unfold provisioned withKeys
    rw [provisionUser_keys, addTenant_keys]
  · intro entry hentry hnew
    have hfound : ((wellFormed settings).find? (Entry.isNamed entry.name)).isSome = true :=
      List.find?_isSome.mpr ⟨entry, hentry, beq_iff_eq.mpr rfl⟩
    rcases Option.isSome_iff_exists.mp hfound with ⟨first, hfirst⟩
    refine ⟨first, hfirst, ?_⟩
    rw [filter_newKeys, filter_newEntries, if_neg hnew, hfirst]
    rfl
  · intro key hkey
    rcases List.mem_map.mp hkey with ⟨entry, hentry, rfl⟩
    rcases mem_newEntries hentry with ⟨hmem, hnew⟩
    exact ⟨List.mem_map_of_mem hmem, hnew⟩

theorem nothingElse_same_iff (createDefaultUser : Bool) (db : Database) :
    NothingElse sha256 settings tenantId createDefaultUser db db <->
      NothingToDo settings tenantId createDefaultUser db := by
  constructor
  · intro h
    refine ⟨h.tenant, ?_, ?_⟩
    · intro hcreate hnone
      have hmem := h.user hcreate hnone
      rw [hnone] at hmem
      cases hmem
    · intro entry hentry
      by_contra hnew
      rcases h.keys with ⟨added, hadded, hall, _⟩
      rcases hall entry hentry hnew with ⟨first, _, hfilter⟩
      rw [List.self_eq_append_right.mp hadded] at hfilter
      cases hfilter
  · intro h
    refine ⟨h.tenant, ?_, [], (List.append_nil _).symm, ?_, ?_⟩
    · intro hcreate hnone
      exact absurd hnone (h.user hcreate)
    · intro entry hentry hnew
      exact absurd (h.keys entry hentry) hnew
    · intro key hkey
      cases hkey

theorem nothingElse_iff (createDefaultUser : Bool) (stored : Stored)
    (secrets : List (String × String)) :
    NothingElse sha256 settings tenantId createDefaultUser stored.db
        (tryCreateSingleTenant sha256 settings tenantId createDefaultUser stored secrets).db <->
      (Starts settings ∧ Free sha256 settings tenantId stored.db) ∨
        NothingToDo settings tenantId createDefaultUser stored.db := by
  have hfree := consistent_provisioned_iff sha256 settings tenantId createDefaultUser stored
  rcases tryCreateSingleTenant_db sha256 settings tenantId createDefaultUser stored secrets with
    ⟨hstarts, hall, hdb⟩ | ⟨hnot, hdb⟩
  · rw [hdb]
    constructor
    · intro _
      exact Or.inl ⟨hstarts, hfree.mp hall⟩
    · intro _
      exact nothingElse_provisioned sha256 settings tenantId createDefaultUser stored.db
  · rw [hdb, nothingElse_same_iff]
    constructor
    · exact Or.inr
    · rintro (⟨hstarts, hnone⟩ | htodo)
      · exact absurd ⟨hstarts, hfree.mpr hnone⟩ hnot
      · exact htodo

end

/-- An empty database, and a well-formed entry after one that is not. -/
def malformedFirst (modulesFound : Bool) : Settings :=
  ⟨"keep", "keep", false, "nonsense,ci:admin:s3cret", modulesFound, fun _ => false⟩

def emptyDatabase : Stored := ⟨⟨[], [], []⟩, by decide⟩

/-- The digests of the texts that are hashed there. -/
def digest (text : String) : String :=
  if text = "keep" then "6ca7ea2feefc88ecb5ed6356ed963f47dc9137f82526fdd25d618ea626d0803f"
  else if text = "s3cret" then "1ec1c26b50d5d3c58d9583181af8076655fe00756bf7285940ba3670f99fcba0"
  else text

theorem malformedFirst_affects :
    ¬ NothingElse digest (malformedFirst true) "keep" true emptyDatabase.db
        (tryCreateSingleTenant digest (malformedFirst true) "keep" true emptyDatabase []).db ∧
      ¬ NothingElse digest (malformedFirst false) "keep" true emptyDatabase.db
        (tryCreateSingleTenant digest (malformedFirst false) "keep" true emptyDatabase []).db := by
  have hdb : forall modulesFound : Bool, (tryCreateSingleTenant digest
      (malformedFirst modulesFound) "keep" true emptyDatabase []).db = ⟨[], [], []⟩ := by decide
  constructor
  · intro h
    rcases h.tenant with ⟨tenant, hmem, _⟩
    rw [hdb] at hmem
    cases hmem
  · intro h
    rcases h.tenant with ⟨tenant, hmem, _⟩
    rw [hdb] at hmem
    cases hmem

end SingleTenant
end Tenants
end KeepGateway
