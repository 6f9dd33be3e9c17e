import KeepGateway.Lib.Run
import KeepGateway.Tenants.ApiKeys

/-!
# Keys and their secrets

Whether every key works with the secret that is kept for it.  A secret is written before the
database takes the key, and nothing is written back when it does not; and secrets that are kept
for different purposes can have one name.
-/

namespace KeepGateway
namespace Tenants

section Agreement

variable (sha256 lower : String -> String)

/-!
## Working keys
-/

/-- An interface that meets no fault. -/
def noFaults : ApiFaults := ⟨none, none, none⟩

def TenantApiKey.secretName (row : TenantApiKey) : String :=
  keySecretName row.tenantId row.referenceId

/-- Each key that is not deleted has the hash of the secret that is read back under its name,
and the SMTP settings that are read back are those written last. -/
structure KeyStore.Works (s : KeyStore) : Prop where
  keys : forall row, row ∈ s.rows -> row.isDeleted = false ->
    exists secret, readSecret lower noFaults row.secretName s.secrets = .ok secret ∧
      row.keyHash = sha256 secret
  smtp : forall tenantId settings, s.smtpWritten.lookup tenantId = some settings ->
    readSecret lower noFaults (smtpSecretName tenantId) s.secrets = .ok settings

/-- A value suits the keys and the settings that are read back under a name. -/
structure Suits (keys : List TenantApiKey) (smtpWritten : List (String × String))
    (secretName value : String) : Prop where
  keys : forall row, row ∈ keys -> row.isDeleted = false ->
    resourceName lower row.secretName = resourceName lower secretName ->
      row.keyHash = sha256 value
  smtp : forall tenantId settings, smtpWritten.lookup tenantId = some settings ->
    resourceName lower (smtpSecretName tenantId) = resourceName lower secretName ->
      settings = value

/-- The session commits these keys. -/
def commits (faults : Faults) (rows : List TenantApiKey) : Bool :=
  uniqueKeys rows && faults.commit.isNone

/-- A secret that `create_api_key` writes suits all that the call leaves as it was: the keys of
the session, or those committed before where the call fails. -/
def KeyStore.CreationSuits (s : KeyStore) (tenantId uniqueApiKeyId : String) (isSystem : Bool)
    (createdBy role : String) (commit : Bool) (systemDescription : Option String)
    (apiKey : String) (faults : Faults) : Prop :=
  let created := !commit || commits faults (s.rows ++ [newInstallationApiKey sha256 tenantId
    uniqueApiKeyId isSystem createdBy role systemDescription apiKey])
  forall secrets, writeSecret lower faults.api (keySecretName tenantId uniqueApiKeyId) apiKey
      s.secrets = .ok secrets ->
    Suits sha256 lower (if created then s.rows else s.keys) s.smtpWritten
      (keySecretName tenantId uniqueApiKeyId) apiKey

/-- The other keys of the session. -/
def otherKeys (tenantId uniqueApiKeyId : String) (rows : List TenantApiKey) : List TenantApiKey :=
  rows.filter fun row => !(row.referenceId == uniqueApiKeyId && row.tenantId == tenantId)

/-- What a call writes suits everything else that is read back under the same name. -/
def KeyStore.Safe (s : KeyStore) : KeyCall -> Prop
  | .create tenantId uniqueApiKeyId isSystem createdBy role commit systemDescription apiKey faults =>
      s.CreationSuits sha256 lower tenantId uniqueApiKeyId isSystem createdBy role commit
        systemDescription apiKey faults
  | .update tenantId uniqueApiKeyId apiKey faults =>
      forall entry, selectKey tenantId uniqueApiKeyId s = .ok (some entry) ->
        forall secrets, writeSecret lower faults.api (keySecretName tenantId uniqueApiKeyId) apiKey
            s.secrets = .ok secrets ->
          Suits sha256 lower
            (if commits faults (rekeyed sha256 tenantId uniqueApiKeyId apiKey s.rows) then
              otherKeys tenantId uniqueApiKeyId s.rows
            else s.keys)
            s.smtpWritten (keySecretName tenantId uniqueApiKeyId) apiKey
  | .getOrCreate tenantId createdBy uniqueApiKeyId systemDescription apiKey faults =>
      selectKey tenantId uniqueApiKeyId s = .ok none ->
        s.CreationSuits sha256 lower tenantId uniqueApiKeyId true createdBy
          (if uniqueApiKeyId = "webhook" then "webhook" else "admin") true systemDescription apiKey
          faults
  | .writeSmtp tenantId settings faults =>
      forall secrets, writeSecret lower faults.api (smtpSecretName tenantId) settings s.secrets =
          .ok secrets ->
        Suits sha256 lower s.rows (Dict.erase tenantId s.smtpWritten) (smtpSecretName tenantId)
          settings

/-!
## What a call writes
-/

/-- A call left the secrets alone, and added no keys. -/
structure Quiet (s s' : KeyStore) : Prop where
  secrets : s'.secrets = s.secrets
  rows : forall row, row ∈ s'.rows -> row ∈ s.rows
  smtp : s'.smtpWritten = s.smtpWritten

/-- A call wrote a secret.  It left some keys and settings as they were, and what else there is
goes with the secret. -/
structure Wrote (s s' : KeyStore) (secretName value : String) (keys : List TenantApiKey)
    (smtpWritten : List (String × String)) : Prop where
  secrets : s'.secrets = Dict.set (resourceName lower secretName) value s.secrets
  known : forall row, row ∈ keys -> row ∈ s.rows ∧ row ∈ s'.rows
  fresh : forall row, row ∈ s'.rows -> row ∈ keys ∨
    resourceName lower row.secretName = resourceName lower secretName ∧
      row.keyHash = sha256 value
  smtpKnown : forall tenantId settings, smtpWritten.lookup tenantId = some settings ->
    s.smtpWritten.lookup tenantId = some settings ∧ s'.smtpWritten.lookup tenantId = some settings
  smtpFresh : forall tenantId settings, s'.smtpWritten.lookup tenantId = some settings ->
    smtpWritten.lookup tenantId = some settings ∨
      resourceName lower (smtpSecretName tenantId) = resourceName lower secretName ∧
        settings = value

variable {sha256 lower} {s s' : KeyStore}

theorem KeyStore.Works.readsBack_key (h : s.Works sha256 lower) {row : TenantApiKey}
    (hrow : row ∈ s.rows) (hlive : row.isDeleted = false) :
    Dict.ReadsBack s.secrets (resourceName lower row.secretName) fun secret =>
      row.keyHash = sha256 secret := by
  rcases h.keys row hrow hlive with ⟨secret, hread, hhash⟩
  exact ⟨secret, (readSecret_eq_ok rfl).mp hread, hhash⟩

theorem KeyStore.Works.readsBack_smtp (h : s.Works sha256 lower) {tenantId settings : String}
    (hsettings : s.smtpWritten.lookup tenantId = some settings) :
    Dict.ReadsBack s.secrets (resourceName lower (smtpSecretName tenantId)) fun secret =>
      settings = secret :=
  ⟨settings, (readSecret_eq_ok rfl).mp (h.smtp tenantId settings hsettings), rfl⟩

theorem KeyStore.works_of_readsBack
    (hkeys : forall row, row ∈ s.rows -> row.isDeleted = false ->
      Dict.ReadsBack s.secrets (resourceName lower row.secretName) fun secret =>
        row.keyHash = sha256 secret)
    (hsmtp : forall tenantId settings, s.smtpWritten.lookup tenantId = some settings ->
      Dict.ReadsBack s.secrets (resourceName lower (smtpSecretName tenantId)) fun secret =>
        settings = secret) : s.Works sha256 lower where
  keys := by
    intro row hrow hlive
    rcases hkeys row hrow hlive with ⟨secret, hlookup, hhash⟩
    exact ⟨secret, (readSecret_eq_ok rfl).mpr hlookup, hhash⟩
  smtp := by
    intro tenantId settings hsettings
    rcases hsmtp tenantId settings hsettings with ⟨secret, hlookup, heq⟩
    rw [heq]
    exact (readSecret_eq_ok rfl).mpr hlookup

theorem Quiet.works (h : Quiet s s') (hs : s.Works sha256 lower) : s'.Works sha256 lower where
  keys := by
    intro row hrow hlive
    rw [h.secrets]
    exact hs.keys row (h.rows row hrow) hlive
  smtp := by
    intro tenantId settings hsettings
    rw [h.smtp] at hsettings
    rw [h.secrets]
    exact hs.smtp tenantId settings hsettings

/-- Everything works after a write exactly where the value suits what was left as it was. -/
theorem Wrote.works_iff {secretName value : String} {keys : List TenantApiKey}
    {smtpWritten : List (String × String)}
    (h : Wrote sha256 lower s s' secretName value keys smtpWritten) (hs : s.Works sha256 lower) :
    s'.Works sha256 lower <-> Suits sha256 lower keys smtpWritten secretName value := by
  constructor
  · intro hworks
    constructor
    · intro row hrow hlive hname
      have hread := hworks.readsBack_key (h.known row hrow).2 hlive
      rw [h.secrets] at hread
      exact (Dict.readsBack_set_iff (hs.readsBack_key (h.known row hrow).1 hlive)).mp hread hname
    · intro tenantId settings hsettings hname
      rcases h.smtpKnown tenantId settings hsettings with ⟨hbefore, hafter⟩
      have hread := hworks.readsBack_smtp hafter
      rw [h.secrets] at hread
      exact (Dict.readsBack_set_iff (hs.readsBack_smtp hbefore)).mp hread hname
  · intro hsuits
    apply KeyStore.works_of_readsBack
    · intro row hrow hlive
      rw [h.secrets]
      rcases h.fresh row hrow with hknown | ⟨hname, hhash⟩
      · exact (Dict.readsBack_set_iff (hs.readsBack_key (h.known row hknown).1 hlive)).mpr
          (hsuits.keys row hknown hlive)
      · rw [hname]
        exact Dict.readsBack_set_self.mpr hhash
    · intro tenantId settings hsettings
      rw [h.secrets]
      rcases h.smtpFresh tenantId settings hsettings with hknown | ⟨hname, heq⟩
      · exact (Dict.readsBack_set_iff
          (hs.readsBack_smtp (h.smtpKnown tenantId settings hknown).1)).mpr
            (hsuits.smtp tenantId settings hknown)
      · rw [hname]
        exact Dict.readsBack_set_self.mpr heq

/-!
## One lemma for each call
-/

theorem Wrote.ofKeys {secretName value : String} {keys : List TenantApiKey}
    (hsecrets : s'.secrets = Dict.set (resourceName lower secretName) value s.secrets)
    (hknown : forall row, row ∈ keys -> row ∈ s.rows ∧ row ∈ s'.rows)
    (hfresh : forall row, row ∈ s'.rows -> row ∈ keys ∨
      resourceName lower row.secretName = resourceName lower secretName ∧
        row.keyHash = sha256 value)
    (hsmtp : s'.smtpWritten = s.smtpWritten) :
    Wrote sha256 lower s s' secretName value keys s.smtpWritten where
  secrets := hsecrets
  known := hknown
  fresh := hfresh
  smtpKnown := fun _ _ h => ⟨h, hsmtp ▸ h⟩
  smtpFresh := fun _ _ h => .inl (hsmtp ▸ h)

/-- After a call that fails, the keys committed before are left. -/
theorem Wrote.ofRollback {secretName value : String}
    (hsecrets : s'.secrets = Dict.set (resourceName lower secretName) value s.secrets)
    (hkeys : s'.keys = s.keys) (hsmtp : s'.smtpWritten = s.smtpWritten) :
    Wrote sha256 lower s s'.rollback secretName value s.keys s.smtpWritten := by
  have hrows : s'.rollback.rows = s.keys := by
    unfold KeyStore.rollback KeyStore.rows
    rw [hkeys, List.append_nil]
  have hsame : s'.rollback.secrets = Dict.set (resourceName lower secretName) value s.secrets :=
    hsecrets
  apply Wrote.ofKeys hsame
  · intro row hrow
    rw [hrows]
    exact ⟨List.mem_append_left _ hrow, hrow⟩
  · intro row hrow
    rw [hrows] at hrow
    exact .inl hrow
  · exact hsmtp

theorem commitSession_of_commits {faults : Faults} {rows : List TenantApiKey}
    (h : commits faults rows = true) :
    commitSession faults.commit rows s = .ok { s with keys := rows, added := [] } := by
  rcases Bool.and_eq_true_iff.mp h with ⟨hunique, hfault⟩
  unfold commitSession
  rw [hunique, Option.isNone_iff_eq_none.mp hfault]
  rfl

theorem commitSession_of_not_commits {faults : Faults} {rows : List TenantApiKey}
    (h : commits faults rows = false) :
    exists e, commitSession faults.commit rows s = .error e := by
  unfold commits at h
  unfold commitSession
  cases hunique : uniqueKeys rows with
  | false => exact ⟨.integrityError, rfl⟩
  | true =>
      cases hfault : faults.commit with
      | some e => exact ⟨e, rfl⟩
      | none =>
          rw [hunique, hfault] at h
          cases h

section Creation

variable {tenantId uniqueApiKeyId : String} {isSystem : Bool} {createdBy role : String}
  {commit : Bool} {systemDescription : Option String} {apiKey : String} {faults : Faults}

theorem createApiKey_quiet {e : ApiException}
    (h : writeSecret lower faults.api (keySecretName tenantId uniqueApiKeyId) apiKey s.secrets =
      .error e) :
    Quiet s (settle (createApiKey sha256 lower tenantId uniqueApiKeyId isSystem createdBy role
      commit systemDescription apiKey faults s)) := by
  unfold createApiKey
  rw [h]
  exact ⟨rfl, fun row hrow => List.mem_append_left _ ((List.append_nil s.keys) ▸ hrow), rfl⟩

theorem createApiKey_wrote {secrets : Secrets}
    (h : writeSecret lower faults.api (keySecretName tenantId uniqueApiKeyId) apiKey s.secrets =
      .ok secrets) :
    Wrote sha256 lower s
      (settle (createApiKey sha256 lower tenantId uniqueApiKeyId isSystem createdBy role commit
        systemDescription apiKey faults s))
      (keySecretName tenantId uniqueApiKeyId) apiKey
      (if !commit || commits faults (s.rows ++ [newInstallationApiKey sha256 tenantId
        uniqueApiKeyId isSystem createdBy role systemDescription apiKey]) then s.rows else s.keys)
      s.smtpWritten := by
  have hsecrets := writeSecret_eq_ok h
  have hcreated : forall s' : KeyStore, s'.secrets = secrets ->
      s'.rows = s.rows ++ [newInstallationApiKey sha256 tenantId uniqueApiKeyId isSystem createdBy
        role systemDescription apiKey] -> s'.smtpWritten = s.smtpWritten ->
          Wrote sha256 lower s s' (keySecretName tenantId uniqueApiKeyId) apiKey s.rows
            s.smtpWritten := by
    intro s' hwritten hrows hsmtp
    apply Wrote.ofKeys (hwritten.trans hsecrets)
    · intro row hrow
      rw [hrows]
      exact ⟨hrow, List.mem_append_left _ hrow⟩
    · intro row hrow
      rw [hrows] at hrow
      rcases List.mem_append.mp hrow with hold | hnew
      · exact .inl hold
      · rw [List.mem_singleton.mp hnew]
        exact .inr ⟨rfl, rfl⟩
    · exact hsmtp
  unfold createApiKey
  rw [h]
  cases commit with
  | false => exact hcreated _ rfl (List.append_assoc _ _ _).symm rfl
  | true =>
      simp only [Bool.not_true, Bool.false_or, if_true]
      have hrows : KeyStore.rows { s with
          secrets := secrets
          added := s.added ++ [newInstallationApiKey sha256 tenantId uniqueApiKeyId isSystem
            createdBy role systemDescription apiKey] } =
          s.rows ++ [newInstallationApiKey sha256 tenantId uniqueApiKeyId isSystem createdBy role
            systemDescription apiKey] := (List.append_assoc _ _ _).symm
      rw [hrows]
      cases hcommits : commits faults (s.rows ++ [newInstallationApiKey sha256 tenantId
          uniqueApiKeyId isSystem createdBy role systemDescription apiKey]) with
      | true =>
          rw [commitSession_of_commits hcommits]
          exact hcreated _ rfl (List.append_nil _) rfl
      | false =>
          rcases commitSession_of_not_commits hcommits with ⟨e, he⟩
          rw [he]
          cases e with
          | integrityError => exact Wrote.ofRollback hsecrets rfl rfl
          | operationalError => exact Wrote.ofRollback hsecrets rfl rfl

theorem createApiKey_works_iff (hs : s.Works sha256 lower) :
    (settle (createApiKey sha256 lower tenantId uniqueApiKeyId isSystem createdBy role commit
        systemDescription apiKey faults s)).Works sha256 lower <->
      s.CreationSuits sha256 lower tenantId uniqueApiKeyId isSystem createdBy role commit
        systemDescription apiKey faults := by
  unfold KeyStore.CreationSuits
  cases hwrite : writeSecret lower faults.api (keySecretName tenantId uniqueApiKeyId) apiKey
      s.secrets with
  | error e =>
      apply iff_of_true ((createApiKey_quiet hwrite).works hs)
      intro created secrets h
      cases h
  | ok secrets =>
      rw [(createApiKey_wrote hwrite).works_iff hs]
      constructor
      · intro h created _ _
        exact h
      · intro h
        exact h secrets rfl

end Creation

section Update

variable {tenantId uniqueApiKeyId apiKey : String} {faults : Faults}

theorem mem_rekeyed {row : TenantApiKey} {rows : List TenantApiKey}
    (h : row ∈ rekeyed sha256 tenantId uniqueApiKeyId apiKey rows) :
    row ∈ otherKeys tenantId uniqueApiKeyId rows ∨
      row.secretName = keySecretName tenantId uniqueApiKeyId ∧ row.keyHash = sha256 apiKey := by
  rcases List.mem_map.mp h with ⟨before, hbefore, heq⟩
  cases hentry : before.referenceId == uniqueApiKeyId && before.tenantId == tenantId with
  | true =>
      rw [hentry] at heq
      rcases Bool.and_eq_true_iff.mp hentry with ⟨hreference, htenant⟩
      rw [← heq]
      right
      unfold TenantApiKey.secretName
      rw [if_pos rfl, beq_iff_eq.mp hreference, beq_iff_eq.mp htenant]
      exact ⟨rfl, rfl⟩
  | false =>
      rw [hentry] at heq
      rw [← heq]
      left
      refine List.mem_filter.mpr ⟨hbefore, ?_⟩
      simp only [Bool.false_eq_true, if_false, hentry, Bool.not_false]

theorem otherKeys_subset_rekeyed {row : TenantApiKey} {rows : List TenantApiKey}
    (h : row ∈ otherKeys tenantId uniqueApiKeyId rows) :
    row ∈ rekeyed sha256 tenantId uniqueApiKeyId apiKey rows := by
  rcases List.mem_filter.mp h with ⟨hrow, hother⟩
  refine List.mem_map.mpr ⟨row, hrow, if_neg fun hentry => ?_⟩
  rw [hentry] at hother
  cases hother

theorem updateApiKeyInternal_wrote {entry : TenantApiKey} {secrets : Secrets}
    (hselect : selectKey tenantId uniqueApiKeyId s = .ok (some entry))
    (h : writeSecret lower faults.api (keySecretName tenantId uniqueApiKeyId) apiKey s.secrets =
      .ok secrets) :
    Wrote sha256 lower s
      (settle (updateApiKeyInternal sha256 lower tenantId uniqueApiKeyId apiKey faults s))
      (keySecretName tenantId uniqueApiKeyId) apiKey
      (if commits faults (rekeyed sha256 tenantId uniqueApiKeyId apiKey s.rows) then
        otherKeys tenantId uniqueApiKeyId s.rows
      else s.keys)
      s.smtpWritten := by
  have hsecrets := writeSecret_eq_ok h
  unfold updateApiKeyInternal
  rw [hselect]
  simp only
  rw [h]
  simp only
  have hrows : KeyStore.rows { s with secrets := secrets } = s.rows := rfl
  rw [hrows]
  cases hcommits : commits faults (rekeyed sha256 tenantId uniqueApiKeyId apiKey s.rows) with
  | true =>
      rw [commitSession_of_commits hcommits, if_pos rfl]
      apply Wrote.ofKeys hsecrets
      · intro row hrow
        refine ⟨(List.mem_filter.mp hrow).1, List.mem_append_left _ ?_⟩
        exact otherKeys_subset_rekeyed hrow
      · intro row hrow
        have hrekeyed : row ∈ rekeyed sha256 tenantId uniqueApiKeyId apiKey s.rows ++ [] := hrow
        rw [List.append_nil] at hrekeyed
        rcases mem_rekeyed hrekeyed with hother | ⟨hname, hhash⟩
        · exact .inl hother
        · exact .inr ⟨congrArg (resourceName lower) hname, hhash⟩
      · rfl
  | false =>
      rcases commitSession_of_not_commits hcommits with ⟨e, he⟩
      rw [he]
      exact Wrote.ofRollback hsecrets rfl rfl

/-- A call that writes no secret leaves everything working. -/
theorem quiet_rollback : Quiet s s.rollback where
  secrets := rfl
  rows := fun _ hrow => List.mem_append_left _ ((List.append_nil s.keys) ▸ hrow)
  smtp := rfl

theorem quiet_self : Quiet s s where
  secrets := rfl
  rows := fun _ hrow => hrow
  smtp := rfl

theorem updateApiKeyInternal_works_iff (hs : s.Works sha256 lower) :
    (settle (updateApiKeyInternal sha256 lower tenantId uniqueApiKeyId apiKey faults s)).Works
        sha256 lower <->
      s.Safe sha256 lower (.update tenantId uniqueApiKeyId apiKey faults) := by
  simp only [KeyStore.Safe]
  cases hselect : selectKey tenantId uniqueApiKeyId s with
  | error e =>
      have hquiet : Quiet s (settle (updateApiKeyInternal sha256 lower tenantId uniqueApiKeyId
          apiKey faults s)) := by
        unfold updateApiKeyInternal
        rw [hselect]
        exact quiet_rollback
      exact iff_of_true (hquiet.works hs) fun _ h => (by cases h)
  | ok found =>
      cases found with
      | none =>
          have hquiet : Quiet s (settle (updateApiKeyInternal sha256 lower tenantId uniqueApiKeyId
              apiKey faults s)) := by
            unfold updateApiKeyInternal
            rw [hselect]
            exact quiet_self
          exact iff_of_true (hquiet.works hs) fun _ h => (by cases h)
      | some entry =>
          cases hwrite : writeSecret lower faults.api (keySecretName tenantId uniqueApiKeyId)
              apiKey s.secrets with
          | error e =>
              have hquiet : Quiet s (settle (updateApiKeyInternal sha256 lower tenantId
                  uniqueApiKeyId apiKey faults s)) := by
                unfold updateApiKeyInternal
                rw [hselect]
                simp only
                rw [hwrite]
                exact quiet_rollback
              exact iff_of_true (hquiet.works hs) fun _ _ _ h => (by cases h)
          | ok secrets =>
              rw [(updateApiKeyInternal_wrote hselect hwrite).works_iff hs]
              constructor
              · intro h _ _ _ _
                exact h
              · intro h
                exact h entry rfl secrets rfl

end Update

theorem getOrCreateApiKey_works_iff {tenantId createdBy uniqueApiKeyId : String}
    {systemDescription : Option String} {apiKey : String} {faults : Faults}
    (hs : s.Works sha256 lower) :
    (settle (getOrCreateApiKey sha256 lower tenantId createdBy uniqueApiKeyId systemDescription
        apiKey faults s)).Works sha256 lower <->
      s.Safe sha256 lower (.getOrCreate tenantId createdBy uniqueApiKeyId systemDescription apiKey
        faults) := by
  simp only [KeyStore.Safe]
  unfold getOrCreateApiKey
  cases hselect : selectKey tenantId uniqueApiKeyId s with
  | error e => exact iff_of_true (quiet_rollback.works hs) fun h => (by cases h)
  | ok found =>
      cases found with
      | none =>
          simp only
          rw [createApiKey_works_iff hs]
          exact ⟨fun h _ => h, fun h => h trivial⟩
      | some entry =>
          refine iff_of_true ?_ fun h => (by cases h)
          cases hread : readSecret lower faults.api (keySecretName tenantId uniqueApiKeyId)
              s.secrets with
          | error e =>
              simp only
              exact quiet_rollback.works hs
          | ok secret =>
              simp only
              exact quiet_self.works hs

theorem updateSmtpSettings_works_iff {tenantId settings : String} {faults : Faults}
    (hs : s.Works sha256 lower) :
    (settle (updateSmtpSettings lower tenantId settings faults s)).Works sha256 lower <->
      s.Safe sha256 lower (.writeSmtp tenantId settings faults) := by
  simp only [KeyStore.Safe]
  unfold updateSmtpSettings
  cases hwrite : writeSecret lower faults.api (smtpSecretName tenantId) settings s.secrets with
  | error e => exact iff_of_true (quiet_rollback.works hs) fun _ h => (by cases h)
  | ok secrets =>
      have hwrote : Wrote sha256 lower s
          { s with
            secrets := secrets
            smtpWritten := Dict.set tenantId settings s.smtpWritten }
          (smtpSecretName tenantId) settings s.rows (Dict.erase tenantId s.smtpWritten) := by
        constructor
        · exact writeSecret_eq_ok hwrite
        · exact fun row hrow => ⟨hrow, hrow⟩
        · exact fun row hrow => .inl hrow
        · intro other written hother
          rw [Dict.lookup_erase] at hother
          split at hother
          · cases hother
          · rename_i hne
            exact ⟨hother, (Dict.lookup_set_ne hne settings s.smtpWritten).trans hother⟩
        · intro other written hother
          rw [Dict.lookup_erase]
          rcases Classical.em (tenantId = other) with heq | hne
          · rw [← heq, Dict.lookup_set_self] at hother
            cases hother
            exact .inr ⟨heq ▸ rfl, rfl⟩
          · rw [if_neg hne]
            rw [Dict.lookup_set_ne hne] at hother
            exact .inl hother
      exact (hwrote.works_iff hs).trans ⟨fun h _ _ => h, fun h => h secrets rfl⟩

/-!
## Histories
-/

theorem call_works_iff (hs : s.Works sha256 lower) (c : KeyCall) :
    (s.call sha256 lower c).Works sha256 lower <-> s.Safe sha256 lower c := by
  cases c with
  | create tenantId uniqueApiKeyId isSystem createdBy role commit systemDescription apiKey faults =>
      exact createApiKey_works_iff hs
  | update tenantId uniqueApiKeyId apiKey faults => exact updateApiKeyInternal_works_iff hs
  | getOrCreate tenantId createdBy uniqueApiKeyId systemDescription apiKey faults =>
      exact getOrCreateApiKey_works_iff hs
  | writeSmtp tenantId settings faults => exact updateSmtpSettings_works_iff hs


variable (sha256 lower) in
/-- The keys and settings after each call of a history. -/
def WorksThroughout (s : KeyStore) (calls : List KeyCall) : Prop :=
  Run.Along (fun s c => some (KeyStore.call sha256 lower s c))
    (fun s c => (s.call sha256 lower c).Works sha256 lower) s calls

variable (sha256 lower) in
def SafeThroughout (s : KeyStore) (calls : List KeyCall) : Prop :=
  Run.Along (fun s c => some (KeyStore.call sha256 lower s c))
    (fun s c => s.Safe sha256 lower c) s calls

/-- Every key works after every call exactly where each call is safe at the state before it. -/
theorem worksThroughout_iff (hs : s.Works sha256 lower) (calls : List KeyCall) :
    WorksThroughout sha256 lower s calls <-> SafeThroughout sha256 lower s calls := by
  have hstep : forall (s : KeyStore) (c : KeyCall) (s' : KeyStore), s.Works sha256 lower ->
      s.Safe sha256 lower c -> some (s.call sha256 lower c) = some s' ->
        s'.Works sha256 lower := by
    intro s c s' hs hsafe hcall
    cases hcall
    exact (call_works_iff hs c).mpr hsafe
  exact Run.along_iff_along (fun s c hs => call_works_iff hs c) hstep hs calls

end Agreement

namespace KeySample

/-- It stands for the digest, which is not computed here. -/
def sha256 (secret : String) : String := "sha256 of " ++ secret

def noFault : Faults := ⟨noFaults, none⟩

def empty : KeyStore := ⟨[], [], [], []⟩

theorem empty_works : empty.Works sha256 id where
  keys := fun _ hrow => absurd hrow List.not_mem_nil
  smtp := fun _ _ h => by cases h

def created (apiKey : String) : KeyCall :=
  .create "t" "ci" false "someone" "admin" true none apiKey noFault

def fetched : KeyCall := .getOrCreate "t" "system" "ci" none "unused" noFault

def row : TenantApiKey := newInstallationApiKey sha256 "t" "ci" false "someone" "admin" none "k1"

theorem call_created : empty.call sha256 id (created "k1") = ⟨[("t-ci", "k1")], [row], [], []⟩ := by
  rfl

theorem call_created_again :
    KeyStore.call sha256 id ⟨[("t-ci", "k1")], [row], [], []⟩ (created "k2") =
      ⟨[("t-ci", "k2")], [row], [], []⟩ := by
  rfl

end KeySample

open KeySample in
/-- A key that is created and read back works. -/
theorem created_fetched_worksThroughout :
    WorksThroughout sha256 id empty [created "k1", fetched] := by
  refine (worksThroughout_iff empty_works [created "k1", fetched]).mpr ⟨?_, ?_⟩
  · intro _ _
    exact ⟨fun _ hrow => absurd hrow List.not_mem_nil, fun _ _ h => (by cases h)⟩
  · intro s' hstep
    cases hstep
    rw [call_created]
    exact ⟨fun h => (by cases h), fun _ _ => trivial⟩

open KeySample in
/-- A second creation of a key is refused, and leaves its secret with the first. -/
theorem createdAgain_not_worksThroughout :
    ¬ forall (sha256 lower : String -> String) (s : KeyStore) (calls : List KeyCall),
      s.Works sha256 lower -> WorksThroughout sha256 lower s calls := by
  intro h
  rcases h sha256 id empty [created "k1", created "k2"] empty_works with ⟨-, hafter⟩
  have hworks := (hafter _ rfl).1
  rw [call_created, call_created_again] at hworks
  rcases hworks.keys row List.mem_cons_self rfl with ⟨secret, hread, hhash⟩
  have hsecret : secret = "k2" := (Except.ok.inj hread).symm
  rw [hsecret] at hhash
  exact absurd hhash (by decide)

end Tenants
end KeepGateway
