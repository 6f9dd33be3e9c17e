import KeepGateway.Lib.Dict
import KeepGateway.Lib.FirstMatch
import Mathlib.Data.List.Induction

/-!
# The last use of API keys

`_verify_api_key` of `authverifierbase.py` over a run of requests to one verifier.  Times are in
microseconds, and every write succeeds.
-/

namespace KeepGateway
namespace Identity
namespace ApiKeyUsage

/-- The columns of an API key that no request changes. -/
structure TenantApiKey where
  tenantId : String
  referenceId : String
  keyHash : String
  isDeleted : Bool
  createdBy : String
  role : String
  deriving DecidableEq, Repr

/-- What a row is selected by to be updated. -/
def TenantApiKey.reference (key : TenantApiKey) : String × String := (key.tenantId, key.referenceId)

/-- The keys, by their primary key and `unique_tenant_reference`. -/
structure KeyTable where
  keys : List TenantApiKey
  hashes : (keys.map TenantApiKey.keyHash).Nodup
  references : (keys.map TenantApiKey.reference).Nodup

structure AuthenticatedEntity where
  tenantId : String
  email : String
  apiKeyName : String
  role : String
  deriving DecidableEq, Repr

/-- The `last_used` column by the references of the rows, the cache of the verifier, and what was
written to the column, in order. -/
structure Usage where
  lastUsed : String × String -> Option Int
  keyLastUsedUpdates : List (String × Int)
  written : List ((String × String) × Int)

/-- A request with its API key. -/
structure KeyRequest where
  time : Int
  apiKey : String
  deriving DecidableEq, Repr

/-- `timedelta(seconds=...)` -/
def seconds (n : Int) : Int := n * 1000000

/-- The key of the cache. -/
def TenantApiKey.cacheKey (key : TenantApiKey) : String := key.tenantId ++ ":" ++ key.referenceId

section

variable (sha256 : String -> String) (table : KeyTable)

/-- `get_api_key` -/
def getApiKey (apiKey : String) : Option TenantApiKey :=
  table.keys.find? fun key => key.keyHash == sha256 apiKey && !key.isDeleted

/-- `update_key_last_used` -/
def updateKeyLastUsed (reference : String × String) (now : Int) (s : Usage) : Usage :=
  match table.keys.find? fun key => key.reference == reference with
  | none => s
  | some _ =>
      { s with
        lastUsed := Function.update s.lastUsed reference (some now)
        written := s.written ++ [(reference, now)] }

/-- `_verify_api_key` without impersonation; nothing is returned where the key is invalid. -/
def verifyApiKey (updateKeyInterval : Int) (request : KeyRequest) (s : Usage) :
    Option AuthenticatedEntity × Usage :=
  match getApiKey sha256 table request.apiKey with
  | none => (none, s)
  | some key =>
      let s :=
        match s.keyLastUsedUpdates.lookup key.cacheKey with
        | some updated =>
            -- a message is logged in the first branch, and neither updates the key
            if updated > request.time - seconds updateKeyInterval then s else s
        | none =>
            let s := updateKeyLastUsed table key.reference request.time s
            { s with keyLastUsedUpdates :=
                Dict.set key.cacheKey request.time s.keyLastUsedUpdates }
      (some ⟨key.tenantId, key.createdBy, key.referenceId, key.role⟩, s)

/-- A verifier that starts with an empty cache. -/
def started (lastUsed : String × String -> Option Int) : Usage := ⟨lastUsed, [], []⟩

/-- The state after a run of requests. -/
def afterRequests (updateKeyInterval : Int) (lastUsed : String × String -> Option Int)
    (requests : List KeyRequest) : Usage :=
  requests.foldl (fun s request => (verifyApiKey sha256 table updateKeyInterval request s).2)
    (started lastUsed)

/-!
## Fresh last uses
-/

/-- After each verified request the last use of its key is recent, and writes for one key are apart
from each other. -/
structure KeepsFresh (updateKeyInterval : Int) (lastUsed : String × String -> Option Int)
    (requests : List KeyRequest) : Prop where
  fresh : forall before request after, requests = before ++ request :: after ->
    forall key, getApiKey sha256 table request.apiKey = some key ->
      exists used, (afterRequests sha256 table updateKeyInterval lastUsed
          (before ++ [request])).lastUsed key.reference = some used ∧
        request.time - used ≤ seconds updateKeyInterval
  spaced : forall reference,
    (((afterRequests sha256 table updateKeyInterval lastUsed requests).written.filter
        fun write => write.1 == reference).map Prod.snd).IsChain
      fun earlier later => seconds updateKeyInterval ≤ later - earlier

/-- The request is verified with a key that is cached under this text. -/
def caches (cacheKey : String) (request : KeyRequest) : Bool :=
  (getApiKey sha256 table request.apiKey).any fun key => key.cacheKey == cacheKey

/-- Every request comes soon after the first one that is cached under the same text, where that
one is for the same key, and soon after the last use from before the run where it is not. -/
def SoonAfterFirst (updateKeyInterval : Int) (lastUsed : String × String -> Option Int)
    (requests : List KeyRequest) : Prop :=
  forall before request after, requests = before ++ request :: after ->
    forall key, getApiKey sha256 table request.apiKey = some key ->
      exists first, (before ++ [request]).find? (caches sha256 table key.cacheKey) = some first ∧
        if getApiKey sha256 table first.apiKey = some key then
          request.time - first.time ≤ seconds updateKeyInterval
        else
          exists used, lastUsed key.reference = some used ∧
            request.time - used ≤ seconds updateKeyInterval

end

/-!
## One request
-/

section

variable {sha256 : String -> String} {table : KeyTable}

theorem getApiKey_mem {apiKey : String} {key : TenantApiKey}
    (h : getApiKey sha256 table apiKey = some key) : key ∈ table.keys :=
  List.mem_of_find?_eq_some h

theorem eq_of_reference {key other : TenantApiKey} (hkey : key ∈ table.keys)
    (hother : other ∈ table.keys) (h : key.reference = other.reference) : key = other :=
  List.inj_on_of_nodup_map table.references hkey hother h

/-- The state after a request that is the first one cached under its text. -/
def noted (key : TenantApiKey) (now : Int) (s : Usage) : Usage where
  lastUsed := Function.update s.lastUsed key.reference (some now)
  keyLastUsedUpdates := Dict.set key.cacheKey now s.keyLastUsedUpdates
  written := s.written ++ [(key.reference, now)]

/-- A request only changes the state where its key is not cached. -/
theorem verifyApiKey_cases (d : Int) (request : KeyRequest) (s : Usage) :
    ((verifyApiKey sha256 table d request s).2 = s ∧
        forall key, getApiKey sha256 table request.apiKey = some key ->
          exists updated, s.keyLastUsedUpdates.lookup key.cacheKey = some updated) ∨
      exists key, getApiKey sha256 table request.apiKey = some key ∧
        s.keyLastUsedUpdates.lookup key.cacheKey = none ∧
        (verifyApiKey sha256 table d request s).2 = noted key request.time s := by
  unfold verifyApiKey
  cases hkey : getApiKey sha256 table request.apiKey with
  | none =>
      refine Or.inl ⟨rfl, ?_⟩
      intro key h
      cases h
  | some key =>
      cases hlookup : s.keyLastUsedUpdates.lookup key.cacheKey with
      | some updated =>
          refine Or.inl ⟨?_, ?_⟩
          · simp only [hlookup, ite_self]
          · intro other hother
            cases hother
            exact ⟨updated, hlookup⟩
      | none =>
          refine Or.inr ⟨key, rfl, hlookup, ?_⟩
          have hfound : (table.keys.find? fun other => other.reference == key.reference) =
              some key := (FirstMatch.find?_key table.references).mpr ⟨getApiKey_mem hkey, rfl⟩
          simp only [hlookup, updateKeyLastUsed, hfound]
          rfl

theorem caches_eq {request : KeyRequest} {key : TenantApiKey}
    (h : getApiKey sha256 table request.apiKey = some key) (cacheKey : String) :
    caches sha256 table cacheKey request = (key.cacheKey == cacheKey) := by
  rw [caches, h]
  rfl

/-!
## Runs of requests
-/

variable {d : Int} {lastUsed : String × String -> Option Int}

theorem afterRequests_concat (requests : List KeyRequest) (request : KeyRequest) :
    afterRequests sha256 table d lastUsed (requests ++ [request]) =
      (verifyApiKey sha256 table d request (afterRequests sha256 table d lastUsed requests)).2 := by
  unfold afterRequests
  rw [List.foldl_append]
  rfl

/-- What a request does to the state and to the first requests, where the cache holds the times of
the first requests. -/
theorem concat_cases {requests : List KeyRequest} (request : KeyRequest)
    (hcache : forall cacheKey,
      (afterRequests sha256 table d lastUsed requests).keyLastUsedUpdates.lookup cacheKey =
        (requests.find? (caches sha256 table cacheKey)).map KeyRequest.time) :
    (afterRequests sha256 table d lastUsed (requests ++ [request]) =
          afterRequests sha256 table d lastUsed requests ∧
        forall cacheKey, (requests ++ [request]).find? (caches sha256 table cacheKey) =
          requests.find? (caches sha256 table cacheKey)) ∨
      exists key, getApiKey sha256 table request.apiKey = some key ∧
        requests.find? (caches sha256 table key.cacheKey) = none ∧
        afterRequests sha256 table d lastUsed (requests ++ [request]) =
          noted key request.time (afterRequests sha256 table d lastUsed requests) ∧
        forall cacheKey, (requests ++ [request]).find? (caches sha256 table cacheKey) =
          if key.cacheKey = cacheKey then some request
          else requests.find? (caches sha256 table cacheKey) := by
  rw [afterRequests_concat]
  rcases verifyApiKey_cases d request (afterRequests sha256 table d lastUsed requests) with
    ⟨hsame, hcached⟩ | ⟨key, hkey, hnew, hnoted⟩
  · refine Or.inl ⟨hsame, ?_⟩
    intro cacheKey
    rw [List.find?_append]
    cases hfound : requests.find? (caches sha256 table cacheKey) with
    | some first => rfl
    | none =>
        have hnot : ¬ caches sha256 table cacheKey request = true := by
          intro hcaches
          rcases (Option.any_eq_true _ _).mp hcaches with ⟨key, hkey, heq⟩
          rcases hcached key hkey with ⟨updated, hupdated⟩
          rw [hcache, beq_iff_eq.mp heq, hfound] at hupdated
          cases hupdated
        rw [List.find?_cons_of_neg hnot]
        rfl
  · rw [hcache, Option.map_eq_none_iff] at hnew
    refine Or.inr ⟨key, hkey, hnew, hnoted, ?_⟩
    intro cacheKey
    rw [List.find?_append, List.find?_singleton, caches_eq hkey]
    rcases Classical.em (key.cacheKey = cacheKey) with heq | hne
    · rw [if_pos heq, ← heq, hnew, if_pos (beq_self_eq_true _)]
      rfl
    · rw [if_neg hne, if_neg (mt beq_iff_eq.mp hne), Option.or_none]

/-- The cache holds the time of the first request for each text. -/
theorem lookup_cache (requests : List KeyRequest) (cacheKey : String) :
    (afterRequests sha256 table d lastUsed requests).keyLastUsedUpdates.lookup cacheKey =
      (requests.find? (caches sha256 table cacheKey)).map KeyRequest.time := by
  induction requests using List.reverseRecOn generalizing cacheKey with
  | nil => rfl
  | append_singleton requests request ih =>
      rcases concat_cases request ih with ⟨hsame, hfind⟩ | ⟨key, _, _, hnoted, hfind⟩
      · rw [hsame, hfind, ih]
      · rw [hnoted, hfind]
        show (Dict.set key.cacheKey request.time _).lookup cacheKey = _
        rw [Dict.lookup_set, ih]
        split <;> rfl

/-- The row of a key holds the time of the first request that is cached under its text, if that
one was for the key. -/
theorem lastUsed_after {key : TenantApiKey} (hmem : key ∈ table.keys)
    (requests : List KeyRequest) :
    (afterRequests sha256 table d lastUsed requests).lastUsed key.reference =
      match requests.find? (caches sha256 table key.cacheKey) with
      | none => lastUsed key.reference
      | some first =>
          if getApiKey sha256 table first.apiKey = some key then some first.time
          else lastUsed key.reference := by
  induction requests using List.reverseRecOn with
  | nil => rfl
  | append_singleton requests request ih =>
      rcases concat_cases request (lookup_cache requests) with
        ⟨hsame, hfind⟩ | ⟨other, hother, hnone, hnoted, hfind⟩
      · rw [hsame, hfind, ih]
      · rw [hnoted, hfind]
        show Function.update _ other.reference _ key.reference = _
        rcases Classical.em (key = other) with heq | hne
        · rw [heq, Function.update_self, if_pos rfl]
          exact (if_pos hother).symm
        · have hreference : key.reference ≠ other.reference :=
            fun heq => hne (eq_of_reference hmem (getApiKey_mem hother) heq)
          rw [Function.update_of_ne hreference, ih]
          rcases Classical.em (other.cacheKey = key.cacheKey) with hcache | hcache
          · have hget : getApiKey sha256 table request.apiKey ≠ some key := by
              rw [hother]
              exact fun heq => hne (Option.some.inj heq).symm
            rw [if_pos hcache, ← hcache, hnone]
            exact (if_neg hget).symm
          · rw [if_neg hcache]

/-- No key is written twice. -/
theorem written_nodup (requests : List KeyRequest) :
    ((afterRequests sha256 table d lastUsed requests).written.map Prod.fst).Nodup ∧
      forall key, key ∈ table.keys ->
        key.reference ∈ (afterRequests sha256 table d lastUsed requests).written.map Prod.fst ->
          exists first, requests.find? (caches sha256 table key.cacheKey) = some first := by
  induction requests using List.reverseRecOn with
  | nil =>
      refine ⟨List.nodup_nil, ?_⟩
      intro key _ h
      cases h
  | append_singleton requests request ih =>
      rcases ih with ⟨hnodup, hfirst⟩
      have hcases := @concat_cases sha256 table d lastUsed requests request (lookup_cache requests)
      rcases hcases with ⟨hsame, hfind⟩ | ⟨other, hother, hnone, hnoted, hfind⟩
      · rw [hsame]
        simp only [hfind]
        exact ⟨hnodup, hfirst⟩
      · have hmem := getApiKey_mem hother
        have hnew : other.reference ∉
            (afterRequests sha256 table d lastUsed requests).written.map Prod.fst := by
          intro h
          rcases hfirst other hmem h with ⟨first, hfound⟩
          rw [hnone] at hfound
          cases hfound
        have hwritten : (afterRequests sha256 table d lastUsed
              (requests ++ [request])).written.map Prod.fst =
            (afterRequests sha256 table d lastUsed requests).written.map Prod.fst ++
              [other.reference] := by
          rw [hnoted]
          exact List.map_append
        rw [hwritten]
        refine ⟨List.nodup_append'.mpr ⟨hnodup, List.nodup_singleton _, ?_⟩, ?_⟩
        · simpa using hnew
        · intro key hkey h
          rw [hfind]
          rcases List.mem_append.mp h with h | h
          · rcases hfirst key hkey h with ⟨first, hfound⟩
            split
            · exact ⟨request, rfl⟩
            · exact ⟨first, hfound⟩
          · rw [eq_of_reference hkey hmem (List.mem_singleton.mp h), if_pos rfl]
            exact ⟨request, rfl⟩

end

/-- The last use of a key stays fresh while the requests come soon after the first one. -/
theorem keepsFresh_iff (sha256 : String -> String) (table : KeyTable) (updateKeyInterval : Int)
    (lastUsed : String × String -> Option Int) (requests : List KeyRequest) :
    KeepsFresh sha256 table updateKeyInterval lastUsed requests <->
      SoonAfterFirst sha256 table updateKeyInterval lastUsed requests := by
  have hfresh : forall (before : List KeyRequest) (request : KeyRequest) (key : TenantApiKey),
      getApiKey sha256 table request.apiKey = some key ->
        ((exists used, (afterRequests sha256 table updateKeyInterval lastUsed
              (before ++ [request])).lastUsed key.reference = some used ∧
            request.time - used ≤ seconds updateKeyInterval) <->
          exists first,
            (before ++ [request]).find? (caches sha256 table key.cacheKey) = some first ∧
            if getApiKey sha256 table first.apiKey = some key then
              request.time - first.time ≤ seconds updateKeyInterval
            else
              exists used, lastUsed key.reference = some used ∧
                request.time - used ≤ seconds updateKeyInterval) := by
    intro before request key hkey
    rw [lastUsed_after (getApiKey_mem hkey)]
    have hcaches : caches sha256 table key.cacheKey request = true := by
      rw [caches_eq hkey]
      exact beq_self_eq_true _
    cases hfound : (before ++ [request]).find? (caches sha256 table key.cacheKey) with
    | none =>
        exact absurd hcaches (List.find?_eq_none.mp hfound request List.mem_concat_self)
    | some first =>
        simp only [Option.some.injEq, exists_eq_left']
        split
        · simp only [Option.some.injEq, exists_eq_left']
        · exact Iff.rfl
  constructor
  · intro h before request after hrequests key hkey
    exact (hfresh before request key hkey).mp (h.fresh before request after hrequests key hkey)
  · intro h
    constructor
    · intro before request after hrequests key hkey
      exact (hfresh before request key hkey).mpr (h before request after hrequests key hkey)
    · intro reference
      rw [FirstMatch.filter_of_key (written_nodup requests).1 fun write _ h => beq_iff_eq.mp h]
      cases List.find? _ _ with
      | none => exact .nil
      | some write => exact .singleton _

/-- A tenant with one key. -/
def oneKey : KeyTable where
  keys := [⟨"keep", "ci", "secret", false, "admin@keep", "admin"⟩]
  hashes := List.nodup_singleton _
  references := List.nodup_singleton _

/-- Two requests with it, 61 seconds apart. -/
def twoRequests : List KeyRequest := [⟨0, "secret"⟩, ⟨61000000, "secret"⟩]

/-- The second request does not write although the interval of 60 seconds has passed. -/
theorem twoRequests_not_fresh : ¬ KeepsFresh id oneKey 60 (fun _ => none) twoRequests := by
  intro h
  rcases h.fresh [⟨0, "secret"⟩] ⟨61000000, "secret"⟩ [] rfl _ rfl with ⟨used, hused, hle⟩
  have hfirst : (afterRequests id oneKey 60 (fun _ => none) twoRequests).lastUsed ("keep", "ci") =
      some 0 := by decide
  cases hfirst.symm.trans hused
  exact absurd hle (by decide)

end ApiKeyUsage
end Identity
end KeepGateway
