import KeepGateway.Deduplication.IgnoredFields

/-!
# Deduplication with and without statistics

`apply_deduplication` under both values of `DEDUPLICATION_DISTRIBUTION_ENABLED`.  The loop is
left early only where statistics are recorded.
-/

namespace KeepGateway
namespace Deduplication

open JsonText (Value dumps dumps_sorted_inj sorted_object_eq_iff)

inductive DeduplicationError where
  | field (error : FieldError)
  /-- an event without the id of a rule -/
  | integrityError
  deriving DecidableEq, Repr

/-- A call of `create_deduplication_event`. -/
structure DeduplicationEvent where
  deduplicationRuleId : String
  deduplicationType : String
  deriving DecidableEq, Repr

/-- `create_deduplication_event`: the table takes no event whose rule has no id.  Of an id that
is no UUID there will be no row. -/
def createDeduplicationEvent (rule : DeduplicationRuleDto) (deduplicationType : String) :
    Except DeduplicationError DeduplicationEvent :=
  match rule.id with
  | some id => .ok ⟨id, deduplicationType⟩
  | none => .error .integrityError

def AlertDto.isFullDuplicate (alert : AlertDto) : Bool := alert.isSet "is_full_duplicate"

def AlertDto.isPartialDuplicate (alert : AlertDto) : Bool := alert.isSet "is_partial_duplicate"

section

variable (sha256 : String -> String) (lastHashes : LastHashes)

/-- The loop of `apply_deduplication`, with the events that it creates. -/
def applyRules (distributionEnabled : Bool) : List DeduplicationRuleDto -> AlertDto ->
    Except DeduplicationError (AlertDto × List DeduplicationEvent)
  | [], alert => .ok (alert, [])
  | rule :: rest, alert => do
      let alert <- (applyDeduplicationRule sha256 lastHashes rule alert).mapError .field
      if distributionEnabled then
        if alert.isFullDuplicate || alert.isPartialDuplicate then
          let event <- createDeduplicationEvent rule
            (if alert.isFullDuplicate then "full" else "partial")
          .ok (alert, [event])
        else
          let event <- createDeduplicationEvent rule "none"
          let (alert, events) <- applyRules distributionEnabled rest alert
          .ok (alert, event :: events)
      else applyRules distributionEnabled rest alert

/-- `apply_deduplication`; `stored` is what `get_deduplication_rules` returns. -/
def applyDeduplication (distributionEnabled : Bool) (stored rules : List DeduplicationRuleDto)
    (alert : AlertDto) : Except DeduplicationError (AlertDto × List DeduplicationEvent) :=
  applyRules sha256 lastHashes distributionEnabled (if rules = [] then stored else rules) alert

/-- The alert is returned. -/
def Returns (distributionEnabled : Bool) (rules : List DeduplicationRuleDto)
    (alert alert' : AlertDto) : Prop :=
  exists events,
    applyRules sha256 lastHashes distributionEnabled rules alert = .ok (alert', events)

/-- What the claim of a duplicate rests on. -/
structure SameVerdict (a b : AlertDto) : Prop where
  isFullDuplicate : a.isFullDuplicate = b.isFullDuplicate
  isPartialDuplicate : a.isPartialDuplicate = b.isPartialDuplicate
  alertHash : a.alertHash = b.alertHash

/-- An alert is returned with one verdict, whether statistics are recorded or not, and with one
flag at most. -/
def VerdictAgrees (stored rules : List DeduplicationRuleDto) (alert : AlertDto) : Prop :=
  exists on off onEvents offEvents,
    applyDeduplication sha256 lastHashes true stored rules alert = .ok (on, onEvents) ∧
    applyDeduplication sha256 lastHashes false stored rules alert = .ok (off, offEvents) ∧
    SameVerdict on off ∧ ¬ (on.isFullDuplicate = true ∧ on.isPartialDuplicate = true)

/-!
## When the verdicts agree
-/

/-- Each rule has a hash for the alert, with the hash of the rule before written into it. -/
def Hashed : List DeduplicationRuleDto -> AlertDto -> Prop
  | [], _ => True
  | rule :: rest, alert =>
      exists hash, hashOf sha256 rule alert = .ok hash ∧ Hashed rest (alert.setHash hash)

/-- Each rule has a hash for the alert, with the hash of the rule before and the flag of the
first rule written into it.  It is the last hash if and only if that of the first rule is, and
the hash of the first rule comes back in the end. -/
def Repeats (alert : AlertDto) (last first : String) : String -> List DeduplicationRuleDto -> Prop
  | hash, [] => hash = first
  | hash, rule :: rest =>
      exists next, hashOf sha256 rule ((alert.setHash hash).setFlag (last = first)) = .ok next ∧
        (last = next <-> last = first) ∧ Repeats alert last first next rest

/-- The rules that follow the first do not change what it finds. -/
def Settled (rules : List DeduplicationRuleDto) (alert : AlertDto) : Prop :=
  match lastHashes.of alert.fingerprint, rules with
  | none, rules => (forall rule, rule ∈ rules -> rule.id ≠ none) ∧ Hashed sha256 rules alert
  | some _, [] => True
  | some last, rule :: rest =>
      rule.id ≠ none ∧ exists hash, hashOf sha256 rule alert = .ok hash ∧
        Repeats sha256 alert last hash hash rest

end

/-!
## Attributes that are set
-/

section

variable (alert : AlertDto) (hash : String) (full : Bool)

theorem AlertDto.ext_attributes {a b : AlertDto} (hattributes : a.attributes = b.attributes)
    (hfingerprint : a.fingerprint = b.fingerprint) : a = b := by
  cases a
  cases b
  cases hattributes
  cases hfingerprint
  rfl

theorem isSet_setHash {name : String} (h : name ≠ "alert_hash") :
    (alert.setHash hash).isSet name = alert.isSet name := by
  unfold AlertDto.isSet
  rw [show (alert.setHash hash).attributes.lookup name = alert.attributes.lookup name from
    Dict.lookup_set_ne h.symm _ _]

@[simp]
theorem isFullDuplicate_setHash : (alert.setHash hash).isFullDuplicate = alert.isFullDuplicate :=
  isSet_setHash alert hash (by decide)

@[simp]
theorem isPartialDuplicate_setHash :
    (alert.setHash hash).isPartialDuplicate = alert.isPartialDuplicate :=
  isSet_setHash alert hash (by decide)

theorem isSet_setFlag (name : String) :
    (alert.setFlag full).isSet name = (decide (flagName full = name) || alert.isSet name) := by
  have hlookup : (alert.setFlag full).attributes.lookup name =
      if flagName full = name then some (Value.bool true) else alert.attributes.lookup name :=
    Dict.lookup_set _ _ _ _
  unfold AlertDto.isSet
  rw [hlookup]
  by_cases h : flagName full = name
  · rw [if_pos h, decide_eq_true h]
    rfl
  · rw [if_neg h, decide_eq_false h]
    rfl

@[simp]
theorem isFullDuplicate_setFlag :
    (alert.setFlag full).isFullDuplicate = (full || alert.isFullDuplicate) := by
  cases full <;> exact isSet_setFlag alert _ "is_full_duplicate"

@[simp]
theorem isPartialDuplicate_setFlag :
    (alert.setFlag full).isPartialDuplicate = (!full || alert.isPartialDuplicate) := by
  cases full <;> exact isSet_setFlag alert _ "is_partial_duplicate"

@[simp]
theorem alertHash_setFlag : (alert.setFlag full).alertHash = alert.alertHash :=
  Dict.lookup_set_ne (by cases full <;> decide) _ _

/-- Writing the hash of a rule and the same flag again leaves nothing of the rule before. -/
theorem setFlag_setHash_setFlag (next : String) :
    (((alert.setHash hash).setFlag full).setHash next).setFlag full =
      (alert.setHash next).setFlag full := by
  have hne : "alert_hash" ≠ flagName full := by cases full <;> decide
  have hmem : "alert_hash" ∈ (alert.setHash hash).attributes.map Prod.fst :=
    (Dict.mem_keys_set _ _ _ _).mpr (.inl rfl)
  apply AlertDto.ext_attributes
  · show Dict.set (flagName full) _ (Dict.set "alert_hash" _ (Dict.set (flagName full) _
      (alert.setHash hash).attributes)) = Dict.set (flagName full) _ (Dict.set "alert_hash" _ _)
    rw [Dict.set_comm_of_mem hne hmem, Dict.set_set_self]
    exact congrArg _ (Dict.set_set_self _ _ _ _)
  · rfl

end

/-!
## Runs of the loop
-/

section

variable {sha256 : String -> String} {lastHashes : LastHashes}

/-- The alert after a rule that gives it this hash. -/
def afterRule (lastHashes : LastHashes) (alert : AlertDto) (hash : String) : AlertDto :=
  (alert.setHash hash).compare hash (lastHashes.of alert.fingerprint)

theorem returns_nil {enabled : Bool} {alert alert' : AlertDto} :
    Returns sha256 lastHashes enabled [] alert alert' <-> alert' = alert := by
  constructor
  · intro ⟨events, h⟩
    cases h
    rfl
  · intro h
    rw [h]
    exact ⟨[], rfl⟩

theorem applied_eq_ok {rule : DeduplicationRuleDto} {alert next : AlertDto} :
    (applyDeduplicationRule sha256 lastHashes rule alert).mapError DeduplicationError.field =
        .ok next <->
      exists hash, hashOf sha256 rule alert = .ok hash ∧
        next = afterRule lastHashes alert hash := by
  unfold applyDeduplicationRule
  cases hhash : hashOf sha256 rule alert with
  | error e =>
      constructor
      · intro h
        cases h
      · intro ⟨_, h, _⟩
        cases h
  | ok hash =>
      constructor
      · intro h
        cases h
        exact ⟨hash, rfl, rfl⟩
      · intro ⟨hash', h, hnext⟩
        cases h
        rw [hnext]
        rfl

theorem applied_of_hash (lastHashes : LastHashes) {rule : DeduplicationRuleDto}
    {alert : AlertDto} {hash : String} (h : hashOf sha256 rule alert = .ok hash) :
    (applyDeduplicationRule sha256 lastHashes rule alert).mapError DeduplicationError.field =
      .ok (afterRule lastHashes alert hash) :=
  applied_eq_ok.mpr ⟨hash, h, rfl⟩

theorem returns_off_cons {rule : DeduplicationRuleDto} {rest : List DeduplicationRuleDto}
    {alert alert' : AlertDto} :
    Returns sha256 lastHashes false (rule :: rest) alert alert' <->
      exists hash, hashOf sha256 rule alert = .ok hash ∧
        Returns sha256 lastHashes false rest (afterRule lastHashes alert hash) alert' := by
  constructor
  · intro ⟨events, h⟩
    rcases bind_eq_ok.mp h with ⟨next, hnext, hrest⟩
    rcases applied_eq_ok.mp hnext with ⟨hash, hhash, heq⟩
    rw [heq] at hrest
    exact ⟨hash, hhash, events, hrest⟩
  · intro ⟨hash, hhash, events, hrest⟩
    exact ⟨events, bind_eq_ok.mpr ⟨_, applied_eq_ok.mpr ⟨hash, hhash, rfl⟩, hrest⟩⟩

theorem createDeduplicationEvent_isOk {rule : DeduplicationRuleDto} {kind : String} :
    (exists event, createDeduplicationEvent rule kind = .ok event) <-> rule.id ≠ none := by
  unfold createDeduplicationEvent
  cases rule.id <;> simp

/-- With statistics, the first rule that sets a flag is the last one. -/
theorem returns_on_cons_flagged {rule : DeduplicationRuleDto} {rest : List DeduplicationRuleDto}
    {alert alert' : AlertDto} {hash : String} (hhash : hashOf sha256 rule alert = .ok hash)
    (hflag : ((afterRule lastHashes alert hash).isFullDuplicate ||
      (afterRule lastHashes alert hash).isPartialDuplicate) = true) :
    Returns sha256 lastHashes true (rule :: rest) alert alert' <->
      rule.id ≠ none ∧ alert' = afterRule lastHashes alert hash := by
  have happly := applied_of_hash lastHashes hhash
  constructor
  · intro ⟨events, h⟩
    rcases bind_eq_ok.mp h with ⟨next, hnext, hbody⟩
    rw [happly] at hnext
    cases hnext
    rw [if_pos rfl, if_pos hflag] at hbody
    rcases bind_eq_ok.mp hbody with ⟨event, hevent, hreturn⟩
    cases hreturn
    exact ⟨createDeduplicationEvent_isOk.mp ⟨event, hevent⟩, rfl⟩
  · intro ⟨hid, heq⟩
    rcases createDeduplicationEvent_isOk.mpr hid with ⟨event, hevent⟩
    rw [heq]
    apply Exists.intro [event]
    apply bind_eq_ok.mpr
    apply Exists.intro (afterRule lastHashes alert hash)
    rw [if_pos rfl, if_pos hflag]
    exact ⟨happly, bind_eq_ok.mpr ⟨event, hevent, rfl⟩⟩

theorem returns_on_cons_unflagged {rule : DeduplicationRuleDto}
    {rest : List DeduplicationRuleDto} {alert alert' : AlertDto} {hash : String}
    (hhash : hashOf sha256 rule alert = .ok hash)
    (hflag : ((afterRule lastHashes alert hash).isFullDuplicate ||
      (afterRule lastHashes alert hash).isPartialDuplicate) = false) :
    Returns sha256 lastHashes true (rule :: rest) alert alert' <->
      rule.id ≠ none ∧
        Returns sha256 lastHashes true rest (afterRule lastHashes alert hash) alert' := by
  have happly := applied_of_hash lastHashes hhash
  have hnone := ne_true_of_eq_false hflag
  constructor
  · intro ⟨events, h⟩
    rcases bind_eq_ok.mp h with ⟨next, hnext, hbody⟩
    rw [happly] at hnext
    cases hnext
    rw [if_pos rfl, if_neg hnone] at hbody
    rcases bind_eq_ok.mp hbody with ⟨event, hevent, hrest⟩
    rcases bind_eq_ok.mp hrest with ⟨⟨returned, more⟩, hmore, hreturn⟩
    cases hreturn
    exact ⟨createDeduplicationEvent_isOk.mp ⟨event, hevent⟩, more, hmore⟩
  · intro ⟨hid, more, hmore⟩
    rcases createDeduplicationEvent_isOk.mpr hid with ⟨event, hevent⟩
    apply Exists.intro (event :: more)
    apply bind_eq_ok.mpr
    apply Exists.intro (afterRule lastHashes alert hash)
    rw [if_pos rfl, if_neg hnone]
    exact ⟨happly, bind_eq_ok.mpr ⟨event, hevent, bind_eq_ok.mpr ⟨_, hmore, rfl⟩⟩⟩

theorem hash_of_returns_on {rule : DeduplicationRuleDto} {rest : List DeduplicationRuleDto}
    {alert alert' : AlertDto} (h : Returns sha256 lastHashes true (rule :: rest) alert alert') :
    exists hash, hashOf sha256 rule alert = .ok hash := by
  rcases h with ⟨events, h⟩
  rcases bind_eq_ok.mp h with ⟨next, hnext, _⟩
  rcases applied_eq_ok.mp hnext with ⟨hash, hhash, _⟩
  exact ⟨hash, hhash⟩

/-!
## Without a last hash
-/

theorem afterRule_none {alert : AlertDto} (h : lastHashes.of alert.fingerprint = none)
    (hash : String) : afterRule lastHashes alert hash = alert.setHash hash := by
  unfold afterRule
  rw [h]
  rfl

theorem returns_off_none {rules : List DeduplicationRuleDto} {alert : AlertDto}
    (h : lastHashes.of alert.fingerprint = none) :
    (exists alert', Returns sha256 lastHashes false rules alert alert') <->
      Hashed sha256 rules alert := by
  induction rules generalizing alert with
  | nil =>
      constructor
      · intro _
        trivial
      · intro _
        exact ⟨alert, returns_nil.mpr rfl⟩
  | cons rule rest ih =>
      constructor
      · intro ⟨alert', hreturns⟩
        rcases returns_off_cons.mp hreturns with ⟨hash, hhash, hrest⟩
        rw [afterRule_none h] at hrest
        exact ⟨hash, hhash, (@ih (alert.setHash hash) h).mp ⟨alert', hrest⟩⟩
      · intro ⟨hash, hhash, hrest⟩
        rcases (@ih (alert.setHash hash) h).mpr hrest with ⟨alert', hreturns⟩
        rw [← afterRule_none h] at hreturns
        exact ⟨alert', returns_off_cons.mpr ⟨hash, hhash, hreturns⟩⟩

/-- No rule sets a flag. -/
theorem flags_of_returns_off_none {rules : List DeduplicationRuleDto} {alert alert' : AlertDto}
    (h : lastHashes.of alert.fingerprint = none)
    (hreturns : Returns sha256 lastHashes false rules alert alert') :
    alert'.isFullDuplicate = alert.isFullDuplicate ∧
      alert'.isPartialDuplicate = alert.isPartialDuplicate := by
  induction rules generalizing alert with
  | nil =>
      rw [returns_nil.mp hreturns]
      exact ⟨rfl, rfl⟩
  | cons rule rest ih =>
      rcases returns_off_cons.mp hreturns with ⟨hash, _, hrest⟩
      rw [afterRule_none h] at hrest
      have hflags := @ih (alert.setHash hash) h hrest
      rw [isFullDuplicate_setHash, isPartialDuplicate_setHash] at hflags
      exact hflags

theorem returns_on_none {rules : List DeduplicationRuleDto} {alert alert' : AlertDto}
    (h : lastHashes.of alert.fingerprint = none)
    (hflags : (alert.isFullDuplicate || alert.isPartialDuplicate) = false) :
    Returns sha256 lastHashes true rules alert alert' <->
      (forall rule, rule ∈ rules -> rule.id ≠ none) ∧
        Returns sha256 lastHashes false rules alert alert' := by
  induction rules generalizing alert with
  | nil => simp [returns_nil]
  | cons rule rest ih =>
      have hnext (hash : String) : ((afterRule lastHashes alert hash).isFullDuplicate ||
          (afterRule lastHashes alert hash).isPartialDuplicate) = false := by
        rw [afterRule_none h, isFullDuplicate_setHash, isPartialDuplicate_setHash]
        exact hflags
      have hrest (hash : String) := @ih (afterRule lastHashes alert hash)
        (by rw [afterRule_none h]; exact h) (hnext hash)
      rw [List.forall_mem_cons]
      constructor
      · intro hon
        rcases hash_of_returns_on hon with ⟨hash, hhash⟩
        rcases (returns_on_cons_unflagged hhash (hnext hash)).mp hon with ⟨hid, hmore⟩
        rcases (hrest hash).mp hmore with ⟨hids, hoff⟩
        exact ⟨⟨hid, hids⟩, returns_off_cons.mpr ⟨hash, hhash, hoff⟩⟩
      · intro ⟨⟨hid, hids⟩, hoff⟩
        rcases returns_off_cons.mp hoff with ⟨hash, hhash, hmore⟩
        exact (returns_on_cons_unflagged hhash (hnext hash)).mpr
          ⟨hid, (hrest hash).mpr ⟨hids, hmore⟩⟩

/-!
## With a last hash
-/

theorem afterRule_some {alert : AlertDto} {last : String}
    (h : lastHashes.of alert.fingerprint = some last) (hash : String) :
    afterRule lastHashes alert hash = (alert.setHash hash).setFlag (last = hash) := by
  unfold afterRule
  rw [h]
  rfl

theorem flags_of_returns_off {rules : List DeduplicationRuleDto} {alert alert' : AlertDto}
    {last : String} (h : lastHashes.of alert.fingerprint = some last)
    (hreturns : Returns sha256 lastHashes false rules alert alert') :
    (alert.isFullDuplicate = true -> alert'.isFullDuplicate = true) ∧
      (alert.isPartialDuplicate = true -> alert'.isPartialDuplicate = true) := by
  induction rules generalizing alert with
  | nil =>
      rw [returns_nil.mp hreturns]
      exact ⟨id, id⟩
  | cons rule rest ih =>
      rcases returns_off_cons.mp hreturns with ⟨hash, _, hrest⟩
      rw [afterRule_some h] at hrest
      rcases @ih ((alert.setHash hash).setFlag (last = hash)) h hrest with ⟨hfull, hpartialFlag⟩
      constructor
      · intro hset
        exact hfull (by simp [hset])
      · intro hset
        exact hpartialFlag (by simp [hset])

/-- The rules that are left return the verdict of the first one exactly when they repeat it. -/
theorem returns_off_iff_repeats {rest : List DeduplicationRuleDto} {alert : AlertDto}
    {last first hash : String} (h : lastHashes.of alert.fingerprint = some last)
    (hfull : alert.isFullDuplicate = false) (hpartialFlag : alert.isPartialDuplicate = false) :
    (exists alert', Returns sha256 lastHashes false rest
        ((alert.setHash hash).setFlag (last = first)) alert' ∧
        SameVerdict ((alert.setHash first).setFlag (last = first)) alert') <->
      Repeats sha256 alert last first hash rest := by
  induction rest generalizing hash with
  | nil =>
      constructor
      · intro ⟨alert', hreturns, hsame⟩
        have hhash := hsame.alertHash
        rw [returns_nil.mp hreturns, alertHash_setFlag, alertHash_setFlag, alertHash_setHash,
          alertHash_setHash] at hhash
        exact (Value.string.inj (Option.some.inj hhash)).symm
      · intro hhash
        rw [show hash = first from hhash]
        exact ⟨_, returns_nil.mpr rfl, rfl, rfl, rfl⟩
  | cons rule rest ih =>
      have hnext (next : String) :
          afterRule lastHashes ((alert.setHash hash).setFlag (last = first)) next =
            (((alert.setHash hash).setFlag (last = first)).setHash next).setFlag (last = next) :=
        @afterRule_some lastHashes ((alert.setHash hash).setFlag (last = first)) last h next
      constructor
      · intro ⟨alert', hreturns, hsame⟩
        rcases returns_off_cons.mp hreturns with ⟨next, hhash, hrest⟩
        rw [hnext] at hrest
        have hiff : last = next <-> last = first := by
          -- a hash that compares otherwise would leave both flags set
          have hstate : lastHashes.of ((((alert.setHash hash).setFlag (last = first)).setHash
              next).setFlag (last = next)).fingerprint = some last := h
          have hflags := flags_of_returns_off hstate hrest
          have hfirst := hsame.isFullDuplicate
          have hsecond := hsame.isPartialDuplicate
          by_cases hnew : last = next <;> by_cases hold : last = first <;>
            simp_all
        rw [decide_eq_decide.mpr hiff, setFlag_setHash_setFlag] at hrest
        exact ⟨next, hhash, hiff, ih.mp ⟨alert', hrest, hsame⟩⟩
      · intro ⟨next, hhash, hiff, hrepeats⟩
        rcases ih.mpr hrepeats with ⟨alert', hrest, hsame⟩
        apply Exists.intro alert'
        constructor
        · apply returns_off_cons.mpr
          apply Exists.intro next
          rw [hnext, decide_eq_decide.mpr hiff, setFlag_setHash_setFlag]
          exact ⟨hhash, hrest⟩
        · exact hsame

/-!
## The two settings
-/

theorem verdictAgrees_iff_returns {stored rules : List DeduplicationRuleDto} {alert : AlertDto} :
    VerdictAgrees sha256 lastHashes stored rules alert <->
      exists on off,
        Returns sha256 lastHashes true (if rules = [] then stored else rules) alert on ∧
        Returns sha256 lastHashes false (if rules = [] then stored else rules) alert off ∧
        SameVerdict on off ∧ ¬ (on.isFullDuplicate = true ∧ on.isPartialDuplicate = true) := by
  constructor
  · intro ⟨on, off, onEvents, offEvents, hon, hoff, hsame, hboth⟩
    exact ⟨on, off, ⟨onEvents, hon⟩, ⟨offEvents, hoff⟩, hsame, hboth⟩
  · intro ⟨on, off, ⟨onEvents, hon⟩, ⟨offEvents, hoff⟩, hsame, hboth⟩
    exact ⟨on, off, onEvents, offEvents, hon, hoff, hsame, hboth⟩

end

/-- For an alert without flags, recording statistics changes nothing exactly when the rules
after the first settle for its verdict. -/
theorem verdictAgrees_iff (sha256 : String -> String) (lastHashes : LastHashes)
    (stored rules : List DeduplicationRuleDto) {alert : AlertDto}
    (hfull : alert.isFullDuplicate = false) (hpartialFlag : alert.isPartialDuplicate = false) :
    VerdictAgrees sha256 lastHashes stored rules alert <->
      Settled sha256 lastHashes (if rules = [] then stored else rules) alert := by
  rw [verdictAgrees_iff_returns]
  generalize (if rules = [] then stored else rules) = rules
  unfold Settled
  cases hlast : lastHashes.of alert.fingerprint with
  | none =>
      have hflags : (alert.isFullDuplicate || alert.isPartialDuplicate) = false := by
        rw [hfull, hpartialFlag]
        rfl
      constructor
      · intro ⟨on, off, hon, hoff, _⟩
        exact ⟨((returns_on_none hlast hflags).mp hon).1, (returns_off_none hlast).mp ⟨off, hoff⟩⟩
      · intro ⟨hids, hhashed⟩
        rcases (returns_off_none hlast).mpr hhashed with ⟨off, hoff⟩
        have hunset := flags_of_returns_off_none hlast hoff
        have hboth : ¬ (off.isFullDuplicate = true ∧ off.isPartialDuplicate = true) := by
          rw [hunset.1, hfull]
          exact fun h => nomatch h.1
        exact ⟨off, off, (returns_on_none hlast hflags).mpr ⟨hids, hoff⟩, hoff, ⟨rfl, rfl, rfl⟩,
          hboth⟩
  | some last =>
      cases rules with
      | nil =>
          have hboth : ¬ (alert.isFullDuplicate = true ∧ alert.isPartialDuplicate = true) := by
            rw [hfull]
            exact fun h => nomatch h.1
          constructor
          · intro _
            trivial
          · intro _
            exact ⟨alert, alert, returns_nil.mpr rfl, returns_nil.mpr rfl, ⟨rfl, rfl, rfl⟩, hboth⟩
      | cons rule rest =>
          have hflag (hash : String) : ((afterRule lastHashes alert hash).isFullDuplicate ||
              (afterRule lastHashes alert hash).isPartialDuplicate) = true := by
            rw [afterRule_some hlast]
            cases hdecide : decide (last = hash) <;> simp
          constructor
          · intro ⟨on, off, hon, hoff, hsame, _⟩
            rcases returns_off_cons.mp hoff with ⟨hash, hhash, hrest⟩
            rcases (returns_on_cons_flagged hhash (hflag hash)).mp hon with ⟨hid, heq⟩
            rw [heq] at hsame
            rw [afterRule_some hlast] at hrest hsame
            exact ⟨hid, hash, hhash,
              (returns_off_iff_repeats hlast hfull hpartialFlag).mp ⟨off, hrest, hsame⟩⟩
          · intro ⟨hid, hash, hhash, hrepeats⟩
            rcases (returns_off_iff_repeats hlast hfull hpartialFlag).mpr hrepeats with
              ⟨off, hrest, hsame⟩
            rw [← afterRule_some hlast] at hrest hsame
            have hon : Returns sha256 lastHashes true (rule :: rest) alert
                (afterRule lastHashes alert hash) :=
              (returns_on_cons_flagged hhash (hflag hash)).mpr ⟨hid, rfl⟩
            have hboth : ¬ ((afterRule lastHashes alert hash).isFullDuplicate = true ∧
                (afterRule lastHashes alert hash).isPartialDuplicate = true) := by
              rw [afterRule_some hlast]
              cases hdecide : decide (last = hash) <;> simp [hfull, hpartialFlag]
            exact ⟨_, off, hon, returns_off_cons.mpr ⟨hash, hhash, hrest⟩, hsame, hboth⟩

/-- A rule that ignores nothing. -/
def wholeAlertRule : DeduplicationRuleDto := ⟨some "00000000-0000-0000-0000-000000000001", []⟩

/-- One rule, for an alert that has no last hash. -/
theorem plainAlert_verdictAgrees :
    VerdictAgrees id noHashes [] [wholeAlertRule] plainAlert := by
  apply (verdictAgrees_iff id noHashes [] [wholeAlertRule] rfl rfl).mpr
  constructor
  · intro rule hrule
    rw [List.mem_singleton.mp hrule]
    exact Option.some_ne_none _
  · exact ⟨_, rfl, trivial⟩

/-- The hash of a rule that ignores nothing. -/
def wholeHash (alert : AlertDto) : String := dumps (Value.object alert.attributes).sorted

theorem hashOf_wholeAlertRule (alert : AlertDto) :
    hashOf id wholeAlertRule alert = .ok (wholeHash alert) := rfl

theorem wholeHash_ne_empty (alert : AlertDto) : wholeHash alert ≠ "" := by
  intro h
  have hchars := congrArg String.toList h
  simp [wholeHash, dumps, Value.sorted, JsonText.encode] at hchars

theorem wholeHash_setFlag_ne {alert : AlertDto} (h : alert.alertHash = none) (hash : String)
    (full : Bool) : wholeHash alert ≠ wholeHash ((alert.setHash hash).setFlag full) := by
  intro heq
  let marked := (alert.setHash hash).setFlag full
  have hreadable : (Value.object alert.attributes).Readable := alert.readable
  have hreadable' : (Value.object marked.attributes).Readable := marked.readable
  have hsorted := (dumps_sorted_inj hreadable hreadable').mp heq
  have hhash := (sorted_object_eq_iff alert.distinct marked.distinct).mp hsorted "alert_hash"
  have hset : marked.alertHash = some (.string hash) :=
    (alertHash_setFlag (alert.setHash hash) full).trans (alertHash_setHash alert hash)
  unfold AlertDto.alertHash at h hset
  rw [h, hset] at hhash
  cases hhash

/-- The last hash of the alert is the one that the rule gives it now. -/
def sameHashes (alert : AlertDto) : LastHashes :=
  ⟨[(alert.fingerprint, wholeHash alert)], fun _ => []⟩

theorem sameHashes_of (alert : AlertDto) :
    (sameHashes alert).of alert.fingerprint = some (wholeHash alert) := by
  unfold LastHashes.of lastHash sameHashes
  rw [if_neg (List.cons_ne_nil _ _), Dict.lookup_cons_eq, if_pos rfl]
  exact Option.filter_some_pos (decide_eq_true (wholeHash_ne_empty alert))

theorem not_verdictAgrees_sameHashes {alert : AlertDto} (h : alert.alertHash = none)
    (hpartialFlag : alert.isPartialDuplicate = false) :
    ¬ VerdictAgrees id (sameHashes alert) [] [wholeAlertRule, wholeAlertRule] alert := by
  intro hagrees
  let marked := (alert.setHash (wholeHash alert)).setFlag true
  have hfirst : afterRule (sameHashes alert) alert (wholeHash alert) = marked := by
    rw [afterRule_some (sameHashes_of alert), decide_eq_true rfl]
  have hsecond : afterRule (sameHashes alert) marked (wholeHash marked) =
      (marked.setHash (wholeHash marked)).setFlag false := by
    rw [@afterRule_some (sameHashes alert) marked _ (sameHashes_of alert),
      decide_eq_false (wholeHash_setFlag_ne h (wholeHash alert) true)]
  have hflag : ((afterRule (sameHashes alert) alert (wholeHash alert)).isFullDuplicate ||
      (afterRule (sameHashes alert) alert (wholeHash alert)).isPartialDuplicate) = true := by
    rw [hfirst, isFullDuplicate_setFlag]
    rfl
  rcases verdictAgrees_iff_returns.mp hagrees with ⟨on, off, hon, hoff, hsame, _⟩
  have hon := ((returns_on_cons_flagged (hashOf_wholeAlertRule alert) hflag).mp hon).2
  rcases returns_off_cons.mp hoff with ⟨hash, hhash, hrest⟩
  rw [← Except.ok.inj hhash] at hrest
  change Returns id _ false _ (afterRule (sameHashes alert) alert (wholeHash alert)) off at hrest
  rw [hfirst] at hrest
  rcases returns_off_cons.mp hrest with ⟨next, hnext, hlast⟩
  rw [← Except.ok.inj hnext] at hlast
  change Returns id _ false _ (afterRule (sameHashes alert) marked (wholeHash marked)) off at hlast
  rw [hsecond] at hlast
  have hflags := hsame.isPartialDuplicate
  rw [hon, hfirst, returns_nil.mp hlast] at hflags
  simp [marked, hpartialFlag] at hflags

/-- With two rules, a full duplicate becomes a partial one as well where no statistics are
recorded. -/
theorem plainAlert_not_verdictAgrees :
    ¬ VerdictAgrees id (sameHashes plainAlert) [] [wholeAlertRule, wholeAlertRule] plainAlert :=
  not_verdictAgrees_sameHashes rfl rfl

end Deduplication
end KeepGateway
