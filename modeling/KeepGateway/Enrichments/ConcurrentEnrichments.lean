import KeepGateway.Enrichments.IncidentEnrichment
import KeepGateway.Lib.Run

/-!
# Concurrent incident enrichments

Two calls of `_enrich_incident` on one incident, each in a transaction of its own:
a read of the whole document, a statement that writes the whole document, and the
commit.  A statement waits for the transaction that wrote the row before, and reads
see what is committed.
-/

namespace KeepGateway
namespace Enrichments

open Run

/-!
## The two calls
-/

inductive Caller where
  | first
  | second
  deriving DecidableEq, Repr

def Caller.other : Caller -> Caller
  | first => second
  | second => first

theorem Caller.eq_or_eq_other (c d : Caller) : d = c ∨ d = c.other := by
  cases c <;> cases d <;> simp [Caller.other]

theorem Caller.other_ne (c : Caller) : c.other ≠ c := by
  cases c <;> simp [Caller.other]

@[simp]
theorem Caller.other_other (c : Caller) : c.other.other = c := by
  cases c <;> rfl

/-- Two calls on an incident that can be enriched, with disjoint keys and no None. -/
structure Race where
  db : IncidentTables
  tenantId : String
  incidentId : Nat
  enrichable : (exists row, db.find tenantId incidentId = some row) ∨
    db.Insertable incidentId
  enrichments : Caller -> IncidentDict
  action : Caller -> Action
  withoutNone : forall c key, (enrichments c).fields.lookup key ≠ some .null
  disjoint : forall c key value, (enrichments c).fields.lookup key = some value ->
    (enrichments c.other).fields.lookup key = none

/-- What a transaction has written and not committed. -/
inductive Pending where
  | update (document : Document)
  | insert

inductive Phase where
  | start
  | read (row : Option IncidentEnrichment)
  | written (pending : Pending)
  | returned

/-- The committed tables, and where each call stands. -/
structure RaceState where
  tables : IncidentTables
  phase : Caller -> Phase

def RaceState.setPhase (s : RaceState) (c : Caller) (phase : Phase) : RaceState where
  tables := s.tables
  phase := fun d => if d = c then phase else s.phase d

inductive RaceStep where
  | read (c : Caller)
  | write (c : Caller)
  | commit (c : Caller)
  deriving DecidableEq, Repr

namespace Race

def audit (str : Nat -> String) (r : Race) (c : Caller) : Audit :=
  (r.action c).audit r.tenantId (str r.incidentId)

def isWritten : Phase -> Bool
  | .written _ => true
  | _ => false

/-- The statement of a call.  An insert that meets a committed row is an
`IntegrityError`: the call rolls back and returns. -/
def statement (r : Race) (s : RaceState) (c : Caller) : Phase -> Option RaceState
  | .read (some row) =>
      some (s.setPhase c
        (.written (.update (mergeEnrichments row.enrichments (r.enrichments c).fields))))
  | .read none =>
      if s.tables.Insertable r.incidentId then some (s.setPhase c (.written .insert))
      else some (s.setPhase c .returned)
  | _ => none

/-- The tables after the commit of a transaction. -/
def committed (str : Nat -> String) (r : Race) (db : IncidentTables) (c : Caller) :
    Pending -> IncidentTables
  | .update document => (db.write r.incidentId document).addAudits [r.audit str c]
  | .insert =>
      if h : db.Insertable r.incidentId then
        (db.insert ⟨r.tenantId, r.incidentId, (r.enrichments c).fields⟩ h).addAudits
          [r.audit str c]
      else db

def step (str : Nat -> String) (r : Race) (s : RaceState) : RaceStep -> Option RaceState
  | .read c =>
      match s.phase c with
      | .start => some (s.setPhase c (.read (s.tables.find r.tenantId r.incidentId)))
      | _ => none
  | .write c => if isWritten (s.phase c.other) then none else r.statement s c (s.phase c)
  | .commit c =>
      match s.phase c with
      | .written pending =>
          some (RaceState.setPhase ⟨r.committed str s.tables c pending, s.phase⟩ c .returned)
      | _ => none

def initial (r : Race) : RaceState := ⟨r.db, fun _ => .start⟩

/-- Both calls have returned at the end of the steps. -/
def Finishes (str : Nat -> String) (r : Race) (steps : List RaceStep) (s : RaceState) : Prop :=
  run (r.step str) r.initial steps = some s ∧ forall c, s.phase c = .returned

/-!
## What is to be kept
-/

/-- The document holds every key with the value written; a blank note may have left the
note that was there. -/
def Holds (document : Document) (e : IncidentDict) : Prop :=
  forall key value, e.fields.lookup key = some value ->
    document.lookup key = some value ∨
      key = "note" ∧ isBlankNote (some value) = true ∧
        isKeptNote (document.lookup "note") = true

/-- The stored document holds both dictionaries, and both audit rows exist. -/
def BothKept (str : Nat -> String) (r : Race) (s : RaceState) : Prop :=
  (exists row, s.tables.find r.tenantId r.incidentId = some row ∧
    forall c, Holds row.enrichments (r.enrichments c)) ∧
    s.tables.audits.Perm (r.db.audits ++ [r.audit str .first, r.audit str .second])

/-- One call reads after the other has committed. -/
def Serial (steps : List RaceStep) : Prop :=
  exists c, List.Sublist [RaceStep.commit c, RaceStep.read c.other] steps

/-- The call that commits first writes what an existing row holds already. -/
def FirstChangesNothing (r : Race) (steps : List RaceStep) : Prop :=
  exists row c, r.db.find r.tenantId r.incidentId = some row ∧
    List.Sublist [RaceStep.commit c, RaceStep.commit c.other] steps ∧
    Holds row.enrichments (r.enrichments c)

/-!
## Documents
-/

theorem holds_self (e : IncidentDict) : Holds e.fields e := fun _ _ h => Or.inl h

/-- A call keeps the keys it does not give. -/
theorem lookup_merge_other (existing : Document) {e : IncidentDict} {key : String}
    (h : e.fields.lookup key = none) :
    (mergeEnrichments existing e.fields).lookup key = existing.lookup key := by
  rw [lookup_mergeEnrichments existing e.distinct, h]
  split
  · rename_i hnull
    cases hnull
  · split
    · rename_i hguard
      rw [hguard.1]
    · rfl

theorem holds_merge (existing : Document) (e : IncidentDict)
    (hnone : forall key, e.fields.lookup key ≠ some .null) :
    Holds (mergeEnrichments existing e.fields) e := by
  intro key value hvalue
  have hmerge := lookup_mergeEnrichments existing e.distinct key
  rw [if_neg (hnone key)] at hmerge
  split at hmerge
  · rename_i hguard
    rcases hguard with ⟨hkey, hblank, hkept⟩
    subst hkey
    rw [hvalue] at hblank
    right
    rw [hmerge]
    exact ⟨rfl, hblank, hkept⟩
  · left
    rw [hmerge, hvalue]
    rfl

/-- What another call writes matters only through the keys of a dictionary. -/
theorem holds_congr {document document' : Document} {e : IncidentDict}
    (h : forall key value, e.fields.lookup key = some value ->
      document'.lookup key = document.lookup key) :
    Holds document' e <-> Holds document e := by
  have hside : forall {d d' : Document},
      (forall key value, e.fields.lookup key = some value -> d'.lookup key = d.lookup key) ->
        Holds d e -> Holds d' e := by
    intro d d' hlookup hholds key value hvalue
    rw [hlookup key value hvalue]
    rcases hholds key value hvalue with hsame | ⟨hkey, hblank, hkept⟩
    · exact Or.inl hsame
    · subst hkey
      rw [← hlookup "note" value hvalue] at hkept
      exact Or.inr ⟨rfl, hblank, hkept⟩
  constructor
  · exact hside fun key value hvalue => (h key value hvalue).symm
  · exact hside h

theorem holds_merge_other (r : Race) (c : Caller) (existing : Document) :
    Holds (mergeEnrichments existing (r.enrichments c.other).fields) (r.enrichments c) <->
      Holds existing (r.enrichments c) :=
  holds_congr fun key value hvalue =>
    lookup_merge_other existing (r.disjoint c key value hvalue)

/-!
## Steps
-/

end Race

@[simp]
theorem RaceState.setPhase_self (s : RaceState) (c : Caller) (phase : Phase) :
    (s.setPhase c phase).phase c = phase :=
  if_pos rfl

@[simp]
theorem RaceState.setPhase_other (s : RaceState) (c : Caller) (phase : Phase) :
    (s.setPhase c phase).phase c.other = s.phase c.other :=
  if_neg c.other_ne

@[simp]
theorem RaceState.setPhase_tables (s : RaceState) (c : Caller) (phase : Phase) :
    (s.setPhase c phase).tables = s.tables :=
  rfl

namespace Race

variable {str : Nat -> String} {r : Race} {s s' : RaceState} {c : Caller}

theorem read_cases (h : r.step str s (.read c) = some s') :
    s.phase c = .start ∧
      s' = s.setPhase c (.read (s.tables.find r.tenantId r.incidentId)) := by
  unfold step at h
  cases hphase : s.phase c with
  | start =>
      simp only [hphase] at h
      exact ⟨rfl, (Option.some.inj h).symm⟩
  | read row => simp [hphase] at h
  | written pending => simp [hphase] at h
  | returned => simp [hphase] at h

theorem write_cases (h : r.step str s (.write c) = some s') :
    isWritten (s.phase c.other) = false ∧ exists row, s.phase c = .read row ∧
      r.statement s c (.read row) = some s' := by
  unfold step at h
  cases hother : isWritten (s.phase c.other) with
  | true => simp [hother] at h
  | false =>
      simp only [hother, Bool.false_eq_true, if_false] at h
      refine ⟨rfl, ?_⟩
      cases hphase : s.phase c with
      | start => simp [hphase, statement] at h
      | read row =>
          rw [hphase] at h
          exact ⟨row, rfl, h⟩
      | written pending => simp [hphase, statement] at h
      | returned => simp [hphase, statement] at h

theorem commit_cases (h : r.step str s (.commit c) = some s') :
    exists pending, s.phase c = .written pending ∧
      s' = RaceState.setPhase ⟨r.committed str s.tables c pending, s.phase⟩ c .returned := by
  unfold step at h
  cases hphase : s.phase c with
  | written pending =>
      simp only [hphase] at h
      exact ⟨pending, rfl, (Option.some.inj h).symm⟩
  | start => simp [hphase] at h
  | read row => simp [hphase] at h
  | returned => simp [hphase] at h

/-!
## Before the first commit
-/

/-- The statement that belongs to what was read. -/
def pendingFor (r : Race) (c : Caller) : Option IncidentEnrichment -> Pending
  | some row => .update (mergeEnrichments row.enrichments (r.enrichments c).fields)
  | none => .insert

def PhaseBefore (r : Race) (c : Caller) : Phase -> Prop
  | .start => True
  | .read row => row = r.db.find r.tenantId r.incidentId
  | .written pending => pending = r.pendingFor c (r.db.find r.tenantId r.incidentId)
  | .returned => False

/-- Nothing is committed, and every call that has read has read the initial row. -/
structure Before (r : Race) (s : RaceState) : Prop where
  tables : s.tables = r.db
  phase : forall c, r.PhaseBefore c (s.phase c)
  exclusive : forall c, isWritten (s.phase c) = true -> isWritten (s.phase c.other) = false

theorem before_initial (r : Race) : r.Before r.initial where
  tables := rfl
  phase := fun _ => trivial
  exclusive := fun _ h => by cases h

theorem Before.statement (hs : r.Before s)
    (h : r.statement s c (.read (r.db.find r.tenantId r.incidentId)) = some s') :
    s' = s.setPhase c (.written (r.pendingFor c (r.db.find r.tenantId r.incidentId))) := by
  cases hfind : r.db.find r.tenantId r.incidentId with
  | some row =>
      rw [hfind] at h
      exact (Option.some.inj h).symm
  | none =>
      rw [hfind] at h
      have hinsertable : r.db.Insertable r.incidentId := by
        rcases r.enrichable with ⟨row, hrow⟩ | hinsertable
        · rw [hfind] at hrow
          cases hrow
        · exact hinsertable
      simp only [Race.statement, hs.tables, hinsertable, if_true] at h
      exact (Option.some.inj h).symm

theorem Before.setPhase (hs : r.Before s) {phase : Phase} (hphase : r.PhaseBefore c phase)
    (hwritten : isWritten phase = true -> isWritten (s.phase c.other) = false) :
    r.Before (s.setPhase c phase) where
  tables := hs.tables
  phase := by
    intro d
    rcases c.eq_or_eq_other d with h | h
    · subst h
      rw [RaceState.setPhase_self]
      exact hphase
    · subst h
      rw [RaceState.setPhase_other]
      exact hs.phase c.other
  exclusive := by
    intro d hd
    rcases c.eq_or_eq_other d with h | h
    · subst h
      rw [RaceState.setPhase_self] at hd
      rw [RaceState.setPhase_other]
      exact hwritten hd
    · subst h
      rw [RaceState.setPhase_other] at hd
      rw [Caller.other_other, RaceState.setPhase_self]
      cases hphase : isWritten phase with
      | false => rfl
      | true =>
          rw [hwritten hphase] at hd
          cases hd

theorem Before.step (hs : r.Before s) {a : RaceStep} (ha : forall c, a ≠ .commit c)
    (h : r.step str s a = some s') : r.Before s' := by
  cases a with
  | read c =>
      rcases read_cases h with ⟨_, heq⟩
      rw [heq, hs.tables]
      exact hs.setPhase rfl fun h => by cases h
  | write c =>
      rcases write_cases h with ⟨hother, row, hphase, hstatement⟩
      have hrow := hs.phase c
      rw [hphase] at hrow
      rw [show row = _ from hrow] at hstatement
      rw [hs.statement hstatement]
      exact hs.setPhase rfl fun _ => hother
  | commit c => exact absurd rfl (ha c)

theorem Before.run {steps : List RaceStep} (hs : r.Before s)
    (hsteps : forall c, RaceStep.commit c ∉ steps)
    (h : Run.run (r.step str) s steps = some s') : r.Before s' := by
  induction steps generalizing s with
  | nil =>
      cases h
      exact hs
  | cons a rest ih =>
      rcases run_cons.mp h with ⟨t, hstep, hrest⟩
      have ha : forall c, a ≠ .commit c := by
        intro c heq
        exact hsteps c (by rw [heq]; exact List.mem_cons_self)
      exact ih (hs.step ha hstep) (fun c hc => hsteps c (List.mem_cons_of_mem a hc)) hrest

/-- The tables after one call on its own. -/
def afterOne (str : Nat -> String) (r : Race) (c : Caller) : IncidentTables :=
  enrichIncident str r.db r.tenantId r.incidentId (r.enrichments c).fields false (r.action c)

theorem committed_pendingFor (str : Nat -> String) (r : Race) (c : Caller) :
    r.committed str r.db c (r.pendingFor c (r.db.find r.tenantId r.incidentId)) =
      r.afterOne str c := by
  unfold afterOne enrichIncident
  cases r.db.find r.tenantId r.incidentId <;> rfl

/-!
## After the first commit
-/

/-- When the other call has returned, a step is the next one of the call that is left. -/
theorem step_alone (hother : s.phase c.other = .returned) {a : RaceStep}
    (h : r.step str s a = some s') :
    (a = .read c ∧ s.phase c = .start ∧
        s' = s.setPhase c (.read (s.tables.find r.tenantId r.incidentId))) ∨
      (a = .write c ∧ exists row, s.phase c = .read row ∧
        r.statement s c (.read row) = some s') ∨
      (a = .commit c ∧ exists pending, s.phase c = .written pending ∧
        s' = RaceState.setPhase ⟨r.committed str s.tables c pending, s.phase⟩ c .returned) := by
  cases a with
  | read d =>
      rcases c.eq_or_eq_other d with hd | hd
      · rw [hd] at h ⊢
        exact Or.inl ⟨rfl, read_cases h⟩
      · rw [hd] at h
        rw [(read_cases h).1] at hother
        cases hother
  | write d =>
      rcases c.eq_or_eq_other d with hd | hd
      · rw [hd] at h ⊢
        exact Or.inr (Or.inl ⟨rfl, (write_cases h).2⟩)
      · rw [hd] at h
        rcases write_cases h with ⟨_, row, hphase, _⟩
        rw [hphase] at hother
        cases hother
  | commit d =>
      rcases c.eq_or_eq_other d with hd | hd
      · rw [hd] at h ⊢
        exact Or.inr (Or.inr ⟨rfl, commit_cases h⟩)
      · rw [hd] at h
        rcases commit_cases h with ⟨pending, hphase, _⟩
        rw [hphase] at hother
        cases hother

theorem finish_returned (hother : s.phase c.other = .returned) (hphase : s.phase c = .returned)
    {steps : List RaceStep} (h : Run.run (r.step str) s steps = some s') :
    steps = [] ∧ s' = s := by
  cases steps with
  | nil => exact ⟨rfl, (Option.some.inj h).symm⟩
  | cons a rest =>
      exfalso
      rcases run_cons.mp h with ⟨t, hstep, _⟩
      rcases step_alone hother hstep with ⟨_, hnow, _⟩ | ⟨_, row, hnow, _⟩ | ⟨_, pending, hnow, _⟩
      · cases hphase.symm.trans hnow
      · cases hphase.symm.trans hnow
      · cases hphase.symm.trans hnow

theorem finish_written (hother : s.phase c.other = .returned) {pending : Pending}
    (hphase : s.phase c = .written pending) {steps : List RaceStep}
    (h : Run.run (r.step str) s steps = some s') (hend : s'.phase c = .returned) :
    steps = [.commit c] ∧ s'.tables = r.committed str s.tables c pending := by
  cases steps with
  | nil =>
      cases h
      cases hphase.symm.trans hend
  | cons a rest =>
      rcases run_cons.mp h with ⟨t, hstep, hrest⟩
      rcases step_alone hother hstep with
        ⟨_, hnow, _⟩ | ⟨_, row, hnow, _⟩ | ⟨ha, written, hnow, heq⟩
      · cases hphase.symm.trans hnow
      · cases hphase.symm.trans hnow
      · cases hphase.symm.trans hnow
        subst heq
        rcases finish_returned (c := c) (by simp [hother]) (by simp) hrest with ⟨hnil, hs⟩
        rw [ha, hnil, hs]
        exact ⟨rfl, rfl⟩

/-- The write step that a call which has read goes on with. -/
theorem finish_read (hother : s.phase c.other = .returned) {row : Option IncidentEnrichment}
    (hphase : s.phase c = .read row) {steps : List RaceStep}
    (h : Run.run (r.step str) s steps = some s') (hend : s'.phase c = .returned) :
    exists rest t, steps = .write c :: rest ∧ r.statement s c (.read row) = some t ∧
      Run.run (r.step str) t rest = some s' := by
  cases steps with
  | nil =>
      cases h
      cases hphase.symm.trans hend
  | cons a rest =>
      rcases run_cons.mp h with ⟨t, hstep, hrest⟩
      rcases step_alone hother hstep with
        ⟨_, hnow, _⟩ | ⟨ha, read, hnow, hstatement⟩ | ⟨_, pending, hnow, _⟩
      · cases hphase.symm.trans hnow
      · cases hphase.symm.trans hnow
        exact ⟨rest, t, by rw [ha], hstatement, hrest⟩
      · cases hphase.symm.trans hnow

/-- A call that has read a row writes its merged document over whatever is stored. -/
theorem finish_read_some (hother : s.phase c.other = .returned) {row : IncidentEnrichment}
    (hphase : s.phase c = .read (some row)) {steps : List RaceStep}
    (h : Run.run (r.step str) s steps = some s') (hend : s'.phase c = .returned) :
    steps = [.write c, .commit c] ∧
      s'.tables = r.committed str s.tables c (r.pendingFor c (some row)) := by
  rcases finish_read hother hphase h hend with ⟨rest, t, hsteps, hstatement, hrest⟩
  have ht := Option.some.inj hstatement
  subst ht
  rcases finish_written (by simp [hother]) (RaceState.setPhase_self s c _) hrest hend with
    ⟨hrest, htables⟩
  rw [hsteps, hrest, htables]
  exact ⟨rfl, rfl⟩

/-- A call that has read no row, where there is one by now, leaves nothing behind. -/
theorem finish_read_none (hother : s.phase c.other = .returned)
    (hphase : s.phase c = .read none) (hnot : ¬ s.tables.Insertable r.incidentId)
    {steps : List RaceStep} (h : Run.run (r.step str) s steps = some s')
    (hend : s'.phase c = .returned) : steps = [.write c] ∧ s'.tables = s.tables := by
  rcases finish_read hother hphase h hend with ⟨rest, t, hsteps, hstatement, hrest⟩
  have ht : t = s.setPhase c .returned := by
    simp only [statement, hnot, if_false] at hstatement
    exact (Option.some.inj hstatement).symm
  subst ht
  rcases finish_returned (c := c) (by simp [hother]) (by simp) hrest with ⟨hrest, hs⟩
  rw [hsteps, hrest, hs]
  exact ⟨rfl, rfl⟩

theorem finish_start (hother : s.phase c.other = .returned) (hphase : s.phase c = .start)
    {steps : List RaceStep} (h : Run.run (r.step str) s steps = some s')
    (hend : s'.phase c = .returned) :
    exists rest, steps = .read c :: rest ∧
      Run.run (r.step str) (s.setPhase c (.read (s.tables.find r.tenantId r.incidentId))) rest =
        some s' := by
  cases steps with
  | nil =>
      cases h
      cases hphase.symm.trans hend
  | cons a rest =>
      rcases run_cons.mp h with ⟨t, hstep, hrest⟩
      rcases step_alone hother hstep with
        ⟨ha, _, heq⟩ | ⟨_, row, hnow, _⟩ | ⟨_, pending, hnow, _⟩
      · rw [heq] at hrest
        exact ⟨rest, by rw [ha], hrest⟩
      · cases hphase.symm.trans hnow
      · cases hphase.symm.trans hnow

/-!
## The shape of a run
-/

theorem exists_first_commit (steps : List RaceStep) :
    (forall c, RaceStep.commit c ∉ steps) ∨
      exists before c after, steps = before ++ .commit c :: after ∧
        forall d, RaceStep.commit d ∉ before := by
  induction steps with
  | nil => exact Or.inl fun c hc => by cases hc
  | cons a rest ih =>
      rcases Classical.em (exists c, a = .commit c) with ⟨c, ha⟩ | hother
      · rw [ha]
        exact Or.inr ⟨[], c, rest, rfl, fun d hd => by cases hd⟩
      · rcases ih with hnone | ⟨before, d, after, heq, hbefore⟩
        · left
          intro d hd
          rcases List.mem_cons.mp hd with hd | hd
          · exact hother ⟨d, hd.symm⟩
          · exact hnone d hd
        · refine Or.inr ⟨a :: before, d, after, by rw [heq]; rfl, ?_⟩
          intro d' hd
          rcases List.mem_cons.mp hd with hd | hd
          · exact hother ⟨d', hd.symm⟩
          · exact hbefore d' hd

/-- The state after the first commit of a run. -/
structure AfterFirst (str : Nat -> String) (r : Race) (c : Caller) (s : RaceState) : Prop where
  tables : s.tables = r.afterOne str c
  returned : s.phase c = .returned
  waiting : s.phase c.other = .start ∨
    s.phase c.other = .read (r.db.find r.tenantId r.incidentId)

/-- A run that finishes has a first commit, and no commit comes before it. -/
theorem Finishes.first_commit {steps : List RaceStep} (h : r.Finishes str steps s) :
    exists before c after t, steps = before ++ .commit c :: after ∧
      (forall d, RaceStep.commit d ∉ before) ∧ r.AfterFirst str c t ∧
      Run.run (r.step str) t after = some s := by
  rcases exists_first_commit steps with hnone | ⟨before, c, after, heq, hbefore⟩
  · exfalso
    have hs := (r.before_initial).run hnone h.1
    have hphase := hs.phase .first
    rw [h.2 .first] at hphase
    exact hphase
  · have hrun := h.1
    rw [heq] at hrun
    rcases run_append.mp hrun with ⟨t, hfirst, hrest⟩
    rcases run_cons.mp hrest with ⟨t', hcommit, hafter⟩
    have ht := (r.before_initial).run hbefore hfirst
    rcases commit_cases hcommit with ⟨pending, hwritten, hstate⟩
    refine ⟨before, c, after, t', heq, hbefore, ?_, hafter⟩
    have hpending := ht.phase c
    rw [hwritten] at hpending
    rw [show pending = _ from hpending] at hstate
    constructor
    · rw [hstate, ht.tables, committed_pendingFor]
      rfl
    · rw [hstate]
      exact RaceState.setPhase_self _ c _
    · have hother := ht.phase c.other
      have hexclusive := ht.exclusive c (by rw [hwritten]; rfl)
      rw [hstate, RaceState.setPhase_other]
      cases hphase : t.phase c.other with
      | start => exact Or.inl rfl
      | read row =>
          rw [hphase] at hother
          exact Or.inr (congrArg Phase.read hother)
      | written pending' =>
          rw [hphase] at hexclusive
          cases hexclusive
      | returned =>
          rw [hphase] at hother
          exact absurd hother id

/-- Steps in an order, where the first of them does not occur before a point. -/
theorem pair_sublist_after {a b : RaceStep} {before after : List RaceStep}
    (h : List.Sublist [a, b] (before ++ after)) (ha : a ∉ before) :
    List.Sublist [a, b] after := by
  rcases List.sublist_append_iff.mp h with ⟨first, second, heq, hfirst, hsecond⟩
  cases first with
  | nil =>
      rw [List.nil_append] at heq
      rw [heq]
      exact hsecond
  | cons x rest =>
      injection heq with hhead _
      rw [← hhead] at hfirst
      exact absurd (hfirst.subset List.mem_cons_self) ha

/-!
## What is stored at the end
-/

theorem find_committed_update {db : IncidentTables} {row : IncidentEnrichment}
    (hfind : db.find r.tenantId r.incidentId = some row) (document : Document) :
    (r.committed str db c (.update document)).find r.tenantId r.incidentId =
      some { row with enrichments := document } :=
  IncidentTables.find_write_self hfind document

theorem audits_committed_update (db : IncidentTables) (document : Document) :
    (r.committed str db c (.update document)).audits = db.audits ++ [r.audit str c] :=
  rfl

theorem afterOne_spec (str : Nat -> String) (r : Race) (c : Caller) :
    (exists row, (r.afterOne str c).find r.tenantId r.incidentId = some row ∧
        Holds row.enrichments (r.enrichments c)) ∧
      (r.afterOne str c).audits = r.db.audits ++ [r.audit str c] := by
  rw [← committed_pendingFor]
  cases hfind : r.db.find r.tenantId r.incidentId with
  | some row =>
      refine ⟨⟨_, find_committed_update hfind _, ?_⟩, rfl⟩
      exact holds_merge row.enrichments (r.enrichments c) (r.withoutNone c)
  | none =>
      have hinsertable : r.db.Insertable r.incidentId := by
        rcases r.enrichable with ⟨row, hrow⟩ | hinsertable
        · rw [hfind] at hrow
          cases hrow
        · exact hinsertable
      simp only [pendingFor, committed, hinsertable, dif_pos, IncidentTables.find_addAudits]
      refine ⟨⟨_, IncidentTables.find_insert r.db
        ⟨r.tenantId, r.incidentId, (r.enrichments c).fields⟩ hinsertable, ?_⟩, rfl⟩
      exact holds_self (r.enrichments c)

theorem afterOne_not_insertable (str : Nat -> String) (r : Race) (c : Caller) :
    ¬ (r.afterOne str c).Insertable r.incidentId := by
  intro h
  rcases (afterOne_spec str r c).1 with ⟨row, hfind, _⟩
  rcases IncidentTables.find_eq_some hfind with ⟨hmem, _, hid⟩
  exact h.2 (List.mem_map.mpr ⟨row, hmem, hid⟩)

theorem audits_perm (str : Nat -> String) (r : Race) (c : Caller) :
    (r.db.audits ++ [r.audit str c] ++ [r.audit str c.other]).Perm
      (r.db.audits ++ [r.audit str .first, r.audit str .second]) := by
  rw [List.append_assoc]
  apply List.Perm.append_left
  cases c with
  | first => exact List.Perm.refl _
  | second => exact List.Perm.swap _ _ _

/-- What the second call stores when it has read a row. -/
theorem find_overwritten {row : IncidentEnrichment}
    (htables : s.tables =
      r.committed str (r.afterOne str c) c.other (r.pendingFor c.other (some row))) :
    exists last, s.tables.find r.tenantId r.incidentId = some last ∧
      last.enrichments = mergeEnrichments row.enrichments (r.enrichments c.other).fields := by
  rcases afterOne_spec str r c with ⟨⟨row', hrow', _⟩, _⟩
  refine ⟨{ row' with
    enrichments := mergeEnrichments row.enrichments (r.enrichments c.other).fields }, ?_, rfl⟩
  rw [htables]
  exact find_committed_update hrow' _

/-- Both are kept where the row that the second call has read holds the first enrichment. -/
theorem bothKept_overwritten {row : IncidentEnrichment}
    (htables : s.tables =
      r.committed str (r.afterOne str c) c.other (r.pendingFor c.other (some row)))
    (hholds : Holds row.enrichments (r.enrichments c)) : r.BothKept str s := by
  rcases find_overwritten htables with ⟨last, hstored, hmerged⟩
  refine ⟨⟨last, hstored, ?_⟩, ?_⟩
  · intro d
    rw [hmerged]
    rcases c.eq_or_eq_other d with hd | hd
    · subst hd
      exact (holds_merge_other r d row.enrichments).mpr hholds
    · subst hd
      exact holds_merge row.enrichments (r.enrichments c.other) (r.withoutNone c.other)
  · rw [htables]
    show (r.committed str (r.afterOne str c) c.other (.update _)).audits.Perm _
    rw [audits_committed_update, (afterOne_spec str r c).2]
    exact audits_perm str r c

/-- The second call merges into what the first has committed. -/
theorem bothKept_serial {t : RaceState} (hafter : r.AfterFirst str c t)
    {row : IncidentEnrichment} (hfind : t.tables.find r.tenantId r.incidentId = some row)
    (htables : s.tables =
      r.committed str t.tables c.other (r.pendingFor c.other (some row))) :
    r.BothKept str s := by
  rcases afterOne_spec str r c with ⟨⟨row', hrow', hholds⟩, _⟩
  rw [hafter.tables] at hfind htables
  rw [hfind] at hrow'
  cases hrow'
  exact bothKept_overwritten htables hholds

/-- When both have read the same row, the last commit stands. -/
theorem bothKept_overlap {t : RaceState} (hafter : r.AfterFirst str c t)
    {row : IncidentEnrichment}
    (htables : s.tables =
      r.committed str t.tables c.other (r.pendingFor c.other (some row))) :
    r.BothKept str s <-> Holds row.enrichments (r.enrichments c) := by
  rw [hafter.tables] at htables
  constructor
  · intro h
    rcases h.1 with ⟨last, hlast, hholds⟩
    rcases find_overwritten htables with ⟨last', hstored, hmerged⟩
    cases hlast.symm.trans hstored
    have hfirst := hholds c
    rw [hmerged] at hfirst
    exact (holds_merge_other r c row.enrichments).mp hfirst
  · exact bothKept_overwritten htables

/-- A lost insert takes its audit row with it. -/
theorem not_bothKept_lost {t : RaceState} (hafter : r.AfterFirst str c t)
    (htables : s.tables = t.tables) : ¬ r.BothKept str s := by
  intro h
  have hlength := h.2.length_eq
  rw [htables, hafter.tables, (afterOne_spec str r c).2] at hlength
  simp at hlength

/-- No read comes after the first commit of a run whose calls overlap. -/
theorem not_serial {before after : List RaceStep} (hbefore : forall d, RaceStep.commit d ∉ before)
    (hafter : forall d, RaceStep.read d ∉ after) : ¬ Serial (before ++ .commit c :: after) := by
  intro h
  rcases h with ⟨d, hsublist⟩
  have hmem := (pair_sublist_after hsublist (hbefore d)).subset
    (List.mem_cons_of_mem _ List.mem_cons_self)
  rcases List.mem_cons.mp hmem with heq | hmem
  · cases heq
  · exact hafter d.other hmem

/-- In every run, the two enrichments are kept if and only if one call reads after the other
has committed, or the first to commit changes nothing. -/
theorem bothKept_iff (str : Nat -> String) (r : Race) (steps : List RaceStep) (s : RaceState)
    (h : r.Finishes str steps s) :
    r.BothKept str s <-> Serial steps ∨ r.FirstChangesNothing steps := by
  rcases h.first_commit with ⟨before, c, after, t, heq, hbefore, hafter, hrun⟩
  have hother : t.phase c.other.other = .returned := by
    rw [Caller.other_other]
    exact hafter.returned
  rcases hafter.waiting with hstart | hread
  · rcases finish_start hother hstart hrun (h.2 c.other) with ⟨rest, hsteps, hrest⟩
    rcases (afterOne_spec str r c).1 with ⟨row, hrow, _⟩
    rw [hafter.tables, hrow] at hrest
    have hreturned : (t.setPhase c.other (.read (some row))).phase c.other.other = .returned := by
      rw [RaceState.setPhase_other]
      exact hother
    rcases finish_read_some hreturned (RaceState.setPhase_self t c.other _) hrest
      (h.2 c.other) with ⟨_, htables⟩
    have hserial : Serial steps := by
      refine ⟨c, ?_⟩
      rw [heq, hsteps]
      apply List.Sublist.trans _ (List.sublist_append_right before _)
      exact List.Sublist.cons_cons _ (List.Sublist.cons_cons _ (List.nil_sublist rest))
    constructor
    · exact fun _ => Or.inl hserial
    · intro _
      rw [RaceState.setPhase_tables] at htables
      rw [← hafter.tables] at hrow
      exact bothKept_serial hafter hrow htables
  · cases hfind : r.db.find r.tenantId r.incidentId with
    | some row =>
        rw [hfind] at hread
        rcases finish_read_some hother hread hrun (h.2 c.other) with ⟨hsteps, htables⟩
        have hnot : ¬ Serial steps := by
          rw [heq, hsteps]
          exact not_serial hbefore (by simp)
        rw [bothKept_overlap hafter htables]
        constructor
        · intro hholds
          refine Or.inr ⟨row, c, hfind, ?_, hholds⟩
          rw [heq, hsteps]
          apply List.Sublist.trans _ (List.sublist_append_right before _)
          cases c <;> decide
        · intro hcondition
          rcases hcondition with hserial | ⟨row', d, hfind', hsublist, hholds⟩
          · exact absurd hserial hnot
          · rw [hfind] at hfind'
            cases hfind'
            rw [heq, hsteps] at hsublist
            have horder := pair_sublist_after hsublist (hbefore d)
            have hd : d = c := by
              rcases c.eq_or_eq_other d with hd | hd
              · exact hd
              · rw [hd, Caller.other_other] at horder
                exfalso
                cases c <;> revert horder <;> decide
            rw [← hd]
            exact hholds
    | none =>
        rw [hfind] at hread
        have hinsertable : ¬ t.tables.Insertable r.incidentId := by
          rw [hafter.tables]
          exact afterOne_not_insertable str r c
        rcases finish_read_none hother hread hinsertable hrun (h.2 c.other) with
          ⟨hsteps, htables⟩
        have hnot : ¬ Serial steps := by
          rw [heq, hsteps]
          exact not_serial hbefore (by simp)
        constructor
        · exact fun hkept => absurd hkept (not_bothKept_lost hafter htables)
        · intro hcondition
          rcases hcondition with hserial | ⟨row, _, hfind', _⟩
          · exact absurd hserial hnot
          · rw [hfind] at hfind'
            cases hfind'

def setOwner : IncidentDict where
  fields := [("owner", .text "ana")]
  distinct := by simp [Dict.Distinct]

def setTeam : IncidentDict where
  fields := [("team", .text "core")]
  distinct := by simp [Dict.Distinct]

/-- Two calls that set a key each, on an incident with an empty document. -/
def ownerAndTeam : Race where
  db := ⟨[1], [⟨"keep", 1, []⟩], [], List.nodup_singleton 1⟩
  tenantId := "keep"
  incidentId := 1
  enrichable := Or.inl ⟨_, rfl⟩
  enrichments
    | .first => setOwner
    | .second => setTeam
  action := fun _ => ⟨"generic_enrich", "user@keep", "Incident enriched"⟩
  withoutNone := by
    intro c key h
    have hmem := (IncidentDict.distinct _).lookup.mp h
    cases c <;> simp [setOwner, setTeam] at hmem
  disjoint := by
    intro c key value h
    have hmem := (IncidentDict.distinct _).lookup.mp h
    cases c <;> simp [setOwner, setTeam] at hmem <;> rw [hmem.1] <;> rfl

/-- The state after some steps; the initial one where they are not enabled. -/
def ownerAndTeamAfter (steps : List RaceStep) : RaceState :=
  (run (ownerAndTeam.step toString) ownerAndTeam.initial steps).getD ownerAndTeam.initial

def overlapping : List RaceStep :=
  [.read .first, .read .second, .write .first, .commit .first, .write .second,
    .commit .second]

theorem ownerAndTeam_kept_iff :
    ownerAndTeam.BothKept toString (ownerAndTeamAfter overlapping) <->
      Serial overlapping ∨ ownerAndTeam.FirstChangesNothing overlapping :=
  bothKept_iff toString ownerAndTeam overlapping (ownerAndTeamAfter overlapping)
    ⟨rfl, fun c => by cases c <;> rfl⟩

/-- Both calls read the empty document, and the second commit drops the key of the first. -/
theorem owner_lost :
    ownerAndTeam.Finishes toString overlapping (ownerAndTeamAfter overlapping) ∧
      ¬ ownerAndTeam.BothKept toString (ownerAndTeamAfter overlapping) := by
  refine ⟨⟨rfl, fun c => by cases c <;> rfl⟩, ?_⟩
  intro h
  rcases h.1 with ⟨row, hrow, hholds⟩
  have hstored : (ownerAndTeamAfter overlapping).tables.find "keep" 1 =
      some ⟨"keep", 1, [("team", .text "core")]⟩ := rfl
  rw [show ownerAndTeam.tenantId = "keep" from rfl,
    show ownerAndTeam.incidentId = 1 from rfl, hstored] at hrow
  cases hrow
  rcases hholds .first "owner" (.text "ana") rfl with hlost | ⟨hkey, _⟩
  · cases hlost
  · exact absurd hkey (by decide)

end Race

end Enrichments
end KeepGateway
