import KeepGateway.Incidents.DistinctNumbers

/-!
# Races of creations

Every number is given once, a call returns when it has created its incident, and it raises only
after it has lost all its tries.
-/

namespace KeepGateway
namespace Incidents
namespace Numbers

open Run

/-!
## Calls in progress
-/

def Action.call : Action -> Nat
  | .start i => i
  | .query i => i
  | .insert i => i
  | .commit i => i

def Phase.isRunning : Phase -> Bool
  | .ready => true
  | .numbered _ => true
  | .inserted => true
  | _ => false

/-- The calls that some steps have started and that have not ended. -/
def inProgress (actions : List Action) (s : State) : List Nat :=
  ((actions.map Action.call).dedup).filter fun i => (s.calls i).phase.isRunning

/-- The incidents that a call has created. -/
def created (incidents : List Incident) (i : Nat) : List Incident :=
  (own incidents i).filter Incident.committed

/-- The steps that a call can still take. -/
def Call.left (call : Call) : Nat :=
  match call.phase with
  | .notStarted => 2 * call.tries + 2
  | .ready => 2 * call.tries + 1
  | .numbered _ => 2 * call.tries
  | .inserted => 1
  | _ => 0

/-!
## Steps of a call
-/

/-- A step changes no other call. -/
theorem step_calls_ne {waits : Bool} {s s' : State} {action : Action} {i : Nat}
    (hstep : Steps waits s action s') (h : action.call ≠ i) : s'.calls i = s.calls i := by
  cases hstep with
  | starts => exact State.set_calls_ne (Ne.symm h) _ _
  | numbers => exact State.set_calls_ne (Ne.symm h) _ _
  | refuses => exact State.set_calls_ne (Ne.symm h) _ _
  | inserts => exact State.set_calls_ne (Ne.symm h) _ _
  | loses => exact State.set_calls_ne (Ne.symm h) _ _
  | commits => exact State.set_calls_ne (Ne.symm h) _ _

theorem left_lose_lt {call : Call} {number : Int} (hphase : call.phase = .numbered number)
    (htries : 1 ≤ call.tries) (other : Incident) : (call.lose other).left < call.left := by
  unfold Call.left
  rw [hphase]
  rcases (lose_cases call other).2 with ⟨_, hraised⟩ | ⟨hmore, hready, _, hless⟩
  · rw [hraised]
    exact Nat.mul_pos Nat.two_pos htries
  · rw [hready, hless]
    dsimp only
    omega

/-- A step of a call leaves it fewer. -/
theorem step_left_lt {waits : Bool} {s s' : State} {action : Action} (h : Inv s)
    (hstep : Steps waits s action s') :
    (s'.calls action.call).left < (s.calls action.call).left := by
  have htries : forall i, (s.calls i).phase.isOpen = true -> 1 ≤ (s.calls i).tries :=
    fun i hopen => ((h.calls i).opened hopen).2.2
  cases hstep with
  | @starts i hphase =>
      show ((s.set i _).calls i).left < (s.calls i).left
      rw [State.set_calls_self]
      unfold Call.left
      rw [hphase]
      exact Nat.lt_succ_self _
  | @numbers i hphase _ =>
      show ((s.set i _).calls i).left < (s.calls i).left
      rw [State.set_calls_self]
      unfold Call.left
      rw [hphase]
      exact Nat.lt_succ_self _
  | @refuses i hphase hinactive =>
      have hactive := ((h.calls i).opened (by rw [hphase]; rfl)).1
      rw [hinactive] at hactive
      cases hactive
  | @inserts i number hphase _ =>
      have hpos := htries i (by rw [hphase]; rfl)
      show ((State.set _ i _).calls i).left < (s.calls i).left
      rw [State.set_calls_self]
      unfold Call.left
      rw [hphase]
      dsimp only
      omega
  | @loses i number other hphase _ _ =>
      show ((s.set i _).calls i).left < (s.calls i).left
      rw [State.set_calls_self]
      exact left_lose_lt hphase (htries i (by rw [hphase]; rfl)) other
  | @commits i hphase =>
      show ((State.set _ i _).calls i).left < (s.calls i).left
      rw [State.set_calls_self]
      unfold Call.left
      rw [hphase]
      exact Nat.zero_lt_one

/-- The steps of a call in a run, and those that are left. -/
theorem run_left_le {waits : Bool} {s s' : State} {actions : List Action} (h : Inv s)
    (hrun : run (step waits) s actions = some s') (i : Nat) :
    (actions.filter fun action => action.call == i).length + (s'.calls i).left ≤
      (s.calls i).left := by
  induction actions generalizing s with
  | nil =>
      cases hrun
      exact Nat.le_of_eq (Nat.zero_add _)
  | cons action rest ih =>
      rcases run_cons.mp hrun with ⟨t, hfirst, hrest⟩
      have hle := ih (step_inv h hfirst) hrest
      rw [List.filter_cons]
      split
      case isTrue hcall =>
        have hlt := step_left_lt h (step_cases hfirst)
        rw [beq_iff_eq.mp hcall] at hlt
        rw [List.length_cons]
        omega
      case isFalse hcall =>
        rw [step_calls_ne (step_cases hfirst) (fun heq => hcall (beq_iff_eq.mpr heq))] at hle
        exact hle

/-!
## No call is stuck
-/

/-- An incident that is not committed is that of a call that can commit it. -/
theorem inserted_of_uncommitted {s : State} (h : Inv s) {incident : Incident} {j : Nat}
    (hmem : incident ∈ s.incidents) (hcreator : incident.creator = some j)
    (huncommitted : incident.committed = false) : (s.calls j).phase = .inserted := by
  have hown : incident ∈ own s.incidents j := mem_own.mpr ⟨hmem, hcreator⟩
  rcases (h.calls j).created.cases with hnone | ⟨only, hone, hphase⟩
  · rw [hnone] at hown
    cases hown
  · rw [hone] at hown
    rcases hphase with ⟨hinserted, _⟩ | ⟨_, hcommitted⟩
    · exact hinserted
    · rw [List.mem_singleton.mp hown, hcommitted] at huncommitted
      cases huncommitted

theorem step_commit_isSome {waits : Bool} {s : State} {i : Nat}
    (hphase : (s.calls i).phase = .inserted) : (step waits s (.commit i)).isSome = true := by
  unfold step
  dsimp only
  rw [hphase]
  rfl

theorem step_query_isSome {waits : Bool} {s : State} {i : Nat}
    (hphase : (s.calls i).phase = .ready) : (step waits s (.query i)).isSome = true := by
  unfold step
  dsimp only
  rw [hphase]
  dsimp only
  split
  · rfl
  · rfl

/-- An insert is taken where the number is free or its holder is committed. -/
theorem step_insert_isSome {waits : Bool} {s : State} {i : Nat} {number : Int}
    (hphase : (s.calls i).phase = .numbered number)
    (hfree : forall other, holder s.incidents number = some other -> other.committed = true) :
    (step waits s (.insert i)).isSome = true := by
  unfold step
  dsimp only
  rw [hphase]
  dsimp only
  split
  · rfl
  case h_2 other hheld =>
    rw [hfree other hheld, Bool.not_true, Bool.and_false]
    rfl

/-- A call in progress takes its next step, or waits for another that can commit. -/
theorem exists_step {waits : Bool} {s : State} (h : Inv s) {i : Nat}
    (hrunning : (s.calls i).phase.isRunning = true) :
    exists action, (step waits s action).isSome = true ∧
      (action.call = i ∨ exists j, action = .commit j) := by
  cases hphase : (s.calls i).phase with
  | ready => exact ⟨.query i, step_query_isSome hphase, Or.inl rfl⟩
  | inserted => exact ⟨.commit i, step_commit_isSome hphase, Or.inl rfl⟩
  | numbered number =>
      cases hheld : holder s.incidents number with
      | none =>
          have hfree : forall other, holder s.incidents number = some other ->
              other.committed = true := fun other hother => nomatch hheld.symm.trans hother
          exact ⟨.insert i, step_insert_isSome hphase hfree, Or.inl rfl⟩
      | some other =>
          rcases exists_winner h hphase hheld with ⟨j, _, hcreator⟩
          cases hcommitted : other.committed with
          | false =>
              exact ⟨.commit j, step_commit_isSome (inserted_of_uncommitted h
                (holder_eq_some hheld).1 hcreator hcommitted), Or.inr ⟨j, rfl⟩⟩
          | true =>
              refine ⟨.insert i, step_insert_isSome hphase ?_, Or.inl rfl⟩
              intro winner hwinner
              rw [← Option.some.inj (hheld.symm.trans hwinner)]
              exact hcommitted
  | notStarted =>
      rw [hphase] at hrunning
      cases hrunning
  | returned =>
      rw [hphase] at hrunning
      cases hrunning
  | raised error =>
      rw [hphase] at hrunning
      cases hrunning

/-!
## What a call creates
-/

/-- Every call may return, and no number is given twice, after any run. -/
structure Settled (waits : Bool) (table : Table) (actions : List Action) (s : State) : Prop where
  numbered : forall incident i, incident ∈ s.incidents -> incident.creator = some i ->
    exists number, incident.runningNumber = some number
  distinct : (numbersOf s.incidents).Nodup
  returns_iff : forall i, (s.calls i).phase = .returned <-> (created s.incidents i).length = 1
  atMostOne : forall i, (created s.incidents i).length ≤ 1
  raises : forall i error, (s.calls i).phase = .raised error ->
    error = .integrityError ∧ (s.calls i).lostTo.length = 3 ∧
      forall winner, winner ∈ (s.calls i).lostTo -> exists j, j ≠ i ∧ winner = some j
  fewOthers : waits = true -> forall i before during, actions = before ++ .start i :: during ->
    (otherCommitters i during).length ≤ 2 -> forall error, (s.calls i).phase ≠ .raised error
  progress : forall i, (s.calls i).phase.isRunning = true -> exists action,
    (step waits s action).isSome = true ∧ (action.call = i ∨ exists j, action = .commit j)
  bounded : forall i, (actions.filter fun action => action.call == i).length ≤ 8

theorem created_of_returned {incidents : List Incident} {i : Nat}
    (h : Created (own incidents i) .returned) : (created incidents i).length = 1 := by
  rcases h with ⟨incident, hown, hcommitted⟩
  unfold created
  rw [hown, List.filter_singleton, hcommitted]
  rfl

theorem created_of_not_returned {incidents : List Incident} {i : Nat} {phase : Phase}
    (h : Created (own incidents i) phase) (hphase : phase ≠ .returned) :
    created incidents i = [] := by
  unfold created
  rcases h.cases with hnone | ⟨incident, hone, ⟨_, huncommitted⟩ | ⟨hreturned, _⟩⟩
  · rw [hnone, List.filter_nil]
  · rw [hone, List.filter_singleton, huncommitted]
    rfl
  · exact absurd hreturned hphase

/-- A call that at most two others overtake does not raise. -/
theorem not_raised {s : State} {table : Table} {before during : List Action} {i : Nat}
    (hrun : run (step true) (State.init table) (before ++ .start i :: during) = some s)
    (hfew : (otherCommitters i during).length ≤ 2) (error : DbError) :
    (s.calls i).phase ≠ .raised error := by
  intro hraised
  rcases run_append.mp hrun with ⟨t, hbefore, hrest⟩
  rcases run_cons.mp hrest with ⟨t', hstart, hduring⟩
  have hinv := run_inv (init_inv table) hbefore
  have hlost : (t'.calls i).lostTo = [] ∧ (t'.calls i).phase = .ready := by
    cases step_cases hstart with
    | starts hphase =>
        rw [State.set_calls_self]
        exact ⟨(hinv.calls i).fresh hphase, rfl⟩
  have hthree := three_le_committers (step_inv hinv hstart) hlost.1
    (fun number hnumber => nomatch hlost.2.symm.trans hnumber) hduring hraised
  omega

theorem settled_of_run (waits : Bool) (table : Table) (actions : List Action) (s : State)
    (hrun : run (step waits) (State.init table) actions = some s) :
    Settled waits table actions s := by
  have hinv := run_inv (init_inv table) hrun
  refine ⟨hinv.table.numbered, hinv.table.distinct, ?_, ?_, ?_, ?_, ?_, ?_⟩
  · intro i
    have hcreated := (hinv.calls i).created
    constructor
    · intro hphase
      rw [hphase] at hcreated
      exact created_of_returned hcreated
    · intro hone
      by_contra hphase
      rw [created_of_not_returned hcreated hphase] at hone
      cases hone
  · intro i
    have hcreated := (hinv.calls i).created
    rcases Classical.em ((s.calls i).phase = .returned) with hphase | hphase
    · rw [hphase] at hcreated
      exact Nat.le_of_eq (created_of_returned hcreated)
    · rw [created_of_not_returned hcreated hphase]
      exact Nat.zero_le 1
  · intro i error hraised
    rcases (hinv.calls i).raised error hraised with ⟨herror, hlength⟩
    exact ⟨herror, hlength, (hinv.calls i).winners⟩
  · intro hwaits i before during hactions hfew
    rw [hwaits, hactions] at hrun
    exact not_raised hrun hfew
  · exact fun i hrunning => exists_step hinv hrunning
  · intro i
    have hle := run_left_le (init_inv table) hrun i
    exact Nat.le_trans (Nat.le_add_right _ _) hle

/-!
## Two calls and four
-/

/-- Two calls take the same number; the one that is late tries again. -/
def race : List Action :=
  [.start 0, .query 0, .start 1, .query 1, .insert 1, .commit 1, .insert 0, .query 0, .insert 0,
    .commit 0]

theorem race_settled : exists s, run (step true) (State.init ⟨[], List.nodup_nil⟩) race = some s ∧
    Settled true ⟨[], List.nodup_nil⟩ race s ∧
      s.incidents = [⟨some 1, some 1, true⟩, ⟨some 0, some 2, true⟩] := by
  cases hrun : run (step true) (State.init ⟨[], List.nodup_nil⟩) race with
  | none => cases hrun
  | some s =>
      refine ⟨s, rfl, settled_of_run true ⟨[], List.nodup_nil⟩ race s hrun, ?_⟩
      cases hrun
      rfl

/-- Three calls, one after another, overtake the first one. -/
def overtaken : List Action :=
  [.start 0, .query 0, .start 1, .query 1, .insert 1, .commit 1, .insert 0,
    .query 0, .start 2, .query 2, .insert 2, .commit 2, .insert 0,
    .query 0, .start 3, .query 3, .insert 3, .commit 3, .insert 0]

/-- As few as two calls are in progress at any time, and one of them raises. -/
theorem overtaken_raises :
    (exists s, run (step true) (State.init ⟨[], List.nodup_nil⟩) overtaken = some s ∧
      (s.calls 0).phase = .raised .integrityError) ∧
    forall first, first ∈ overtaken.inits ->
      (run (step true) (State.init ⟨[], List.nodup_nil⟩) first).all
        (fun s => (inProgress first s).length ≤ 2) = true := by
  constructor
  · exact ⟨_, rfl, rfl⟩
  · decide

end Numbers
end Incidents
end KeepGateway
