import KeepGateway.Incidents.RunningNumbers
import Mathlib.Data.List.Dedup
import Mathlib.Data.List.Induction
import Mathlib.Data.List.Perm.Subperm

/-!
# Distinct running numbers

What holds of the incidents and the calls after any order of steps, and which calls do not return.
-/

namespace KeepGateway
namespace Incidents
namespace Numbers

open Run

/-!
## What a step does
-/

/-- What each step does to the incidents and to its call. -/
inductive Steps (waits : Bool) (s : State) : Action -> State -> Prop where
  | starts {i : Nat} (phase : (s.calls i).phase = .notStarted) :
      Steps waits s (.start i) (s.set i { s.calls i with phase := .ready })
  | numbers {i : Nat} (phase : (s.calls i).phase = .ready) (active : (s.calls i).isActive = true) :
      Steps waits s (.query i)
        (s.set i { s.calls i with phase := .numbered (getNextRunningNumber s.incidents) })
  | refuses {i : Nat} (phase : (s.calls i).phase = .ready)
      (inactive : (s.calls i).isActive = false) :
      Steps waits s (.query i) (s.set i ((s.calls i).fail .pendingRollbackError))
  | inserts {i : Nat} {number : Int} (phase : (s.calls i).phase = .numbered number)
      (free : holder s.incidents number = none) :
      Steps waits s (.insert i)
        (State.set ⟨s.incidents ++ [⟨some i, some number, false⟩], s.calls⟩ i
          { s.calls i with phase := .inserted })
  | loses {i : Nat} {number : Int} {other : Incident}
      (phase : (s.calls i).phase = .numbered number)
      (held : holder s.incidents number = some other)
      (waited : waits = true -> other.committed = true) :
      Steps waits s (.insert i) (s.set i ((s.calls i).lose other))
  | commits {i : Nat} (phase : (s.calls i).phase = .inserted) :
      Steps waits s (.commit i) (State.set ⟨s.incidents.map (commitOf i), s.calls⟩ i
        { s.calls i with phase := .returned })

theorem step_cases {waits : Bool} {s s' : State} {action : Action}
    (h : step waits s action = some s') : Steps waits s action s' := by
  unfold step at h
  cases action with
  | start i =>
      dsimp only at h
      split at h
      case h_1 hphase =>
        rw [← Option.some.inj h]
        exact .starts hphase
      case h_2 => cases h
  | query i =>
      dsimp only at h
      split at h
      case h_1 hphase =>
        split at h
        case isTrue hactive =>
          rw [← Option.some.inj h]
          exact .numbers hphase hactive
        case isFalse hinactive =>
          rw [← Option.some.inj h]
          exact .refuses hphase (Bool.eq_false_iff.mpr hinactive)
      case h_2 => cases h
  | insert i =>
      dsimp only at h
      split at h
      case h_1 number hphase =>
        split at h
        case h_1 hfree =>
          rw [← Option.some.inj h]
          exact .inserts hphase hfree
        case h_2 other hheld =>
          split at h
          · cases h
          case isFalse hwaited =>
            rw [← Option.some.inj h]
            refine .loses hphase hheld fun hwaits => ?_
            rw [hwaits, Bool.true_and, Bool.not_eq_true', Bool.not_eq_false] at hwaited
            exact hwaited
      case h_2 => cases h
  | commit i =>
      dsimp only at h
      split at h
      case h_1 hphase =>
        rw [← Option.some.inj h]
        exact .commits hphase
      case h_2 => cases h

/-!
## Incidents
-/

/-- The incidents of a call. -/
def own (incidents : List Incident) (i : Nat) : List Incident :=
  incidents.filter fun incident => incident.creator == some i

def numbersOf (incidents : List Incident) : List Int :=
  incidents.filterMap Incident.runningNumber

/-- The numbers that a query sees. -/
def committedNumbers (incidents : List Incident) : List Int :=
  numbersOf (incidents.filter Incident.committed)

theorem mem_own {incidents : List Incident} {i : Nat} {incident : Incident} :
    incident ∈ own incidents i <-> incident ∈ incidents ∧ incident.creator = some i := by
  unfold own
  rw [List.mem_filter, beq_iff_eq]

theorem mem_committedNumbers {incidents : List Incident} {number : Int} :
    number ∈ committedNumbers incidents <-> exists incident, incident ∈ incidents ∧
      incident.committed = true ∧ incident.runningNumber = some number := by
  unfold committedNumbers numbersOf
  rw [List.mem_filterMap]
  constructor
  · rintro ⟨incident, hmem, hnumber⟩
    rcases List.mem_filter.mp hmem with ⟨hmem, hcommitted⟩
    exact ⟨incident, hmem, hcommitted, hnumber⟩
  · rintro ⟨incident, hmem, hcommitted, hnumber⟩
    exact ⟨incident, List.mem_filter.mpr ⟨hmem, hcommitted⟩, hnumber⟩

theorem commitOf_runningNumber (i : Nat) (incident : Incident) :
    (commitOf i incident).runningNumber = incident.runningNumber := by
  unfold commitOf
  split
  · rfl
  · rfl

theorem commitOf_creator (i : Nat) (incident : Incident) :
    (commitOf i incident).creator = incident.creator := by
  unfold commitOf
  split
  · rfl
  · rfl

/-- Committing takes nothing back. -/
theorem commitOf_committed {i : Nat} {incident : Incident} (h : incident.committed = true) :
    commitOf i incident = incident := by
  unfold commitOf
  split
  · rw [← h]
  · rfl

theorem numbersOf_commit (incidents : List Incident) (i : Nat) :
    numbersOf (incidents.map (commitOf i)) = numbersOf incidents := by
  unfold numbersOf
  rw [List.filterMap_map]
  have hsame : Incident.runningNumber ∘ commitOf i = Incident.runningNumber :=
    funext (commitOf_runningNumber i)
  rw [hsame]

theorem own_commit (incidents : List Incident) (i j : Nat) :
    own (incidents.map (commitOf i)) j = (own incidents j).map (commitOf i) := by
  unfold own
  rw [List.filter_map]
  congr 1
  apply List.filter_congr
  intro incident _
  rw [Function.comp_apply, commitOf_creator]

theorem own_commit_ne {i j : Nat} (h : j ≠ i) (incidents : List Incident) :
    own (incidents.map (commitOf i)) j = own incidents j := by
  rw [own_commit]
  have hsame : forall incident, incident ∈ own incidents j -> commitOf i incident = incident := by
    intro incident hincident
    refine if_neg fun hcreator => h ?_
    exact Option.some.inj ((mem_own.mp hincident).2.symm.trans hcreator)
  rw [List.map_congr_left hsame, List.map_id']

theorem own_append (incidents : List Incident) (i j : Nat) (number : Int) :
    own (incidents ++ [⟨some i, some number, false⟩]) j =
      own incidents j ++ if i = j then [⟨some i, some number, false⟩] else [] := by
  unfold own
  rw [List.filter_append, List.filter_singleton]
  congr 1
  rcases Classical.em (i = j) with heq | hne
  · rw [if_pos heq, heq, beq_self_eq_true, cond_true]
  · rw [if_neg hne, beq_eq_false_iff_ne.mpr fun h => hne (Option.some.inj h), cond_false]

theorem holder_eq_none {incidents : List Incident} {number : Int}
    (h : holder incidents number = none) : number ∉ numbersOf incidents := by
  intro hmem
  rcases List.mem_filterMap.mp hmem with ⟨incident, hincident, hnumber⟩
  exact List.find?_eq_none.mp h incident hincident (beq_iff_eq.mpr hnumber)

theorem holder_eq_some {incidents : List Incident} {number : Int} {other : Incident}
    (h : holder incidents number = some other) :
    other ∈ incidents ∧ other.runningNumber = some number :=
  have hnumber := List.find?_some h
  ⟨List.mem_of_find?_eq_some h, beq_iff_eq.mp hnumber⟩

/-- The next number is larger than what is committed. -/
theorem lt_getNextRunningNumber {incidents : List Incident} {number : Int}
    (h : number ∈ committedNumbers incidents) : number < getNextRunningNumber incidents := by
  show number < ((committedNumbers incidents).max?).getD 0 + 1
  cases hmax : (committedNumbers incidents).max? with
  | none =>
      rw [List.max?_eq_none_iff.mp hmax] at h
      cases h
  | some largest =>
      exact Int.lt_add_one_of_le ((List.max?_eq_some_iff.mp hmax).2 number h)

/-!
## The invariant
-/

/-- The call may still insert an incident. -/
def Phase.isOpen : Phase -> Bool
  | .notStarted => true
  | .ready => true
  | .numbered _ => true
  | _ => false

/-- The incidents of a call in a phase. -/
def Created (own : List Incident) : Phase -> Prop
  | .inserted => exists incident, own = [incident] ∧ incident.committed = false
  | .returned => exists incident, own = [incident] ∧ incident.committed = true
  | _ => own = []

structure TableInv (incidents : List Incident) : Prop where
  distinct : (numbersOf incidents).Nodup
  numbered : forall incident i, incident ∈ incidents -> incident.creator = some i ->
    exists number, incident.runningNumber = some number
  old : forall incident, incident ∈ incidents -> incident.creator = none ->
    incident.committed = true

structure CallInv (incidents : List Incident) (i : Nat) (call : Call) : Prop where
  created : Created (own incidents i) call.phase
  opened : call.phase.isOpen = true ->
    call.isActive = true ∧ call.lostTo.length + call.tries = 3 ∧ 1 ≤ call.tries
  fresh : call.phase = .notStarted -> call.lostTo = []
  raised : forall error, call.phase = .raised error ->
    error = .integrityError ∧ call.lostTo.length = 3
  beyondOld : forall number, call.phase = .numbered number -> forall incident larger,
    incident ∈ incidents -> incident.creator = none -> incident.runningNumber = some larger ->
      larger < number
  winners : forall winner, winner ∈ call.lostTo -> exists j, j ≠ i ∧ winner = some j

structure Inv (s : State) : Prop where
  table : TableInv s.incidents
  calls : forall i, CallInv s.incidents i (s.calls i)

theorem State.set_calls_self (s : State) (i : Nat) (call : Call) : (s.set i call).calls i = call :=
  if_pos rfl

theorem State.set_calls_ne {i j : Nat} (h : j ≠ i) (s : State) (call : Call) :
    (s.set i call).calls j = s.calls j := if_neg h

/-- The invariant of all calls, from that of the one that has changed and of the others. -/
theorem forall_calls_set {p : Nat -> Call -> Prop} {s : State} {i : Nat} {call : Call}
    (hthis : p i call) (hothers : forall j, j ≠ i -> p j (s.calls j)) :
    forall j, p j ((s.set i call).calls j) := by
  intro j
  rcases Classical.em (j = i) with heq | hne
  · rw [heq, State.set_calls_self]
    exact hthis
  · rw [State.set_calls_ne hne]
    exact hothers j hne

theorem init_inv (table : Table) : Inv (State.init table) := by
  have hold : forall incident, incident ∈ (State.init table).incidents ->
      incident.creator = none ∧ incident.committed = true := by
    intro incident hincident
    rcases List.mem_map.mp hincident with ⟨number, _, rfl⟩
    exact ⟨rfl, rfl⟩
  refine ⟨⟨?_, ?_, ?_⟩, ?_⟩
  · show (List.filterMap _ (List.map _ _)).Nodup
    rw [List.filterMap_map]
    exact table.distinct
  · intro incident i hincident hcreator
    rw [(hold incident hincident).1] at hcreator
    cases hcreator
  · intro incident hincident _
    exact (hold incident hincident).2
  · intro i
    refine ⟨?_, fun _ => ⟨rfl, rfl, Nat.le_add_left 1 2⟩, fun _ => rfl, ?_, ?_, ?_⟩
    · apply List.filter_eq_nil_iff.mpr
      intro incident hincident
      rw [(hold incident hincident).1]
      exact Bool.false_ne_true
    · intro error h
      cases h
    · intro number h
      cases h
    · intro winner h
      cases h

/-!
## A step keeps the invariant
-/

/-- What other calls keep as the incidents of one call change. -/
theorem CallInv.frame {incidents incidents' : List Incident} {i : Nat} {call : Call}
    (h : CallInv incidents i call) (hown : own incidents' i = own incidents i)
    (hold : forall incident, incident ∈ incidents' -> incident.creator = none ->
      incident ∈ incidents) : CallInv incidents' i call := by
  refine ⟨?_, h.opened, h.fresh, h.raised, ?_, h.winners⟩
  · rw [hown]
    exact h.created
  · intro number hphase incident larger hincident hcreator
    exact h.beyondOld number hphase incident larger (hold incident hincident hcreator) hcreator

theorem tableInv_append {incidents : List Incident} (h : TableInv incidents) {i : Nat}
    {number : Int} (hfree : holder incidents number = none) :
    TableInv (incidents ++ [⟨some i, some number, false⟩]) := by
  refine ⟨?_, ?_, ?_⟩
  · unfold numbersOf
    rw [List.filterMap_append]
    refine List.nodup_append'.mpr ⟨h.distinct, List.nodup_singleton _, ?_⟩
    intro other hother hnew
    have hnew : other ∈ [number] := hnew
    rw [List.mem_singleton.mp hnew] at hother
    exact holder_eq_none hfree hother
  · intro incident j hincident hcreator
    rcases List.mem_append.mp hincident with hmem | hnew
    · exact h.numbered incident j hmem hcreator
    · rw [List.mem_singleton.mp hnew]
      exact ⟨number, rfl⟩
  · intro incident hincident hcreator
    rcases List.mem_append.mp hincident with hmem | hnew
    · exact h.old incident hmem hcreator
    · rw [List.mem_singleton.mp hnew] at hcreator
      cases hcreator

theorem tableInv_commit {incidents : List Incident} (h : TableInv incidents) (i : Nat) :
    TableInv (incidents.map (commitOf i)) := by
  refine ⟨?_, ?_, ?_⟩
  · rw [numbersOf_commit]
    exact h.distinct
  · intro incident j hincident hcreator
    rcases List.mem_map.mp hincident with ⟨before, hbefore, rfl⟩
    rw [commitOf_creator] at hcreator
    rw [commitOf_runningNumber]
    exact h.numbered before j hbefore hcreator
  · intro incident hincident hcreator
    rcases List.mem_map.mp hincident with ⟨before, hbefore, rfl⟩
    rw [commitOf_creator] at hcreator
    have hcommitted := h.old before hbefore hcreator
    rw [commitOf_committed hcommitted]
    exact hcommitted

theorem fail_integrityError (call : Call) :
    call.fail .integrityError =
      if call.tries ≤ 1 then
        { call with
          phase := .raised .integrityError
          isActive := rollBack (some call.isActive) call.isActive }
      else
        { call with
          phase := .ready
          isActive := rollBack (some call.isActive) call.isActive
          tries := call.tries - 1 } := rfl

/-- A failed insert, in terms of what the call is left with: its session is active again. -/
theorem lose_cases (call : Call) (other : Incident) :
    (call.lose other).lostTo = call.lostTo ++ [other.creator] ∧
      ((call.tries ≤ 1 ∧ (call.lose other).phase = .raised .integrityError) ∨
        (1 < call.tries ∧ (call.lose other).phase = .ready ∧
          (call.lose other).isActive = true ∧ (call.lose other).tries = call.tries - 1)) := by
  unfold Call.lose
  rw [fail_integrityError]
  dsimp only
  split
  case isTrue hlast => exact ⟨rfl, Or.inl ⟨hlast, rfl⟩⟩
  case isFalse hmore => exact ⟨rfl, Or.inr ⟨Nat.lt_of_not_le hmore, rfl, rfl, rfl⟩⟩

/-- An incident that an insert meets is not one of its own call, nor one from before. -/
theorem exists_winner {s : State} (h : Inv s) {i : Nat} {number : Int} {other : Incident}
    (hphase : (s.calls i).phase = .numbered number)
    (hheld : holder s.incidents number = some other) :
    exists j, j ≠ i ∧ other.creator = some j := by
  rcases holder_eq_some hheld with ⟨hmem, hnumber⟩
  cases hcreator : other.creator with
  | none =>
      exact absurd ((h.calls i).beyondOld number hphase other number hmem hcreator hnumber)
        (Int.lt_irrefl number)
  | some j =>
      refine ⟨j, ?_, rfl⟩
      intro hsame
      have hown := (h.calls i).created
      rw [hphase] at hown
      have hmine : other ∈ own s.incidents i := mem_own.mpr ⟨hmem, by rw [hcreator, hsame]⟩
      rw [show own s.incidents i = [] from hown] at hmine
      cases hmine

/-- A call that has ended or inserts no more. -/
theorem callInv_closed {incidents : List Incident} {i : Nat} {call : Call}
    (hcreated : Created (own incidents i) call.phase) (hclosed : call.phase.isOpen = false)
    (hraised : forall error, call.phase = .raised error ->
      error = .integrityError ∧ call.lostTo.length = 3)
    (hwinners : forall winner, winner ∈ call.lostTo -> exists j, j ≠ i ∧ winner = some j) :
    CallInv incidents i call := by
  have hnot : forall phase : Phase, phase.isOpen = true -> call.phase ≠ phase := by
    intro phase hopen heq
    rw [heq, hopen] at hclosed
    cases hclosed
  refine ⟨hcreated, ?_, ?_, hraised, ?_, hwinners⟩
  · intro hopen
    exact absurd rfl (hnot call.phase hopen)
  · intro hfresh
    exact absurd hfresh (hnot .notStarted rfl)
  · intro number hnumber
    exact absurd hnumber (hnot (.numbered number) rfl)

/-- A call that tries, for the first time or again. -/
theorem callInv_ready {incidents : List Incident} {i : Nat} {call : Call}
    (hphase : call.phase = .ready) (hown : own incidents i = [])
    (hopened : call.isActive = true ∧ call.lostTo.length + call.tries = 3 ∧ 1 ≤ call.tries)
    (hwinners : forall winner, winner ∈ call.lostTo -> exists j, j ≠ i ∧ winner = some j) :
    CallInv incidents i call := by
  refine ⟨?_, fun _ => hopened, ?_, ?_, ?_, hwinners⟩
  · rw [hphase]
    exact hown
  · intro hfresh
    rw [hphase] at hfresh
    cases hfresh
  · intro error herror
    rw [hphase] at herror
    cases herror
  · intro number hnumber
    rw [hphase] at hnumber
    cases hnumber

/-- The call that loses its number keeps its part of the invariant. -/
theorem callInv_lose {s : State} (h : Inv s) {i : Nat} {number : Int} {other : Incident}
    (hphase : (s.calls i).phase = .numbered number)
    (hheld : holder s.incidents number = some other) :
    CallInv s.incidents i ((s.calls i).lose other) := by
  have hcall := h.calls i
  rcases hcall.opened (by rw [hphase]; rfl) with ⟨_, hsum, _⟩
  have hown : own s.incidents i = [] := by
    have hcreated := hcall.created
    rw [hphase] at hcreated
    exact hcreated
  rcases lose_cases (s.calls i) other with ⟨hlost, hend⟩
  have hwinners : forall winner, winner ∈ ((s.calls i).lose other).lostTo ->
      exists j, j ≠ i ∧ winner = some j := by
    intro winner hwinner
    rw [hlost] at hwinner
    rcases List.mem_append.mp hwinner with hmem | hnew
    · exact hcall.winners winner hmem
    · rw [List.mem_singleton.mp hnew]
      exact exists_winner h hphase hheld
  have hlength : ((s.calls i).lose other).lostTo.length = (s.calls i).lostTo.length + 1 := by
    rw [hlost, List.length_append]
    rfl
  rcases hend with ⟨hlast, hraised⟩ | ⟨hmore, hready, hactive, htries⟩
  · apply callInv_closed
    · rw [hraised]
      exact hown
    · rw [hraised]
      rfl
    · intro error herror
      rw [hraised] at herror
      cases herror
      exact ⟨rfl, by omega⟩
    · exact hwinners
  · exact callInv_ready hready hown ⟨hactive, by omega, by omega⟩ hwinners

/-- The number that a call is given is beyond those of before. -/
theorem callInv_numbers {s : State} (h : Inv s) {i : Nat} (hphase : (s.calls i).phase = .ready) :
    CallInv s.incidents i
      { s.calls i with phase := .numbered (getNextRunningNumber s.incidents) } := by
  have hcall := h.calls i
  have hcreated := hcall.created
  rw [hphase] at hcreated
  refine ⟨hcreated, ?_, ?_, ?_, ?_, hcall.winners⟩
  · intro _
    exact hcall.opened (by rw [hphase]; rfl)
  · intro hfresh
    cases hfresh
  · intro error herror
    cases herror
  · intro number hnumber incident larger hincident hcreator hlarger
    cases hnumber
    exact lt_getNextRunningNumber (mem_committedNumbers.mpr
      ⟨incident, hincident, h.table.old incident hincident hcreator, hlarger⟩)

theorem callInv_inserts {s : State} (h : Inv s) {i : Nat} {number : Int}
    (hphase : (s.calls i).phase = .numbered number) :
    CallInv (s.incidents ++ [⟨some i, some number, false⟩]) i
      { s.calls i with phase := .inserted } := by
  have hcreated := (h.calls i).created
  rw [hphase] at hcreated
  apply callInv_closed
  · refine ⟨⟨some i, some number, false⟩, (own_append s.incidents i i number).trans ?_, rfl⟩
    rw [if_pos rfl, show own s.incidents i = [] from hcreated]
    rfl
  · rfl
  · intro error herror
    cases herror
  · exact (h.calls i).winners

theorem callInv_commits {s : State} (h : Inv s) {i : Nat}
    (hphase : (s.calls i).phase = .inserted) :
    CallInv (s.incidents.map (commitOf i)) i { s.calls i with phase := .returned } := by
  have hcreated := (h.calls i).created
  rw [hphase] at hcreated
  rcases hcreated with ⟨incident, hown, _⟩
  apply callInv_closed
  · refine ⟨commitOf i incident, (own_commit s.incidents i i).trans ?_, ?_⟩
    · rw [hown]
      rfl
    · have hcreator : incident.creator = some i :=
        (mem_own.mp (by rw [hown]; exact List.mem_singleton_self _)).2
      unfold commitOf
      rw [if_pos hcreator]
  · rfl
  · intro error herror
    cases herror
  · exact (h.calls i).winners

theorem step_inv {waits : Bool} {s s' : State} {action : Action} (h : Inv s)
    (hstep : step waits s action = some s') : Inv s' := by
  cases step_cases hstep with
  | @starts i hphase =>
      have hcreated := (h.calls i).created
      rw [hphase] at hcreated
      have hopened := (h.calls i).opened (by rw [hphase]; rfl)
      exact ⟨h.table, forall_calls_set (callInv_ready rfl hcreated hopened (h.calls i).winners)
        fun j _ => h.calls j⟩
  | @numbers i hphase _ =>
      exact ⟨h.table, forall_calls_set (callInv_numbers h hphase) fun j _ => h.calls j⟩
  | @refuses i hphase hinactive =>
      have hactive := ((h.calls i).opened (by rw [hphase]; rfl)).1
      rw [hinactive] at hactive
      cases hactive
  | @inserts i number hphase hfree =>
      refine ⟨tableInv_append h.table hfree, forall_calls_set (callInv_inserts h hphase) ?_⟩
      intro j hj
      refine (h.calls j).frame ((own_append s.incidents i j number).trans ?_) ?_
      · rw [if_neg (Ne.symm hj), List.append_nil]
      · intro incident hincident hcreator
        rcases List.mem_append.mp hincident with hmem | hnew
        · exact hmem
        · rw [List.mem_singleton.mp hnew] at hcreator
          cases hcreator
  | @loses i number other hphase hheld _ =>
      exact ⟨h.table, forall_calls_set (callInv_lose h hphase hheld) fun j _ => h.calls j⟩
  | @commits i hphase =>
      refine ⟨tableInv_commit h.table i, forall_calls_set (callInv_commits h hphase) ?_⟩
      intro j hj
      refine (h.calls j).frame (own_commit_ne hj _) ?_
      intro after hafter hcreator
      rcases List.mem_map.mp hafter with ⟨before, hbefore, rfl⟩
      rw [commitOf_creator] at hcreator
      rw [commitOf_committed (h.table.old before hbefore hcreator)]
      exact hbefore

theorem run_inv {waits : Bool} {s s' : State} {actions : List Action} (h : Inv s)
    (hrun : run (step waits) s actions = some s') : Inv s' :=
  run_invariant (fun _ _ _ hinv hstep => step_inv hinv hstep) h hrun

/-!
## What has happened during a call
-/

/-- The calls that commit in some steps. -/
def committers (actions : List Action) : List Nat :=
  actions.filterMap fun action =>
    match action with
    | .commit j => some j
    | _ => none

/-- A call that has created an incident with the number, which is committed. -/
def Has (incidents : List Incident) (creator : Option Nat) (number : Int) : Prop :=
  exists incident, incident ∈ incidents ∧ incident.creator = creator ∧
    incident.runningNumber = some number ∧ incident.committed = true

/-- The lost inserts of a call that has started when some incidents were there, on a database that
lets conflicting inserts wait: they were lost to different calls, and to none of those
incidents. -/
structure Losing (before incidents : List Incident) (call : Call) : Prop where
  beyond : forall number, call.phase = .numbered number ->
    (forall creator smaller, Has before creator smaller -> smaller < number) ∧
      forall winner, winner ∈ call.lostTo ->
        exists smaller, Has incidents winner smaller ∧ smaller < number
  won : forall winner, winner ∈ call.lostTo -> exists number,
    Has incidents winner number ∧
      forall creator smaller, Has before creator smaller -> smaller < number
  distinct : call.lostTo.Nodup

/-- What has happened since a call has started. -/
structure Since (before : List Incident) (during : List Action) (i : Nat) (s : State) : Prop where
  kept : forall creator number, Has before creator number -> Has s.incidents creator number
  commits : forall j number, Has s.incidents (some j) number ->
    Has before (some j) number ∨ j ∈ committers during
  losing : Losing before s.incidents (s.calls i)

theorem Has.append {incidents : List Incident} {creator : Option Nat} {number : Int}
    {new : Incident} (h : new.committed = false) :
    Has (incidents ++ [new]) creator number <-> Has incidents creator number := by
  constructor
  · rintro ⟨incident, hmem, hcreator, hnumber, hcommitted⟩
    rcases List.mem_append.mp hmem with hmem | hnew
    · exact ⟨incident, hmem, hcreator, hnumber, hcommitted⟩
    · rw [List.mem_singleton.mp hnew, h] at hcommitted
      cases hcommitted
  · rintro ⟨incident, hmem, hrest⟩
    exact ⟨incident, List.mem_append_left _ hmem, hrest⟩

theorem Has.commit {incidents : List Incident} {creator : Option Nat} {number : Int}
    (h : Has incidents creator number) (i : Nat) :
    Has (incidents.map (commitOf i)) creator number := by
  rcases h with ⟨incident, hmem, hcreator, hnumber, hcommitted⟩
  refine ⟨incident, List.mem_map.mpr ⟨incident, hmem, commitOf_committed hcommitted⟩, hcreator,
    hnumber, hcommitted⟩

theorem Has.of_commit {incidents : List Incident} {i j : Nat} {number : Int}
    (h : Has (incidents.map (commitOf i)) (some j) number) :
    Has incidents (some j) number ∨ j = i := by
  rcases h with ⟨incident, hmem, hcreator, hnumber, hcommitted⟩
  rcases List.mem_map.mp hmem with ⟨before, hbefore, rfl⟩
  rw [commitOf_creator] at hcreator
  rw [commitOf_runningNumber] at hnumber
  rcases Classical.em (j = i) with hsame | hne
  · exact Or.inr hsame
  · left
    have hkept : commitOf i before = before := by
      refine if_neg fun hthis => hne ?_
      exact Option.some.inj (hcreator.symm.trans hthis)
    rw [hkept] at hcommitted
    exact ⟨before, hbefore, hcreator, hnumber, hcommitted⟩

theorem Created.cases {rows : List Incident} {phase : Phase} (h : Created rows phase) :
    rows = [] ∨ exists incident, rows = [incident] ∧
      (phase = .inserted ∧ incident.committed = false ∨
        phase = .returned ∧ incident.committed = true) := by
  cases phase with
  | inserted =>
      rcases h with ⟨incident, hone, huncommitted⟩
      exact Or.inr ⟨incident, hone, Or.inl ⟨rfl, huncommitted⟩⟩
  | returned =>
      rcases h with ⟨incident, hone, hcommitted⟩
      exact Or.inr ⟨incident, hone, Or.inr ⟨rfl, hcommitted⟩⟩
  | notStarted => exact Or.inl h
  | ready => exact Or.inl h
  | numbered number => exact Or.inl h
  | raised error => exact Or.inl h

theorem Created.eq {rows : List Incident} {phase : Phase} (h : Created rows phase)
    {a b : Incident} (ha : a ∈ rows) (hb : b ∈ rows) : a = b := by
  rcases h.cases with hnone | ⟨incident, hone, _⟩
  · rw [hnone] at ha
    cases ha
  · rw [hone] at ha hb
    rw [List.mem_singleton.mp ha, List.mem_singleton.mp hb]

/-- A call has one incident at most. -/
theorem Has.unique {s : State} (h : Inv s) {i : Nat} {number other : Int}
    (hnumber : Has s.incidents (some i) number) (hother : Has s.incidents (some i) other) :
    number = other := by
  rcases hnumber with ⟨a, ha, hai, han, _⟩
  rcases hother with ⟨b, hb, hbi, hbn, _⟩
  rw [(h.calls i).created.eq (mem_own.mpr ⟨ha, hai⟩) (mem_own.mpr ⟨hb, hbi⟩)] at han
  exact Option.some.inj (han.symm.trans hbn)

/-!
## A step during a call
-/

theorem Has.step {waits : Bool} {s s' : State} {action : Action} {creator : Option Nat}
    {number : Int} (h : Has s.incidents creator number) (hstep : Steps waits s action s') :
    Has s'.incidents creator number := by
  cases hstep with
  | starts => exact h
  | numbers => exact h
  | refuses => exact h
  | inserts => exact (Has.append rfl).mpr h
  | loses => exact h
  | commits => exact h.commit _

theorem Has.of_step {waits : Bool} {s s' : State} {action : Action} {j : Nat} {number : Int}
    (h : Has s'.incidents (some j) number) (hstep : Steps waits s action s') :
    Has s.incidents (some j) number ∨ action = .commit j := by
  cases hstep with
  | starts => exact Or.inl h
  | numbers => exact Or.inl h
  | refuses => exact Or.inl h
  | inserts => exact Or.inl ((Has.append rfl).mp h)
  | loses => exact Or.inl h
  | commits => exact h.of_commit.imp_right fun hsame => by rw [hsame]

theorem Has.lt_getNextRunningNumber {incidents : List Incident} {creator : Option Nat}
    {number : Int} (h : Has incidents creator number) :
    number < getNextRunningNumber incidents := by
  rcases h with ⟨incident, hmem, _, hnumber, hcommitted⟩
  exact Numbers.lt_getNextRunningNumber
    (mem_committedNumbers.mpr ⟨incident, hmem, hcommitted, hnumber⟩)

theorem mem_committers_append {during : List Action} {action : Action} {j : Nat}
    (h : j ∈ committers during ∨ action = .commit j) : j ∈ committers (during ++ [action]) := by
  unfold committers
  rw [List.filterMap_append]
  rcases h with hbefore | hcommit
  · exact List.mem_append_left _ hbefore
  · rw [hcommit]
    exact List.mem_append_right _ (List.mem_singleton_self j)

section

variable {before : List Incident} {during : List Action} {i : Nat} {s s' : State}

/-- In another phase than `numbered`, only the lost inserts matter. -/
theorem Losing.of_phase {incidents : List Incident} {call call' : Call}
    (h : Losing before incidents call) (hlost : call'.lostTo = call.lostTo)
    (hphase : forall number, call'.phase ≠ .numbered number) : Losing before incidents call' := by
  refine ⟨fun number hnumber => absurd hnumber (hphase number), ?_, ?_⟩
  · rw [hlost]
    exact h.won
  · rw [hlost]
    exact h.distinct

theorem Losing.mono {incidents incidents' : List Incident} {call : Call}
    (h : Losing before incidents call)
    (hkept : forall creator number, Has incidents creator number ->
      Has incidents' creator number) : Losing before incidents' call := by
  refine ⟨?_, ?_, h.distinct⟩
  · intro number hnumber
    rcases h.beyond number hnumber with ⟨hbefore, hwinners⟩
    refine ⟨hbefore, fun winner hwinner => ?_⟩
    rcases hwinners winner hwinner with ⟨smaller, hhas, hlt⟩
    exact ⟨smaller, hkept _ _ hhas, hlt⟩
  · intro winner hwinner
    rcases h.won winner hwinner with ⟨number, hhas, hbefore⟩
    exact ⟨number, hkept _ _ hhas, hbefore⟩

theorem losing_set {incidents : List Incident} {t : State} {k : Nat} {call : Call}
    (hthis : i = k -> Losing before incidents call)
    (hother : Losing before incidents (t.calls i)) :
    Losing before incidents ((t.set k call).calls i) := by
  rcases Classical.em (i = k) with hsame | hne
  · rw [hsame, State.set_calls_self]
    exact hthis hsame
  · rw [State.set_calls_ne hne]
    exact hother

/-- The call that loses its number to a committed incident has not lost to its creator before. -/
theorem losing_lose {number : Int} {other : Incident} (h : Inv s)
    (hlosing : Losing before s.incidents (s.calls i))
    (hphase : (s.calls i).phase = .numbered number)
    (hheld : holder s.incidents number = some other) (hcommitted : other.committed = true) :
    Losing before s.incidents ((s.calls i).lose other) := by
  rcases holder_eq_some hheld with ⟨hmem, hnumber⟩
  rcases hlosing.beyond number hphase with ⟨hbefore, hwinners⟩
  rcases lose_cases (s.calls i) other with ⟨hlost, hend⟩
  have hhas : Has s.incidents other.creator number := ⟨other, hmem, rfl, hnumber, hcommitted⟩
  refine ⟨?_, ?_, ?_⟩
  · intro larger hnumbered
    rcases hend with ⟨_, hraised⟩ | ⟨_, hready, _⟩
    · rw [hraised] at hnumbered
      cases hnumbered
    · rw [hready] at hnumbered
      cases hnumbered
  · intro winner hwinner
    rw [hlost] at hwinner
    rcases List.mem_append.mp hwinner with hold | hnew
    · exact hlosing.won winner hold
    · rw [List.mem_singleton.mp hnew]
      exact ⟨number, hhas, hbefore⟩
  · rw [hlost]
    refine List.nodup_append'.mpr ⟨hlosing.distinct, List.nodup_singleton _, ?_⟩
    intro winner hold hnew
    rw [List.mem_singleton.mp hnew] at hold
    rcases hwinners other.creator hold with ⟨smaller, hsmaller, hlt⟩
    rcases exists_winner h hphase hheld with ⟨j, _, hcreator⟩
    rw [hcreator] at hsmaller hhas
    rw [hsmaller.unique h hhas] at hlt
    exact Int.lt_irrefl number hlt

theorem losing_step {action : Action} (h : Inv s)
    (hkept : forall creator number, Has before creator number -> Has s.incidents creator number)
    (hlosing : Losing before s.incidents (s.calls i)) (hstep : Steps true s action s') :
    Losing before s'.incidents (s'.calls i) := by
  have hmono := hlosing.mono fun _ _ hhas => hhas.step hstep
  cases hstep with
  | starts _ =>
      refine losing_set (fun hsame => ?_) hmono
      exact hmono.of_phase (by rw [hsame]) fun _ h => nomatch h
  | numbers _ _ =>
      refine losing_set (fun hsame => ?_) hmono
      refine ⟨?_, ?_, ?_⟩
      · intro number hnumber
        cases hnumber
        refine ⟨fun _ _ hhas => (hkept _ _ hhas).lt_getNextRunningNumber, ?_⟩
        intro winner hwinner
        rw [← hsame] at hwinner
        rcases hlosing.won winner hwinner with ⟨number, hhas, _⟩
        exact ⟨number, hhas, hhas.lt_getNextRunningNumber⟩
      · rw [← hsame]
        exact hlosing.won
      · rw [← hsame]
        exact hlosing.distinct
  | refuses _ _ =>
      refine losing_set (fun hsame => ?_) hmono
      exact hmono.of_phase (by rw [hsame]; rfl) fun _ h => nomatch h
  | inserts _ _ =>
      refine losing_set (fun hsame => ?_) hmono
      exact hmono.of_phase (by rw [hsame]) fun _ h => nomatch h
  | loses hphase hheld hwaited =>
      refine losing_set (fun hsame => ?_) hmono
      rw [← hsame] at hphase ⊢
      exact losing_lose h hlosing hphase hheld (hwaited rfl)
  | commits _ =>
      refine losing_set (fun hsame => ?_) hmono
      exact hmono.of_phase (by rw [hsame]) fun _ h => nomatch h

theorem since_step {action : Action} (h : Inv s) (hsince : Since before during i s)
    (hstep : Steps true s action s') : Since before (during ++ [action]) i s' := by
  refine ⟨fun creator number hhas => (hsince.kept creator number hhas).step hstep, ?_,
    losing_step h hsince.kept hsince.losing hstep⟩
  intro j number hhas
  rcases hhas.of_step hstep with hold | hcommit
  · exact (hsince.commits j number hold).imp_right fun hj => mem_committers_append (Or.inl hj)
  · exact Or.inr (mem_committers_append (Or.inr hcommit))

theorem since_run (h : Inv s) (hlost : (s.calls i).lostTo = [])
    (hphase : forall number, (s.calls i).phase ≠ .numbered number)
    (hrun : run (step true) s during = some s') : Since s.incidents during i s' := by
  induction during using List.reverseRecOn generalizing s' with
  | nil =>
      cases hrun
      refine ⟨fun _ _ hhas => hhas, fun _ _ hhas => Or.inl hhas,
        fun number hnumber => absurd hnumber (hphase number), ?_, ?_⟩
      · rw [hlost]
        intro winner hwinner
        cases hwinner
      · rw [hlost]
        exact List.nodup_nil
  | append_singleton during action ih =>
      rcases run_append.mp hrun with ⟨t, hfirst, hlast⟩
      rcases run_cons.mp hlast with ⟨t', hstep, hnil⟩
      cases hnil
      exact since_step (run_inv h hfirst) (ih hfirst) (step_cases hstep)

/-- The other calls that commit in some steps. -/
def otherCommitters (i : Nat) (actions : List Action) : List Nat :=
  ((committers actions).filter fun j => j != i).dedup

/-- A call that raises has lost to three calls that commit during it. -/
theorem three_le_committers (h : Inv s) (hlost : (s.calls i).lostTo = [])
    (hphase : forall number, (s.calls i).phase ≠ .numbered number)
    (hrun : run (step true) s during = some s') {error : DbError}
    (hraised : (s'.calls i).phase = .raised error) : 3 ≤ (otherCommitters i during).length := by
  have hsince := since_run h hlost hphase hrun
  have hlength := (((run_inv h hrun).calls i).raised error hraised).2
  have hsub : (s'.calls i).lostTo ⊆ (otherCommitters i during).map some := by
    intro winner hwinner
    rcases ((run_inv h hrun).calls i).winners winner hwinner with ⟨j, hother, heq⟩
    rcases hsince.losing.won winner hwinner with ⟨number, hhas, hbefore⟩
    rw [heq] at hhas ⊢
    refine List.mem_map_of_mem (List.mem_dedup.mpr ?_)
    refine List.mem_filter.mpr ⟨?_, bne_iff_ne.mpr hother⟩
    rcases hsince.commits j number hhas with hold | hcommit
    · exact absurd (hbefore _ _ hold) (Int.lt_irrefl number)
    · exact hcommit
  have hle := (List.subperm_of_subset hsince.losing.distinct hsub).length_le
  rw [hlength, List.length_map] at hle
  exact hle

end

end Numbers
end Incidents
end KeepGateway
