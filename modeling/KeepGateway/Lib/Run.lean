import Mathlib.Data.List.Basic

/-!
# Runs of a step function

A step function takes an action, which also fixes every choice the environment
makes, and is undefined where the action is not enabled.
-/

namespace KeepGateway
namespace Run

variable {σ α : Type}

/-- The state after a sequence of actions. -/
def run (step : σ -> α -> Option σ) : σ -> List α -> Option σ
  | s, [] => some s
  | s, a :: rest => (step s a).bind fun s' => run step s' rest

/-- Some run from an initial state ends here. -/
def Reachable (step : σ -> α -> Option σ) (init : σ) (s : σ) : Prop :=
  exists actions, run step init actions = some s

variable {step : σ -> α -> Option σ}

theorem run_cons {s s'' : σ} {a : α} {rest : List α} :
    run step s (a :: rest) = some s'' <->
      exists s', step s a = some s' ∧ run step s' rest = some s'' :=
  Option.bind_eq_some_iff

theorem run_append {s s'' : σ} {first rest : List α} :
    run step s (first ++ rest) = some s'' <->
      exists s', run step s first = some s' ∧ run step s' rest = some s'' := by
  induction first generalizing s with
  | nil => simp [run]
  | cons a first ih =>
      rw [List.cons_append, run_cons]
      constructor
      · rintro ⟨s', hstep, hrun⟩
        rcases ih.mp hrun with ⟨t, hfirst, hrest⟩
        exact ⟨t, run_cons.mpr ⟨s', hstep, hfirst⟩, hrest⟩
      · rintro ⟨t, hfirst, hrest⟩
        rcases run_cons.mp hfirst with ⟨s', hstep, hrun⟩
        exact ⟨s', hstep, ih.mpr ⟨t, hrun, hrest⟩⟩

/-- What every step preserves, every run preserves. -/
theorem run_invariant {p : σ -> Prop}
    (hstep : forall s a s', p s -> step s a = some s' -> p s') {s s' : σ} {actions : List α}
    (hs : p s) (hrun : run step s actions = some s') : p s' := by
  induction actions generalizing s with
  | nil =>
      cases hrun
      exact hs
  | cons a rest ih =>
      rcases run_cons.mp hrun with ⟨t, hfirst, hrest⟩
      exact ih (hstep s a t hs hfirst) hrest

theorem Reachable.invariant {init s : σ} {p : σ -> Prop} (hreach : Reachable step init s)
    (hinit : p init) (hstep : forall s a s', p s -> step s a = some s' -> p s') : p s := by
  rcases hreach with ⟨actions, hrun⟩
  exact run_invariant hstep hinit hrun

theorem Reachable.run {init s s' : σ} {actions : List α} (hreach : Reachable step init s)
    (hrun : run step s actions = some s') : Reachable step init s' := by
  rcases hreach with ⟨before, hbefore⟩
  exact ⟨before ++ actions, run_append.mpr ⟨s, hbefore, hrun⟩⟩

/-- Every step of the run is taken from a state at which the condition holds of it. -/
def Along (step : σ -> α -> Option σ) (p : σ -> α -> Prop) : σ -> List α -> Prop
  | _, [] => True
  | s, a :: rest => p s a ∧ forall s', step s a = some s' -> Along step p s' rest

theorem along_of_mem {p : σ -> α -> Prop} {actions : List α}
    (h : forall a, a ∈ actions -> forall s, p s a) (s : σ) : Along step p s actions := by
  induction actions generalizing s with
  | nil => trivial
  | cons a rest ih =>
      rcases List.forall_mem_cons.mp h with ⟨hfirst, hrest⟩
      exact ⟨hfirst s, fun s' _ => ih hrest s'⟩

/-- What holds after every part of a run holds at its start and after each of its steps. -/
theorem forall_prefix_iff_along {p : σ -> Prop} (s : σ) (actions : List α) :
    (forall before, before <+: actions -> forall s', run step s before = some s' -> p s') <->
      p s ∧ Along step (fun s a => forall s', step s a = some s' -> p s') s actions := by
  induction actions generalizing s with
  | nil =>
      constructor
      · intro h
        exact ⟨h [] (List.prefix_refl []) s rfl, trivial⟩
      · intro h before hbefore s' hrun
        rw [List.prefix_nil.mp hbefore] at hrun
        cases hrun
        exact h.1
  | cons a rest ih =>
      constructor
      · intro h
        have hafter : forall s', step s a = some s' ->
            p s' ∧ Along step (fun s a => forall s', step s a = some s' -> p s') s' rest := by
          intro s' hstep
          apply (ih s').mp
          intro before hbefore s'' hrun
          exact h (a :: before) ((List.prefix_cons_inj a).mpr hbefore) s''
            (run_cons.mpr ⟨s', hstep, hrun⟩)
        exact ⟨h [] List.nil_prefix s rfl, fun s' hstep => (hafter s' hstep).1,
          fun s' hstep => (hafter s' hstep).2⟩
      · intro h before hbefore s'' hrun
        rcases h with ⟨hs, hfirst, hrest⟩
        cases before with
        | nil =>
            cases hrun
            exact hs
        | cons b before =>
            rcases List.cons_prefix_cons.mp hbefore with ⟨heq, hbefore⟩
            rw [heq] at hrun
            rcases run_cons.mp hrun with ⟨s', hstep, hrun⟩
            exact (ih s').mpr ⟨hfirst s' hstep, hrest s' hstep⟩ before hbefore s'' hrun

/-- What every step under the condition preserves, every run under it preserves. -/
theorem run_invariant_along {p : σ -> α -> Prop} {q : σ -> Prop}
    (hstep : forall s a s', q s -> p s a -> step s a = some s' -> q s') {s s' : σ}
    {actions : List α} (hs : q s) (halong : Along step p s actions)
    (hrun : run step s actions = some s') : q s' := by
  induction actions generalizing s with
  | nil =>
      cases hrun
      exact hs
  | cons a rest ih =>
      rcases run_cons.mp hrun with ⟨t, hfirst, hrest⟩
      rcases halong with ⟨hp, hafter⟩
      exact ih (hstep s a t hs hp hfirst) (hafter t hfirst) hrest

/-- Two conditions that agree under an invariant hold along the same runs. -/
theorem along_iff_along {p q : σ -> α -> Prop} {inv : σ -> Prop}
    (hiff : forall s a, inv s -> (p s a <-> q s a))
    (hstep : forall s a s', inv s -> q s a -> step s a = some s' -> inv s') {s : σ}
    (hs : inv s) (actions : List α) : Along step p s actions <-> Along step q s actions := by
  induction actions generalizing s with
  | nil => exact Iff.rfl
  | cons a rest ih =>
      constructor
      · intro ⟨hp, hafter⟩
        have hq := (hiff s a hs).mp hp
        exact ⟨hq, fun s' h => (ih (hstep s a s' hs hq h)).mp (hafter s' h)⟩
      · intro ⟨hq, hafter⟩
        exact ⟨(hiff s a hs).mpr hq, fun s' h => (ih (hstep s a s' hs hq h)).mpr (hafter s' h)⟩

/-!
## Calls of several callers

A call is answered and changes the state that all callers share.
-/

section Calls

variable {β : Type}

/-- The answers to the calls of one caller, and the state after all calls. -/
def answers (serve : σ -> α -> β × σ) (own : α -> Bool) : σ -> List α -> List β × σ
  | s, [] => ([], s)
  | s, a :: rest =>
      let (later, last) := answers serve own (serve s a).2 rest
      (if own a then (serve s a).1 :: later else later, last)

theorem answers_snd (serve : σ -> α -> β × σ) (own : α -> Bool) (s : σ) (calls : List α) :
    (answers serve own s calls).2 = calls.foldl (fun s a => (serve s a).2) s := by
  induction calls generalizing s with
  | nil => rfl
  | cons a rest ih =>
      rw [List.foldl_cons, ← ih]
      rfl

/-- How a caller is kept apart from the others: under an invariant their calls change nothing the
caller can tell, and the answers to the caller and what the caller can tell after them depend on
nothing else. -/
structure Unwinding (serve : σ -> α -> β × σ) (own : α -> Bool) (enabled : α -> Prop)
    (inv : σ -> Prop) (same : σ -> σ -> Prop) : Prop where
  keeps : forall s a, inv s -> enabled a -> inv (serve s a).2
  others : forall s s' a, inv s -> enabled a -> own a = false -> same s s' ->
    same (serve s a).2 s'
  owns : forall s s' a, inv s -> inv s' -> own a = true -> same s s' ->
    (serve s a).1 = (serve s' a).1 ∧ same (serve s a).2 (serve s' a).2

/-- A caller kept apart is answered as if alone. -/
theorem Unwinding.alone {serve : σ -> α -> β × σ} {own : α -> Bool} {enabled : α -> Prop}
    {inv : σ -> Prop} {same : σ -> σ -> Prop} (h : Unwinding serve own enabled inv same)
    {s s' : σ} (hs : inv s) (hs' : inv s') (hsame : same s s') {calls : List α}
    (hcalls : forall a, a ∈ calls -> enabled a) :
    (answers serve own s calls).1 = (answers serve own s' (calls.filter own)).1 ∧
      same (answers serve own s calls).2 (answers serve own s' (calls.filter own)).2 := by
  induction calls generalizing s s' with
  | nil => exact ⟨rfl, hsame⟩
  | cons a rest ih =>
      rcases List.forall_mem_cons.mp hcalls with ⟨ha, hrest⟩
      have hafter := h.keeps s a hs ha
      cases hown : own a with
      | false =>
          rw [List.filter_cons_of_neg (by simp [hown])]
          have hlater := ih hafter hs' (h.others s s' a hs ha hown hsame) hrest
          simp only [answers, hown]
          exact hlater
      | true =>
          rw [List.filter_cons_of_pos hown]
          rcases h.owns s s' a hs hs' hown hsame with ⟨hanswer, hnext⟩
          have hlater := ih hafter (h.keeps s' a hs' ha) hnext hrest
          simp only [answers, hown, if_true]
          rw [hanswer, hlater.1]
          exact ⟨rfl, hlater.2⟩

end Calls

end Run
end KeepGateway
