import KeepGateway.Lib.Except

/-!
# Sequences of transactions

Transactions that each commit or leave the state as it was.  One that fails stops
the sequence; what was committed before it stays.
-/

namespace KeepGateway
namespace Transactions

variable {σ ι ε : Type}

/-- The state after the calls of a sequence, and the failure that stopped it. -/
def inSequence (call : σ -> ι -> Except ε σ) : σ -> List ι -> σ × Option ε
  | s, [] => (s, none)
  | s, x :: rest =>
      match call s x with
      | .ok s' => inSequence call s' rest
      | .error e => (s, some e)

/-- A call fails after an earlier one has committed. -/
def StopsLate (call : σ -> ι -> Except ε σ) (s : σ) (calls : List ι) : Prop :=
  exists x rest s', calls = x :: rest ∧ call s x = .ok s' ∧ (inSequence call s' rest).2 ≠ none

/-- All calls together either fail without a change where the sequence does, or end in the
same state. -/
def Agrees (same : σ -> σ -> Prop) (s : σ) (together : Except ε σ) (sequence : σ × Option ε) :
    Prop :=
  (exists e e', together = .error e ∧ sequence = (s, some e')) ∨
    exists t t', together = .ok t ∧ sequence = (t', none) ∧ same t t'

variable {call : σ -> ι -> Except ε σ}

theorem inSequence_of_ok {s s' : σ} {x : ι} {rest : List ι} (h : call s x = .ok s') :
    inSequence call s (x :: rest) = inSequence call s' rest := by
  rw [inSequence, h]

theorem inSequence_of_error {s : σ} {x : ι} {rest : List ι} {e : ε}
    (h : call s x = .error e) : inSequence call s (x :: rest) = (s, some e) := by
  rw [inSequence, h]

/-- What every call keeps holds wherever the sequence stops. -/
theorem inSequence_invariant {I : σ -> Prop} {s : σ} {calls : List ι} (hs : I s)
    (hcall : forall s x s', x ∈ calls -> I s -> call s x = .ok s' -> I s') :
    I (inSequence call s calls).1 := by
  induction calls generalizing s with
  | nil => exact hs
  | cons x rest ih =>
      have hrest := fun t y t' hy => hcall t y t' (List.mem_cons_of_mem x hy)
      cases hfirst : call s x with
      | error e =>
          rw [inSequence_of_error hfirst]
          exact hs
      | ok t =>
          rw [inSequence_of_ok hfirst]
          exact ih (hcall s x t List.mem_cons_self hs hfirst) hrest

theorem inSequence_of_foldlM {s s' : σ} {calls : List ι}
    (h : calls.foldlM call s = .ok s') : inSequence call s calls = (s', none) := by
  induction calls generalizing s with
  | nil =>
      cases h
      rfl
  | cons x rest ih =>
      rw [List.foldlM_cons] at h
      rcases bind_eq_ok.mp h with ⟨t, hfirst, hrest⟩
      rw [inSequence_of_ok hfirst]
      exact ih hrest

theorem foldlM_of_inSequence {s : σ} {calls : List ι}
    (h : (inSequence call s calls).2 = none) :
    calls.foldlM call s = .ok (inSequence call s calls).1 := by
  induction calls generalizing s with
  | nil => rfl
  | cons x rest ih =>
      rw [List.foldlM_cons]
      cases hfirst : call s x with
      | error e =>
          rw [inSequence_of_error hfirst] at h
          cases h
      | ok t =>
          rw [inSequence_of_ok hfirst] at h ⊢
          exact ih h

/-- A sequence that does not stop late runs to its end or fails at once. -/
theorem ends_or_fails_at_once {s : σ} {calls : List ι} (h : ¬ StopsLate call s calls) :
    (exists s', calls.foldlM call s = .ok s') ∨
      exists x rest e, calls = x :: rest ∧ call s x = .error e := by
  cases calls with
  | nil => exact Or.inl ⟨s, rfl⟩
  | cons x rest =>
      cases hfirst : call s x with
      | error e => exact Or.inr ⟨x, rest, e, rfl, hfirst⟩
      | ok t =>
          left
          have hend : (inSequence call t rest).2 = none := by
            by_contra hne
            exact h ⟨x, rest, t, rfl, hfirst, hne⟩
          refine ⟨(inSequence call t rest).1, ?_⟩
          rw [List.foldlM_cons, hfirst]
          exact foldlM_of_inSequence hend

end Transactions
end KeepGateway
