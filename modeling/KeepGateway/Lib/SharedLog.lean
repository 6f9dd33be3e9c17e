import KeepGateway.Lib.Run

/-!
# Agents on a shared log

Any number of agents, each with a state of its own, append to one log and read
it.  An agent steps on its state and the log; entries may also come from
outside.  An invariant of one agent that its own steps keep, and that entries of
others do not disturb, holds in every reachable state.
-/

namespace KeepGateway
namespace SharedLog

open Run

structure System (μ σ : Type) where
  log : List μ
  agents : List σ

inductive Action (ε α : Type) where
  | agent (i : Nat) (a : α)
  | outside (e : ε)

/-- What an agent does at a step, and what the outside appends. -/
structure Behaviour (μ σ α ε : Type) where
  act : List μ -> Nat -> σ -> α -> Option (σ × List μ)
  outside : ε -> List μ

variable {μ σ α ε : Type}

def step (b : Behaviour μ σ α ε) (s : System μ σ) : Action ε α -> Option (System μ σ)
  | .agent i a =>
      s.agents[i]?.bind fun st =>
        (b.act s.log i st a).map fun result =>
          { log := s.log ++ result.2, agents := s.agents.set i result.1 }
  | .outside e => some { s with log := s.log ++ b.outside e }

variable {b : Behaviour μ σ α ε}

/-- A step appends to the log; the agent that took it steps, the others stay. -/
theorem step_cases {s s' : System μ σ} {a : Action ε α} (h : step b s a = some s') :
    (exists e, a = .outside e ∧ s' = { s with log := s.log ++ b.outside e }) ∨
      exists i act st st' entries, a = .agent i act ∧ s.agents[i]? = some st ∧
        b.act s.log i st act = some (st', entries) ∧
        s' = { log := s.log ++ entries, agents := s.agents.set i st' } := by
  cases a with
  | outside e => exact Or.inl ⟨e, rfl, (Option.some.inj h).symm⟩
  | agent i act =>
      rcases Option.bind_eq_some_iff.mp h with ⟨st, hst, hact⟩
      rcases Option.map_eq_some_iff.mp hact with ⟨⟨st', entries⟩, hact, heq⟩
      exact Or.inr ⟨i, act, st, st', entries, rfl, hst, hact, heq.symm⟩

/-- The rule for invariants of one agent. -/
structure LocalInvariant (b : Behaviour μ σ α ε) (author : μ -> Option Nat)
    (p : List μ -> Nat -> σ -> Prop) : Prop where
  signed : forall log i st a st' entries, b.act log i st a = some (st', entries) ->
    forall m, m ∈ entries -> author m = some i
  unsigned : forall e m, m ∈ b.outside e -> author m = none
  own : forall log i st a st' entries, p log i st -> b.act log i st a = some (st', entries) ->
    p (log ++ entries) i st'
  others : forall log i st entries, p log i st ->
    (forall m, m ∈ entries -> author m ≠ some i) -> p (log ++ entries) i st

def Everywhere (p : List μ -> Nat -> σ -> Prop) (s : System μ σ) : Prop :=
  forall i st, s.agents[i]? = some st -> p s.log i st

variable {author : μ -> Option Nat} {p : List μ -> Nat -> σ -> Prop}

theorem LocalInvariant.step (h : LocalInvariant b author p) {s s' : System μ σ}
    {a : Action ε α} (hs : Everywhere p s) (hstep : step b s a = some s') :
    Everywhere p s' := by
  intro j stj hj
  rcases step_cases hstep with ⟨e, _, heq⟩ | ⟨i, act, st, st', entries, _, hst, hact, heq⟩
  · subst heq
    apply h.others _ _ _ _ (hs j stj hj)
    intro m hm hauthor
    rw [h.unsigned e m hm] at hauthor
    cases hauthor
  · subst heq
    by_cases hij : i = j
    · subst hij
      have hlen : i < s.agents.length := (List.getElem?_eq_some_iff.mp hst).1
      rw [List.getElem?_set_self hlen] at hj
      cases hj
      exact h.own _ _ _ _ _ _ (hs i st hst) hact
    · rw [List.getElem?_set_ne hij] at hj
      apply h.others _ _ _ _ (hs j stj hj)
      intro m hm hauthor
      rw [h.signed _ _ _ _ _ _ hact m hm] at hauthor
      exact hij (Option.some.inj hauthor)

theorem LocalInvariant.everywhere (h : LocalInvariant b author p) {init s : System μ σ}
    (hinit : Everywhere p init) (hreach : Reachable (SharedLog.step b) init s) :
    Everywhere p s :=
  hreach.invariant hinit fun _ _ _ hs hstep => h.step hs hstep

/-- The log only grows. -/
theorem run_log_prefix {s s' : System μ σ} {actions : List (Action ε α)}
    (hrun : run (SharedLog.step b) s actions = some s') : s.log <+: s'.log := by
  apply run_invariant (p := fun t => s.log <+: t.log) _ (List.prefix_refl _) hrun
  intro t a t' ht hstep
  rcases step_cases hstep with ⟨e, _, heq⟩ | ⟨i, act, st, st', entries, _, _, _, heq⟩ <;>
    rw [heq] <;> exact ht.trans (List.prefix_append _ _)

variable {σ' α' : Type} {b' : Behaviour μ σ' α' ε} {part : σ -> σ'}

def System.map (part : σ -> σ') (s : System μ σ) : System μ σ' where
  log := s.log
  agents := s.agents.map part

theorem System.map_agent {s : System μ σ} {i : Nat} {st : σ} (hst : s.agents[i]? = some st) :
    (s.map part).agents[i]? = some (part st) := by
  show (s.agents.map part)[i]? = _
  rw [List.getElem?_map, hst]
  rfl

structure Simulates (b : Behaviour μ σ α ε) (b' : Behaviour μ σ' α' ε) (part : σ -> σ') :
    Prop where
  act : forall log i st a st' entries, b.act log i st a = some (st', entries) ->
    (part st' = part st ∧ entries = []) ∨
      exists a', b'.act log i (part st) a' = some (part st', entries)
  outside : forall e, b.outside e = b'.outside e

theorem set_map_self {agents : List σ} {i : Nat} {st st' : σ} (hst : agents[i]? = some st)
    (hpart : part st' = part st) : (agents.set i st').map part = agents.map part := by
  have hget : (agents.map part)[i]? = some (part st) := by
    rw [List.getElem?_map, hst]
    rfl
  rcases List.getElem?_eq_some_iff.mp hget with ⟨hlt, heq⟩
  rw [List.map_set, hpart, ← heq, List.set_getElem_self]

theorem Simulates.step (h : Simulates b b' part) {s s' : System μ σ} {a : Action ε α}
    (hstep : SharedLog.step b s a = some s') :
    s'.map part = s.map part ∨
      exists a', SharedLog.step b' (s.map part) a' = some (s'.map part) := by
  rcases step_cases hstep with ⟨e, _, heq⟩ | ⟨i, act, st, st', entries, _, hst, hact, heq⟩
  · right
    refine ⟨.outside e, ?_⟩
    rw [heq]
    show some _ = some _
    rw [← h.outside e]
    rfl
  · rcases h.act _ _ _ _ _ _ hact with ⟨hpart, hentries⟩ | ⟨a', hact'⟩
    · left
      rw [heq, hentries]
      show System.mk _ _ = System.mk _ _
      rw [List.append_nil, set_map_self hst hpart]
    · right
      refine ⟨.agent i a', ?_⟩
      show (s.map part).agents[i]?.bind _ = _
      rw [System.map_agent hst, heq]
      show (b'.act s.log i (part st) a').map _ = _
      rw [hact']
      show some _ = some _
      unfold System.map
      rw [List.map_set]

/-- The part of a run is a run of the other system. -/
theorem Simulates.reachable (h : Simulates b b' part) {init s : System μ σ}
    (hreach : Reachable (SharedLog.step b) init s) :
    Reachable (SharedLog.step b') (init.map part) (s.map part) := by
  apply hreach.invariant (p := fun t => Reachable (SharedLog.step b') (init.map part) (t.map part))
  · exact ⟨[], rfl⟩
  · intro t a t' ht hstep
    rcases h.step hstep with hsame | ⟨a', ha'⟩
    · rw [hsame]
      exact ht
    · have hrun : run (SharedLog.step b') (t.map part) [a'] = some (t'.map part) :=
        run_cons.mpr ⟨_, ha', rfl⟩
      exact ht.run hrun

end SharedLog
end KeepGateway
