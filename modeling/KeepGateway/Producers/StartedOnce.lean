import KeepGateway.Producers.StartUp

/-!
# Started once

When a producer that is running is started again, for every interleaving of calls.
-/

namespace KeepGateway
namespace Producers

open Run

/-- What happened since the last stop. -/
def epoch (log : List Event) : List Event := log.takeWhile fun event => event ≠ .stopped

@[simp]
theorem epoch_stopped (log : List Event) : epoch (.stopped :: log) = [] := by
  simp [epoch]

theorem epoch_cons {event : Event} (h : event ≠ .stopped) (log : List Event) :
    epoch (event :: log) = event :: epoch log := by
  simp [epoch, h]

/-- The client has been started since the last stop. -/
def Running (client : Client) (log : List Event) : Prop :=
  exists c, c.client = client ∧ Event.connected c ∈ epoch log

/-- No client is started while it is running. -/
def NoSecondStart (log : List Event) : Prop :=
  forall newer older c, log = newer ++ .invoked c :: older -> ¬ Running c.client older

structure StartedOnce (s : KafkaState) : Prop where
  once : NoSecondStart s.log
  started : s.started = true -> Running .main s.log ∧ Running .dlq s.log

theorem noSecondStart_cons {event : Event} {log : List Event} :
    NoSecondStart (event :: log) <->
      NoSecondStart log ∧ forall c, event = .invoked c -> ¬ Running c.client log := by
  constructor
  · intro h
    refine ⟨?_, ?_⟩
    · intro newer older c hlog
      exact h (event :: newer) older c (by rw [hlog]; rfl)
    · intro c hevent
      exact h [] log c (by rw [hevent]; rfl)
  · rintro ⟨hlog, hevent⟩ newer older c heq
    cases newer with
    | nil =>
        rcases List.cons.inj heq with ⟨hinvoked, rfl⟩
        exact hevent c hinvoked
    | cons first newer =>
        rcases List.cons.inj heq with ⟨_, hrest⟩
        exact hlog newer older c hrest

theorem running_main {log : List Event} :
    Running .main log <-> Event.connected .startUpMain ∈ epoch log := by
  constructor
  · rintro ⟨c, hclient, hmem⟩
    cases c with
    | startUpMain => exact hmem
    | startUpDlq => cases hclient
    | diversion => cases hclient
  · intro h
    exact ⟨.startUpMain, rfl, h⟩

theorem running_dlq {log : List Event} :
    Running .dlq log <->
      Event.connected .startUpDlq ∈ epoch log ∨ Event.connected .diversion ∈ epoch log := by
  constructor
  · rintro ⟨c, hclient, hmem⟩
    cases c with
    | startUpMain => cases hclient
    | startUpDlq => exact .inl hmem
    | diversion => exact .inr hmem
  · rintro (h | h)
    · exact ⟨.startUpDlq, rfl, h⟩
    · exact ⟨.diversion, rfl, h⟩

/-!
## The condition
-/

section Condition

/-- A call enters the start-up only when none since the last stop failed at the dead-letter
connection; one goes on from the main connection only when no diversion since then connected
the dead-letter client; and one diverts only when nothing since then connected it. -/
def Meets (s : KafkaState) : LoopAction -> Prop
  | .begin _ => s.started = false -> s.locked = false ->
      Event.failed .startUpDlq ∉ epoch s.log
  | .acquire _ => s.started = false -> Event.failed .startUpDlq ∉ epoch s.log
  | .mainStart _ none => Event.connected .diversion ∉ epoch s.log
  | .divert _ =>
      Event.connected .startUpDlq ∉ epoch s.log ∧ Event.connected .diversion ∉ epoch s.log
  | _ => True

/-- The clients are stopped only while no start-up is between its two connections. -/
def StopsClear (s : KafkaState) : LoopAction -> Prop
  | .stop => forall i, s.phase i ≠ .startingDlq
  | _ => True

end Condition

/-!
## What a step does
-/

/-- In the start-up, under the lock. -/
def InStartUp (phase : CallPhase) : Prop := phase = .startingMain ∨ phase = .startingDlq

/-- Before the start-up, after it, or at a diversion. -/
def Outside : CallPhase -> Prop
  | .startingMain => False
  | .startingDlq => False
  | _ => True

theorem not_inStartUp {phase : CallPhase} (h : Outside phase) : ¬ InStartUp phase := by
  intro hin
  rcases hin with hin | hin
  · rw [hin] at h
    exact h
  · rw [hin] at h
    exact h

@[simp]
theorem move_phase_self (s : KafkaState) (i : Nat) (phase : CallPhase) :
    (s.move i phase).phase i = phase := if_pos rfl

theorem move_phase_ne (s : KafkaState) {i j : Nat} (h : j ≠ i) (phase : CallPhase) :
    (s.move i phase).phase j = s.phase j := if_neg h

section Steps

variable {kind : Nat -> CallKind} {maxRetries : Nat}

theorem afterStart_not_inStartUp (i : Nat) : ¬ InStartUp (afterStart kind maxRetries i) := by
  unfold afterStart
  cases kind i with
  | produce => exact not_inStartUp trivial
  | probe => exact not_inStartUp trivial

theorem afterFailure_not_inStartUp (i : Nat) (e : PyException) :
    ¬ InStartUp (afterFailure kind i e) := by
  unfold afterFailure
  cases kind i with
  | produce =>
      simp only
      split
      · exact not_inStartUp trivial
      · exact not_inStartUp trivial
  | probe => exact not_inStartUp trivial

/-- Everything that one step can do. -/
inductive Effect (s : KafkaState) : LoopAction -> KafkaState -> Prop where
  | quiet {a : LoopAction} {i : Nat} {phase : CallPhase} (hbefore : ¬ InStartUp (s.phase i))
      (hafter : ¬ InStartUp phase) (hmeets : Meets s a) : Effect s a (s.move i phase)
  | enter {a : LoopAction} {i : Nat} (hbefore : ¬ InStartUp (s.phase i))
      (hstarted : s.started = false) (hlocked : s.locked = false)
      (hmeets : Meets s a <-> Event.failed .startUpDlq ∉ epoch s.log) : Effect s a (s.enter i)
  | mainConnected {i : Nat} (hbefore : s.phase i = .startingMain) :
      Effect s (.mainStart i none) (((s.move i .startingDlq).record
        (.connected .startUpMain)).record (.invoked .startUpDlq))
  | mainFailed {i : Nat} {e : PyException} {phase : CallPhase}
      (hbefore : s.phase i = .startingMain) (hafter : ¬ InStartUp phase) :
      Effect s (.mainStart i (some e))
        ({ s.move i phase with locked := false }.record (.failed .startUpMain))
  | dlqConnected {i : Nat} {phase : CallPhase} (hbefore : s.phase i = .startingDlq)
      (hafter : ¬ InStartUp phase) :
      Effect s (.dlqStart i none) ({ s.move i phase with
        started := true, locked := false }.record (.connected .startUpDlq))
  | dlqFailed {i : Nat} {e : PyException} {phase : CallPhase}
      (hbefore : s.phase i = .startingDlq) (hafter : ¬ InStartUp phase) :
      Effect s (.dlqStart i (some e))
        ({ s.move i phase with locked := false }.record (.failed .startUpDlq))
  | divert {i : Nat} (hbefore : ¬ InStartUp (s.phase i)) :
      Effect s (.divert i) ((s.move i .divertStarting).record (.invoked .diversion))
  | diversionConnected {i : Nat} (hbefore : ¬ InStartUp (s.phase i)) :
      Effect s (.divertStart i none) ((s.move i .sendingDlq).record (.connected .diversion))
  | diversionFailed {i : Nat} {e : PyException} {phase : CallPhase}
      (hbefore : ¬ InStartUp (s.phase i)) (hafter : ¬ InStartUp phase) :
      Effect s (.divertStart i (some e)) ((s.move i phase).record (.failed .diversion))
  | stop : Effect s .stop ({ s with started := false }.record .stopped)

theorem not_inStartUp_of_eq {s : KafkaState} {i : Nat} {phase : CallPhase}
    (h : s.phase i = phase) (hout : Outside phase) : ¬ InStartUp (s.phase i) := by
  rw [h]
  exact not_inStartUp hout

theorem begin_effect {s s' : KafkaState} {i : Nat}
    (h : loopStep kind maxRetries s (.begin i) = some s') : Effect s (.begin i) s' := by
  simp only [loopStep] at h
  split at h
  · rename_i hphase
    have hbefore : ¬ InStartUp (s.phase i) :=
      not_inStartUp_of_eq hphase trivial
    split at h
    · rename_i hstarted
      cases h
      refine .quiet hbefore (afterStart_not_inStartUp i) ?_
      intro hnot
      rw [hstarted] at hnot
      cases hnot
    · rename_i hstarted
      split at h
      · rename_i hlocked
        cases h
        refine .quiet hbefore (not_inStartUp trivial) ?_
        intro _ hnot
        rw [hlocked] at hnot
        cases hnot
      · rename_i hlocked
        cases h
        have hfalse := eq_false_of_ne_true hstarted
        have hfree := eq_false_of_ne_true hlocked
        exact .enter hbefore hfalse hfree
          ⟨fun hmeets => hmeets hfalse hfree, fun hnot _ _ => hnot⟩
  · cases h

theorem acquire_effect {s s' : KafkaState} {i : Nat}
    (h : loopStep kind maxRetries s (.acquire i) = some s') : Effect s (.acquire i) s' := by
  simp only [loopStep] at h
  split at h
  · rename_i hphase
    have hbefore : ¬ InStartUp (s.phase i) :=
      not_inStartUp_of_eq hphase.1 trivial
    split at h
    · rename_i hstarted
      cases h
      refine .quiet hbefore (afterStart_not_inStartUp i) ?_
      intro hnot
      rw [hstarted] at hnot
      cases hnot
    · rename_i hstarted
      cases h
      have hfalse := eq_false_of_ne_true hstarted
      exact .enter hbefore hfalse hphase.2 ⟨fun hmeets => hmeets hfalse, fun hnot _ => hnot⟩
  · cases h

theorem round_effect {s s' : KafkaState} {i : Nat} {outcome : Round}
    (h : loopStep kind maxRetries s (.round i outcome) = some s') :
    Effect s (.round i outcome) s' := by
  simp only [loopStep] at h
  split at h
  · rename_i left hphase
    have hbefore : ¬ InStartUp (s.phase i) :=
      not_inStartUp_of_eq hphase trivial
    cases outcome with
    | exhausted =>
        cases h
        exact .quiet hbefore (not_inStartUp trivial) trivial
    | acknowledged =>
        cases h
        exact .quiet hbefore (not_inStartUp trivial) trivial
    | failed =>
        cases h
        exact .quiet hbefore (not_inStartUp trivial) trivial
  · cases h

theorem diversion_effect {s s' : KafkaState} {i : Nat} {outcome : Option PyException}
    (h : loopStep kind maxRetries s (.divertStart i outcome) = some s') :
    Effect s (.divertStart i outcome) s' := by
  simp only [loopStep] at h
  split at h
  · rename_i hphase
    have hbefore : ¬ InStartUp (s.phase i) :=
      not_inStartUp_of_eq hphase trivial
    cases outcome with
    | none =>
        cases h
        exact .diversionConnected hbefore
    | some e =>
        cases h
        refine .diversionFailed hbefore ?_
        split
        · exact not_inStartUp trivial
        · exact not_inStartUp trivial
  · cases h

/-- A step of the loop does one of these things. -/
theorem loopStep_effect {s s' : KafkaState} {a : LoopAction}
    (h : loopStep kind maxRetries s a = some s') : Effect s a s' := by
  cases a with
  | begin i => exact begin_effect h
  | acquire i => exact acquire_effect h
  | mainStart i outcome =>
      simp only [loopStep] at h
      split at h
      · rename_i hphase
        cases outcome with
        | none =>
            cases h
            exact .mainConnected hphase
        | some e =>
            cases h
            exact .mainFailed hphase (afterFailure_not_inStartUp i e)
      · cases h
  | dlqStart i outcome =>
      simp only [loopStep] at h
      split at h
      · rename_i hphase
        cases outcome with
        | none =>
            cases h
            exact .dlqConnected hphase (afterStart_not_inStartUp i)
        | some e =>
            cases h
            exact .dlqFailed hphase (afterFailure_not_inStartUp i e)
      · cases h
  | round i outcome => exact round_effect h
  | divert i =>
      simp only [loopStep] at h
      split at h
      · rename_i hphase
        cases h
        rcases hphase with hphase | hphase
        · exact .divert
            (not_inStartUp_of_eq hphase trivial)
        · exact .divert
            (not_inStartUp_of_eq hphase trivial)
      · cases h
  | divertStart i outcome => exact diversion_effect h
  | dlqSend i outcome =>
      simp only [loopStep] at h
      split at h
      · rename_i hphase
        cases h
        exact .quiet (not_inStartUp_of_eq hphase trivial)
          (not_inStartUp trivial) trivial
      · cases h
  | stop =>
      cases h
      exact .stop

end Steps

/-!
## The invariant of the start-up
-/

/-- One call at a time is in the start-up, under the lock and before `_started` is set; and
the main client is running exactly when the start-up got past it. -/
structure StartUpInv (s : KafkaState) : Prop where
  locked : forall i, InStartUp (s.phase i) -> s.locked = true
  alone : forall i j, InStartUp (s.phase i) -> InStartUp (s.phase j) -> i = j
  pending : forall i, InStartUp (s.phase i) -> s.started = false
  half : forall i, s.phase i = .startingDlq -> Event.connected .startUpMain ∈ epoch s.log
  up : s.started = true ->
    Event.connected .startUpMain ∈ epoch s.log ∧ Event.connected .startUpDlq ∈ epoch s.log
  mainUp : Event.connected .startUpMain ∈ epoch s.log ->
    s.started = true ∨ Event.failed .startUpDlq ∈ epoch s.log ∨
      exists i, s.phase i = .startingDlq
  dlqUp : Event.connected .startUpDlq ∈ epoch s.log -> s.started = true
  broken : Event.failed .startUpDlq ∈ epoch s.log -> Event.connected .startUpMain ∈ epoch s.log

theorem init_inv : StartUpInv KafkaState.init where
  locked := fun _ h => by rcases h with h | h <;> cases h
  alone := fun _ _ h => by rcases h with h | h <;> cases h
  pending := fun _ h => by rcases h with h | h <;> cases h
  half := fun _ h => by cases h
  up := fun h => by cases h
  mainUp := fun h => by cases h
  dlqUp := fun h => by cases h
  broken := fun h => by cases h

theorem move_phase_cases (s : KafkaState) (i j : Nat) (phase : CallPhase) :
    (j = i ∧ (s.move i phase).phase j = phase) ∨
      (j ≠ i ∧ (s.move i phase).phase j = s.phase j) := by
  rcases Classical.em (j = i) with rfl | h
  · exact .inl ⟨rfl, move_phase_self s j phase⟩
  · exact .inr ⟨h, move_phase_ne s h phase⟩

/-- A call that stays outside the start-up changes nothing of it. -/
theorem inStartUp_of_move {s : KafkaState} {i j : Nat} {phase : CallPhase}
    (hafter : ¬ InStartUp phase) (h : InStartUp ((s.move i phase).phase j)) :
    j ≠ i ∧ InStartUp (s.phase j) := by
  rcases move_phase_cases s i j phase with ⟨_, heq⟩ | ⟨hne, heq⟩
  · rw [heq] at h
    exact absurd h hafter
  · rw [heq] at h
    exact ⟨hne, h⟩

theorem move_inv {s : KafkaState} (hinv : StartUpInv s) {i : Nat} {phase : CallPhase}
    (hbefore : ¬ InStartUp (s.phase i)) (hafter : ¬ InStartUp phase) :
    StartUpInv (s.move i phase) where
  locked := fun j h => hinv.locked j (inStartUp_of_move hafter h).2
  alone := fun j k hj hk =>
    hinv.alone j k (inStartUp_of_move hafter hj).2 (inStartUp_of_move hafter hk).2
  pending := fun j h => hinv.pending j (inStartUp_of_move hafter h).2
  half := by
    intro j h
    rcases move_phase_cases s i j phase with ⟨_, heq⟩ | ⟨_, heq⟩
    · rw [heq] at h
      exact absurd (.inr h) hafter
    · rw [heq] at h
      exact hinv.half j h
  up := hinv.up
  mainUp := by
    intro h
    rcases hinv.mainUp h with hstarted | hfailed | ⟨j, hj⟩
    · exact .inl hstarted
    · exact .inr (.inl hfailed)
    · have hne : j ≠ i := by
        rintro rfl
        exact hbefore (.inr hj)
      exact .inr (.inr ⟨j, by rw [move_phase_ne s hne]; exact hj⟩)
  dlqUp := hinv.dlqUp
  broken := hinv.broken

/-- The events that tell nothing about how far a start-up got. -/
def Neutral (event : Event) : Prop :=
  event ≠ .stopped ∧ event ≠ .connected .startUpMain ∧ event ≠ .connected .startUpDlq ∧
    event ≠ .failed .startUpDlq

theorem mem_epoch_cons {event other : Event} (hstop : event ≠ .stopped) (hne : event ≠ other)
    (log : List Event) : other ∈ epoch (event :: log) <-> other ∈ epoch log := by
  rw [epoch_cons hstop, List.mem_cons]
  constructor
  · rintro (h | h)
    · exact absurd h.symm hne
    · exact h
  · exact .inr

theorem mem_epoch_self {event : Event} (h : event ≠ .stopped) (log : List Event) :
    event ∈ epoch (event :: log) := by
  rw [epoch_cons h]
  exact List.mem_cons_self

theorem mem_epoch_of_mem {event other : Event} (h : event ≠ .stopped) {log : List Event}
    (hmem : other ∈ epoch log) : other ∈ epoch (event :: log) := by
  rw [epoch_cons h]
  exact List.mem_cons_of_mem event hmem

theorem record_inv {s : KafkaState} (hinv : StartUpInv s) {event : Event}
    (hneutral : Neutral event) : StartUpInv (s.record event) := by
  rcases hneutral with ⟨hstop, hmain, hdlq, hfailed⟩
  refine ⟨hinv.locked, hinv.alone, hinv.pending, ?_, ?_, ?_, ?_, ?_⟩
  · intro i h
    exact (mem_epoch_cons hstop hmain s.log).mpr (hinv.half i h)
  · intro h
    rcases hinv.up h with ⟨hm, hd⟩
    exact ⟨(mem_epoch_cons hstop hmain s.log).mpr hm, (mem_epoch_cons hstop hdlq s.log).mpr hd⟩
  · intro h
    rcases hinv.mainUp ((mem_epoch_cons hstop hmain s.log).mp h) with hs | hf | hi
    · exact .inl hs
    · exact .inr (.inl ((mem_epoch_cons hstop hfailed s.log).mpr hf))
    · exact .inr (.inr hi)
  · intro h
    exact hinv.dlqUp ((mem_epoch_cons hstop hdlq s.log).mp h)
  · intro h
    exact (mem_epoch_cons hstop hmain s.log).mpr
      (hinv.broken ((mem_epoch_cons hstop hfailed s.log).mp h))

/-- With the lock free no call is in the start-up. -/
theorem none_inStartUp {s : KafkaState} (hinv : StartUpInv s) (hlocked : s.locked = false)
    (i : Nat) : ¬ InStartUp (s.phase i) := by
  intro h
  rw [hinv.locked i h] at hlocked
  cases hlocked

/-- When the call that is in the start-up leaves it, none is. -/
theorem left_startUp {s : KafkaState} (hinv : StartUpInv s) {i : Nat}
    (hbefore : InStartUp (s.phase i)) {phase : CallPhase} (hafter : ¬ InStartUp phase)
    (j : Nat) : ¬ InStartUp ((s.move i phase).phase j) := by
  intro h
  rcases inStartUp_of_move hafter h with ⟨hne, hj⟩
  exact hne (hinv.alone j i hj hbefore)

theorem neutral_invoked (c : Connection) : Neutral (.invoked c) := by
  simp [Neutral]

theorem enter_inv {s : KafkaState} (hinv : StartUpInv s) {i : Nat}
    (hstarted : s.started = false) (hlocked : s.locked = false) : StartUpInv (s.enter i) := by
  have honly : forall j, InStartUp ((s.move i .startingMain).phase j) -> j = i := by
    intro j h
    rcases move_phase_cases s i j .startingMain with ⟨heq, _⟩ | ⟨_, heq⟩
    · exact heq
    · rw [heq] at h
      exact absurd h (none_inStartUp hinv hlocked j)
  have hdlq : forall j, (s.move i .startingMain).phase j ≠ .startingDlq := by
    intro j h
    have hj := honly j (.inr h)
    rw [hj, move_phase_self] at h
    cases h
  have hentered : StartUpInv { s.move i .startingMain with locked := true } := by
    refine ⟨fun _ _ => rfl, ?_, fun _ _ => hstarted, ?_, hinv.up, ?_, hinv.dlqUp, hinv.broken⟩
    · intro j k hj hk
      rw [honly j hj, honly k hk]
    · intro j h
      exact absurd h (hdlq j)
    · intro h
      rcases hinv.mainUp h with hs | hf | ⟨j, hj⟩
      · exact .inl hs
      · exact .inr (.inl hf)
      · exact absurd (.inr hj) (none_inStartUp hinv hlocked j)
  exact record_inv hentered (neutral_invoked _)

theorem mainConnected_inv {s : KafkaState} (hinv : StartUpInv s) {i : Nat}
    (hbefore : s.phase i = .startingMain) :
    StartUpInv (((s.move i .startingDlq).record (.connected .startUpMain)).record
      (.invoked .startUpDlq)) := by
  have hin : forall j, InStartUp ((s.move i .startingDlq).phase j) -> InStartUp (s.phase j) := by
    intro j h
    rcases move_phase_cases s i j .startingDlq with ⟨rfl, _⟩ | ⟨_, heq⟩
    · exact .inl hbefore
    · rw [heq] at h
      exact h
  have hmain : Event.connected .startUpMain ∈ epoch (.connected .startUpMain :: s.log) :=
    mem_epoch_self (fun h => by cases h) s.log
  have hother : forall {event}, event ≠ .connected .startUpMain ->
      (event ∈ epoch (.connected .startUpMain :: s.log) <-> event ∈ epoch s.log) :=
    fun hne => mem_epoch_cons (fun h => by cases h) (Ne.symm hne) s.log
  have hpassed : StartUpInv ((s.move i .startingDlq).record (.connected .startUpMain)) := by
    refine ⟨fun j h => hinv.locked j (hin j h),
      fun j k hj hk => hinv.alone j k (hin j hj) (hin k hk),
      fun j h => hinv.pending j (hin j h), fun _ _ => hmain, ?_, ?_, ?_, fun _ => hmain⟩
    · intro hstarted
      have hpending : s.started = false := hinv.pending i (.inl hbefore)
      exact absurd (hpending.symm.trans hstarted) Bool.false_ne_true
    · intro _
      exact .inr (.inr ⟨i, move_phase_self s i .startingDlq⟩)
    · intro h
      exact hinv.dlqUp ((hother (fun h => by cases h)).mp h)
  exact record_inv hpassed (neutral_invoked _)

theorem mainFailed_inv {s : KafkaState} (hinv : StartUpInv s) {i : Nat} {phase : CallPhase}
    (hbefore : s.phase i = .startingMain) (hafter : ¬ InStartUp phase) :
    StartUpInv ({ s.move i phase with locked := false }.record (.failed .startUpMain)) := by
  have hnone := left_startUp hinv (.inl hbefore) hafter
  have hleft : StartUpInv { s.move i phase with locked := false } := by
    refine ⟨fun j h => absurd h (hnone j), fun j _ h _ => absurd h (hnone j),
      fun j h => absurd h (hnone j), fun j h => absurd (.inr h) (hnone j), hinv.up, ?_,
      hinv.dlqUp, hinv.broken⟩
    intro h
    rcases hinv.mainUp h with hs | hf | ⟨j, hj⟩
    · exact .inl hs
    · exact .inr (.inl hf)
    · have heq := hinv.alone j i (.inr hj) (.inl hbefore)
      rw [heq, hbefore] at hj
      cases hj
  exact record_inv hleft (by simp [Neutral])

theorem dlqConnected_inv {s : KafkaState} (hinv : StartUpInv s) {i : Nat} {phase : CallPhase}
    (hbefore : s.phase i = .startingDlq) (hafter : ¬ InStartUp phase) :
    StartUpInv ({ s.move i phase with started := true, locked := false }.record
      (.connected .startUpDlq)) := by
  have hnone := left_startUp hinv (.inr hbefore) hafter
  have hmain : Event.connected .startUpMain ∈ epoch (.connected .startUpDlq :: s.log) :=
    mem_epoch_of_mem (fun h => by cases h) (hinv.half i hbefore)
  refine ⟨fun j h => absurd h (hnone j), fun j _ h _ => absurd h (hnone j),
    fun j h => absurd h (hnone j), fun j h => absurd (.inr h) (hnone j), ?_, fun _ => .inl rfl,
    fun _ => rfl, fun _ => hmain⟩
  intro _
  exact ⟨hmain, mem_epoch_self (fun h => by cases h) s.log⟩

theorem dlqFailed_inv {s : KafkaState} (hinv : StartUpInv s) {i : Nat} {phase : CallPhase}
    (hbefore : s.phase i = .startingDlq) (hafter : ¬ InStartUp phase) :
    StartUpInv ({ s.move i phase with locked := false }.record (.failed .startUpDlq)) := by
  have hnone := left_startUp hinv (.inr hbefore) hafter
  have hkept : forall {event}, event ∈ epoch s.log ->
      event ∈ epoch (.failed .startUpDlq :: s.log) :=
    fun h => mem_epoch_of_mem (fun h => by cases h) h
  refine ⟨fun j h => absurd h (hnone j), fun j _ h _ => absurd h (hnone j),
    fun j h => absurd h (hnone j), fun j h => absurd (.inr h) (hnone j), ?_, ?_, ?_, ?_⟩
  · intro h
    rcases hinv.up h with ⟨hm, hd⟩
    exact ⟨hkept hm, hkept hd⟩
  · intro _
    exact .inr (.inl (mem_epoch_self (fun h => by cases h) s.log))
  · intro h
    exact hinv.dlqUp ((mem_epoch_cons (fun h => by cases h) (fun h => by cases h) s.log).mp h)
  · intro _
    exact hkept (hinv.half i hbefore)

theorem stop_inv {s : KafkaState} (hinv : StartUpInv s)
    (hclear : forall i, s.phase i ≠ .startingDlq) :
    StartUpInv ({ s with started := false }.record .stopped) := by
  have hempty : forall event, event ∉ epoch (.stopped :: s.log) := by
    intro event h
    rw [epoch_stopped] at h
    cases h
  exact ⟨hinv.locked, hinv.alone, fun _ _ => rfl, fun i h => absurd h (hclear i),
    fun h => absurd h Bool.false_ne_true, fun h => absurd h (hempty _),
    fun h => absurd h (hempty _), fun h => absurd h (hempty _)⟩

theorem effect_inv {s s' : KafkaState} {a : LoopAction} (hinv : StartUpInv s)
    (hclear : StopsClear s a) (h : Effect s a s') : StartUpInv s' := by
  cases h with
  | quiet hbefore hafter _ => exact move_inv hinv hbefore hafter
  | enter _ hstarted hlocked _ => exact enter_inv hinv hstarted hlocked
  | mainConnected hbefore => exact mainConnected_inv hinv hbefore
  | mainFailed hbefore hafter => exact mainFailed_inv hinv hbefore hafter
  | dlqConnected hbefore hafter => exact dlqConnected_inv hinv hbefore hafter
  | dlqFailed hbefore hafter => exact dlqFailed_inv hinv hbefore hafter
  | divert hbefore =>
      exact record_inv (move_inv hinv hbefore (@not_inStartUp .divertStarting trivial))
        (neutral_invoked _)
  | diversionConnected hbefore =>
      exact record_inv (move_inv hinv hbefore (@not_inStartUp .sendingDlq trivial))
        (by simp [Neutral])
  | diversionFailed hbefore hafter =>
      exact record_inv (move_inv hinv hbefore hafter) (by simp [Neutral])
  | stop => exact stop_inv hinv hclear

/-!
## One step, and runs
-/

theorem noSecondStart_quiet {event : Event} (h : forall c, event ≠ .invoked c)
    {log : List Event} : NoSecondStart (event :: log) <-> NoSecondStart log := by
  rw [noSecondStart_cons]
  exact ⟨fun hboth => hboth.1, fun hlog => ⟨hlog, fun c heq => absurd heq (h c)⟩⟩

theorem noSecondStart_invoked {c : Connection} {log : List Event} :
    NoSecondStart (.invoked c :: log) <-> NoSecondStart log ∧ ¬ Running c.client log := by
  rw [noSecondStart_cons]
  constructor
  · intro h
    exact ⟨h.1, h.2 c rfl⟩
  · rintro ⟨hlog, hnot⟩
    refine ⟨hlog, ?_⟩
    intro d heq
    cases heq
    exact hnot

/-- A step starts no running client exactly when it meets the condition. -/
theorem effect_once {s s' : KafkaState} {a : LoopAction} (hinv : StartUpInv s)
    (h : Effect s a s') : NoSecondStart s'.log <-> NoSecondStart s.log ∧ Meets s a := by
  have hquiet : forall {event : Event} {log}, (forall c, event ≠ .invoked c) -> Meets s a ->
      (NoSecondStart (event :: log) <-> NoSecondStart log ∧ Meets s a) := by
    intro event log hevent hmeets
    rw [noSecondStart_quiet hevent]
    exact ⟨fun hlog => ⟨hlog, hmeets⟩, fun hboth => hboth.1⟩
  cases h with
  | quiet _ _ hmeets => exact ⟨fun hlog => ⟨hlog, hmeets⟩, fun hboth => hboth.1⟩
  | enter _ hstarted hlocked hmeets =>
      show NoSecondStart (.invoked .startUpMain :: s.log) <-> _
      rw [noSecondStart_invoked, hmeets]
      have hrunning : Running Connection.startUpMain.client s.log <->
          Event.failed .startUpDlq ∈ epoch s.log := by
        show Running .main s.log <-> _
        rw [running_main]
        constructor
        · intro hmain
          rcases hinv.mainUp hmain with hs | hf | ⟨j, hj⟩
          · exact absurd (hstarted.symm.trans hs) Bool.false_ne_true
          · exact hf
          · exact absurd (.inr hj) (none_inStartUp hinv hlocked j)
        · exact hinv.broken
      rw [hrunning]
  | @mainConnected i hbefore =>
      show NoSecondStart (.invoked .startUpDlq :: .connected .startUpMain :: s.log) <-> _
      rw [noSecondStart_invoked, noSecondStart_quiet (fun c h => by cases h)]
      have hnot : Event.connected .startUpDlq ∉ epoch s.log := by
        intro hconnected
        have hpending := hinv.pending i (.inl hbefore)
        exact absurd (hpending.symm.trans (hinv.dlqUp hconnected)) Bool.false_ne_true
      have hrunning : Running Connection.startUpDlq.client
          (.connected .startUpMain :: s.log) <-> Event.connected .diversion ∈ epoch s.log := by
        show Running .dlq _ <-> _
        rw [running_dlq, mem_epoch_cons (fun h => by cases h) (fun h => by cases h),
          mem_epoch_cons (fun h => by cases h) (fun h => by cases h)]
        exact ⟨fun h => h.resolve_left hnot, .inr⟩
      rw [hrunning]
      exact Iff.rfl
  | mainFailed _ _ => exact hquiet (fun c h => by cases h) trivial
  | dlqConnected _ _ => exact hquiet (fun c h => by cases h) trivial
  | dlqFailed _ _ => exact hquiet (fun c h => by cases h) trivial
  | divert _ =>
      show NoSecondStart (.invoked .diversion :: s.log) <-> _
      rw [noSecondStart_invoked]
      have hrunning : ¬ Running Connection.diversion.client s.log <->
          Event.connected .startUpDlq ∉ epoch s.log ∧
            Event.connected .diversion ∉ epoch s.log := by
        show ¬ Running .dlq s.log <-> _
        rw [running_dlq, not_or]
      rw [hrunning]
      exact Iff.rfl
  | diversionConnected _ => exact hquiet (fun c h => by cases h) trivial
  | diversionFailed _ _ => exact hquiet (fun c h => by cases h) trivial
  | stop => exact hquiet (fun c h => by cases h) trivial

section Runs

variable {kind : Nat -> CallKind} {maxRetries : Nat}

theorem run_once {s t : KafkaState} {actions : List LoopAction} (hinv : StartUpInv s)
    (hclear : Along (loopStep kind maxRetries) StopsClear s actions)
    (hrun : run (loopStep kind maxRetries) s actions = some t) :
    NoSecondStart t.log <->
      NoSecondStart s.log ∧ Along (loopStep kind maxRetries) Meets s actions := by
  induction actions generalizing s with
  | nil =>
      cases hrun
      exact ⟨fun h => ⟨h, trivial⟩, fun h => h.1⟩
  | cons a rest ih =>
      rcases run_cons.mp hrun with ⟨next, hstep, hrest⟩
      rcases hclear with ⟨hfirst, hafter⟩
      have heffect := loopStep_effect hstep
      rw [ih (effect_inv hinv hfirst heffect) (hafter next hstep) hrest,
        effect_once hinv heffect, and_assoc]
      have honly : Along (loopStep kind maxRetries) Meets next rest <->
          forall s', loopStep kind maxRetries s a = some s' ->
            Along (loopStep kind maxRetries) Meets s' rest := by
        constructor
        · intro h s' hs'
          rw [hstep] at hs'
          cases hs'
          exact h
        · intro h
          exact h next hstep
      rw [honly]
      exact Iff.rfl

/-- In a run that stops the clients only while no start-up is between its connections, no
running client is started, and `_started` tells that both are running, exactly when every
step meets the condition. -/
theorem startedOnce_iff {s : KafkaState} {actions : List LoopAction}
    (hrun : run (loopStep kind maxRetries) KafkaState.init actions = some s)
    (hclear : Along (loopStep kind maxRetries) StopsClear KafkaState.init actions) :
    StartedOnce s <-> Along (loopStep kind maxRetries) Meets KafkaState.init actions := by
  have hinv : StartUpInv s :=
    run_invariant_along (fun _ _ _ h hp hstep => effect_inv h hp (loopStep_effect hstep))
      init_inv hclear hrun
  have hempty : NoSecondStart KafkaState.init.log := by
    intro newer older c h
    exact absurd h.symm (List.append_ne_nil_of_right_ne_nil newer (List.cons_ne_nil _ _))
  have honce := run_once init_inv hclear hrun
  constructor
  · intro h
    exact (honce.mp h.once).2
  · intro h
    refine ⟨honce.mpr ⟨hempty, h⟩, ?_⟩
    intro hstarted
    rcases hinv.up hstarted with ⟨hmain, hdlq⟩
    exact ⟨running_main.mpr hmain, running_dlq.mpr (.inl hdlq)⟩

end Runs

/-- Two events at once on a cold producer, and then a probe. -/
def burst : List LoopAction :=
  [.begin 0, .begin 1, .mainStart 0 none, .dlqStart 0 none, .acquire 1, .round 0 .acknowledged,
    .begin 2, .round 1 .acknowledged]

def burstKind (i : Nat) : CallKind := if i < 2 then .produce else .probe

theorem burst_startedOnce :
    exists s, run (loopStep burstKind 5) KafkaState.init burst = some s ∧
      (StartedOnce s <-> Along (loopStep burstKind 5) Meets KafkaState.init burst) := by
  refine ⟨_, rfl, startedOnce_iff rfl (along_of_mem ?_ _)⟩
  intro a hmem s
  cases a with
  | stop => exact absurd hmem (by decide)
  | _ => trivial

/-- A probe that connects the main client and not the other, and the next probe. -/
def brokenStart : List LoopAction :=
  [.begin 0, .mainStart 0 none, .dlqStart 0 (some kafkaConnectionError), .begin 1]

theorem brokenStart_startedTwice :
    exists s, run (loopStep (fun _ => .probe) 5) KafkaState.init brokenStart = some s ∧
      ¬ StartedOnce s := by
  refine ⟨_, rfl, ?_⟩
  intro h
  refine h.once [] [.failed .startUpDlq, .invoked .startUpDlq, .connected .startUpMain,
    .invoked .startUpMain] .startUpMain rfl ?_
  exact ⟨.startUpMain, rfl, by simp [epoch]⟩

end Producers
end KeepGateway
