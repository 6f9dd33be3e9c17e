import KeepGateway.Sse.SubscribeLoop

/-!
# The state of the connection

When the flag, the subscription number and the gauge of the fan-out are truthful throughout a run.
-/

namespace KeepGateway
namespace Sse
namespace SubscribeLoop

open Run

/-!
## Truth
-/

/-- The flag is set for an acknowledged connection only, every acknowledged connection got a larger
number than those before, and outside of an acknowledged subscription the gauge is zero. -/
structure Truthful (s : State) : Prop where
  flag : s.subscribed = true -> s.pubsub = .acknowledged
  numbers : s.numbers.Pairwise fun earlier later => earlier < later
  gauge : s.phase.isInside = false -> s.connected = 0

/-- Every state that the run comes to is truthful. -/
def TruthfulThroughout (actions : List Act) : Prop :=
  forall before, before <+: actions -> forall s, run step .initial before = some s -> Truthful s

/-- The cancellation comes at an await inside an acknowledged subscription. -/
def CancelsInside (s : State) (act : Act) : Prop :=
  act = .cancel ∧ s.cancelling = true ∧ s.phase.isInside = true

/-!
## The invariant
-/

/-- No further iteration follows. -/
def Phase.isLeaving : Phase -> Bool
  | .idle => true
  | .ended => true
  | .closingPubsub raised => raised
  | .closingClient raised => raised
  | _ => false

/-- The flag and the gauge follow the acknowledged subscription, and a loop that is to stop is
cancelled. -/
structure Follows (s : State) : Prop where
  inside : s.phase.isInside = true -> s.pubsub = .acknowledged ∧ s.connected = 1
  outside : s.phase.isInside = false -> s.subscribed = false ∧ s.connected = 0
  increasing : s.numbers.Pairwise fun earlier later => earlier < later
  bounded : forall number, number ∈ s.numbers -> number ≤ s.subscription
  stopping : s.stopping = true -> s.cancelling = true ∨ s.phase.isLeaving = true

theorem follows_initial : Follows .initial where
  inside := fun h => by cases h
  outside := fun _ => ⟨rfl, rfl⟩
  increasing := List.Pairwise.nil
  bounded := fun _ h => absurd h List.not_mem_nil
  stopping := fun h => by cases h

theorem Follows.truthful {s : State} (h : Follows s) : Truthful s where
  flag := by
    intro hflag
    cases hinside : s.phase.isInside with
    | true => exact (h.inside hinside).1
    | false =>
        rw [(h.outside hinside).1] at hflag
        cases hflag
  numbers := h.increasing
  gauge := fun hinside => (h.outside hinside).2

namespace Follows

variable {s s' : State}

/-- A step that leaves the subscription, or is outside of it already. -/
theorem of_outside (h : Follows s) (hphase : s'.phase.isInside = false)
    (hflag : s'.subscribed = false) (hgauge : s'.connected = 0) (hnumbers : s'.numbers = s.numbers)
    (hsubscription : s'.subscription = s.subscription)
    (hstopping : s'.stopping = true -> s'.cancelling = true ∨ s'.phase.isLeaving = true) :
    Follows s' where
  inside := fun hinside => absurd hinside (Bool.eq_false_iff.mp hphase)
  outside := fun _ => ⟨hflag, hgauge⟩
  increasing := by
    rw [hnumbers]
    exact h.increasing
  bounded := by
    rw [hnumbers, hsubscription]
    exact h.bounded
  stopping := hstopping

/-- A step within the subscription. -/
theorem of_inside (h : Follows s) (hinside : s.phase.isInside = true) (phase : Phase)
    (hphase : phase.isInside = true) (hstopping : s.stopping = false) :
    Follows { s with phase := phase } where
  inside := fun _ => h.inside hinside
  outside := fun houtside => absurd hphase (Bool.eq_false_iff.mp houtside)
  increasing := h.increasing
  bounded := h.bounded
  stopping := fun hstop => absurd hstop (Bool.eq_false_iff.mp hstopping)

theorem top (h : Follows s) (hflag : s.subscribed = false) (hgauge : s.connected = 0)
    (connects : Bool) : Follows (s.top connects) := by
  unfold State.top
  split
  case isTrue hstop => exact h.of_outside rfl hflag rfl rfl rfl fun _ => Or.inr rfl
  case isFalse hstop =>
    split
    · exact h.of_outside rfl hflag hgauge rfl rfl fun hstop' => absurd hstop' hstop
    · exact h.of_outside rfl rfl rfl rfl rfl fun hstop' => absurd hstop' hstop

theorem proceed (h : Follows s) (hflag : s.subscribed = false) (hgauge : s.connected = 0)
    (raised connects : Bool) : Follows (s.proceed raised connects) := by
  cases raised with
  | true => exact h.of_outside rfl hflag hgauge rfl rfl fun _ => Or.inr rfl
  | false => exact h.top hflag hgauge connects

theorem close (h : Follows s) (hphase : s.phase.isInside = false) {raised : Bool}
    (hstopping : s.stopping = true -> s.cancelling = true ∨ raised = true) (connects : Bool) :
    Follows (s.close raised connects) := by
  rcases h.outside hphase with ⟨_, hgauge⟩
  have hclosed : Follows { s with subscribed := false } :=
    h.of_outside hphase rfl hgauge rfl rfl h.stopping
  unfold State.close
  split
  · exact hclosed.proceed rfl hgauge raised connects
  · exact h.of_outside rfl rfl hgauge rfl rfl hstopping

theorem not_stopping (h : Follows s) (hcancelling : s.cancelling = false)
    (hphase : s.phase.isLeaving = false) : s.stopping = false := by
  cases hstop : s.stopping with
  | false => rfl
  | true =>
      rcases h.stopping hstop with hcancel | hleaving
      · rw [hcancelling] at hcancel
        cases hcancel
      · rw [hphase] at hleaving
        cases hleaving

theorem next_eq (hstopping : s.stopping = false) (ping : Bool) :
    s.next ping = { s with phase := if ping then .pinging else .reading } :=
  if_neg (Bool.eq_false_iff.mp hstopping)

theorem next (h : Follows s) (hinside : s.phase.isInside = true) (hstopping : s.stopping = false)
    (ping : Bool) : Follows (s.next ping) := by
  rw [next_eq hstopping]
  cases ping with
  | true => exact h.of_inside hinside .pinging rfl hstopping
  | false => exact h.of_inside hinside .reading rfl hstopping

/-- A new number is larger than those before. -/
theorem acknowledge (h : Follows s) (hstopping : s.stopping = false) :
    Follows (s.acknowledge.next false) := by
  have hsame : s.acknowledge.stopping = false := hstopping
  rw [next_eq hsame]
  constructor
  · exact fun _ => ⟨rfl, rfl⟩
  · exact fun houtside => absurd rfl (Bool.eq_false_iff.mp houtside)
  · apply List.pairwise_append.mpr
    refine ⟨h.increasing, List.pairwise_singleton _ _, ?_⟩
    intro earlier hearlier later hlater
    rw [List.mem_singleton.mp hlater]
    exact Nat.lt_succ_of_le (h.bounded earlier hearlier)
  · intro number hnumber
    rcases List.mem_append.mp hnumber with hold | hnew
    · exact Nat.le_succ_of_le (h.bounded number hold)
    · rw [List.mem_singleton.mp hnew]
      exact Nat.le_refl _
  · exact fun hstop => absurd hstop (Bool.eq_false_iff.mp hstopping)

theorem loopStep (h : Follows s) (hcancelling : s.cancelling = false) {act : Act}
    (hstep : SubscribeLoop.loopStep s act = some s') : Follows s' := by
  unfold SubscribeLoop.loopStep at hstep
  cases act with
  | start => cases hstep
  | stop => cases hstep
  | stopped => cases hstep
  | cancel => cases hstep
  | begin connects =>
      rcases Option.ite_none_right_eq_some.mp hstep with ⟨hphase, heq⟩
      rcases h.outside (congrArg Phase.isInside hphase) with ⟨hflag, hgauge⟩
      rw [← Option.some.inj heq]
      exact h.top hflag hgauge connects
  | sent =>
      rcases Option.ite_none_right_eq_some.mp hstep with ⟨hphase, heq⟩
      rcases h.outside (congrArg Phase.isInside hphase) with ⟨hflag, hgauge⟩
      have hstopping := h.not_stopping hcancelling (congrArg Phase.isLeaving hphase)
      rw [← Option.some.inj heq]
      exact h.of_outside rfl hflag hgauge rfl rfl
        fun hstop => absurd hstop (Bool.eq_false_iff.mp hstopping)
  | silence =>
      rcases Option.ite_none_right_eq_some.mp hstep with ⟨_, heq⟩
      rw [← Option.some.inj heq]
      exact h
  | acknowledge =>
      rcases Option.ite_none_right_eq_some.mp hstep with ⟨hphase, heq⟩
      rw [← Option.some.inj heq]
      exact h.acknowledge (h.not_stopping hcancelling (congrArg Phase.isLeaving hphase))
  | ponged =>
      rcases Option.ite_none_right_eq_some.mp hstep with ⟨hphase, heq⟩
      have hstopping := h.not_stopping hcancelling (congrArg Phase.isLeaving hphase)
      rw [← Option.some.inj heq]
      exact h.of_inside (congrArg Phase.isInside hphase) .reading rfl hstopping
  | read message ping =>
      rcases Option.ite_none_right_eq_some.mp hstep with ⟨hphase, heq⟩
      have hinside : s.phase.isInside = true := congrArg Phase.isInside hphase
      have hstopping := h.not_stopping hcancelling (congrArg Phase.isLeaving hphase)
      cases message with
      | true =>
          rw [← Option.some.inj heq]
          exact h.of_inside hinside .delivering rfl hstopping
      | false =>
          rw [← Option.some.inj heq]
          exact h.next hinside hstopping ping
  | delivered ping =>
      rcases Option.ite_none_right_eq_some.mp hstep with ⟨hphase, heq⟩
      have hinside : s.phase.isInside = true := congrArg Phase.isInside hphase
      rw [← Option.some.inj heq]
      exact h.next hinside (h.not_stopping hcancelling (congrArg Phase.isLeaving hphase)) ping
  | fail =>
      rcases Option.ite_none_right_eq_some.mp hstep with ⟨hphase, heq⟩
      have hleaving : s.phase.isLeaving = false := by
        rcases hphase with hphase | hphase | hphase
        · exact congrArg Phase.isLeaving hphase
        · exact congrArg Phase.isLeaving hphase
        · cases hsame : s.phase with
          | pinging => rfl
          | reading => rfl
          | delivering => rfl
          | _ =>
              rw [hsame] at hphase
              cases hphase
      have hstopping := h.not_stopping hcancelling hleaving
      rw [← Option.some.inj heq]
      exact h.of_outside rfl rfl rfl rfl rfl
        fun hstop => absurd hstop (Bool.eq_false_iff.mp hstopping)
  | wake connects =>
      rcases Option.ite_none_right_eq_some.mp hstep with ⟨hphase, heq⟩
      have hstopping := h.not_stopping hcancelling (congrArg Phase.isLeaving hphase)
      rw [← Option.some.inj heq]
      exact h.close (congrArg Phase.isInside hphase)
        (fun hstop => absurd hstop (Bool.eq_false_iff.mp hstopping)) connects
  | closed connects =>
      cases hphase : s.phase with
      | closingPubsub raised =>
          rcases h.outside (congrArg Phase.isInside hphase) with ⟨hflag, hgauge⟩
          simp only [hphase] at hstep
          rw [← Option.some.inj hstep]
          refine h.of_outside rfl hflag hgauge rfl rfl fun hstop => ?_
          rcases h.stopping hstop with hcancel | hleaving
          · exact Or.inl hcancel
          · rw [hphase] at hleaving
            exact Or.inr hleaving
      | closingClient raised =>
          rcases h.outside (congrArg Phase.isInside hphase) with ⟨hflag, hgauge⟩
          simp only [hphase] at hstep
          rw [← Option.some.inj hstep]
          exact h.proceed hflag hgauge raised connects
      | _ =>
          simp only [hphase] at hstep
          cases hstep

theorem cancel (h : Follows s) (hphase : s.phase.isInside = false) : Follows s.cancel := by
  rcases h.outside hphase with ⟨hflag, hgauge⟩
  have hdelivered : forall phase : Phase, phase.isInside = false -> phase.isLeaving = true ->
      Follows { s with cancelling := false, phase := phase } :=
    fun phase houtside hleaving => h.of_outside houtside hflag hgauge rfl rfl
      fun _ => Or.inr hleaving
  have hleft : Follows ({ s with cancelling := false }.close true false) := by
    unfold State.close State.proceed
    split
    · exact h.of_outside rfl rfl hgauge rfl rfl fun _ => Or.inr rfl
    · exact h.of_outside rfl rfl hgauge rfl rfl fun _ => Or.inr rfl
  unfold State.cancel
  cases hsame : s.phase with
  | idle => exact hdelivered .idle rfl rfl
  | ended => exact hdelivered .ended rfl rfl
  | scheduled => exact hdelivered .ended rfl rfl
  | closingPubsub raised => exact hdelivered .ended rfl rfl
  | closingClient raised => exact hdelivered .ended rfl rfl
  | _ => exact hleft

/-- Every step keeps the invariant, but a cancellation inside a subscription. -/
theorem step (h : Follows s) {act : Act} (hact : ¬ CancelsInside s act)
    (hstep : SubscribeLoop.step s act = some s') : Follows s' := by
  have hloop : forall other : Act, (if s.cancelling = true then none
      else SubscribeLoop.loopStep s other) = some s' -> Follows s' := by
    intro other hother
    rcases Option.ite_none_left_eq_some.mp hother with ⟨hcancelling, heq⟩
    exact h.loopStep (Bool.eq_false_iff.mpr hcancelling) heq
  cases act with
  | start =>
      rcases Option.ite_none_right_eq_some.mp hstep with ⟨hphase, heq⟩
      rcases h.outside (congrArg Phase.isInside hphase) with ⟨hflag, hgauge⟩
      rw [← Option.some.inj heq]
      exact h.of_outside rfl hflag hgauge rfl rfl fun hstop => by cases hstop
  | stop =>
      rw [← Option.some.inj hstep]
      refine ⟨h.inside, h.outside, h.increasing, h.bounded, fun _ => ?_⟩
      unfold State.isRunning
      cases hphase : s.phase with
      | idle => exact Or.inr rfl
      | ended => exact Or.inr rfl
      | _ => exact Or.inl rfl
  | stopped =>
      rcases Option.ite_none_right_eq_some.mp hstep with ⟨hphase, heq⟩
      rcases h.outside (congrArg Phase.isInside hphase.1) with ⟨hflag, hgauge⟩
      rw [← Option.some.inj heq]
      exact h.of_outside rfl hflag hgauge rfl rfl fun _ => Or.inr rfl
  | cancel =>
      rcases Option.ite_none_right_eq_some.mp hstep with ⟨hcancelling, heq⟩
      rw [← Option.some.inj heq]
      apply h.cancel
      cases hinside : s.phase.isInside with
      | false => rfl
      | true => exact absurd ⟨rfl, hcancelling, hinside⟩ hact
  | begin connects => exact hloop (.begin connects) hstep
  | sent => exact hloop .sent hstep
  | silence => exact hloop .silence hstep
  | acknowledge => exact hloop .acknowledge hstep
  | ponged => exact hloop .ponged hstep
  | read message ping => exact hloop (.read message ping) hstep
  | delivered ping => exact hloop (.delivered ping) hstep
  | fail => exact hloop .fail hstep
  | wake connects => exact hloop (.wake connects) hstep
  | closed connects => exact hloop (.closed connects) hstep

end Follows

/-- A cancellation inside a subscription leaves the gauge as it was. -/
theorem not_truthful_of_cancelsInside {s : State} (h : Follows s) {act : Act}
    (hact : CancelsInside s act) :
    exists s', step s act = some s' ∧ ¬ Truthful s' := by
  rcases hact with ⟨hcancel, hcancelling, hinside⟩
  rcases h.inside hinside with ⟨hpubsub, hgauge⟩
  have hleft : s.cancel = { s with
      cancelling := false
      subscribed := false
      phase := .closingPubsub true } := by
    have hopen : ({ s with cancelling := false } : State).pubsub ≠ .none := by
      intro hnone
      cases hpubsub.symm.trans hnone
    unfold State.cancel
    cases hphase : s.phase with
    | pinging => exact if_neg hopen
    | reading => exact if_neg hopen
    | delivering => exact if_neg hopen
    | _ =>
        rw [hphase] at hinside
        cases hinside
  refine ⟨s.cancel, ?_, ?_⟩
  · rw [hcancel]
    exact if_pos hcancelling
  · intro htruthful
    rw [hleft] at htruthful
    have hzero : s.connected = 0 := htruthful.gauge rfl
    rw [hgauge] at hzero
    cases hzero

/-- A run is truthful throughout exactly if no cancellation comes inside an acknowledged
subscription. -/
theorem truthfulThroughout_iff (actions : List Act) :
    TruthfulThroughout actions <->
      Along step (fun s act => ¬ CancelsInside s act) .initial actions := by
  unfold TruthfulThroughout
  rw [forall_prefix_iff_along, and_iff_right follows_initial.truthful]
  have hiff : forall (s : State) (act : Act), Follows s ->
      ((forall s', step s act = some s' -> Truthful s') <-> ¬ CancelsInside s act) := by
    intro s act hfollows
    constructor
    · intro htruthful hact
      rcases not_truthful_of_cancelsInside hfollows hact with ⟨s', hstep, hnot⟩
      exact hnot (htruthful s' hstep)
    · intro hact s' hstep
      exact (hfollows.step hact hstep).truthful
  exact along_iff_along hiff (fun s act s' hfollows hact hstep => hfollows.step hact hstep)
    follows_initial actions

/-!
## Stopped while subscribed
-/

/-- The loop subscribes and is stopped while it waits for a message. -/
def stoppedWhileSubscribed : List Act :=
  [.start, .begin true, .sent, .acknowledge, .stop, .cancel, .closed true, .closed true, .stopped]

/-- After `stop` has returned, the gauge still counts the process. -/
theorem stoppedWhileSubscribed_not_truthful :
    ¬ forall actions : List Act, TruthfulThroughout actions := by
  intro h
  have hrun : exists s, run step .initial stoppedWhileSubscribed = some s ∧
      s.phase = .idle ∧ s.connected = 1 := ⟨_, rfl, rfl, rfl⟩
  rcases hrun with ⟨s, hrun, hidle, hgauge⟩
  have htruthful := h stoppedWhileSubscribed _ (List.prefix_refl _) s hrun
  have hzero := htruthful.gauge (by rw [hidle]; rfl)
  rw [hgauge] at hzero
  cases hzero

end SubscribeLoop
end Sse
end KeepGateway
