import KeepGateway.Cel.WhereClauses

/-!
# Alternatives

The operands of a top-level `||`, and what becomes of them when a filter is joined to
another by `&&`, which takes the last alternative of the left filter and the first of the
right one.
-/

namespace KeepGateway
namespace Cel

open Sql

namespace Node

/-- The operands of the outermost `||`, in source order. -/
def alternatives : Node -> List Node
  | .logical left .or right => left.alternatives ++ [right]
  | x => [x]

def firstAlternative : Node -> Node
  | .logical left .or _ => left.firstAlternative
  | x => x

def lastAlternative : Node -> Node
  | .logical _ .or right => right
  | x => x

/-- The alternatives after the first. -/
def laterAlternatives : Node -> List Node
  | .logical left .or right => left.laterAlternatives ++ [right]
  | _ => []

/-- The alternatives before the last. -/
def earlierAlternatives : Node -> List Node
  | .logical left .or _ => left.alternatives
  | _ => []

/-- `&&` associates to the left. -/
def conjoin (left : Node) : Node -> Node
  | .logical l .and r => .logical (left.conjoin l) .and r
  | right => .logical left .and right

def conjoinLast (left right : Node) : Node :=
  match left with
  | .logical l .or r => .logical l .or (r.conjoin right)
  | left => left.conjoin right

/-- What two filters joined by `&&` are converted to. -/
def andAlso (left : Node) : Node -> Node
  | .logical l .or r => .logical (left.andAlso l) .or r
  | right => left.conjoinLast right

theorem alternatives_eq_first (x : Node) :
    x.alternatives = x.firstAlternative :: x.laterAlternatives := by
  induction x using alternatives.induct with
  | case1 left right ih => rw [alternatives, firstAlternative, laterAlternatives, ih, List.cons_append]
  | case2 x h =>
      rw [alternatives, firstAlternative, laterAlternatives]
      all_goals exact h

theorem alternatives_eq_last (x : Node) :
    x.alternatives = x.earlierAlternatives ++ [x.lastAlternative] := by
  cases x using alternatives.induct with
  | case1 left right ih => rw [alternatives, earlierAlternatives, lastAlternative]
  | case2 x h =>
      rw [alternatives, earlierAlternatives, lastAlternative, List.nil_append]
      all_goals exact h

theorem alternatives_conjoin (left right : Node) :
    (left.conjoin right).alternatives = [left.conjoin right] := by
  cases right using conjoin.induct with
  | case1 l r ih =>
      rw [conjoin, alternatives]
      simp
  | case2 right h =>
      rw [conjoin, alternatives]
      · simp
      · exact h

theorem alternatives_conjoinLast (left right : Node) :
    (left.conjoinLast right).alternatives =
      left.earlierAlternatives ++ [left.lastAlternative.conjoin right] := by
  cases left using alternatives.induct with
  | case1 l r _ =>
      show (Node.logical l .or (r.conjoin right)).alternatives = _
      rw [alternatives, earlierAlternatives, lastAlternative]
  | case2 left h =>
      unfold conjoinLast
      split
      · rename_i l r
        exact (h l r rfl).elim
      · rw [alternatives_conjoin, earlierAlternatives, lastAlternative, List.nil_append]
        all_goals exact h

/-- Only the last alternative of the left filter and the first of the right one are joined. -/
theorem alternatives_andAlso (left right : Node) :
    (left.andAlso right).alternatives =
      left.earlierAlternatives ++
        left.lastAlternative.conjoin right.firstAlternative :: right.laterAlternatives := by
  induction right using andAlso.induct with
  | case1 l r ih =>
      rw [andAlso, alternatives, ih, firstAlternative, laterAlternatives, List.append_assoc,
        List.cons_append]
  | case2 right h =>
      rw [andAlso, alternatives_conjoinLast, firstAlternative, laterAlternatives]
      all_goals exact h

end Node

/-!
## The rows that alternatives select
-/

namespace Provider

variable (p : Provider)

/-- Nothing is left of a filter that every row meets. -/
def Dropped (E : Node) : Prop := p.clauseOf E = .ok none

def Holds {V : Type} (db : Database V) (row : Row V) (E : Node) : Prop :=
  exists c, p.clauseOf E = .ok (some c) ∧ c.eval db row = .yes

/-- A row is selected where the filter holds, and every row where nothing is left of it. -/
def SelectsRow {V : Type} (db : Database V) (row : Row V) (E : Node) : Prop :=
  exists filter, p.clauseOf E = .ok filter ∧ filter.Selects db row

def HasClause (E : Node) : Prop := exists filter, p.clauseOf E = .ok filter

section Selection

variable {p} {V : Type} {db : Database V} {row : Row V}

theorem selectsRow_iff {E : Node} :
    p.SelectsRow db row E <-> p.Dropped E ∨ p.Holds db row E := by
  constructor
  · rintro ⟨filter, hfilter, hselects⟩
    cases filter with
    | none => exact .inl hfilter
    | some c => exact .inr ⟨c, hfilter, hselects⟩
  · rintro (h | ⟨c, hc, hyes⟩)
    · exact ⟨none, h, trivial⟩
    · exact ⟨some c, hc, hyes⟩

theorem not_holds_of_dropped {E : Node} (h : p.Dropped E) : ¬ p.Holds db row E := by
  rintro ⟨c, hc, _⟩
  cases h.symm.trans hc

theorem hasClause_logical {left right : Node} {op : LogicalNodeOperator} :
    p.HasClause (.logical left op right) <-> p.HasClause left ∧ p.HasClause right := by
  constructor
  · rintro ⟨filter, h⟩
    rcases clauseOf_logical.mp h with ⟨l, r, hl, hr, _⟩
    exact ⟨⟨l, hl⟩, ⟨r, hr⟩⟩
  · rintro ⟨⟨l, hl⟩, ⟨r, hr⟩⟩
    exact ⟨_, clauseOf_logical.mpr ⟨l, r, hl, hr, rfl⟩⟩

theorem dropped_logical {left right : Node} {op : LogicalNodeOperator} :
    p.Dropped (.logical left op right) <-> p.Dropped left ∧ p.Dropped right := by
  unfold Dropped
  rw [clauseOf_logical]
  constructor
  · rintro ⟨l, r, hl, hr, h⟩
    cases l with
    | none =>
        cases r with
        | none => exact ⟨hl, hr⟩
        | some d => cases h
    | some c => cases r <;> cases h
  · rintro ⟨hl, hr⟩
    exact ⟨none, none, hl, hr, rfl⟩

theorem holds_iff {E : Node} : p.Holds db row E <-> p.SelectsRow db row E ∧ ¬ p.Dropped E := by
  rw [selectsRow_iff]
  constructor
  · intro h
    exact ⟨.inr h, fun hdropped => not_holds_of_dropped hdropped h⟩
  · rintro ⟨hdropped | h, hnot⟩
    · exact absurd hdropped hnot
    · exact h

/-- A disjunction holds where one of its operands does. -/
theorem holds_or {left right : Node} (hleft : p.HasClause left) (hright : p.HasClause right) :
    p.Holds db row (.logical left .or right) <-> p.Holds db row left ∨ p.Holds db row right := by
  rcases hleft with ⟨l, hl⟩
  rcases hright with ⟨r, hr⟩
  have hclause : p.clauseOf (.logical left .or right) = .ok (joinFilters .or l r) :=
    clauseOf_logical.mpr ⟨l, r, hl, hr, rfl⟩
  have hholds : forall {E : Node} {filter : Filter}, p.clauseOf E = .ok filter ->
      (p.Holds db row E <-> exists c, filter = some c ∧ c.eval db row = .yes) := by
    intro E filter h
    unfold Holds
    simp only [h, Except.ok.injEq]
  rw [hholds hclause, hholds hl, hholds hr]
  cases l with
  | none => simp [joinFilters]
  | some c =>
      cases r with
      | none => simp [joinFilters]
      | some d => simp [joinFilters, Condition.joined, Condition.eval, Truth.or_eq_yes]

/-- A conjunction selects what both operands select. -/
theorem selectsRow_and {left right : Node} :
    p.SelectsRow db row (.logical left .and right) <->
      p.SelectsRow db row left ∧ p.SelectsRow db row right := by
  have hjoined : forall l r : Filter, (joinFilters .and l r).Selects db row <->
      l.Selects db row ∧ r.Selects db row := by
    intro l r
    cases l with
    | none => simp [joinFilters, Filter.Selects]
    | some c =>
        cases r with
        | none => simp [joinFilters, Filter.Selects]
        | some d =>
            simp [joinFilters, Filter.Selects, Condition.joined, Condition.eval, Truth.and_eq_yes]
  constructor
  · rintro ⟨filter, hfilter, hselects⟩
    rcases clauseOf_logical.mp hfilter with ⟨l, r, hl, hr, heq⟩
    rw [heq] at hselects
    rcases (hjoined l r).mp hselects with ⟨hleft, hright⟩
    exact ⟨⟨l, hl, hleft⟩, r, hr, hright⟩
  · rintro ⟨⟨l, hl, hleft⟩, r, hr, hright⟩
    exact ⟨_, clauseOf_logical.mpr ⟨l, r, hl, hr, rfl⟩, (hjoined l r).mpr ⟨hleft, hright⟩⟩

/-- What holds of a conjunction where it holds of both operands does so where it is moved in. -/
theorem conjoin_iff {P : Node -> Prop}
    (hand : forall left right, P (.logical left .and right) <-> P left ∧ P right)
    {left right : Node} : P (left.conjoin right) <-> P left ∧ P right := by
  induction right using Node.conjoin.induct with
  | case1 l r ih => rw [Node.conjoin, hand, hand, ih, and_assoc]
  | case2 right h =>
      rw [Node.conjoin]
      · exact hand left right
      · exact h

theorem selectsRow_conjoin {left right : Node} :
    p.SelectsRow db row (left.conjoin right) <->
      p.SelectsRow db row left ∧ p.SelectsRow db row right :=
  conjoin_iff fun _ _ => selectsRow_and

theorem hasClause_conjoin {left right : Node} :
    p.HasClause (left.conjoin right) <-> p.HasClause left ∧ p.HasClause right :=
  conjoin_iff fun _ _ => hasClause_logical

theorem dropped_conjoin {left right : Node} :
    p.Dropped (left.conjoin right) <-> p.Dropped left ∧ p.Dropped right :=
  conjoin_iff fun _ _ => dropped_logical

/-!
## Alternative by alternative
-/

/-- What holds of a disjunction where it holds of both operands holds of every alternative. -/
theorem alternatives_iff {P : Node -> Prop}
    (hor : forall left right, P (.logical left .or right) <-> P left ∧ P right) {E : Node} :
    P E <-> forall A, A ∈ E.alternatives -> P A := by
  induction E using Node.alternatives.induct with
  | case1 left right ih =>
      rw [hor, ih, Node.alternatives]
      simp only [List.mem_append, List.mem_singleton]
      constructor
      · rintro ⟨hleft, hright⟩ A (hA | rfl)
        · exact hleft A hA
        · exact hright
      · intro h
        exact ⟨fun A hA => h A (.inl hA), h right (.inr rfl)⟩
  | case2 x h =>
      rw [Node.alternatives]
      · simp
      · exact h

theorem hasClause_alternatives {E : Node} :
    p.HasClause E <-> forall A, A ∈ E.alternatives -> p.HasClause A :=
  alternatives_iff fun _ _ => hasClause_logical

theorem dropped_alternatives {E : Node} :
    p.Dropped E <-> forall A, A ∈ E.alternatives -> p.Dropped A :=
  alternatives_iff fun _ _ => dropped_logical

theorem holds_alternatives {E : Node} (hE : p.HasClause E) :
    p.Holds db row E <-> exists A, A ∈ E.alternatives ∧ p.Holds db row A := by
  induction E using Node.alternatives.induct with
  | case1 left right ih =>
      rcases hasClause_logical.mp hE with ⟨hleft, hright⟩
      rw [holds_or hleft hright, ih hleft, Node.alternatives]
      simp only [List.mem_append, List.mem_singleton]
      constructor
      · rintro (⟨A, hA, hholds⟩ | hholds)
        · exact ⟨A, .inl hA, hholds⟩
        · exact ⟨right, .inr rfl, hholds⟩
      · rintro ⟨A, hA | rfl, hholds⟩
        · exact .inl ⟨A, hA, hholds⟩
        · exact .inr hholds
  | case2 x h =>
      rw [Node.alternatives]
      · simp
      · exact h

theorem selectsRow_of_alternative {E A : Node} (hE : p.HasClause E) (hA : A ∈ E.alternatives)
    (h : p.Holds db row A) : p.SelectsRow db row E :=
  selectsRow_iff.mpr (.inr ((holds_alternatives hE).mpr ⟨A, hA, h⟩))

end Selection

/-!
## Filters joined by `&&`
-/

/-- The alternatives that the joined filter takes whole select no row that the other filter
leaves out, and neither do the two that it joins where one of them is dropped. -/
structure AlternativesAgree {V : Type} (db : Database V) (row : Row V) (left right : Node) :
    Prop where
  earlier : forall A, A ∈ left.earlierAlternatives -> p.Holds db row A -> p.SelectsRow db row right
  later : forall A, A ∈ right.laterAlternatives -> p.Holds db row A -> p.SelectsRow db row left
  lastDropped : p.Dropped left.lastAlternative -> p.Holds db row right.firstAlternative ->
    p.SelectsRow db row left
  firstDropped : p.Dropped right.firstAlternative -> p.Holds db row left.lastAlternative ->
    p.SelectsRow db row right

section Joined

variable {p} {V : Type} {db : Database V} {row : Row V} {left right : Node}

theorem mem_alternatives_of_earlier {E A : Node} (h : A ∈ E.earlierAlternatives) :
    A ∈ E.alternatives := by
  rw [Node.alternatives_eq_last]
  exact List.mem_append_left _ h

theorem lastAlternative_mem (E : Node) : E.lastAlternative ∈ E.alternatives := by
  rw [Node.alternatives_eq_last]
  exact List.mem_append_right _ (List.mem_singleton_self _)

theorem mem_alternatives_of_later {E A : Node} (h : A ∈ E.laterAlternatives) :
    A ∈ E.alternatives := by
  rw [Node.alternatives_eq_first]
  exact List.mem_cons_of_mem _ h

theorem firstAlternative_mem (E : Node) : E.firstAlternative ∈ E.alternatives := by
  rw [Node.alternatives_eq_first]
  exact List.mem_cons_self

theorem mem_alternatives_andAlso {A : Node} :
    A ∈ (left.andAlso right).alternatives <->
      A ∈ left.earlierAlternatives ∨ A = left.lastAlternative.conjoin right.firstAlternative ∨
        A ∈ right.laterAlternatives := by
  rw [Node.alternatives_andAlso]
  simp

theorem hasClause_andAlso (hleft : p.HasClause left) (hright : p.HasClause right) :
    p.HasClause (left.andAlso right) := by
  have hl := hasClause_alternatives.mp hleft
  have hr := hasClause_alternatives.mp hright
  apply hasClause_alternatives.mpr
  intro A hA
  rcases mem_alternatives_andAlso.mp hA with hA | rfl | hA
  · exact hl A (mem_alternatives_of_earlier hA)
  · exact hasClause_conjoin.mpr
      ⟨hl _ (lastAlternative_mem left), hr _ (firstAlternative_mem right)⟩
  · exact hr A (mem_alternatives_of_later hA)

/-- A row that both filters select is always selected. -/
theorem selectsRow_andAlso (hleft : p.HasClause left) (hright : p.HasClause right)
    (hl : p.SelectsRow db row left) (hr : p.SelectsRow db row right) :
    p.SelectsRow db row (left.andAlso right) := by
  have hclause := hasClause_andAlso hleft hright
  have hwhole : forall {A : Node}, A ∈ (left.andAlso right).alternatives -> p.Holds db row A ->
      p.SelectsRow db row (left.andAlso right) :=
    fun hA h => selectsRow_of_alternative hclause hA h
  rcases Classical.em (exists A, A ∈ left.earlierAlternatives ∧ p.Holds db row A) with
    ⟨A, hA, hholds⟩ | hearlier
  · exact hwhole (mem_alternatives_andAlso.mpr (.inl hA)) hholds
  rcases Classical.em (exists A, A ∈ right.laterAlternatives ∧ p.Holds db row A) with
    ⟨A, hA, hholds⟩ | hlater
  · exact hwhole (mem_alternatives_andAlso.mpr (.inr (.inr hA))) hholds
  -- No alternative but the joined ones holds, so these decide both filters.
  have hlast : (forall A, A ∈ left.alternatives -> p.Dropped A) ∨
      p.Holds db row left.lastAlternative := by
    rcases selectsRow_iff.mp hl with hdropped | hholds
    · exact .inl (dropped_alternatives.mp hdropped)
    · rcases (holds_alternatives hleft).mp hholds with ⟨A, hA, hholds⟩
      rw [Node.alternatives_eq_last] at hA
      rcases List.mem_append.mp hA with hA | hA
      · exact absurd ⟨A, hA, hholds⟩ hearlier
      · rw [List.mem_singleton.mp hA] at hholds
        exact .inr hholds
  have hfirst : (forall A, A ∈ right.alternatives -> p.Dropped A) ∨
      p.Holds db row right.firstAlternative := by
    rcases selectsRow_iff.mp hr with hdropped | hholds
    · exact .inl (dropped_alternatives.mp hdropped)
    · rcases (holds_alternatives hright).mp hholds with ⟨A, hA, hholds⟩
      rw [Node.alternatives_eq_first] at hA
      rcases List.mem_cons.mp hA with hA | hA
      · rw [hA] at hholds
        exact .inr hholds
      · exact absurd ⟨A, hA, hholds⟩ hlater
  have hjoined : p.SelectsRow db row (left.lastAlternative.conjoin right.firstAlternative) := by
    apply selectsRow_conjoin.mpr
    constructor
    · exact selectsRow_iff.mpr (hlast.imp_left fun h => h _ (lastAlternative_mem left))
    · exact selectsRow_iff.mpr (hfirst.imp_left fun h => h _ (firstAlternative_mem right))
  rcases selectsRow_iff.mp hjoined with hdropped | hholds
  · rcases dropped_conjoin.mp hdropped with ⟨hlastDropped, hfirstDropped⟩
    apply selectsRow_iff.mpr
    refine .inl (dropped_alternatives.mpr ?_)
    intro A hA
    rcases mem_alternatives_andAlso.mp hA with hA | rfl | hA
    · rcases hlast with h | h
      · exact h A (mem_alternatives_of_earlier hA)
      · exact absurd h (not_holds_of_dropped hlastDropped)
    · exact hdropped
    · rcases hfirst with h | h
      · exact h A (mem_alternatives_of_later hA)
      · exact absurd h (not_holds_of_dropped hfirstDropped)
  · exact hwhole (mem_alternatives_andAlso.mpr (.inr (.inl rfl))) hholds

theorem selectsRow_of_andAlso (hleft : p.HasClause left) (hright : p.HasClause right)
    (hagree : p.AlternativesAgree db row left right)
    (h : p.SelectsRow db row (left.andAlso right)) :
    p.SelectsRow db row left ∧ p.SelectsRow db row right := by
  rcases selectsRow_iff.mp h with hdropped | hholds
  · have hall := dropped_alternatives.mp hdropped
    have hjoined := dropped_conjoin.mp (hall _ (mem_alternatives_andAlso.mpr (.inr (.inl rfl))))
    constructor
    · apply selectsRow_iff.mpr
      refine .inl (dropped_alternatives.mpr ?_)
      intro A hA
      rw [Node.alternatives_eq_last] at hA
      rcases List.mem_append.mp hA with hA | hA
      · exact hall A (mem_alternatives_andAlso.mpr (.inl hA))
      · rw [List.mem_singleton.mp hA]
        exact hjoined.1
    · apply selectsRow_iff.mpr
      refine .inl (dropped_alternatives.mpr ?_)
      intro A hA
      rw [Node.alternatives_eq_first] at hA
      rcases List.mem_cons.mp hA with hA | hA
      · rw [hA]
        exact hjoined.2
      · exact hall A (mem_alternatives_andAlso.mpr (.inr (.inr hA)))
  · rcases (holds_alternatives (hasClause_andAlso hleft hright)).mp hholds with ⟨A, hA, hholds⟩
    rcases mem_alternatives_andAlso.mp hA with hA | rfl | hA
    · exact ⟨selectsRow_of_alternative hleft (mem_alternatives_of_earlier hA) hholds,
        hagree.earlier A hA hholds⟩
    · rcases holds_iff.mp hholds with ⟨hselects, hkept⟩
      rcases selectsRow_conjoin.mp hselects with ⟨hlast, hfirst⟩
      rcases selectsRow_iff.mp hlast with hlastDropped | hlast
      · rcases selectsRow_iff.mp hfirst with hfirstDropped | hfirst
        · exact absurd (dropped_conjoin.mpr ⟨hlastDropped, hfirstDropped⟩) hkept
        · exact ⟨hagree.lastDropped hlastDropped hfirst,
            selectsRow_of_alternative hright (firstAlternative_mem right) hfirst⟩
      · refine ⟨selectsRow_of_alternative hleft (lastAlternative_mem left) hlast, ?_⟩
        rcases selectsRow_iff.mp hfirst with hfirstDropped | hfirst
        · exact hagree.firstDropped hfirstDropped hlast
        · exact selectsRow_of_alternative hright (firstAlternative_mem right) hfirst
    · exact ⟨hagree.later A hA hholds,
        selectsRow_of_alternative hright (mem_alternatives_of_later hA) hholds⟩

/-- The joined filter selects what both select exactly where their alternatives agree. -/
theorem selectsRow_andAlso_iff (hleft : p.HasClause left) (hright : p.HasClause right) :
    (p.SelectsRow db row (left.andAlso right) <->
        p.SelectsRow db row left ∧ p.SelectsRow db row right) <->
      p.AlternativesAgree db row left right := by
  have hclause := hasClause_andAlso hleft hright
  constructor
  · intro h
    have hwhole : forall {A : Node}, A ∈ (left.andAlso right).alternatives -> p.Holds db row A ->
        p.SelectsRow db row left ∧ p.SelectsRow db row right :=
      fun hA hholds => h.mp (selectsRow_of_alternative hclause hA hholds)
    have hjoined : p.SelectsRow db row left.lastAlternative ->
        p.SelectsRow db row right.firstAlternative ->
          ¬ (p.Dropped left.lastAlternative ∧ p.Dropped right.firstAlternative) ->
            p.SelectsRow db row left ∧ p.SelectsRow db row right := by
      intro hlast hfirst hkept
      apply hwhole (mem_alternatives_andAlso.mpr (.inr (.inl rfl)))
      exact holds_iff.mpr
        ⟨selectsRow_conjoin.mpr ⟨hlast, hfirst⟩, fun hdropped => hkept (dropped_conjoin.mp hdropped)⟩
    constructor
    · intro A hA hholds
      exact (hwhole (mem_alternatives_andAlso.mpr (.inl hA)) hholds).2
    · intro A hA hholds
      exact (hwhole (mem_alternatives_andAlso.mpr (.inr (.inr hA))) hholds).1
    · intro hdropped hholds
      exact (hjoined (selectsRow_iff.mpr (.inl hdropped)) (selectsRow_iff.mpr (.inr hholds))
        fun h => not_holds_of_dropped h.2 hholds).1
    · intro hdropped hholds
      exact (hjoined (selectsRow_iff.mpr (.inr hholds)) (selectsRow_iff.mpr (.inl hdropped))
        fun h => not_holds_of_dropped h.1 hholds).2
  · intro hagree
    constructor
    · exact selectsRow_of_andAlso hleft hright hagree
    · rintro ⟨hl, hr⟩
      exact selectsRow_andAlso hleft hright hl hr

end Joined

end Provider

end Cel
end KeepGateway
