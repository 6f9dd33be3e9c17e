import KeepGateway.Cel.Negation

/-!
# WHERE clauses

The connectives of the WHERE clause that is built for a filter, over comparisons that are
columns of their own.  A disjunction selects the rows where one of its alternatives holds;
an alternative that the mapper drops says nothing.
-/

namespace KeepGateway
namespace Cel

open Sql

/-- A comparison that is not looked into. -/
def atom (text : String) : Condition := .test ⟨"", ""⟩ (.column text)

@[simp] theorem text_atom (text : String) : (atom text).text = text := by
  simp [atom, Condition.text, Frame.text, Scalar.text]

def Condition.joined : LogicalNodeOperator -> Condition -> Condition -> Condition
  | .and, left, right => .paren (.and left right)
  | .or, left, right => .paren (.or left right)

/-- An operand that nothing is left of is dropped. -/
def joinFilters (op : LogicalNodeOperator) : Filter -> Filter -> Filter
  | none, right => right
  | left, none => left
  | some left, some right => some (Condition.joined op left right)

namespace Provider

variable (p : Provider)

/-- The condition that a mapped filter is rendered to. -/
def condition : Node -> Except PyException Condition
  | .parenthesis expression => do
      let c <- condition expression
      .ok (.paren c)
  | .logical left op right => do
      let l <- condition left
      let r <- condition right
      .ok (Condition.joined op l r)
  | .unary .not operand => do
      let c <- condition operand
      .ok (.not (.paren c))
  | x => (p.buildSqlFilter x).map atom

/-- The WHERE clause of a filter. -/
def clauseOf (E : Node) : Except PyException Filter := do
  let mapped <- visitNodes p.rt p.metadata E
  match mapped.1 with
  | none => .ok none
  | some x => (p.condition x).map some

/-- The WHERE clause of an expression; `none` where the expression is rejected. -/
def whereClause (celpy : Celpy) (cel : String) : Option Filter :=
  if cel = "" then some none
  else
    match celpy.parse cel with
    | .error _ => none
    | .ok tree =>
        match convertToAst p.rt tree with
        | .error _ => none
        | .ok E => if isBooleanFilterNode E then (p.clauseOf E).toOption else none

/-!
## The SQL of a clause
-/

section Text

variable {p}

theorem text_joined (op : LogicalNodeOperator) (left right : Condition) :
    (match op with
      | .and => Except.ok (visitLogicalAnd left.text right.text)
      | .or => Except.ok (visitLogicalOr left.text right.text) : Except PyException String) =
      .ok (Condition.joined op left right).text := by
  cases op <;>
    simp only [Condition.joined, Condition.text, visitLogicalAnd, visitLogicalOr,
      String.append_assoc]

/-- The text of the condition is the SQL. -/
theorem condition_text (x : Node) : (p.condition x).map Condition.text = p.buildSqlFilter x := by
  induction x using condition.induct with
  | case1 expression ih =>
      rw [condition, buildSqlFilter, ← ih]
      cases p.condition expression <;> rfl
  | case2 left op right ihleft ihright =>
      rw [condition, buildSqlFilter, ← ihleft, ← ihright]
      cases p.condition left with
      | error e => rfl
      | ok l =>
          cases p.condition right with
          | error e => rfl
          | ok r => exact (text_joined op l r).symm
  | case3 operand ih =>
      rw [condition, buildSqlFilter, ← ih]
      cases p.condition operand with
      | error e => rfl
      | ok c =>
          have hopen : "NOT (" = "NOT " ++ "(" := rfl
          show Except.ok (Condition.not (.paren c)).text = Except.ok ("NOT (" ++ c.text ++ ")")
          simp only [Condition.text, hopen, String.append_assoc]
  | case4 x hparen hlogical hnot =>
      rw [condition]
      · cases p.buildSqlFilter x <;> simp [Except.map]
      all_goals assumption

/-- SQL groups the text of a clause as the condition is. -/
theorem grouped_condition {x : Node} {c : Condition} (h : p.condition x = .ok c) :
    2 ≤ c.level ∧ c.Grouped := by
  induction x using condition.induct generalizing c with
  | case1 expression ih =>
      rw [condition] at h
      rcases bind_eq_ok.mp h with ⟨inner, hinner, h⟩
      cases h
      exact ⟨Nat.le_succ 2, (ih hinner).2⟩
  | case2 left op right ihleft ihright =>
      rw [condition] at h
      rcases bind_eq_ok.mp h with ⟨l, hl, h⟩
      rcases bind_eq_ok.mp h with ⟨r, hr, h⟩
      cases h
      rcases ihleft hl with ⟨hlevel, hgrouped⟩
      rcases ihright hr with ⟨hlevel', hgrouped'⟩
      cases op with
      | and =>
          exact ⟨Nat.le_succ 2, ⟨Nat.le_trans (Nat.le_succ 1) hlevel, hgrouped⟩, hlevel', hgrouped'⟩
      | or => exact ⟨Nat.le_succ 2, hgrouped, Nat.le_trans (Nat.le_succ 1) hlevel', hgrouped'⟩
  | case3 operand ih =>
      rw [condition] at h
      rcases bind_eq_ok.mp h with ⟨inner, hinner, h⟩
      cases h
      exact ⟨Nat.le_refl 2, Nat.le_succ 2, (ih hinner).2⟩
  | case4 x hparen hlogical hnot =>
      rw [condition] at h
      · rcases map_eq_ok.mp h with ⟨text, _, h⟩
        rw [← h]
        exact ⟨Nat.le_succ 2, trivial⟩
      all_goals assumption

theorem mapPropsInAst_fst (E : Node) :
    (mapPropsInAst p.rt p.metadata E).map Prod.fst =
      (visitNodes p.rt p.metadata E).map Prod.fst := by
  unfold mapPropsInAst
  cases visitNodes p.rt p.metadata E <;> rfl

theorem toOption_mapQuery (E : Node) :
    (p.mapQuery E).toOption = (mapPropsInAst p.rt p.metadata E).toOption := by
  unfold mapQuery
  cases mapPropsInAst p.rt p.metadata E with
  | ok mapped => rfl
  | error e => cases e <;> rfl

theorem toOption_buildQuery (x : Node) :
    (p.buildQuery x).toOption = (p.buildSqlFilter x).toOption := by
  unfold buildQuery
  cases p.buildSqlFilter x with
  | ok sql => rfl
  | error e => cases e <;> rfl

theorem toOption_convertQuery (cel : String) {E : Node} (hboolean : isBooleanFilterNode E = true) :
    (p.convertQuery cel E).toOption.map CelToSqlResult.sql =
      (p.clauseOf E).toOption.map Filter.text := by
  have hmap := mapPropsInAst_fst (p := p) E
  have hquery := toOption_mapQuery (p := p) E
  unfold convertQuery clauseOf
  rw [if_pos hboolean]
  cases hvisit : visitNodes p.rt p.metadata E with
  | error e =>
      rw [hvisit] at hmap
      cases hprops : mapPropsInAst p.rt p.metadata E with
      | ok mapped =>
          rw [hprops] at hmap
          cases hmap
      | error e' =>
          rw [hprops] at hquery
          cases hfailed : p.mapQuery E with
          | ok mapped =>
              rw [hfailed] at hquery
              cases hquery
          | error e'' => rfl
  | ok visited =>
      rw [hvisit] at hmap
      rcases map_eq_ok.mp hmap with ⟨mapped, hprops, hfst⟩
      rw [hprops] at hquery
      have hmapped : p.mapQuery E = .ok mapped := by
        cases hrun : p.mapQuery E with
        | ok mapped' =>
            rw [hrun] at hquery
            cases hquery
            rfl
        | error e =>
            rw [hrun] at hquery
            cases hquery
      rw [hmapped]
      rcases mapped with ⟨kept, fields⟩
      rcases visited with ⟨kept', fields'⟩
      simp only at hfst
      subst hfst
      cases kept with
      | none => rfl
      | some x =>
          have hbuild := toOption_buildQuery (p := p) x
          have htext := condition_text (p := p) x
          simp only [bind, Except.bind]
          rw [← htext] at hbuild
          cases hcondition : p.condition x with
          | error e =>
              rw [hcondition] at hbuild
              cases hrun : p.buildQuery x with
              | error e' => rfl
              | ok sql =>
                  rw [hrun] at hbuild
                  cases hbuild
          | ok c =>
              rw [hcondition] at hbuild
              cases hrun : p.buildQuery x with
              | error e' =>
                  rw [hrun] at hbuild
                  cases hbuild
              | ok sql =>
                  rw [hrun] at hbuild
                  cases hbuild
                  rfl

/-- The SQL of an expression is the text of its clause. -/
theorem whereClause_text (celpy : Celpy) (cel : String) :
    (p.whereClause celpy cel).map Filter.text =
      (p.convertToSqlStr celpy cel).toOption.map CelToSqlResult.sql := by
  unfold whereClause convertToSqlStr
  split
  · rfl
  · cases celpy.parse cel with
    | error e => rfl
    | ok tree =>
        cases hast : convertToAst p.rt tree with
        | error e => simp only [hast, Option.map_none, Except.toOption]
        | ok E =>
            simp only [hast]
            split
            · rename_i hboolean
              exact (toOption_convertQuery cel hboolean).symm
            · rename_i hboolean
              unfold convertQuery
              rw [if_neg hboolean]
              rfl

theorem grouped_clauseOf {E : Node} {filter : Filter} (h : p.clauseOf E = .ok filter) :
    forall c, filter = some c -> c.Grouped := by
  rintro c rfl
  unfold clauseOf at h
  rcases bind_eq_ok.mp h with ⟨⟨kept, fields⟩, _, h⟩
  cases kept with
  | none => cases h
  | some x =>
      rcases map_eq_ok.mp h with ⟨c', hc, heq⟩
      cases heq
      exact (grouped_condition hc).2

end Text

/-!
## Clauses of joined filters
-/

section Joined

variable {p}

theorem clauseOf_eq_ok {E : Node} {filter : Filter} :
    p.clauseOf E = .ok filter <->
      exists mapped, visitNodes p.rt p.metadata E = .ok mapped ∧
        mapped.1.elim (filter = none)
          fun x => exists c, p.condition x = .ok c ∧ filter = some c := by
  unfold clauseOf
  rw [bind_eq_ok]
  constructor
  · rintro ⟨⟨kept, fields⟩, hvisit, h⟩
    refine ⟨_, hvisit, ?_⟩
    cases kept with
    | none =>
        cases h
        rfl
    | some x =>
        rcases map_eq_ok.mp h with ⟨c, hc, heq⟩
        exact ⟨c, hc, heq.symm⟩
  · rintro ⟨⟨kept, fields⟩, hvisit, h⟩
    refine ⟨_, hvisit, ?_⟩
    cases kept with
    | none =>
        cases h
        rfl
    | some x =>
        rcases h with ⟨c, hc, heq⟩
        rw [heq]
        exact map_eq_ok.mpr ⟨c, hc, rfl⟩

/-- Operand by operand. -/
theorem clauseOf_logical {left right : Node} {op : LogicalNodeOperator} {filter : Filter} :
    p.clauseOf (.logical left op right) = .ok filter <->
      exists l r, p.clauseOf left = .ok l ∧ p.clauseOf right = .ok r ∧
        filter = joinFilters op l r := by
  simp only [clauseOf_eq_ok]
  constructor
  · rintro ⟨mapped, hvisit, h⟩
    rw [visitNodes] at hvisit
    rcases bind_eq_ok.mp hvisit with ⟨⟨kept, fields⟩, hleft, hvisit⟩
    rcases bind_eq_ok.mp hvisit with ⟨⟨kept', fields'⟩, hright, hvisit⟩
    cases hvisit
    cases kept with
    | none => exact ⟨none, filter, ⟨_, hleft, rfl⟩, ⟨_, hright, h⟩, rfl⟩
    | some x =>
        cases kept' with
        | none =>
            rcases h with ⟨c, hc, heq⟩
            refine ⟨some c, none, ⟨_, hleft, c, hc, rfl⟩, ⟨_, hright, rfl⟩, heq⟩
        | some y =>
            rcases h with ⟨c, hc, heq⟩
            rw [condition] at hc
            rcases bind_eq_ok.mp hc with ⟨l, hl, hc⟩
            rcases bind_eq_ok.mp hc with ⟨r, hr, hc⟩
            cases hc
            exact ⟨some l, some r, ⟨_, hleft, l, hl, rfl⟩, ⟨_, hright, r, hr, rfl⟩, heq⟩
  · rintro ⟨l, r, ⟨⟨kept, fields⟩, hleft, hl⟩, ⟨⟨kept', fields'⟩, hright, hr⟩, heq⟩
    refine ⟨(joinLogical kept op kept', fields ++ fields'), ?_, ?_⟩
    · rw [visitNodes, hleft, hright]
      rfl
    · cases kept with
      | none =>
          cases hl
          rw [heq]
          exact hr
      | some x =>
          rcases hl with ⟨c, hc, hl⟩
          cases kept' with
          | none =>
              cases hr
              rw [heq, hl]
              exact ⟨c, hc, rfl⟩
          | some y =>
              rcases hr with ⟨d, hd, hr⟩
              refine ⟨Condition.joined op c d, ?_, ?_⟩
              · rw [condition, hc, hd]
                rfl
              · rw [heq, hl, hr]
                rfl

end Joined

end Provider

end Cel
end KeepGateway
