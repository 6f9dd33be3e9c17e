import KeepGateway.Cel.ContextIndependence
import KeepGateway.Cel.ParsedNodes
import KeepGateway.Cel.Alternatives

/-!
# Expressions joined as text

The tree that celpy builds of two expressions with `&&` between their texts.  `&&` binds
tighter than `||`, so it takes the last alternative of the left expression and the first of
the right one; the converter turns the tree into the same joining of the two ASTs.
-/

namespace KeepGateway
namespace Cel

open StackEffect

namespace Tree

def joinAnd (left : Tree .conditionaland) : Tree .conditionaland -> Tree .conditionaland
  | andOne r => and left r
  | and l r => and (left.joinAnd l) r

def joinLast (left : Tree .conditionalor) (right : Tree .conditionaland) : Tree .conditionalor :=
  match left with
  | orOne l => orOne (l.joinAnd right)
  | or l r => or l (r.joinAnd right)

def joinOr (left : Tree .conditionalor) : Tree .conditionalor -> Tree .conditionalor
  | orOne r => left.joinLast r
  | or l r => or (left.joinOr l) r

/-- `left && right` -/
def andAlso : Tree .expr -> Tree .expr -> Tree .expr
  | exprOne l, exprOne r => exprOne (l.joinOr r)
  | exprOne l, exprCond cond left right => exprCond (l.joinOr cond) left right
  | exprCond cond left right, other => exprCond cond left (right.andAlso other)

theorem deficit_joinAnd (left : Tree .conditionaland) : forall right : Tree .conditionaland,
    (left.joinAnd right).deficit = left.deficit + right.deficit
  | andOne r => by rw [joinAnd, deficit, deficit]
  | and l r => by rw [joinAnd, deficit, deficit, deficit_joinAnd left l, Nat.add_assoc]

end Tree

/-!
## What is left on top of the operand stack
-/

/-- Whatever a method leaves on top has the property. -/
def Tops (q : Node -> Prop) (f : Visitor) : Prop :=
  forall s s', f s = .ok s' -> forall x, s'.1.head? = some x -> q x

theorem Tops.after {q : Node -> Prop} {g : Visitor} (hg : Tops q g) (f : Visitor) :
    Tops q fun s => f s >>= g := by
  intro s s' h
  rcases bind_eq_ok.mp h with ⟨s1, _, h⟩
  exact hg s1 s' h

theorem tops_push (q : Node -> Prop) {x : Node} (hx : q x) (s : State) :
    forall y, (push x s).1.head? = some y -> q y := by
  intro y hy
  cases hy
  exact hx

theorem tops_fail {q : Node -> Prop} (e : PyException) : Tops q fun _ => .error e :=
  fun _ _ h => by cases h

abbrev NotLogical (x : Node) : Prop := x.isLogical = false

theorem relation_notLogical : Tops NotLogical relation := by
  intro s s' h
  rcases bind_eq_ok.mp h with ⟨⟨second, s1⟩, _, h⟩
  rcases bind_eq_ok.mp h with ⟨⟨comparison, s2⟩, _, h⟩
  cases comparison with
  | comparison first op _ =>
      cases h
      exact tops_push NotLogical rfl _
  | _ => cases h

theorem arithmetic_notLogical : Tops NotLogical arithmetic := by
  intro s s' h
  rcases bind_eq_ok.mp h with ⟨⟨right, s1⟩, _, h⟩
  rcases bind_eq_ok.mp h with ⟨⟨left, s2⟩, _, h⟩
  cases left with
  | dict l op _ =>
      cases h
      exact tops_push NotLogical rfl _
  | _ => cases h

theorem unary_notLogical : Tops NotLogical unary := by
  intro s s' h
  rcases bind_eq_ok.mp h with ⟨⟨operand, s1⟩, _, h⟩
  rcases bind_eq_ok.mp h with ⟨⟨unaryNode, s2⟩, _, h⟩
  cases unaryNode with
  | unary op _ =>
      cases h
      exact tops_push NotLogical rfl _
  | _ => cases h

/-- Without a member a property access leaves its subject. -/
theorem memberDot_notLogical {f : Visitor} (hf : Tops NotLogical f) (right : String) :
    Tops NotLogical fun s => f s >>= memberDot right := by
  intro s s' h
  rcases bind_eq_ok.mp h with ⟨⟨stack, m⟩, hsubject, h⟩
  cases m with
  | nil =>
      cases h
      exact hf s _ hsubject
  | cons path rest =>
      rcases bind_eq_ok.mp h with ⟨⟨_, s1⟩, _, h⟩
      cases h
      exact tops_push NotLogical rfl _

theorem memberDotArg_notLogical (right : String) (hasArgs : Bool) :
    Tops NotLogical (memberDotArg right hasArgs) := by
  intro s s' h
  rcases memberDotArg_eq_ok h with ⟨_, _, _, s2, _, _, _, _, _, _, _, _, heq⟩
  rw [heq]
  exact tops_push NotLogical rfl s2

theorem memberIndex_notLogical (rt : Runtime) : Tops NotLogical (memberIndex rt) := by
  intro s s' h
  rcases bind_eq_ok.mp h with ⟨⟨right, s1⟩, _, h⟩
  rcases bind_eq_ok.mp h with ⟨⟨left, s2⟩, _, h⟩
  simp only at h
  split at h
  · rcases bind_eq_ok.mp h with ⟨key, _, h⟩
    cases h
    intro y hy
    cases hy
    rfl
  · cases h

theorem identArg_notLogical (name : String) : Tops NotLogical (identArg name) := by
  intro s s' h
  unfold identArg at h
  split at h
  · rcases bind_eq_ok.mp h with ⟨⟨args, s1⟩, _, h⟩
    rcases bind_eq_ok.mp h with ⟨operand, _, h⟩
    rcases bind_eq_ok.mp h with ⟨operand', _, h⟩
    cases h
    exact tops_push NotLogical rfl _
  · cases h

theorem parenExpr_notLogical : Tops NotLogical parenExpr := by
  intro s s' h
  unfold parenExpr at h
  split at h
  · cases h
  · rcases bind_eq_ok.mp h with ⟨⟨expression, s1⟩, _, h⟩
    rcases bind_eq_ok.mp h with ⟨expression', _, h⟩
    cases h
    exact tops_push NotLogical rfl _

theorem listLit_notLogical : Tops NotLogical listLit := by
  intro s s' h
  unfold listLit at h
  split at h
  · rename_i hempty
    cases h
    intro x hx
    rw [hempty] at hx
    cases hx
  · rcases bind_eq_ok.mp h with ⟨⟨left, s1⟩, _, h⟩
    rcases bind_eq_ok.mp h with ⟨items, hitems, h⟩
    cases h
    unfold reversedList at hitems
    split at hitems <;> cases hitems <;> exact tops_push NotLogical rfl _

theorem literal_notLogical (rt : Runtime) (value : String) :
    Tops NotLogical (literal rt value) := by
  intro s s' h
  rcases bind_eq_ok.mp h with ⟨v, _, h⟩
  cases h
  exact tops_push NotLogical rfl _

theorem expr_notBoolean (rt : Runtime) :
    Tops (fun x => isBooleanFilterNode x = false) (expr rt) := by
  intro s s' h
  rcases bind_eq_ok.mp h with ⟨⟨right, s1⟩, _, h⟩
  rcases bind_eq_ok.mp h with ⟨⟨left, s2⟩, _, h⟩
  rcases bind_eq_ok.mp h with ⟨⟨cond, s3⟩, _, h⟩
  rcases bind_eq_ok.mp h with ⟨cond', _, h⟩
  rcases bind_eq_ok.mp h with ⟨left', _, h⟩
  rcases bind_eq_ok.mp h with ⟨right', _, h⟩
  cases h
  exact tops_push (fun x => isBooleanFilterNode x = false) rfl _

/-- The rules below `&&` and `||`. -/
def Rule.isOperand : Rule -> Bool
  | .relation => true
  | .addition => true
  | .multiplication => true
  | .unary => true
  | .member => true
  | .primary => true
  | _ => false

/-- Logical nodes stand for `&&` and `||`, never for an operand of them. -/
theorem visit_notLogical (rt : Runtime) {r : Rule} (t : Tree r) (h : r.isOperand = true) :
    Tops NotLogical (visit rt t) := by
  induction t with
  | relationOne t ih => exact ih rfl
  | relation op left right => exact ((relation_notLogical.after _).after _).after _
  | additionOne t ih => exact ih rfl
  | addition op left right => exact ((arithmetic_notLogical.after _).after _).after _
  | multiplicationOne t ih => exact ih rfl
  | multiplication op left right => exact ((arithmetic_notLogical.after _).after _).after _
  | unaryOne t ih => exact ih rfl
  | unary op t => exact (unary_notLogical.after _).after _
  | memberPrimary t ih => exact ih rfl
  | memberDot t right ih => exact memberDot_notLogical (ih rfl) right
  | memberDotArg t right arguments =>
      exact ((memberDotArg_notLogical right arguments.hasArgs).after _).after _
  | memberIndex t index => exact ((memberIndex_notLogical rt).after _).after _
  | memberObject t inits => exact ((tops_fail _).after _).after _
  | dotIdentArg name arguments => exact (tops_fail _).after _
  | dotIdent name => exact tops_fail _
  | identArg name arguments => exact (identArg_notLogical name).after _
  | ident name =>
      intro s s' h x hx
      cases h
      cases hx
      rfl
  | parenExpr t => exact parenExpr_notLogical.after _
  | listLit arguments => exact listLit_notLogical.after _
  | mapLit inits => exact (tops_fail _).after _
  | literal value => exact literal_notLogical rt value
  | _ => cases h

/-!
## Trees that leave one node
-/

/-- From an empty operand stack the tree leaves one node. -/
def Yields (rt : Runtime) {r : Rule} (t : Tree r) (m : List (List String)) (x : Node)
    (m' : List (List String)) : Prop :=
  visit rt t ([], m) = .ok ([x], m')

theorem Yields.notLogical {rt : Runtime} {r : Rule} {t : Tree r} {m m' : List (List String)}
    {x : Node} (h : Yields rt t m x m') (hr : r.isOperand = true) : NotLogical x :=
  visit_notLogical rt t hr _ _ h x rfl

theorem yields_of_visit {rt : Runtime} {r : Rule} {t : Tree r} (hd : t.deficit = 0)
    (hw : t.width = 1) {m : List (List String)} {s : State} (h : visit rt t ([], m) = .ok s) :
    exists x, Yields rt t m x s.2 ∧ s = ([x], s.2) := by
  have hlength := (visit_hasEffect rt t hd).length (show ([] : List Node).length = 0 from rfl) h
  rw [hw] at hlength
  rcases List.length_eq_one_iff.mp hlength with ⟨x, hx⟩
  rcases s with ⟨stack, m'⟩
  cases hx
  exact ⟨x, h, rfl⟩

theorem validateNode_of_boolean {x : Node} (h : isBooleanFilterNode x = true) :
    validateNode x = .ok x := by
  cases x with
  | list items => cases h
  | str s => cases h
  | none => cases h
  | dict l op r => cases h
  | _ => rfl

theorem eq_of_validateNode {x y : Node} (h : validateNode x = .ok y)
    (hy : isBooleanFilterNode y = true) : x = y := by
  cases x with
  | list items => cases h
  | str s => cases h
  | none => cases h
  | dict l op r =>
      cases h
      cases hy
  | _ =>
      cases h
      rfl

section Logical

variable {rt : Runtime} {r r' : Rule} {left : Tree r} {right : Tree r'}

/-- The operands are visited from left to right. -/
theorem visit_logical (hr : right.deficit = 0) (op : LogicalNodeOperator)
    {m m' m'' : List (List String)} {x y : Node} (hx : Yields rt left m x m')
    (hy : Yields rt right m' y m'') (hbx : isBooleanFilterNode x = true)
    (hby : isBooleanFilterNode y = true) :
    (visit rt left ([], m) >>= fun s => visit rt right s >>= logicalNode op) =
      .ok ([.logical x op y], m'') := by
  rw [hx]
  show (visit rt right ([x], m') >>= logicalNode op) = _
  rw [(visit_hasEffect rt right hr).frame_nil [x] m', hy]
  show (validateNode x >>= fun left => validateNode y >>= fun right =>
    Except.ok (push (.logical left op right) ([], m''))) = _
  rw [validateNode_of_boolean hbx, validateNode_of_boolean hby]
  rfl

theorem visit_logical_cases (hl : left.deficit = 0) (hwl : left.width = 1)
    (hr : right.deficit = 0) (hwr : right.width = 1) (op : LogicalNodeOperator)
    {m m'' : List (List String)} {z : Node} (hz : isBooleanFilterNode z = true)
    (h : (visit rt left ([], m) >>= fun s => visit rt right s >>= logicalNode op) =
      .ok ([z], m'')) :
    exists x m' y, Yields rt left m x m' ∧ Yields rt right m' y m'' ∧
      isBooleanFilterNode x = true ∧ isBooleanFilterNode y = true ∧ z = .logical x op y := by
  rcases bind_eq_ok.mp h with ⟨s, hleft, h⟩
  rcases yields_of_visit hl hwl hleft with ⟨x, hx, hs⟩
  rw [hs] at h
  rcases bind_eq_ok.mp h with ⟨s', hright, h⟩
  rw [(visit_hasEffect rt right hr).frame_nil [x] s.2] at hright
  rcases map_eq_ok.mp hright with ⟨s'', hrun, hs'⟩
  rcases yields_of_visit hr hwr hrun with ⟨y, hy, hs''⟩
  rw [hs''] at hs'
  rw [← hs'] at h
  rcases bind_eq_ok.mp (show (validateNode x >>= fun left => validateNode y >>= fun right =>
    .ok (push (.logical left op right) ([], s''.2))) = .ok ([z], m'') from h) with ⟨x', hx', h⟩
  rcases bind_eq_ok.mp h with ⟨y', hy', h⟩
  cases h
  rcases Bool.and_eq_true_iff.mp hz with ⟨hbx, hby⟩
  cases eq_of_validateNode hx' hbx
  cases eq_of_validateNode hy' hby
  exact ⟨x, s.2, y, hx, hy, hbx, hby, rfl⟩

end Logical

/-!
## The joined tree
-/

section Joined

variable {rt : Runtime} {m m' m'' : List (List String)} {x y : Node}

theorem isBooleanFilterNode_conjoin (hx : isBooleanFilterNode x = true)
    (hy : isBooleanFilterNode y = true) : isBooleanFilterNode (x.conjoin y) = true := by
  induction y using Node.conjoin.induct with
  | case1 l r ih =>
      rcases Bool.and_eq_true_iff.mp hy with ⟨hl, hr⟩
      rw [Node.conjoin]
      exact Bool.and_eq_true_iff.mpr ⟨ih hl, hr⟩
  | case2 y h =>
      rw [Node.conjoin]
      · exact Bool.and_eq_true_iff.mpr ⟨hx, hy⟩
      · exact h

theorem isBooleanFilterNode_conjoinLast (hx : isBooleanFilterNode x = true)
    (hy : isBooleanFilterNode y = true) : isBooleanFilterNode (x.conjoinLast y) = true := by
  unfold Node.conjoinLast
  split
  · rcases Bool.and_eq_true_iff.mp hx with ⟨hl, hr⟩
    exact Bool.and_eq_true_iff.mpr ⟨hl, isBooleanFilterNode_conjoin hr hy⟩
  · exact isBooleanFilterNode_conjoin hx hy

theorem isBooleanFilterNode_andAlso (hx : isBooleanFilterNode x = true)
    (hy : isBooleanFilterNode y = true) : isBooleanFilterNode (x.andAlso y) = true := by
  induction y using Node.andAlso.induct with
  | case1 l r ih =>
      rcases Bool.and_eq_true_iff.mp hy with ⟨hl, hr⟩
      rw [Node.andAlso]
      exact Bool.and_eq_true_iff.mpr ⟨ih hl, hr⟩
  | case2 y h =>
      rw [Node.andAlso]
      · exact isBooleanFilterNode_conjoinLast hx hy
      · exact h

theorem conjoin_of_notLogical (h : NotLogical y) : x.conjoin y = .logical x .and y := by
  rw [Node.conjoin]
  intro l r heq
  rw [heq] at h
  cases h

/-- A conjunction, or something that is not logical at all. -/
def NotOr (x : Node) : Prop := forall l r, x ≠ .logical l .or r

theorem conjoinLast_of_notOr (h : NotOr x) : x.conjoinLast y = x.conjoin y := by
  unfold Node.conjoinLast
  split
  · rename_i l r
    exact absurd rfl (h l r)
  · rfl

theorem andAlso_of_notOr (h : NotOr y) : x.andAlso y = x.conjoinLast y := by
  rw [Node.andAlso]
  exact fun l r heq => h l r heq

theorem Yields.notOr {t : Tree .conditionaland} (hd : t.deficit = 0) (h : Yields rt t m x m')
    (hx : isBooleanFilterNode x = true) : NotOr x := by
  rintro l r rfl
  cases t with
  | andOne t => cases Yields.notLogical (t := t) h rfl
  | and left right =>
      rcases Nat.add_eq_zero_iff.mp hd with ⟨hl, hr⟩
      rcases visit_logical_cases hl rfl hr rfl .and hx h with ⟨_, _, _, _, _, _, _, heq⟩
      cases heq

theorem yields_joinAnd {left : Tree .conditionaland} (hleft : Yields rt left m x m')
    (hx : isBooleanFilterNode x = true) :
    forall (right : Tree .conditionaland) {y : Node} {m'' : List (List String)},
      right.deficit = 0 -> Yields rt right m' y m'' -> isBooleanFilterNode y = true ->
        Yields rt (left.joinAnd right) m (x.conjoin y) m''
  | .andOne t, y, m'', hr, hright, hy => by
      have ht : Yields rt t m' y m'' := hright
      rw [Tree.joinAnd, conjoin_of_notLogical (ht.notLogical rfl)]
      exact visit_logical hr .and hleft ht hx hy
  | .and t t', y, m'', hr, hright, hy => by
      rcases Nat.add_eq_zero_iff.mp hr with ⟨ht, ht'⟩
      rcases visit_logical_cases ht rfl ht' rfl .and hy hright with
        ⟨a, m1, b, hya, hyb, ha, hb, rfl⟩
      have hjoined := yields_joinAnd hleft hx t ht hya ha
      rw [Tree.joinAnd, Node.conjoin]
      exact visit_logical ht' .and hjoined hyb (isBooleanFilterNode_conjoin hx ha) hb

theorem yields_joinLast {left : Tree .conditionalor} (hl : left.deficit = 0)
    (hleft : Yields rt left m x m') (hx : isBooleanFilterNode x = true)
    {right : Tree .conditionaland} (hr : right.deficit = 0) (hright : Yields rt right m' y m'')
    (hy : isBooleanFilterNode y = true) :
    Yields rt (left.joinLast right) m (x.conjoinLast y) m'' := by
  cases left with
  | orOne t =>
      have ht : Yields rt t m x m' := hleft
      rw [conjoinLast_of_notOr (ht.notOr hl hx)]
      exact yields_joinAnd ht hx right hr hright hy
  | or t t' =>
      rcases Nat.add_eq_zero_iff.mp hl with ⟨ht, ht'⟩
      rcases visit_logical_cases ht rfl ht' rfl .or hx hleft with
        ⟨a, m1, b, hya, hyb, ha, hb, rfl⟩
      have hjoined := yields_joinAnd hyb hb right hr hright hy
      have hdeficit : (t'.joinAnd right).deficit = 0 := by
        rw [Tree.deficit_joinAnd, ht', hr]
      exact visit_logical hdeficit .or hya hjoined ha (isBooleanFilterNode_conjoin hb hy)

theorem yields_joinOr {left : Tree .conditionalor} (hl : left.deficit = 0)
    (hleft : Yields rt left m x m') (hx : isBooleanFilterNode x = true) :
    forall (right : Tree .conditionalor) {y : Node} {m'' : List (List String)},
      right.deficit = 0 -> Yields rt right m' y m'' -> isBooleanFilterNode y = true ->
        Yields rt (left.joinOr right) m (x.andAlso y) m''
  | .orOne t, y, m'', hr, hright, hy => by
      have ht : Yields rt t m' y m'' := hright
      rw [Tree.joinOr, andAlso_of_notOr (ht.notOr hr hy)]
      exact yields_joinLast hl hleft hx hr ht hy
  | .or t t', y, m'', hr, hright, hy => by
      rcases Nat.add_eq_zero_iff.mp hr with ⟨ht, ht'⟩
      rcases visit_logical_cases ht rfl ht' rfl .or hy hright with
        ⟨a, m1, b, hya, hyb, ha, hb, rfl⟩
      have hjoined := yields_joinOr hl hleft hx t ht hya ha
      rw [Tree.joinOr, Node.andAlso]
      exact visit_logical ht' .or hjoined hyb (isBooleanFilterNode_andAlso hx ha) hb

end Joined

/-!
## The joined AST
-/

theorem yields_of_convertToAst {rt : Runtime} {t : Tree .expr} {x : Node}
    (h : convertToAst rt t = .ok x) : t.deficit = 0 ∧ exists m, Yields rt t [] x m := by
  have hd : t.deficit = 0 := by
    rcases Nat.eq_zero_or_pos t.deficit with hzero | hpos
    · exact hzero
    · exact absurd h (convertToAst_of_deficit rt t (Nat.ne_of_gt hpos) x)
  refine ⟨hd, ?_⟩
  cases hrun : visit rt t ([], []) with
  | error e =>
      rw [convertToAst_of_visit_error hrun] at h
      cases h
  | ok s =>
      rcases yields_of_visit hd rfl hrun with ⟨y, hy, _⟩
      rw [convertToAst_of_visit hy] at h
      cases h
      exact ⟨s.2, hy⟩

/-- Two filters joined as text are converted to their ASTs joined, unless the right one reads
the member access stack that the identifiers of the left one leave. -/
theorem convertToAst_andAlso {rt : Runtime} {left right : Tree .expr} {x y : Node}
    (hleft : convertToAst rt left = .ok x) (hright : convertToAst rt right = .ok y)
    (hx : isBooleanFilterNode x = true) (hy : isBooleanFilterNode y = true)
    (hfresh : left.hasIdent = false ∨ right.access ≠ .read) :
    convertToAst rt (left.andAlso right) = .ok (x.andAlso y) := by
  rcases yields_of_convertToAst hleft with ⟨hl, m, hx'⟩
  rcases yields_of_convertToAst hright with ⟨hr, m', hy'⟩
  have hternary : forall {cond t : Tree .conditionalor} {t' : Tree .expr} {z : Node}
      {m m' : List (List String)}, Yields rt (.exprCond cond t t') m z m' ->
        isBooleanFilterNode z = false := by
    intro cond t t' z m m' h
    exact (((expr_notBoolean rt).after _).after _).after _ _ _ h z rfl
  cases left with
  | exprCond cond t t' => cases hx.symm.trans (hternary hx')
  | exprOne l =>
      cases right with
      | exprCond cond t t' => cases hy.symm.trans (hternary hy')
      | exprOne r =>
          have hafter := visit_after rt (a := Tree.exprOne l) (b := Tree.exprOne r) hl hr hfresh hx'
          rw [show visit rt (.exprOne r) ([], []) = .ok ([y], m') from hy'] at hafter
          rcases map_eq_ok.mp hafter with ⟨⟨stack, m''⟩, hrun, hstack⟩
          cases hstack
          have hlor : Yields rt l [] x m := hx'
          have hror : Yields rt r m y m'' := hrun
          have hld : l.deficit = 0 := hl
          have hjoined := yields_joinOr hld hlor hx r hr hror hy
          rw [Tree.andAlso]
          exact convertToAst_of_visit (show visit rt (.exprOne (l.joinOr r)) ([], []) = _ from hjoined)

end Cel
end KeepGateway
