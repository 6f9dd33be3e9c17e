import KeepGateway.Cel.CelAstConverter
import KeepGateway.Lib.Except

/-!
# Parsed nodes

What the converter puts on its stack before any property is mapped: the only columns in
it are paths without a type.
-/

namespace KeepGateway
namespace Cel

mutual

/-- Whether every property of a tree is a path without a type.  The operands of a dict are
never taken out of it. -/
def Node.isParsed : Node -> Bool
  | .parenthesis expression => expression.isParsed
  | .logical left _ right => left.isParsed && right.isParsed
  | .comparison first _ second => first.isParsed && second.isParsed
  | .unary _ operand => operand.isParsed
  | .propertyAccess (.simple _ Option.none) => true
  | .propertyAccess _ => false
  | .multipleFields _ _ => false
  | .list items => Node.areParsed items
  | _ => true

def Node.areParsed : List Node -> Bool
  | [] => true
  | item :: rest => item.isParsed && Node.areParsed rest

end

theorem areParsed_iff {items : List Node} :
    Node.areParsed items = true <-> forall item, item ∈ items -> item.isParsed = true := by
  induction items with
  | nil => simp [Node.areParsed]
  | cons item rest ih => simp [Node.areParsed, ih]

def AllParsed (s : State) : Prop := forall x, x ∈ s.1 -> x.isParsed = true

/-- A visitor that leaves parsed nodes where it finds them. -/
def KeepsParsed (f : Visitor) : Prop := forall s s', f s = .ok s' -> AllParsed s -> AllParsed s'

theorem KeepsParsed.seq {f g : Visitor} (hf : KeepsParsed f) (hg : KeepsParsed g) :
    KeepsParsed fun s => f s >>= g := by
  intro s s' h hs
  rcases bind_eq_ok.mp h with ⟨t, ht, h⟩
  exact hg t s' h (hf s t ht hs)

theorem allParsed_push {x : Node} {s : State} (hx : x.isParsed = true) (hs : AllParsed s) :
    AllParsed (push x s) := by
  intro y hy
  rcases List.mem_cons.mp hy with heq | hmem
  · rw [heq]
    exact hx
  · exact hs y hmem

theorem pop_parsed {s s' : State} {x : Node} (h : pop s = .ok (x, s')) (hs : AllParsed s) :
    x.isParsed = true ∧ AllParsed s' := by
  rcases s with ⟨_ | ⟨y, stack⟩, m⟩
  · cases h
  · cases h
    exact ⟨hs _ List.mem_cons_self, fun z hz => hs z (List.mem_cons_of_mem _ hz)⟩

theorem validateNode_parsed {x y : Node} (h : validateNode x = .ok y) (hx : x.isParsed = true) :
    y.isParsed = true := by
  cases x with
  | list _ => cases h
  | str _ => cases h
  | none => cases h
  | _ =>
      cases h
      exact hx

theorem validateAny_parsed {x : Node} (hx : x.isParsed = true) :
    (validateAny x).isParsed = true := by
  cases x with
  | dict _ _ _ => rfl
  | _ => exact hx

theorem subscriptZero_parsed {x y : Node} (h : subscriptZero x = .ok y)
    (hx : x.isParsed = true) : y.isParsed = true := by
  cases x with
  | list items =>
      cases items with
      | nil => cases h
      | cons item rest =>
          cases h
          exact areParsed_iff.mp hx _ List.mem_cons_self
  | str s =>
      unfold subscriptZero at h
      simp only at h
      split at h
      · cases h
      · cases h
        rfl
  | dict _ _ _ => cases h
  | _ => cases h

/-!
## The visitor methods
-/

theorem expr_parsed (rt : Runtime) : KeepsParsed (expr rt) := by
  intro s s' h hs
  rcases bind_eq_ok.mp h with ⟨⟨right, s1⟩, hright, h⟩
  rcases bind_eq_ok.mp h with ⟨⟨left, s2⟩, hleft, h⟩
  rcases bind_eq_ok.mp h with ⟨⟨cond, s3⟩, hcond, h⟩
  rcases bind_eq_ok.mp h with ⟨_, _, h⟩
  rcases bind_eq_ok.mp h with ⟨_, _, h⟩
  rcases bind_eq_ok.mp h with ⟨_, _, h⟩
  cases h
  exact allParsed_push rfl (pop_parsed hcond (pop_parsed hleft (pop_parsed hright hs).2).2).2

theorem logicalNode_parsed (op : LogicalNodeOperator) : KeepsParsed (logicalNode op) := by
  intro s s' h hs
  rcases bind_eq_ok.mp h with ⟨⟨right, s1⟩, hright, h⟩
  rcases bind_eq_ok.mp h with ⟨⟨left, s2⟩, hleft, h⟩
  rcases bind_eq_ok.mp h with ⟨left', hleft', h⟩
  rcases bind_eq_ok.mp h with ⟨right', hright', h⟩
  cases h
  have hr := pop_parsed hright hs
  have hl := pop_parsed hleft hr.2
  have hboth := And.intro (validateNode_parsed hleft' hl.1) (validateNode_parsed hright' hr.1)
  exact allParsed_push (Bool.and_eq_true_iff.mpr hboth) hl.2

theorem relationOp_parsed (op : RelationOp) : KeepsParsed (relationOp op) := by
  intro s s' h hs
  rcases bind_eq_ok.mp h with ⟨⟨first, s1⟩, hfirst, h⟩
  rcases bind_eq_ok.mp h with ⟨first', hfirst', h⟩
  cases h
  have hf := pop_parsed hfirst hs
  exact allParsed_push
    (Bool.and_eq_true_iff.mpr ⟨validateNode_parsed hfirst' hf.1, rfl⟩) hf.2

theorem relation_parsed : KeepsParsed relation := by
  intro s s' h hs
  rcases bind_eq_ok.mp h with ⟨⟨second, s1⟩, hsecond, h⟩
  rcases bind_eq_ok.mp h with ⟨⟨comparison, s2⟩, hcomparison, h⟩
  have hs1 := pop_parsed hsecond hs
  have hs2 := pop_parsed hcomparison hs1.2
  cases comparison with
  | comparison first op old =>
      cases h
      have hfirst : first.isParsed = true ∧ old.isParsed = true :=
        Bool.and_eq_true_iff.mp hs2.1
      exact allParsed_push (Bool.and_eq_true_iff.mpr ⟨hfirst.1, hs1.1⟩) hs2.2
  | _ => cases h

theorem arithmeticOp_parsed (op : String) : KeepsParsed (arithmeticOp op) := by
  intro s s' h hs
  rcases bind_eq_ok.mp h with ⟨⟨left, s1⟩, hleft, h⟩
  cases h
  exact allParsed_push rfl (pop_parsed hleft hs).2

theorem arithmetic_parsed : KeepsParsed arithmetic := by
  intro s s' h hs
  rcases bind_eq_ok.mp h with ⟨⟨right, s1⟩, hright, h⟩
  rcases bind_eq_ok.mp h with ⟨⟨left, s2⟩, hleft, h⟩
  have hs2 := (pop_parsed hleft (pop_parsed hright hs).2).2
  cases left with
  | dict l op old =>
      cases h
      exact allParsed_push rfl hs2
  | _ => cases h

theorem unaryOp_parsed (op : UnaryOp) : KeepsParsed (unaryOp op) := by
  intro s s' h hs
  cases h
  exact allParsed_push rfl hs

theorem unary_parsed : KeepsParsed unary := by
  intro s s' h hs
  rcases bind_eq_ok.mp h with ⟨⟨operand, s1⟩, hoperand, h⟩
  rcases bind_eq_ok.mp h with ⟨⟨unaryNode, s2⟩, hunary, h⟩
  have hs1 := pop_parsed hoperand hs
  have hs2 := pop_parsed hunary hs1.2
  cases unaryNode with
  | unary op old =>
      cases h
      exact allParsed_push hs1.1 hs2.2
  | _ => cases h

theorem memberDot_parsed (right : String) : KeepsParsed (memberDot right) := by
  intro s s' h hs
  rcases s with ⟨stack, _ | ⟨path, members⟩⟩
  · cases h
    exact hs
  · rcases bind_eq_ok.mp h with ⟨⟨_, s1⟩, hpop, h⟩
    cases h
    exact allParsed_push rfl (pop_parsed hpop hs).2

/-- A method call that succeeds has its argument and its subject on the stack. -/
theorem memberDotArg_eq_ok {right : String} {hasArgs : Bool} {s s' : State}
    (h : memberDotArg right hasArgs s = .ok s') :
    exists args s1 first s2 second first' op,
      (pop s = .ok (args, s1) ∨ (args = .list [] ∧ s1 = s)) ∧ pop s1 = .ok (first, s2) ∧
        subscriptZero args = .ok second ∧ validateNode first = .ok first' ∧
          methodOperator right = .ok op ∧
            s' = push (.comparison first' op (validateAny second)) s2 := by
  have hsplit : exists args s1, (pop s = .ok (args, s1) ∨ (args = .list [] ∧ s1 = s)) ∧
      memberDotArg right true (args :: s1.1, s1.2) = .ok s' := by
    cases hasArgs with
    | true =>
        rcases bind_eq_ok.mp h with ⟨⟨args, s1⟩, hargs, hrest⟩
        exact ⟨args, s1, .inl hargs, hrest⟩
    | false => exact ⟨.list [], s, .inr ⟨rfl, rfl⟩, h⟩
  rcases hsplit with ⟨args, s1, hargs, h⟩
  change (if s1.2 = [] then _ else _) = _ at h
  split at h
  · cases h
  · split at h
    · rcases bind_eq_ok.mp h with ⟨⟨first, s2⟩, hfirst, h⟩
      rcases bind_eq_ok.mp h with ⟨second, hsecond, h⟩
      rcases bind_eq_ok.mp h with ⟨first', hfirst', h⟩
      rcases bind_eq_ok.mp h with ⟨op, hop, h⟩
      cases h
      exact ⟨args, s1, first, s2, second, first', op, hargs, hfirst, hsecond, hfirst', hop, rfl⟩
    · cases h

theorem memberDotArg_parsed (right : String) (hasArgs : Bool) :
    KeepsParsed (memberDotArg right hasArgs) := by
  intro s s' h hs
  rcases memberDotArg_eq_ok h with
    ⟨args, s1, first, s2, second, first', op, hargs, hfirst, hsecond, hfirst', _, heq⟩
  have hs1 : args.isParsed = true ∧ AllParsed s1 := by
    rcases hargs with hargs | ⟨hargs, hs1⟩
    · exact pop_parsed hargs hs
    · rw [hargs, hs1]
      exact ⟨rfl, hs⟩
  have hs2 := pop_parsed hfirst hs1.2
  have hsecondParsed := validateAny_parsed (subscriptZero_parsed hsecond hs1.1)
  rw [heq]
  exact allParsed_push
    (Bool.and_eq_true_iff.mpr ⟨validateNode_parsed hfirst' hs2.1, hsecondParsed⟩) hs2.2

theorem memberIndex_parsed (rt : Runtime) : KeepsParsed (memberIndex rt) := by
  intro s s' h hs
  rcases bind_eq_ok.mp h with ⟨⟨right, s1⟩, hright, h⟩
  rcases bind_eq_ok.mp h with ⟨⟨left, s2⟩, hleft, h⟩
  have hs2 := (pop_parsed hleft (pop_parsed hright hs).2).2
  cases left with
  | propertyAccess property =>
      cases property with
      | simple path dataType =>
          rcases bind_eq_ok.mp h with ⟨key, _, h⟩
          cases h
          exact fun x hx => allParsed_push rfl hs2 x hx
      | json _ _ _ => cases h
  | _ => cases h

theorem identArg_parsed (name : String) : KeepsParsed (identArg name) := by
  intro s s' h hs
  unfold identArg at h
  split at h
  · rcases bind_eq_ok.mp h with ⟨⟨args, s1⟩, hargs, h⟩
    rcases bind_eq_ok.mp h with ⟨operand, hoperand, h⟩
    rcases bind_eq_ok.mp h with ⟨operand', hoperand', h⟩
    cases h
    have hs1 := pop_parsed hargs hs
    have hparsed := validateNode_parsed hoperand' (subscriptZero_parsed hoperand hs1.1)
    exact allParsed_push hparsed hs1.2
  · cases h

theorem ident_parsed (name : String) : KeepsParsed (ident name) := by
  intro s s' h hs
  cases h
  exact fun x hx => allParsed_push rfl hs x hx

theorem parenExpr_parsed : KeepsParsed parenExpr := by
  intro s s' h hs
  unfold parenExpr at h
  split at h
  · cases h
  · rcases bind_eq_ok.mp h with ⟨⟨expression, s1⟩, hexpression, h⟩
    rcases bind_eq_ok.mp h with ⟨expression', hexpression', h⟩
    cases h
    have hs1 := pop_parsed hexpression hs
    have hparsed := validateNode_parsed hexpression' hs1.1
    exact allParsed_push hparsed hs1.2

theorem reversedList_parsed {x y : Node} (h : reversedList x = .ok y) (hx : x.isParsed = true) :
    y.isParsed = true := by
  unfold reversedList at h
  split at h
  · cases h
    apply areParsed_iff.mpr
    intro item hitem
    exact areParsed_iff.mp hx item (List.mem_reverse.mp hitem)
  · cases h
    apply areParsed_iff.mpr
    intro item hitem
    rcases List.mem_map.mp hitem with ⟨c, _, heq⟩
    rw [← heq]
    rfl
  · cases h
    rfl
  · cases h
    rfl
  · cases h

theorem listLit_parsed : KeepsParsed listLit := by
  intro s s' h hs
  unfold listLit at h
  split at h
  · cases h
    exact hs
  · rcases bind_eq_ok.mp h with ⟨⟨left, s1⟩, hleft, h⟩
    rcases bind_eq_ok.mp h with ⟨items, hitems, h⟩
    cases h
    have hs1 := pop_parsed hleft hs
    exact allParsed_push (reversedList_parsed hitems hs1.1) hs1.2

theorem popN_parsed {n : Nat} {s s' : State} {items : List Node}
    (h : popN n s = .ok (items, s')) (hs : AllParsed s) :
    (forall item, item ∈ items -> item.isParsed = true) ∧ AllParsed s' := by
  induction n generalizing s items with
  | zero =>
      cases h
      exact ⟨fun item hitem => (List.not_mem_nil hitem).elim, hs⟩
  | succ n ih =>
      rcases bind_eq_ok.mp h with ⟨⟨x, s1⟩, hx, h⟩
      rcases bind_eq_ok.mp h with ⟨⟨xs, s2⟩, hxs, h⟩
      cases h
      have hs1 := pop_parsed hx hs
      have hs2 := ih hxs hs1.2
      refine ⟨?_, hs2.2⟩
      intro item hitem
      rcases List.mem_cons.mp hitem with heq | hmem
      · rw [heq]
        exact hs1.1
      · exact hs2.1 item hmem

theorem exprlist_parsed (n : Nat) : KeepsParsed (exprlist n) := by
  intro s s' h hs
  rcases bind_eq_ok.mp h with ⟨⟨items, s1⟩, hitems, h⟩
  cases h
  have hs1 := popN_parsed hitems hs
  exact allParsed_push (areParsed_iff.mpr hs1.1) hs1.2

theorem literal_parsed (rt : Runtime) (value : String) : KeepsParsed (literal rt value) := by
  intro s s' h hs
  rcases bind_eq_ok.mp h with ⟨v, _, h⟩
  cases h
  exact allParsed_push rfl hs

theorem notImplemented_parsed (message : String) : KeepsParsed (notImplemented message) := by
  intro s s' h
  cases h

/-!
## The visit
-/

theorem visit_parsed (rt : Runtime) {r : Rule} (t : Tree r) : KeepsParsed (visit rt t) := by
  induction t with
  | exprOne _ ih => exact ih
  | exprCond _ _ _ ihcond ihleft ihright =>
      exact ihcond.seq (ihleft.seq (ihright.seq (expr_parsed rt)))
  | orOne _ ih => exact ih
  | or _ _ ihleft ihright => exact ihleft.seq (ihright.seq (logicalNode_parsed .or))
  | andOne _ ih => exact ih
  | and _ _ ihleft ihright => exact ihleft.seq (ihright.seq (logicalNode_parsed .and))
  | relationOne _ ih => exact ih
  | relation op _ _ ihleft ihright =>
      exact ihleft.seq ((relationOp_parsed op).seq (ihright.seq relation_parsed))
  | additionOne _ ih => exact ih
  | addition op _ _ ihleft ihright =>
      exact ihleft.seq ((arithmeticOp_parsed op.text).seq (ihright.seq arithmetic_parsed))
  | multiplicationOne _ ih => exact ih
  | multiplication op _ _ ihleft ihright =>
      exact ihleft.seq ((arithmeticOp_parsed op.text).seq (ihright.seq arithmetic_parsed))
  | unaryOne _ ih => exact ih
  | unary op _ ih => exact (unaryOp_parsed op).seq (ih.seq unary_parsed)
  | memberPrimary _ ih => exact ih
  | memberDot _ right ih => exact ih.seq (memberDot_parsed right)
  | memberDotArg _ right args ih ihargs =>
      exact ih.seq (ihargs.seq (memberDotArg_parsed right args.hasArgs))
  | memberIndex _ _ ih ihindex => exact ih.seq (ihindex.seq (memberIndex_parsed rt))
  | memberObject _ _ ih ihinits => exact ih.seq (ihinits.seq (notImplemented_parsed _))
  | dotIdentArg _ _ ih => exact ih.seq (notImplemented_parsed _)
  | dotIdent _ => exact notImplemented_parsed _
  | identArg name _ ih => exact ih.seq (identArg_parsed name)
  | ident name => exact ident_parsed name
  | parenExpr _ ih => exact ih.seq parenExpr_parsed
  | listLit _ ih => exact ih.seq listLit_parsed
  | mapLit _ ih => exact ih.seq (notImplemented_parsed _)
  | literal value => exact literal_parsed rt value
  | noArgs =>
      intro s s' h hs
      cases h
      exact hs
  | args t ih => exact ih.seq (exprlist_parsed t.exprlistLength)
  | exprlistOne _ ih => exact ih
  | exprlistSnoc _ _ ihinit ih => exact ihinit.seq ih
  | noFieldinits =>
      intro s s' h hs
      cases h
      exact hs
  | fieldinitsSnoc _ _ _ ihinit ih => exact ihinit.seq ih
  | noMapinits =>
      intro s s' h hs
      cases h
      exact hs
  | mapinitsSnoc _ _ _ ihinit ihkey ihvalue => exact ihinit.seq (ihkey.seq ihvalue)

theorem isParsed_convertToAst {rt : Runtime} {t : Tree .expr} {x : Node}
    (h : convertToAst rt t = .ok x) : x.isParsed = true := by
  rcases bind_eq_ok.mp h with ⟨s, hs, h⟩
  have hparsed : AllParsed s :=
    visit_parsed rt t _ _ hs fun y hy => (List.not_mem_nil hy).elim
  cases hlast : s.1.getLast? with
  | none =>
      rw [hlast] at h
      cases h
  | some y =>
      rw [hlast] at h
      cases h
      exact hparsed _ (List.mem_of_getLast? hlast)

end Cel
end KeepGateway
