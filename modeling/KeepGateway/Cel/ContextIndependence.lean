import KeepGateway.Cel.ConverterEffects

/-!
# Context independence of the conversion

Only identifiers clear the member access stack.  A member access that is visited
before the first identifier of its expression reads what an earlier operand left
there; without such an access, or when no identifier came before, the conversion
of `(a) && (b)` is the conversion of its operands.
-/

namespace KeepGateway
namespace Cel

open StackEffect

/-!
## Stack heights of trees
-/

theorem memberDot_resizes (right : String) : Resizes (memberDot right) 1 1 := by
  rintro ⟨stack, m⟩ s' hs
  cases m with
  | nil =>
      cases hs
      rfl
  | cons path rest =>
      cases stack with
      | nil => cases hs
      | cons x stack =>
          cases hs
          rfl

theorem listLit_resizes : Resizes listLit 1 1 := by
  rintro ⟨stack, m⟩ s' hs
  cases stack with
  | nil =>
      cases hs
      rfl
  | cons x stack => exact listLit_operator.hasEffect.height (by simp) hs

/-- A method that pops its operands fails on a lower stack. -/
theorem resizes_of_pop {f : Visitor} {k : Nat} (hf : HasEffect f 1 k)
    (hnil : forall m s', f ([], m) ≠ .ok s') : Resizes f 1 k := by
  apply hf.resizes
  rintro ⟨stack, m⟩ s' hlt
  cases stack with
  | nil => exact hnil m s'
  | cons x stack => simp at hlt

theorem resizes_of_pop_two {f : Visitor} {k : Nat} (hf : HasEffect f 2 k)
    (hnil : forall m s', f ([], m) ≠ .ok s')
    (hone : forall x m s', f ([x], m) ≠ .ok s') : Resizes f 2 k := by
  apply hf.resizes
  rintro ⟨stack, m⟩ s' hlt
  match stack, hlt with
  | [], _ => exact hnil m s'
  | [x], _ => exact hone x m s'
  | _ :: _ :: _, hlt => exact absurd hlt (by simp)

theorem logicalNode_resizes (op : LogicalNodeOperator) : Resizes (logicalNode op) 2 1 :=
  resizes_of_pop_two (logicalNode_operator op).hasEffect (fun _ _ h => by cases h)
    (fun _ _ _ h => by cases h)

theorem relationOp_resizes (op : RelationOp) : Resizes (relationOp op) 1 1 :=
  resizes_of_pop (relationOp_operator op).hasEffect (fun _ _ h => by cases h)

theorem relation_resizes : Resizes relation 2 1 :=
  resizes_of_pop_two relation_operator.hasEffect (fun _ _ h => by cases h)
    (fun _ _ _ h => by cases h)

theorem arithmeticOp_resizes (op : String) : Resizes (arithmeticOp op) 1 1 :=
  resizes_of_pop (arithmeticOp_operator op).hasEffect (fun _ _ h => by cases h)

theorem arithmetic_resizes : Resizes arithmetic 2 1 :=
  resizes_of_pop_two arithmetic_operator.hasEffect (fun _ _ h => by cases h)
    (fun _ _ _ h => by cases h)

theorem unary_resizes : Resizes unary 2 1 :=
  resizes_of_pop_two unary_operator.hasEffect (fun _ _ h => by cases h)
    (fun _ _ _ h => by cases h)

theorem memberDotArg_resizes_args (right : String) :
    Resizes (memberDotArg right true) 2 1 := by
  apply resizes_of_pop_two (memberDotArg_hasEffect_args right)
  · intro m s' h
    cases h
  · intro x m s' h
    by_cases hm : m = []
    · simp [memberDotArg, pop, hm, bind, Except.bind] at h
    · by_cases hright : asciiLower right ∈ ["contains", "startswith", "endswith"]
      · simp only [memberDotArg, pop, hm, hright, bind, Except.bind, if_true,
          if_false] at h
        cases h
      · simp only [memberDotArg, pop, hm, hright, bind, Except.bind, if_true,
          if_false] at h
        cases h

/-- A method call without arguments never succeeds: it needs the first one. -/
theorem memberDotArg_resizes_noArgs (right : String) :
    Resizes (memberDotArg right false) 1 1 := by
  apply resizes_of_pop (memberDotArg_hasEffect_noArgs right)
  intro m s' h
  by_cases hm : m = []
  · simp [memberDotArg, hm, bind, Except.bind] at h
  · by_cases hright : asciiLower right ∈ ["contains", "startswith", "endswith"]
    · simp only [memberDotArg, pop, hm, hright, bind, Except.bind, if_true, if_false,
        Bool.false_eq_true] at h
      cases h
    · simp only [memberDotArg, hm, hright, bind, Except.bind, if_false,
        Bool.false_eq_true] at h
      cases h

theorem memberIndex_resizes (rt : Runtime) : Resizes (memberIndex rt) 2 1 :=
  resizes_of_pop_two (memberIndex_hasEffect rt) (fun _ _ h => by cases h)
    (fun _ _ _ h => by cases h)

theorem identArg_resizes (name : String) : Resizes (identArg name) 1 1 := by
  apply resizes_of_pop (identArg_operator name).hasEffect
  intro m s' h
  by_cases hname : name = "has"
  · simp only [identArg, pop, hname, if_true, bind, Except.bind] at h
    cases h
  · simp only [identArg, hname, if_false] at h
    cases h

theorem parenExpr_resizes : Resizes parenExpr 1 1 :=
  resizes_of_pop parenExpr_operator.hasEffect (fun _ _ h => by cases h)

theorem popN_short : forall (n : Nat) (s : State) (r : List Node × State),
    s.1.length < n -> popN n s ≠ .ok r
  | 0, s, r, hlt => absurd hlt (Nat.not_lt_zero _)
  | n + 1, ([], m), r, _ => by
      intro h
      cases h
  | n + 1, (x :: stack, m), r, hlt => by
      intro h
      have hshort : stack.length < n := by simpa using hlt
      cases hrun : popN n (stack, m) with
      | error e => simp [popN, pop, hrun, bind, Except.bind] at h
      | ok r' => exact popN_short n (stack, m) r' hshort hrun

theorem exprlist_resizes (n : Nat) : Resizes (exprlist n) n 1 := by
  apply (exprlist_operator n).hasEffect.resizes
  intro s s' hlt h
  cases hrun : popN n s with
  | error e => simp [exprlist, hrun, bind, Except.bind] at h
  | ok r => exact popN_short n s r hlt hrun

theorem expr_resizes (rt : Runtime) : Resizes (expr rt) 3 1 := by
  apply (expr_operator rt).hasEffect.resizes
  rintro ⟨stack, m⟩ s' hlt
  match stack, hlt with
  | [], _ => exact fun h => by cases h
  | [_], _ => exact fun h => by cases h
  | [_, _], _ => exact fun h => by cases h
  | _ :: _ :: _ :: _, hlt => exact absurd hlt (by simp)

theorem unaryOp_resizes (op : UnaryOp) : Resizes (unaryOp op) 0 1 :=
  (unaryOp_operator op).hasEffect.resizes fun _ _ hlt => absurd hlt (Nat.not_lt_zero _)

theorem ident_resizes (name : String) : Resizes (ident name) 0 1 :=
  (ident_hasEffect name).resizes fun _ _ hlt => absurd hlt (Nat.not_lt_zero _)

theorem literal_resizes (rt : Runtime) (value : String) :
    Resizes (literal rt value) 0 1 :=
  (literal_operator rt value).hasEffect.resizes fun _ _ hlt => absurd hlt (Nat.not_lt_zero _)

/-- A successful visit leaves the values of the tree, less its deficit. -/
theorem visit_resizes (rt : Runtime) {r : Rule} (t : Tree r) :
    Resizes (visit rt t) t.deficit t.width := by
  induction t with
  | exprOne t ih => exact ih
  | exprCond cond left right ihc ihl ihr =>
      exact (ihc.comp (ihl.comp (ihr.comp (expr_resizes rt)))).balance
        (by simp [Tree.deficit, Tree.width]; omega)
  | orOne t ih => exact ih
  | or left right ihl ihr =>
      exact (ihl.comp (ihr.comp (logicalNode_resizes .or))).balance
        (by simp [Tree.deficit, Tree.width]; omega)
  | andOne t ih => exact ih
  | and left right ihl ihr =>
      exact (ihl.comp (ihr.comp (logicalNode_resizes .and))).balance
        (by simp [Tree.deficit, Tree.width]; omega)
  | relationOne t ih => exact ih
  | relation op left right ihl ihr =>
      exact (ihl.comp ((relationOp_resizes op).comp (ihr.comp relation_resizes))).balance
        (by simp [Tree.deficit, Tree.width]; omega)
  | additionOne t ih => exact ih
  | addition op left right ihl ihr =>
      exact (ihl.comp ((arithmeticOp_resizes op.text).comp
        (ihr.comp arithmetic_resizes))).balance
        (by simp [Tree.deficit, Tree.width]; omega)
  | multiplicationOne t ih => exact ih
  | multiplication op left right ihl ihr =>
      exact (ihl.comp ((arithmeticOp_resizes op.text).comp
        (ihr.comp arithmetic_resizes))).balance
        (by simp [Tree.deficit, Tree.width]; omega)
  | unaryOne t ih => exact ih
  | unary op t ih =>
      exact ((unaryOp_resizes op).comp (ih.comp unary_resizes)).balance
        (by simp [Tree.deficit, Tree.width])
  | memberPrimary t ih => exact ih
  | memberDot t right ih =>
      exact (ih.comp (memberDot_resizes right)).balance
        (by simp [Tree.deficit, Tree.width])
  | memberDotArg t right arguments iht iha =>
      cases arguments with
      | noArgs =>
          exact (iht.comp (iha.comp (memberDotArg_resizes_noArgs right))).balance
            (by simp [Tree.deficit, Tree.width, Tree.hasArgs])
      | args t =>
          exact (iht.comp (iha.comp (memberDotArg_resizes_args right))).balance
            (by simp [Tree.deficit, Tree.width, Tree.hasArgs]; omega)
  | memberIndex t index iht ihi =>
      exact (iht.comp (ihi.comp (memberIndex_resizes rt))).balance
        (by simp [Tree.deficit, Tree.width]; omega)
  | memberObject t inits iht ihi =>
      exact (iht.comp (ihi.comp (resizes_fail _ (1 + inits.width) 1))).balance
        (by simp [Tree.deficit, Tree.width]; omega)
  | dotIdentArg name arguments ih =>
      exact (ih.comp (resizes_fail _ arguments.width 1)).balance
        (by simp only [Tree.deficit, Tree.width]; omega)
  | dotIdent name => exact resizes_fail _ 0 1
  | identArg name arguments ih =>
      cases arguments with
      | noArgs => exact identArg_resizes name
      | args t =>
          exact (ih.comp (identArg_resizes name)).balance
            (by simp [Tree.deficit, Tree.width, Tree.hasArgs])
  | ident name => exact ident_resizes name
  | parenExpr t ih =>
      exact (ih.comp parenExpr_resizes).balance
        (by simp [Tree.deficit, Tree.width])
  | listLit arguments ih =>
      cases arguments with
      | noArgs => exact listLit_resizes
      | args t =>
          exact (ih.comp listLit_resizes).balance
            (by simp [Tree.deficit, Tree.width, Tree.hasArgs])
  | mapLit inits ih =>
      exact (ih.comp (resizes_fail _ inits.width 1)).balance
        (by simp [Tree.deficit, Tree.width]; omega)
  | literal value => exact literal_resizes rt value
  | noArgs => exact resizes_skip
  | args t ih =>
      exact (ih.comp (exprlist_resizes t.exprlistLength)).balance
        (by simp [Tree.deficit, Tree.width, Tree.hasArgs]; omega)
  | exprlistOne t ih => exact ih
  | exprlistSnoc init t ihi iht =>
      exact (ihi.comp iht).balance
        (by simp [Tree.deficit, Tree.width, Tree.exprlistLength])
  | noFieldinits => exact resizes_skip
  | fieldinitsSnoc init name t ihi iht =>
      exact (ihi.comp iht).balance
        (by simp [Tree.deficit, Tree.width, Tree.initsLength])
  | noMapinits => exact resizes_skip
  | mapinitsSnoc init key value ihi ihk ihv =>
      exact (ihi.comp (ihk.comp ihv)).balance
        (by simp [Tree.deficit, Tree.width, Tree.initsLength]; omega)

/-- A tree with a deficit is never converted. -/
theorem convertToAst_of_deficit (rt : Runtime) (t : Tree .expr) (h : t.deficit ≠ 0)
    (x : Node) : convertToAst rt t ≠ .ok x := by
  intro hx
  cases hrun : visit rt t ([], []) with
  | error e =>
      simp only [convertToAst, hrun] at hx
      cases hx
  | ok s =>
      have hlen := visit_resizes rt t _ _ hrun
      have hwidth : t.width = 1 := rfl
      have hempty : s.1 = [] := by
        apply List.eq_nil_of_length_eq_zero
        simp only [List.length_nil, hwidth] at hlen
        omega
      simp only [convertToAst, hrun, hempty, bind, Except.bind] at hx
      cases hx

/-!
## Access to the member access stack
-/

/-- What the visit of a tree first does with the member access stack. -/
inductive Access where
  | untouched
  | cleared
  | read
  deriving DecidableEq

def Access.seq : Access -> Access -> Access
  | .untouched, b => b
  | a, _ => a

theorem Access.seq_eq_untouched {a b : Access} :
    a.seq b = .untouched <-> a = .untouched ∧ b = .untouched := by
  cases a <;> simp [Access.seq]

theorem Access.seq_eq_cleared {a b : Access} :
    a.seq b = .cleared <-> a = .cleared ∨ (a = .untouched ∧ b = .cleared) := by
  cases a <;> simp [Access.seq]

namespace Tree

/-- The first access of a visit: an identifier clears the stack, a member access
or a method call reads it. -/
def access : {r : Rule} -> Tree r -> Access
  | _, exprOne t => t.access
  | _, exprCond cond left right => cond.access.seq (left.access.seq right.access)
  | _, orOne t => t.access
  | _, or left right => left.access.seq right.access
  | _, andOne t => t.access
  | _, and left right => left.access.seq right.access
  | _, relationOne t => t.access
  | _, relation _ left right => left.access.seq right.access
  | _, additionOne t => t.access
  | _, addition _ left right => left.access.seq right.access
  | _, multiplicationOne t => t.access
  | _, multiplication _ left right => left.access.seq right.access
  | _, unaryOne t => t.access
  | _, unary _ t => t.access
  | _, memberPrimary t => t.access
  | _, memberDot t _ => t.access.seq .read
  | _, memberDotArg t _ arguments => t.access.seq (arguments.access.seq .read)
  | _, memberIndex t index => t.access.seq index.access
  | _, memberObject t inits => t.access.seq inits.access
  | _, dotIdentArg _ arguments => arguments.access
  | _, dotIdent _ => .untouched
  | _, identArg _ arguments => arguments.access
  | _, ident _ => .cleared
  | _, parenExpr t => t.access
  | _, listLit arguments => arguments.access
  | _, mapLit inits => inits.access
  | _, literal _ => .untouched
  | _, noArgs => .untouched
  | _, args t => t.access
  | _, exprlistOne t => t.access
  | _, exprlistSnoc init t => init.access.seq t.access
  | _, noFieldinits => .untouched
  | _, fieldinitsSnoc init _ t => init.access.seq t.access
  | _, noMapinits => .untouched
  | _, mapinitsSnoc init key value => init.access.seq (key.access.seq value.access)

def hasIdent : {r : Rule} -> Tree r -> Bool
  | _, exprOne t => t.hasIdent
  | _, exprCond cond left right => cond.hasIdent || (left.hasIdent || right.hasIdent)
  | _, orOne t => t.hasIdent
  | _, or left right => left.hasIdent || right.hasIdent
  | _, andOne t => t.hasIdent
  | _, and left right => left.hasIdent || right.hasIdent
  | _, relationOne t => t.hasIdent
  | _, relation _ left right => left.hasIdent || right.hasIdent
  | _, additionOne t => t.hasIdent
  | _, addition _ left right => left.hasIdent || right.hasIdent
  | _, multiplicationOne t => t.hasIdent
  | _, multiplication _ left right => left.hasIdent || right.hasIdent
  | _, unaryOne t => t.hasIdent
  | _, unary _ t => t.hasIdent
  | _, memberPrimary t => t.hasIdent
  | _, memberDot t _ => t.hasIdent
  | _, memberDotArg t _ arguments => t.hasIdent || arguments.hasIdent
  | _, memberIndex t index => t.hasIdent || index.hasIdent
  | _, memberObject t inits => t.hasIdent || inits.hasIdent
  | _, dotIdentArg _ arguments => arguments.hasIdent
  | _, dotIdent _ => false
  | _, identArg _ arguments => arguments.hasIdent
  | _, ident _ => true
  | _, parenExpr t => t.hasIdent
  | _, listLit arguments => arguments.hasIdent
  | _, mapLit inits => inits.hasIdent
  | _, literal _ => false
  | _, noArgs => false
  | _, args t => t.hasIdent
  | _, exprlistOne t => t.hasIdent
  | _, exprlistSnoc init t => init.hasIdent || t.hasIdent
  | _, noFieldinits => false
  | _, fieldinitsSnoc init _ t => init.hasIdent || t.hasIdent
  | _, noMapinits => false
  | _, mapinitsSnoc init key value => init.hasIdent || (key.hasIdent || value.hasIdent)

theorem hasIdent_of_untouched {r : Rule} (t : Tree r) (h : t.access = .untouched) :
    t.hasIdent = false := by
  have hboth : forall {a b : Access} {x y : Bool}, (a = .untouched -> x = false) ->
      (b = .untouched -> y = false) -> a.seq b = .untouched -> (x || y) = false := by
    intro a b x y hx hy hab
    rcases Access.seq_eq_untouched.mp hab with ⟨ha, hb⟩
    exact Bool.or_eq_false_iff.mpr ⟨hx ha, hy hb⟩
  have hread : forall {a : Access}, a.seq .read ≠ .untouched := by
    intro a hab
    cases (Access.seq_eq_untouched.mp hab).2
  induction t with
  | exprOne t ih => exact ih h
  | exprCond cond left right ihc ihl ihr => exact hboth ihc (hboth ihl ihr) h
  | orOne t ih => exact ih h
  | or left right ihl ihr => exact hboth ihl ihr h
  | andOne t ih => exact ih h
  | and left right ihl ihr => exact hboth ihl ihr h
  | relationOne t ih => exact ih h
  | relation op left right ihl ihr => exact hboth ihl ihr h
  | additionOne t ih => exact ih h
  | addition op left right ihl ihr => exact hboth ihl ihr h
  | multiplicationOne t ih => exact ih h
  | multiplication op left right ihl ihr => exact hboth ihl ihr h
  | unaryOne t ih => exact ih h
  | unary op t ih => exact ih h
  | memberPrimary t ih => exact ih h
  | memberDot t right ih => exact absurd h hread
  | memberDotArg t right arguments iht iha =>
      exact absurd (Access.seq_eq_untouched.mp h).2 hread
  | memberIndex t index iht ihi => exact hboth iht ihi h
  | memberObject t inits iht ihi => exact hboth iht ihi h
  | dotIdentArg name arguments ih => exact ih h
  | identArg name arguments ih => exact ih h
  | ident name => cases h
  | parenExpr t ih => exact ih h
  | listLit arguments ih => exact ih h
  | mapLit inits ih => exact ih h
  | args t ih => exact ih h
  | exprlistOne t ih => exact ih h
  | exprlistSnoc init t ihi iht => exact hboth ihi iht h
  | fieldinitsSnoc init name t ihi iht => exact hboth ihi iht h
  | mapinitsSnoc init key value ihi ihk ihv => exact hboth ihi (hboth ihk ihv) h
  | _ => rfl

end Tree

/-!
## Visits without identifiers

Without an identifier no property node appears, and an empty member access stack
stays empty.
-/

def Plain (x : Node) : Prop := forall property, x ≠ .propertyAccess property

def NoMember (m : List (List String)) : Prop := m = []

theorem logicalResult_plain {op : LogicalNodeOperator} {top : List Node} {x : Node}
    (h : logicalResult op top = .ok x) : Plain x := by
  unfold logicalResult at h
  split at h
  · rcases bind_eq_ok.mp h with ⟨left, _, h⟩
    rcases bind_eq_ok.mp h with ⟨right, _, h⟩
    cases h
    intro property
    simp
  · cases h

theorem relationOpResult_plain {op : RelationOp} {top : List Node} {x : Node}
    (h : relationOpResult op top = .ok x) : Plain x := by
  unfold relationOpResult at h
  split at h
  · rcases bind_eq_ok.mp h with ⟨first, _, h⟩
    cases h
    intro property
    simp
  · cases h

theorem relationResult_plain {top : List Node} {x : Node}
    (h : relationResult top = .ok x) : Plain x := by
  unfold relationResult at h
  split at h <;> cases h
  intro property
  simp

theorem arithmeticOpResult_plain {op : String} {top : List Node} {x : Node}
    (h : arithmeticOpResult op top = .ok x) : Plain x := by
  unfold arithmeticOpResult at h
  split at h <;> cases h
  intro property
  simp

theorem arithmeticResult_plain {top : List Node} {x : Node}
    (h : arithmeticResult top = .ok x) : Plain x := by
  unfold arithmeticResult at h
  split at h <;> cases h
  intro property
  simp

theorem unaryResult_plain {top : List Node} {x : Node}
    (h : unaryResult top = .ok x) : Plain x := by
  unfold unaryResult at h
  split at h <;> cases h
  intro property
  simp

theorem identArgResult_plain {name : String} {top : List Node} {x : Node}
    (h : identArgResult name top = .ok x) : Plain x := by
  unfold identArgResult at h
  split at h
  · split at h
    · rcases bind_eq_ok.mp h with ⟨arg, _, h⟩
      rcases bind_eq_ok.mp h with ⟨operand, _, h⟩
      cases h
      intro property
      simp
    · cases h
  · cases h

theorem parenExprResult_plain {top : List Node} {x : Node}
    (h : parenExprResult top = .ok x) : Plain x := by
  unfold parenExprResult at h
  split at h
  · rcases bind_eq_ok.mp h with ⟨expression, _, h⟩
    cases h
    intro property
    simp
  · cases h

theorem listLitResult_plain {top : List Node} {x : Node}
    (h : listLitResult top = .ok x) : Plain x := by
  unfold listLitResult at h
  split at h
  · rename_i left
    unfold reversedList at h
    split at h <;> cases h <;> intro property <;> simp
  · cases h

theorem literalResult_plain {rt : Runtime} {value : String} {top : List Node} {x : Node}
    (h : literalResult rt value top = .ok x) : Plain x := by
  rcases map_eq_ok.mp h with ⟨v, _, rfl⟩
  intro property
  simp

theorem exprResult_plain {rt : Runtime} {top : List Node} {x : Node}
    (h : exprResult rt top = .ok x) : Plain x := by
  unfold exprResult at h
  split at h
  · rcases bind_eq_ok.mp h with ⟨cond, _, h⟩
    rcases bind_eq_ok.mp h with ⟨left, _, h⟩
    rcases bind_eq_ok.mp h with ⟨right, _, h⟩
    cases h
    intro property
    simp
  · cases h

theorem operator_maintains {f : Visitor} {n : Nat} {g : List Node -> Except PyException Node}
    (hf : IsOperator f n g) (hg : forall top x, g top = .ok x -> Plain x) :
    Maintains Plain NoMember f n :=
  hf.maintains fun top x _ h => hg top x h

/-- Without a member a property access does nothing. -/
theorem memberDot_maintains (right : String) :
    Maintains Plain NoMember (memberDot right) 1 := by
  intro top _ hp m hm s hs
  rcases hm with rfl
  cases hs
  exact ⟨hp, rfl⟩

theorem memberDotArg_maintains (right : String) (hasArgs : Bool) (n : Nat) :
    Maintains Plain NoMember (memberDotArg right hasArgs) n := by
  intro top _ _ m hm s hs
  rcases hm with rfl
  cases hasArgs with
  | false => cases hs
  | true =>
      cases top with
      | nil => cases hs
      | cons x rest => cases hs

/-- Only a property node can be indexed. -/
theorem memberIndex_plain (rt : Runtime) {right left : Node} {stack : List Node}
    {m : List (List String)} (hleft : Plain left) :
    memberIndex rt (right :: left :: stack, m) = .error .attributeError := by
  cases left with
  | propertyAccess property => exact absurd rfl (hleft property)
  | _ => rfl

theorem memberIndex_maintains (rt : Runtime) :
    Maintains Plain NoMember (memberIndex rt) 2 := by
  intro top htop hp m _ s hs
  rcases List.length_eq_two.mp htop with ⟨right, left, rfl⟩
  rw [memberIndex_plain rt (hp left (by simp))] at hs
  cases hs

theorem visit_maintains (rt : Runtime) {r : Rule} (t : Tree r) (hd : t.deficit = 0)
    (hi : t.hasIdent = false) : Maintains Plain NoMember (visit rt t) 0 := by
  induction t with
  | exprOne t ih => exact ih hd hi
  | exprCond cond left right ihc ihl ihr =>
      replace hd := And.imp_left Nat.add_eq_zero_iff.mp (Nat.add_eq_zero_iff.mp hd)
      replace hi := And.imp_right Bool.or_eq_false_iff.mp (Bool.or_eq_false_iff.mp hi)
      have hec := visit_hasEffect rt cond hd.left.left
      have hel := (visit_hasEffect rt left hd.left.right).extend 1
      have her := (visit_hasEffect rt right hd.right).extend 2
      exact (ihc hd.left.left hi.left).comp hec
        (((ihl hd.left.right hi.right.left).extend
            (visit_hasEffect rt left hd.left.right) 1).comp hel
          (((ihr hd.right hi.right.right).extend
              (visit_hasEffect rt right hd.right) 2).comp her
            (operator_maintains (expr_operator rt) fun _ _ => exprResult_plain)))
  | orOne t ih => exact ih hd hi
  | or left right ihl ihr =>
      replace hd := Nat.add_eq_zero_iff.mp hd
      replace hi := Bool.or_eq_false_iff.mp hi
      exact (ihl hd.left hi.left).binary (visit_hasEffect rt left hd.left)
        (ihr hd.right hi.right) (visit_hasEffect rt right hd.right)
        (operator_maintains (logicalNode_operator .or) fun _ _ => logicalResult_plain)
  | andOne t ih => exact ih hd hi
  | and left right ihl ihr =>
      replace hd := Nat.add_eq_zero_iff.mp hd
      replace hi := Bool.or_eq_false_iff.mp hi
      exact (ihl hd.left hi.left).binary (visit_hasEffect rt left hd.left)
        (ihr hd.right hi.right) (visit_hasEffect rt right hd.right)
        (operator_maintains (logicalNode_operator .and) fun _ _ => logicalResult_plain)
  | relationOne t ih => exact ih hd hi
  | relation op left right ihl ihr =>
      replace hd := Nat.add_eq_zero_iff.mp hd
      replace hi := Bool.or_eq_false_iff.mp hi
      exact (ihl hd.left hi.left).rewriteBinary (visit_hasEffect rt left hd.left)
        (operator_maintains (relationOp_operator op) fun _ _ => relationOpResult_plain)
        (relationOp_operator op).hasEffect
        (ihr hd.right hi.right) (visit_hasEffect rt right hd.right)
        (operator_maintains relation_operator fun _ _ => relationResult_plain)
  | additionOne t ih => exact ih hd hi
  | addition op left right ihl ihr =>
      replace hd := Nat.add_eq_zero_iff.mp hd
      replace hi := Bool.or_eq_false_iff.mp hi
      exact (ihl hd.left hi.left).rewriteBinary (visit_hasEffect rt left hd.left)
        (operator_maintains (arithmeticOp_operator op.text)
          fun _ _ => arithmeticOpResult_plain)
        (arithmeticOp_operator op.text).hasEffect
        (ihr hd.right hi.right) (visit_hasEffect rt right hd.right)
        (operator_maintains arithmetic_operator fun _ _ => arithmeticResult_plain)
  | multiplicationOne t ih => exact ih hd hi
  | multiplication op left right ihl ihr =>
      replace hd := Nat.add_eq_zero_iff.mp hd
      replace hi := Bool.or_eq_false_iff.mp hi
      exact (ihl hd.left hi.left).rewriteBinary (visit_hasEffect rt left hd.left)
        (operator_maintains (arithmeticOp_operator op.text)
          fun _ _ => arithmeticOpResult_plain)
        (arithmeticOp_operator op.text).hasEffect
        (ihr hd.right hi.right) (visit_hasEffect rt right hd.right)
        (operator_maintains arithmetic_operator fun _ _ => arithmeticResult_plain)
  | unaryOne t ih => exact ih hd hi
  | unary op t ih =>
      exact (operator_maintains (unaryOp_operator op) (by
          intro top x h property
          cases h
          simp)).binary (unaryOp_operator op).hasEffect
        (ih hd hi) (visit_hasEffect rt t hd)
        (operator_maintains unary_operator fun _ _ => unaryResult_plain)
  | memberPrimary t ih => exact ih hd hi
  | memberDot t right ih =>
      exact (ih hd hi).comp (visit_hasEffect rt t hd) (memberDot_maintains right)
  | memberDotArg t right arguments iht iha =>
      replace hd := Nat.add_eq_zero_iff.mp hd
      replace hi := Bool.or_eq_false_iff.mp hi
      exact (iht hd.left hi.left).comp (visit_hasEffect rt t hd.left)
        (((iha hd.right hi.right).extend (visit_hasEffect rt arguments hd.right) 1).comp
          ((visit_hasEffect rt arguments hd.right).extend 1)
          (memberDotArg_maintains right arguments.hasArgs _))
  | memberIndex t index iht ihi =>
      replace hd := Nat.add_eq_zero_iff.mp hd
      replace hi := Bool.or_eq_false_iff.mp hi
      exact (iht hd.left hi.left).binary (visit_hasEffect rt t hd.left)
        (ihi hd.right hi.right) (visit_hasEffect rt index hd.right)
        (memberIndex_maintains rt)
  | memberObject t inits iht ihi =>
      replace hd := Nat.add_eq_zero_iff.mp hd
      replace hi := Bool.or_eq_false_iff.mp hi
      exact (iht hd.left hi.left).comp (visit_hasEffect rt t hd.left)
        (((ihi hd.right hi.right).extend (visit_hasEffect rt inits hd.right) 1).comp
          ((visit_hasEffect rt inits hd.right).extend 1) (maintains_fail _ _))
  | dotIdentArg name arguments ih =>
      exact (ih hd hi).comp (visit_hasEffect rt arguments hd) (maintains_fail _ _)
  | dotIdent name => exact maintains_fail _ _
  | identArg name arguments ih =>
      cases arguments with
      | noArgs => exact absurd hd Nat.one_ne_zero
      | args t =>
          exact (ih hd hi).comp (visit_hasEffect rt (.args t) hd)
            (operator_maintains (identArg_operator name) fun _ _ => identArgResult_plain)
  | ident name => cases hi
  | parenExpr t ih =>
      exact (ih hd hi).comp (visit_hasEffect rt t hd)
        (operator_maintains parenExpr_operator fun _ _ => parenExprResult_plain)
  | listLit arguments ih =>
      cases arguments with
      | noArgs => exact absurd hd Nat.one_ne_zero
      | args t =>
          exact (ih hd hi).comp (visit_hasEffect rt (.args t) hd)
            (operator_maintains listLit_operator fun _ _ => listLitResult_plain)
  | mapLit inits ih =>
      exact (ih hd hi).comp (visit_hasEffect rt inits hd) (maintains_fail _ _)
  | literal value =>
      exact operator_maintains (literal_operator rt value) fun _ _ => literalResult_plain
  | noArgs => exact maintains_skip 0
  | args t ih =>
      exact (ih hd hi).comp (visit_hasEffect rt t hd)
        (operator_maintains (exprlist_operator t.exprlistLength) (by
          intro top x h property
          cases h
          simp))
  | exprlistOne t ih => exact ih hd hi
  | exprlistSnoc init t ihi iht =>
      replace hd := Nat.add_eq_zero_iff.mp hd
      replace hi := Bool.or_eq_false_iff.mp hi
      have hright := (iht hd.right hi.right).extend (visit_hasEffect rt t hd.right) init.width
      rw [Nat.zero_add] at hright
      exact (ihi hd.left hi.left).comp (visit_hasEffect rt init hd.left) hright
  | noFieldinits => exact maintains_skip 0
  | fieldinitsSnoc init name t ihi iht =>
      replace hd := Nat.add_eq_zero_iff.mp hd
      replace hi := Bool.or_eq_false_iff.mp hi
      have hright := (iht hd.right hi.right).extend (visit_hasEffect rt t hd.right) init.width
      rw [Nat.zero_add] at hright
      exact (ihi hd.left hi.left).comp (visit_hasEffect rt init hd.left) hright
  | noMapinits => exact maintains_skip 0
  | mapinitsSnoc init key value ihi ihk ihv =>
      replace hd := And.imp_left Nat.add_eq_zero_iff.mp (Nat.add_eq_zero_iff.mp hd)
      replace hi := And.imp_right Bool.or_eq_false_iff.mp (Bool.or_eq_false_iff.mp hi)
      have hek := (visit_hasEffect rt key hd.left.right).extend init.width
      have hkey :=
        (ihk hd.left.right hi.right.left).extend (visit_hasEffect rt key hd.left.right) init.width
      have hvalue := (ihv hd.right hi.right.right).extend (visit_hasEffect rt value hd.right)
        (1 + init.width)
      rw [Nat.zero_add] at hek hkey hvalue
      exact (ihi hd.left.left hi.left).comp (visit_hasEffect rt init hd.left.left)
        (hkey.comp hek hvalue)

/-!
## Visits that do not read
-/

/-- Below an index there is no property node to extend, whatever the member
access stack holds. -/
theorem memberIndex_ignores (rt : Runtime) (t : Tree .member) (index : Tree .expr)
    (hdt : t.deficit = 0) (hdi : index.deficit = 0) (ha : t.access = .untouched)
    (iht : Ignores (visit rt t) 0) (ihi : Ignores (visit rt index) 0) :
    Ignores (visit rt (.memberIndex t index)) 0 := by
  have het := visit_hasEffect rt t hdt
  have hei := visit_hasEffect rt index hdi
  have hpair : Ignores (fun s => visit rt t s >>= visit rt index) 0 :=
    iht.comp het (ihi.extend hei 1)
  have hfail : forall m s, visit rt t ([], m) >>= visit rt index = .ok s ->
      memberIndex rt s = .error .attributeError := by
    intro m s hs
    rcases bind_eq_ok.mp hs with ⟨s', hleft, hright⟩
    -- The operand is the one the empty member access stack gives.
    have hplain : forall x, x ∈ s'.1 -> Plain x := by
      have hempty := iht [] rfl [] m
      cases hrun : visit rt t ([], []) with
      | error e =>
          rw [hrun, hleft] at hempty
          cases hempty
      | ok s0 =>
          rw [hrun, hleft] at hempty
          cases hempty
          exact (visit_maintains rt t hdt (Tree.hasIdent_of_untouched t ha) [] rfl
            (by simp) [] rfl s0 hrun).left
    rcases List.length_eq_one_iff.mp (het.length (show ([] : List Node).length = 0 from rfl)
      hleft) with ⟨left, hs'⟩
    have hframe := hei.frame_nil s'.1 s'.2
    cases hrun : visit rt index ([], s'.2) with
    | error e =>
        rw [hrun] at hframe
        rw [hframe] at hright
        cases hright
    | ok si =>
        rcases List.length_eq_one_iff.mp
          (hei.length (show ([] : List Node).length = 0 from rfl) hrun) with ⟨right, hsi⟩
        rw [hrun] at hframe
        rw [hframe] at hright
        cases hright
        show memberIndex rt (si.1 ++ s'.1, si.2) = _
        rw [hsi, hs']
        apply memberIndex_plain rt
        exact hplain left (by simp [hs'])
  intro top htop m m'
  rcases List.eq_nil_of_length_eq_zero htop with rfl
  have hsplit : forall m, visit rt (.memberIndex t index) ([], m) =
      (visit rt t ([], m) >>= visit rt index) >>= memberIndex rt := by
    intro m
    show (visit rt t ([], m) >>= fun s => visit rt index s >>= memberIndex rt) = _
    rw [bind_assoc]
  rw [hsplit, hsplit]
  have hpairm := hpair [] rfl m m'
  cases hrun : visit rt t ([], m) >>= visit rt index with
  | error e =>
      simp only [hrun] at hpairm
      rw [hpairm]
      rfl
  | ok s =>
      simp only [hrun] at hpairm
      rw [hpairm]
      show memberIndex rt (s.1, m') = (memberIndex rt s).map _
      rw [hfail m s hrun, hfail m' (s.1, m') hpairm]
      rfl

/-- A tree that does not touch the member access stack works on the operands
alone. -/
theorem visit_ignores (rt : Runtime) {r : Rule} (t : Tree r) (hd : t.deficit = 0)
    (ha : t.access = .untouched) : Ignores (visit rt t) 0 := by
  induction t with
  | exprOne t ih => exact ih hd ha
  | exprCond cond left right ihc ihl ihr =>
      replace hd := And.imp_left Nat.add_eq_zero_iff.mp (Nat.add_eq_zero_iff.mp hd)
      replace ha := And.imp_right Access.seq_eq_untouched.mp (Access.seq_eq_untouched.mp ha)
      have hec := visit_hasEffect rt cond hd.left.left
      have hel := visit_hasEffect rt left hd.left.right
      have her := visit_hasEffect rt right hd.right
      exact (ihc hd.left.left ha.left).comp hec
        (((ihl hd.left.right ha.right.left).extend hel 1).comp (hel.extend 1)
          (((ihr hd.right ha.right.right).extend her 2).comp (her.extend 2)
            (expr_operator rt).ignores))
  | orOne t ih => exact ih hd ha
  | or left right ihl ihr =>
      replace hd := Nat.add_eq_zero_iff.mp hd
      replace ha := Access.seq_eq_untouched.mp ha
      exact (ihl hd.left ha.left).binary (visit_hasEffect rt left hd.left)
        (ihr hd.right ha.right) (visit_hasEffect rt right hd.right)
        (logicalNode_operator .or).ignores
  | andOne t ih => exact ih hd ha
  | and left right ihl ihr =>
      replace hd := Nat.add_eq_zero_iff.mp hd
      replace ha := Access.seq_eq_untouched.mp ha
      exact (ihl hd.left ha.left).binary (visit_hasEffect rt left hd.left)
        (ihr hd.right ha.right) (visit_hasEffect rt right hd.right)
        (logicalNode_operator .and).ignores
  | relationOne t ih => exact ih hd ha
  | relation op left right ihl ihr =>
      replace hd := Nat.add_eq_zero_iff.mp hd
      replace ha := Access.seq_eq_untouched.mp ha
      exact (ihl hd.left ha.left).rewriteBinary (visit_hasEffect rt left hd.left)
        (relationOp_operator op).ignores (relationOp_operator op).hasEffect
        (ihr hd.right ha.right) (visit_hasEffect rt right hd.right)
        relation_operator.ignores
  | additionOne t ih => exact ih hd ha
  | addition op left right ihl ihr =>
      replace hd := Nat.add_eq_zero_iff.mp hd
      replace ha := Access.seq_eq_untouched.mp ha
      exact (ihl hd.left ha.left).rewriteBinary (visit_hasEffect rt left hd.left)
        (arithmeticOp_operator op.text).ignores (arithmeticOp_operator op.text).hasEffect
        (ihr hd.right ha.right) (visit_hasEffect rt right hd.right)
        arithmetic_operator.ignores
  | multiplicationOne t ih => exact ih hd ha
  | multiplication op left right ihl ihr =>
      replace hd := Nat.add_eq_zero_iff.mp hd
      replace ha := Access.seq_eq_untouched.mp ha
      exact (ihl hd.left ha.left).rewriteBinary (visit_hasEffect rt left hd.left)
        (arithmeticOp_operator op.text).ignores (arithmeticOp_operator op.text).hasEffect
        (ihr hd.right ha.right) (visit_hasEffect rt right hd.right)
        arithmetic_operator.ignores
  | unaryOne t ih => exact ih hd ha
  | unary op t ih =>
      exact (unaryOp_operator op).ignores.binary (unaryOp_operator op).hasEffect
        (ih hd ha) (visit_hasEffect rt t hd) unary_operator.ignores
  | memberPrimary t ih => exact ih hd ha
  | memberDot t right ih =>
      simp [Tree.access, Access.seq_eq_untouched] at ha
  | memberDotArg t right arguments iht iha =>
      simp [Tree.access, Access.seq_eq_untouched] at ha
  | memberIndex t index iht ihi =>
      replace hd := Nat.add_eq_zero_iff.mp hd
      replace ha := Access.seq_eq_untouched.mp ha
      exact memberIndex_ignores rt t index hd.left hd.right ha.left
        (iht hd.left ha.left) (ihi hd.right ha.right)
  | memberObject t inits iht ihi =>
      replace hd := Nat.add_eq_zero_iff.mp hd
      replace ha := Access.seq_eq_untouched.mp ha
      have hei := visit_hasEffect rt inits hd.right
      exact (iht hd.left ha.left).comp (visit_hasEffect rt t hd.left)
        (((ihi hd.right ha.right).extend hei 1).comp (hei.extend 1) (ignores_fail _ _))
  | dotIdentArg name arguments ih =>
      exact (ih hd ha).comp (visit_hasEffect rt arguments hd) (ignores_fail _ _)
  | dotIdent name => exact ignores_fail _ _
  | identArg name arguments ih =>
      cases arguments with
      | noArgs => exact absurd hd Nat.one_ne_zero
      | args t =>
          exact (ih hd ha).comp (visit_hasEffect rt (.args t) hd)
            (identArg_operator name).ignores
  | ident name => cases ha
  | parenExpr t ih =>
      exact (ih hd ha).comp (visit_hasEffect rt t hd) parenExpr_operator.ignores
  | listLit arguments ih =>
      cases arguments with
      | noArgs => exact absurd hd Nat.one_ne_zero
      | args t =>
          exact (ih hd ha).comp (visit_hasEffect rt (.args t) hd) listLit_operator.ignores
  | mapLit inits ih =>
      exact (ih hd ha).comp (visit_hasEffect rt inits hd) (ignores_fail _ _)
  | literal value => exact (literal_operator rt value).ignores
  | noArgs => exact ignores_skip 0
  | args t ih =>
      exact (ih hd ha).comp (visit_hasEffect rt t hd)
        (exprlist_operator t.exprlistLength).ignores
  | exprlistOne t ih => exact ih hd ha
  | exprlistSnoc init t ihi iht =>
      replace hd := Nat.add_eq_zero_iff.mp hd
      replace ha := Access.seq_eq_untouched.mp ha
      have hright := (iht hd.right ha.right).extend (visit_hasEffect rt t hd.right) init.width
      rw [Nat.zero_add] at hright
      exact (ihi hd.left ha.left).comp (visit_hasEffect rt init hd.left) hright
  | noFieldinits => exact ignores_skip 0
  | fieldinitsSnoc init name t ihi iht =>
      replace hd := Nat.add_eq_zero_iff.mp hd
      replace ha := Access.seq_eq_untouched.mp ha
      have hright := (iht hd.right ha.right).extend (visit_hasEffect rt t hd.right) init.width
      rw [Nat.zero_add] at hright
      exact (ihi hd.left ha.left).comp (visit_hasEffect rt init hd.left) hright
  | noMapinits => exact ignores_skip 0
  | mapinitsSnoc init key value ihi ihk ihv =>
      replace hd := And.imp_left Nat.add_eq_zero_iff.mp (Nat.add_eq_zero_iff.mp hd)
      replace ha := And.imp_right Access.seq_eq_untouched.mp (Access.seq_eq_untouched.mp ha)
      have hek := (visit_hasEffect rt key hd.left.right).extend init.width
      have hkey :=
        (ihk hd.left.right ha.right.left).extend (visit_hasEffect rt key hd.left.right) init.width
      have hvalue := (ihv hd.right ha.right.right).extend (visit_hasEffect rt value hd.right)
        (1 + init.width)
      rw [Nat.zero_add] at hek hkey hvalue
      exact (ihi hd.left.left ha.left).comp (visit_hasEffect rt init hd.left.left)
        (hkey.comp hek hvalue)

/-- A tree that clears the member access stack before it reads it does not depend
on what the stack holds. -/
theorem visit_overwrites (rt : Runtime) {r : Rule} (t : Tree r) (hd : t.deficit = 0)
    (ha : t.access = .cleared) : Overwrites (visit rt t) 0 := by
  induction t with
  | exprOne t ih => exact ih hd ha
  | exprCond cond left right ihc ihl ihr =>
      replace hd := And.imp_left Nat.add_eq_zero_iff.mp (Nat.add_eq_zero_iff.mp hd)
      replace ha := Or.imp_right (And.imp_right Access.seq_eq_cleared.mp)
        (Access.seq_eq_cleared.mp ha)
      have hec := visit_hasEffect rt cond hd.left.left
      have hel := visit_hasEffect rt left hd.left.right
      have her := visit_hasEffect rt right hd.right
      rcases ha with ha | ⟨hac, ha | ⟨hal, ha⟩⟩
      · exact (ihc hd.left.left ha).comp
      · exact (visit_ignores rt cond hd.left.left hac).comp_overwrites hec
          ((ihl hd.left.right ha).extend hel 1).comp
      · exact (visit_ignores rt cond hd.left.left hac).comp_overwrites hec
          (((visit_ignores rt left hd.left.right hal).extend hel 1).comp_overwrites
            (hel.extend 1) ((ihr hd.right ha).extend her 2).comp)
  | orOne t ih => exact ih hd ha
  | or left right ihl ihr =>
      replace hd := Nat.add_eq_zero_iff.mp hd
      rcases Access.seq_eq_cleared.mp ha with ha | ⟨hal, ha⟩
      · exact (ihl hd.left ha).comp
      · exact (visit_ignores rt left hd.left hal).comp_overwrites
          (visit_hasEffect rt left hd.left)
          ((ihr hd.right ha).extend (visit_hasEffect rt right hd.right) 1).comp
  | andOne t ih => exact ih hd ha
  | and left right ihl ihr =>
      replace hd := Nat.add_eq_zero_iff.mp hd
      rcases Access.seq_eq_cleared.mp ha with ha | ⟨hal, ha⟩
      · exact (ihl hd.left ha).comp
      · exact (visit_ignores rt left hd.left hal).comp_overwrites
          (visit_hasEffect rt left hd.left)
          ((ihr hd.right ha).extend (visit_hasEffect rt right hd.right) 1).comp
  | relationOne t ih => exact ih hd ha
  | relation op left right ihl ihr =>
      replace hd := Nat.add_eq_zero_iff.mp hd
      rcases Access.seq_eq_cleared.mp ha with ha | ⟨hal, ha⟩
      · exact (ihl hd.left ha).comp
      · exact (visit_ignores rt left hd.left hal).comp_overwrites
          (visit_hasEffect rt left hd.left)
          ((relationOp_operator op).ignores.comp_overwrites (relationOp_operator op).hasEffect
            ((ihr hd.right ha).extend (visit_hasEffect rt right hd.right) 1).comp)
  | additionOne t ih => exact ih hd ha
  | addition op left right ihl ihr =>
      replace hd := Nat.add_eq_zero_iff.mp hd
      rcases Access.seq_eq_cleared.mp ha with ha | ⟨hal, ha⟩
      · exact (ihl hd.left ha).comp
      · exact (visit_ignores rt left hd.left hal).comp_overwrites
          (visit_hasEffect rt left hd.left)
          ((arithmeticOp_operator op.text).ignores.comp_overwrites
            (arithmeticOp_operator op.text).hasEffect
            ((ihr hd.right ha).extend (visit_hasEffect rt right hd.right) 1).comp)
  | multiplicationOne t ih => exact ih hd ha
  | multiplication op left right ihl ihr =>
      replace hd := Nat.add_eq_zero_iff.mp hd
      rcases Access.seq_eq_cleared.mp ha with ha | ⟨hal, ha⟩
      · exact (ihl hd.left ha).comp
      · exact (visit_ignores rt left hd.left hal).comp_overwrites
          (visit_hasEffect rt left hd.left)
          ((arithmeticOp_operator op.text).ignores.comp_overwrites
            (arithmeticOp_operator op.text).hasEffect
            ((ihr hd.right ha).extend (visit_hasEffect rt right hd.right) 1).comp)
  | unaryOne t ih => exact ih hd ha
  | unary op t ih =>
      exact (unaryOp_operator op).ignores.comp_overwrites (unaryOp_operator op).hasEffect
        ((ih hd ha).extend (visit_hasEffect rt t hd) 1).comp
  | memberPrimary t ih => exact ih hd ha
  | memberDot t right ih =>
      have hat : t.access = .cleared := by
        simpa [Tree.access, Access.seq_eq_cleared] using ha
      exact (ih hd hat).comp
  | memberDotArg t right arguments iht iha =>
      replace hd := Nat.add_eq_zero_iff.mp hd
      have hcases : t.access = .cleared ∨
          (t.access = .untouched ∧ arguments.access = .cleared) := by
        simpa [Tree.access, Access.seq_eq_cleared] using ha
      rcases hcases with ha | ⟨hat, ha⟩
      · exact (iht hd.left ha).comp
      · exact (visit_ignores rt t hd.left hat).comp_overwrites (visit_hasEffect rt t hd.left)
          ((iha hd.right ha).extend (visit_hasEffect rt arguments hd.right) 1).comp
  | memberIndex t index iht ihi =>
      replace hd := Nat.add_eq_zero_iff.mp hd
      rcases Access.seq_eq_cleared.mp ha with ha | ⟨hat, ha⟩
      · exact (iht hd.left ha).comp
      · exact (visit_ignores rt t hd.left hat).comp_overwrites (visit_hasEffect rt t hd.left)
          ((ihi hd.right ha).extend (visit_hasEffect rt index hd.right) 1).comp
  | memberObject t inits iht ihi =>
      replace hd := Nat.add_eq_zero_iff.mp hd
      rcases Access.seq_eq_cleared.mp ha with ha | ⟨hat, ha⟩
      · exact (iht hd.left ha).comp
      · exact (visit_ignores rt t hd.left hat).comp_overwrites (visit_hasEffect rt t hd.left)
          ((ihi hd.right ha).extend (visit_hasEffect rt inits hd.right) 1).comp
  | dotIdentArg name arguments ih => exact (ih hd ha).comp
  | dotIdent name => cases ha
  | identArg name arguments ih =>
      cases arguments with
      | noArgs => exact absurd hd Nat.one_ne_zero
      | args t => exact (ih hd ha).comp
  | ident name =>
      intro top _ m m'
      rfl
  | parenExpr t ih => exact (ih hd ha).comp
  | listLit arguments ih =>
      cases arguments with
      | noArgs => exact absurd hd Nat.one_ne_zero
      | args t => exact (ih hd ha).comp
  | mapLit inits ih => exact (ih hd ha).comp
  | literal value => cases ha
  | noArgs => cases ha
  | args t ih => exact (ih hd ha).comp
  | exprlistOne t ih => exact ih hd ha
  | exprlistSnoc init t ihi iht =>
      replace hd := Nat.add_eq_zero_iff.mp hd
      rcases Access.seq_eq_cleared.mp ha with ha | ⟨hai, ha⟩
      · exact (ihi hd.left ha).comp
      · have hright := (iht hd.right ha).extend (visit_hasEffect rt t hd.right) init.width
        rw [Nat.zero_add] at hright
        exact (visit_ignores rt init hd.left hai).comp_overwrites
          (visit_hasEffect rt init hd.left) hright
  | noFieldinits => cases ha
  | fieldinitsSnoc init name t ihi iht =>
      replace hd := Nat.add_eq_zero_iff.mp hd
      rcases Access.seq_eq_cleared.mp ha with ha | ⟨hai, ha⟩
      · exact (ihi hd.left ha).comp
      · have hright := (iht hd.right ha).extend (visit_hasEffect rt t hd.right) init.width
        rw [Nat.zero_add] at hright
        exact (visit_ignores rt init hd.left hai).comp_overwrites
          (visit_hasEffect rt init hd.left) hright
  | noMapinits => cases ha
  | mapinitsSnoc init key value ihi ihk ihv =>
      replace hd := And.imp_left Nat.add_eq_zero_iff.mp (Nat.add_eq_zero_iff.mp hd)
      replace ha := Or.imp_right (And.imp_right Access.seq_eq_cleared.mp)
        (Access.seq_eq_cleared.mp ha)
      have hei := visit_hasEffect rt init hd.left.left
      have hek := (visit_hasEffect rt key hd.left.right).extend init.width
      have hev := visit_hasEffect rt value hd.right
      rcases ha with ha | ⟨hai, ha | ⟨hak, ha⟩⟩
      · exact (ihi hd.left.left ha).comp
      · have hkey := (ihk hd.left.right ha).extend (visit_hasEffect rt key hd.left.right)
          init.width
        rw [Nat.zero_add] at hkey
        exact (visit_ignores rt init hd.left.left hai).comp_overwrites hei hkey.comp
      · have hkey := (visit_ignores rt key hd.left.right hak).extend
          (visit_hasEffect rt key hd.left.right) init.width
        have hvalue := (ihv hd.right ha).extend hev (1 + init.width)
        rw [Nat.zero_add] at hek hkey hvalue
        exact (visit_ignores rt init hd.left.left hai).comp_overwrites hei
          (hkey.comp_overwrites hek hvalue)

/-!
## Parenthesised operands
-/

theorem convertToAst_of_visit {rt : Runtime} {t : Tree .expr} {x : Node}
    {m : List (List String)} (hrun : visit rt t ([], []) = .ok ([x], m)) :
    convertToAst rt t = .ok x := by
  simp [convertToAst, hrun, bind, Except.bind]

theorem convertToAst_of_visit_error {rt : Runtime} {t : Tree .expr} {e : PyException}
    (hrun : visit rt t ([], []) = .error e) : convertToAst rt t = .error e := by
  simp [convertToAst, hrun, bind, Except.bind]

/-- What the left operand leaves on the member access stack makes no difference
to the values of the right one. -/
theorem visit_after (rt : Runtime) {r r' : Rule} {a : Tree r} {b : Tree r'}
    (hda : a.deficit = 0) (hdb : b.deficit = 0) (h : a.hasIdent = false ∨ b.access ≠ .read)
    {s : State} (hs : visit rt a ([], []) = .ok s) :
    (visit rt b ([], s.2)).map Prod.fst = (visit rt b ([], [])).map Prod.fst := by
  rcases h with hia | hab
  · have hm := visit_maintains rt a hda hia [] rfl (by simp) [] rfl s hs
    rw [show s.2 = [] from hm.right]
  · cases hb : b.access with
    | untouched =>
        rw [visit_ignores rt b hdb hb [] rfl [] s.2]
        cases visit rt b ([], []) <;> rfl
    | cleared => rw [visit_overwrites rt b hdb hb [] rfl s.2 []]
    | read => exact absurd hb hab

end Cel
end KeepGateway
