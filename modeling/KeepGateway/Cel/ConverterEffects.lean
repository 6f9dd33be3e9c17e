import KeepGateway.Cel.CelAstConverter
import KeepGateway.Lib.Except
import KeepGateway.Lib.StackEffect

/-!
# Stack effects of the converter

Every visitor method consumes the operands its children pushed and pushes one,
so a tree pushes one value and never looks below.  The exceptions are a list
literal and a call without arguments, which take a value that no child pushed:
they are counted by the deficit of a tree.
-/

namespace KeepGateway
namespace Cel

open StackEffect

/-!
## Visitor methods
-/

def logicalResult (op : LogicalNodeOperator) : List Node -> Except PyException Node
  | [right, left] => do
      let left <- validateNode left
      let right <- validateNode right
      .ok (.logical left op right)
  | _ => .error .indexError

theorem logicalNode_operator (op : LogicalNodeOperator) :
    IsOperator (logicalNode op) 2 (logicalResult op) := by
  intro top htop stack m
  rcases List.length_eq_two.mp htop with ⟨y, x, rfl⟩
  cases hx : validateNode x with
  | error e => simp [logicalNode, logicalResult, pop, hx, bind, Except.bind, Except.map]
  | ok left =>
      cases hy : validateNode y <;>
        simp [logicalNode, logicalResult, pop, push, hx, hy, bind, Except.bind, Except.map]

def relationOpResult (op : RelationOp) : List Node -> Except PyException Node
  | [first] => do
      let first <- validateNode first
      .ok (.comparison first op.operator .none)
  | _ => .error .indexError

theorem relationOp_operator (op : RelationOp) :
    IsOperator (relationOp op) 1 (relationOpResult op) := by
  intro top htop stack m
  rcases List.length_eq_one_iff.mp htop with ⟨x, rfl⟩
  cases hx : validateNode x <;>
    simp [relationOp, relationOpResult, pop, push, hx, bind, Except.bind, Except.map]

def relationResult : List Node -> Except PyException Node
  | [second, .comparison first op _] => .ok (.comparison first op second)
  | [_, x] => .error (noField "second_operand" x)
  | _ => .error .indexError

theorem relation_operator : IsOperator relation 2 relationResult := by
  intro top htop stack m
  rcases List.length_eq_two.mp htop with ⟨y, x, rfl⟩
  cases x <;> rfl

def arithmeticOpResult (op : String) : List Node -> Except PyException Node
  | [left] => .ok (.dict left op .none)
  | _ => .error .indexError

theorem arithmeticOp_operator (op : String) :
    IsOperator (arithmeticOp op) 1 (arithmeticOpResult op) := by
  intro top htop stack m
  rcases List.length_eq_one_iff.mp htop with ⟨x, rfl⟩
  rfl

def arithmeticResult : List Node -> Except PyException Node
  | [right, .dict left op _] => .ok (.dict left op right)
  | [_, _] => .error .typeError
  | _ => .error .indexError

theorem arithmetic_operator : IsOperator arithmetic 2 arithmeticResult := by
  intro top htop stack m
  rcases List.length_eq_two.mp htop with ⟨y, x, rfl⟩
  cases x <;> rfl

theorem unaryOp_operator (op : UnaryOp) :
    IsOperator (unaryOp op) 0 (fun _ => .ok (.unary op.operator .none)) := by
  intro top htop stack m
  rcases List.eq_nil_of_length_eq_zero htop with rfl
  rfl

def unaryResult : List Node -> Except PyException Node
  | [operand, .unary op _] => .ok (.unary op operand)
  | [_, x] => .error (noField "operand" x)
  | _ => .error .indexError

theorem unary_operator : IsOperator unary 2 unaryResult := by
  intro top htop stack m
  rcases List.length_eq_two.mp htop with ⟨y, x, rfl⟩
  cases x <;> rfl

def identArgResult (name : String) : List Node -> Except PyException Node
  | [args] =>
      if name = "has" then do
        let operand <- subscriptZero args
        let operand <- validateNode operand
        .ok (.unary .has operand)
      else
        .error (.notImplementedError ("Ident arg not implemented for token_value:" ++ name))
  | _ => .error .indexError

theorem identArg_operator (name : String) :
    IsOperator (identArg name) 1 (identArgResult name) := by
  intro top htop stack m
  rcases List.length_eq_one_iff.mp htop with ⟨x, rfl⟩
  by_cases hname : name = "has"
  · cases hx : subscriptZero x with
    | error e =>
        simp [identArg, identArgResult, pop, hname, hx, bind, Except.bind, Except.map]
    | ok operand =>
        cases hoperand : validateNode operand <;>
          simp [identArg, identArgResult, pop, push, hname, hx, hoperand, bind,
            Except.bind, Except.map]
  · simp [identArg, identArgResult, hname, Except.map]

def parenExprResult : List Node -> Except PyException Node
  | [expression] => do
      let expression <- validateNode expression
      .ok (.parenthesis expression)
  | _ => .error .indexError

theorem parenExpr_operator : IsOperator parenExpr 1 parenExprResult := by
  intro top htop stack m
  rcases List.length_eq_one_iff.mp htop with ⟨x, rfl⟩
  cases hx : validateNode x <;>
    simp [parenExpr, parenExprResult, pop, push, hx, bind, Except.bind, Except.map]

def listLitResult : List Node -> Except PyException Node
  | [left] => reversedList left
  | _ => .error .indexError

theorem listLit_operator : IsOperator listLit 1 listLitResult := by
  intro top htop stack m
  rcases List.length_eq_one_iff.mp htop with ⟨x, rfl⟩
  cases hx : reversedList x <;>
    simp [listLit, listLitResult, pop, push, hx, bind, Except.bind, Except.map]

theorem popN_append (items stack : List Node) (m : List (List String)) :
    popN items.length (items ++ stack, m) = .ok (items, (stack, m)) := by
  induction items with
  | nil => rfl
  | cons x rest ih =>
      have hpop : pop (x :: rest ++ stack, m) = .ok (x, (rest ++ stack, m)) := rfl
      rw [List.length_cons, popN, hpop]
      dsimp only [bind, Except.bind]
      rw [ih]

theorem exprlist_operator (n : Nat) :
    IsOperator (exprlist n) n (fun items => .ok (.list items)) := by
  intro top htop stack m
  subst htop
  unfold exprlist
  rw [popN_append]
  rfl

def literalResult (rt : Runtime) (value : String) : List Node -> Except PyException Node :=
  fun _ => (toConstantNode rt value).map .constant

theorem literal_operator (rt : Runtime) (value : String) :
    IsOperator (literal rt value) 0 (literalResult rt value) := by
  intro top htop stack m
  rcases List.eq_nil_of_length_eq_zero htop with rfl
  cases hvalue : toConstantNode rt value <;>
    simp [literal, literalResult, push, hvalue, bind, Except.bind, Except.map]

def exprResult (rt : Runtime) : List Node -> Except PyException Node
  | [right, left, cond] => do
      let cond <- cond.text rt
      let left <- left.text rt
      let right <- right.text rt
      .ok (.str (cond ++ " ? " ++ left ++ " : " ++ right))
  | _ => .error .indexError

theorem expr_operator (rt : Runtime) : IsOperator (expr rt) 3 (exprResult rt) := by
  intro top htop stack m
  rcases List.length_eq_three.mp htop with ⟨right, left, cond, rfl⟩
  cases hcond : cond.text rt with
  | error e => simp [expr, exprResult, pop, hcond, bind, Except.bind, Except.map]
  | ok c =>
      cases hleft : left.text rt with
      | error e =>
          simp [expr, exprResult, pop, hcond, hleft, bind, Except.bind, Except.map]
      | ok l =>
          cases hright : right.text rt <;>
            simp [expr, exprResult, pop, push, hcond, hleft, hright, bind, Except.bind,
              Except.map]

theorem memberDot_hasEffect (right : String) : HasEffect (memberDot right) 1 1 := by
  apply hasEffect_one fun x m =>
    match m with
    | [] => .ok (x, [])
    | path :: rest => .ok (simpleNode (path ++ [right]), (path ++ [right]) :: rest)
  intro x stack m
  cases m <;> rfl

/-- The comparison that a method call builds from its operand and arguments. -/
def methodCall (right : String) (first exprlist : Node) : Except PyException Node := do
  let second <- subscriptZero exprlist
  let first <- validateNode first
  let op <- methodOperator right
  .ok (.comparison first op (validateAny second))

/-- A method call is rejected before its operand is looked at when no member
was accessed or the method is unknown. -/
def methodGuard (right : String) (m : List (List String)) : Except PyException Unit :=
  if m = [] then .error (.valueError "No member access stack")
  else if asciiLower right ∈ ["contains", "startswith", "endswith"] then .ok ()
  else .error (.notImplementedError ("Method '" ++ right ++ "' not implemented"))

theorem memberDotArg_apply (right : String) (exprlist first : Node) (stack : List Node)
    (m : List (List String)) :
    memberDotArg right true (exprlist :: first :: stack, m) =
      (do
        methodGuard right m
        let x <- methodCall right first exprlist
        .ok (x :: stack, m)) := by
  by_cases hm : m = []
  · simp [memberDotArg, methodGuard, pop, hm, bind, Except.bind]
  · by_cases hright : asciiLower right ∈ ["contains", "startswith", "endswith"]
    · simp only [memberDotArg, methodGuard, methodCall, pop, hm, hright, bind, Except.bind,
        if_true, if_false]
      cases subscriptZero exprlist with
      | error e => rfl
      | ok second =>
          cases validateNode first with
          | error e => rfl
          | ok first =>
              cases methodOperator right <;> rfl
    · simp only [memberDotArg, methodGuard, pop, hm, hright, bind, Except.bind,
        if_true, if_false]

theorem memberDotArg_apply_noArgs (right : String) (first : Node) (stack : List Node)
    (m : List (List String)) :
    memberDotArg right false (first :: stack, m) =
      (do
        methodGuard right m
        .error .indexError) := by
  by_cases hm : m = []
  · simp [memberDotArg, methodGuard, hm, bind, Except.bind]
  · by_cases hright : asciiLower right ∈ ["contains", "startswith", "endswith"]
    · simp only [memberDotArg, methodGuard, pop, hm, hright, bind, Except.bind, if_true,
        if_false, Bool.false_eq_true, subscriptZero]
    · simp only [memberDotArg, methodGuard, hm, hright, bind, Except.bind, if_false,
        Bool.false_eq_true]

theorem memberDotArg_hasEffect_args (right : String) :
    HasEffect (memberDotArg right true) 2 1 := by
  apply hasEffect_two fun first exprlist m => do
    methodGuard right m
    let x <- methodCall right first exprlist
    .ok (x, m)
  intro x y stack m
  rw [memberDotArg_apply]
  cases methodGuard right m with
  | error e => rfl
  | ok u =>
      cases methodCall right x y <;>
        simp [pushing, bind, Except.bind, Except.map]

theorem memberDotArg_hasEffect_noArgs (right : String) :
    HasEffect (memberDotArg right false) 1 1 := by
  apply hasEffect_one fun _ m => do
    methodGuard right m
    .error .indexError
  intro x stack m
  rw [memberDotArg_apply_noArgs]
  cases methodGuard right m <;> rfl

/-- The path that indexing an operand yields. -/
def indexPath (rt : Runtime) (left right : Node) : Except PyException (List String) :=
  match left with
  | .propertyAccess (.simple path _) => do
      let key <- indexText rt right
      .ok (path ++ [key])
  | _ => .error .attributeError

theorem memberIndex_apply (rt : Runtime) (left right : Node) (stack : List Node)
    (m : List (List String)) :
    memberIndex rt (right :: left :: stack, m) =
      (indexPath rt left right).map fun path => (simpleNode path :: stack, path :: m) := by
  cases left with
  | propertyAccess property =>
      cases property with
      | simple path dataType =>
          cases hkey : indexText rt right <;>
            simp [memberIndex, indexPath, pop, hkey, bind, Except.bind, Except.map]
      | json name keys dataType => rfl
  | _ => rfl

theorem memberIndex_hasEffect (rt : Runtime) : HasEffect (memberIndex rt) 2 1 := by
  apply hasEffect_two fun left right m =>
    (indexPath rt left right).map fun path => (simpleNode path, path :: m)
  intro x y stack m
  rw [memberIndex_apply]
  cases indexPath rt x y <;> rfl

theorem ident_hasEffect (name : String) : HasEffect (ident name) 0 1 := by
  apply hasEffect_zero fun _ => .ok (simpleNode [name], [[name]])
  intro stack m
  rfl

/-!
## Trees
-/

namespace Tree

/-- The number of expressions in field or map initialisers. -/
def initsLength : {r : Rule} -> Tree r -> Nat
  | _, fieldinitsSnoc init _ _ => init.initsLength + 1
  | _, mapinitsSnoc init _ _ => init.initsLength + 2
  | _, _ => 0

/-- The number of values a tree leaves on the stack. -/
def width : {r : Rule} -> Tree r -> Nat
  | .exprlist, t => t.exprlistLength
  | .args, t => if t.hasArgs then 1 else 0
  | .fieldinits, t => t.initsLength
  | .mapinits, t => t.initsLength
  | _, _ => 1

/-- How many times the methods of a tree take a value that no child pushed. -/
def deficit : {r : Rule} -> Tree r -> Nat
  | _, exprOne t => t.deficit
  | _, exprCond cond left right => cond.deficit + left.deficit + right.deficit
  | _, orOne t => t.deficit
  | _, or left right => left.deficit + right.deficit
  | _, andOne t => t.deficit
  | _, and left right => left.deficit + right.deficit
  | _, relationOne t => t.deficit
  | _, relation _ left right => left.deficit + right.deficit
  | _, additionOne t => t.deficit
  | _, addition _ left right => left.deficit + right.deficit
  | _, multiplicationOne t => t.deficit
  | _, multiplication _ left right => left.deficit + right.deficit
  | _, unaryOne t => t.deficit
  | _, unary _ t => t.deficit
  | _, memberPrimary t => t.deficit
  | _, memberDot t _ => t.deficit
  | _, memberDotArg t _ arguments => t.deficit + arguments.deficit
  | _, memberIndex t index => t.deficit + index.deficit
  | _, memberObject t inits => t.deficit + inits.deficit
  | _, dotIdentArg _ arguments => arguments.deficit
  | _, dotIdent _ => 0
  | _, identArg _ noArgs => 1
  | _, identArg _ (args t) => t.deficit
  | _, ident _ => 0
  | _, parenExpr t => t.deficit
  | _, listLit noArgs => 1
  | _, listLit (args t) => t.deficit
  | _, mapLit inits => inits.deficit
  | _, literal _ => 0
  | _, noArgs => 0
  | _, args t => t.deficit
  | _, exprlistOne t => t.deficit
  | _, exprlistSnoc init t => init.deficit + t.deficit
  | _, noFieldinits => 0
  | _, fieldinitsSnoc init _ t => init.deficit + t.deficit
  | _, noMapinits => 0
  | _, mapinitsSnoc init key value => init.deficit + key.deficit + value.deficit

end Tree

/-- A tree without deficit pushes its values and never looks below them. -/
theorem visit_hasEffect (rt : Runtime) {r : Rule} (t : Tree r) (h : t.deficit = 0) :
    HasEffect (visit rt t) 0 t.width := by
  induction t with
  | exprOne t ih => exact ih h
  | exprCond cond left right ihc ihl ihr =>
      replace h := And.imp_left Nat.add_eq_zero_iff.mp (Nat.add_eq_zero_iff.mp h)
      exact (ihc h.left.left).comp
        (((ihl h.left.right).extend 1).comp
          (((ihr h.right).extend 2).comp (expr_operator rt).hasEffect))
  | orOne t ih => exact ih h
  | or left right ihl ihr =>
      replace h := Nat.add_eq_zero_iff.mp h
      exact (ihl h.left).binary (ihr h.right) (logicalNode_operator .or).hasEffect
  | andOne t ih => exact ih h
  | and left right ihl ihr =>
      replace h := Nat.add_eq_zero_iff.mp h
      exact (ihl h.left).binary (ihr h.right) (logicalNode_operator .and).hasEffect
  | relationOne t ih => exact ih h
  | relation op left right ihl ihr =>
      replace h := Nat.add_eq_zero_iff.mp h
      exact (ihl h.left).comp
        ((relationOp_operator op).hasEffect.comp
          (((ihr h.right).extend 1).comp relation_operator.hasEffect))
  | additionOne t ih => exact ih h
  | addition op left right ihl ihr =>
      replace h := Nat.add_eq_zero_iff.mp h
      exact (ihl h.left).comp
        ((arithmeticOp_operator op.text).hasEffect.comp
          (((ihr h.right).extend 1).comp arithmetic_operator.hasEffect))
  | multiplicationOne t ih => exact ih h
  | multiplication op left right ihl ihr =>
      replace h := Nat.add_eq_zero_iff.mp h
      exact (ihl h.left).comp
        ((arithmeticOp_operator op.text).hasEffect.comp
          (((ihr h.right).extend 1).comp arithmetic_operator.hasEffect))
  | unaryOne t ih => exact ih h
  | unary op t ih =>
      exact (unaryOp_operator op).hasEffect.binary (ih h) unary_operator.hasEffect
  | memberPrimary t ih => exact ih h
  | memberDot t right ih => exact (ih h).comp (memberDot_hasEffect right)
  | memberDotArg t right arguments iht iha =>
      replace h := Nat.add_eq_zero_iff.mp h
      cases arguments with
      | noArgs =>
          exact (iht h.left).comp
            (((iha h.right).extend 1).comp (memberDotArg_hasEffect_noArgs right))
      | args t =>
          exact (iht h.left).binary (iha h.right) (memberDotArg_hasEffect_args right)
  | memberIndex t index iht ihi =>
      replace h := Nat.add_eq_zero_iff.mp h
      exact (iht h.left).binary (ihi h.right) (memberIndex_hasEffect rt)
  | memberObject t inits iht ihi =>
      replace h := Nat.add_eq_zero_iff.mp h
      exact (iht h.left).comp (((ihi h.right).extend 1).comp (hasEffect_fail _ _ 1))
  | dotIdentArg name arguments ih => exact (ih h).comp (hasEffect_fail _ _ 1)
  | dotIdent name => exact hasEffect_fail _ 0 1
  | identArg name arguments ih =>
      cases arguments with
      | noArgs => exact absurd h Nat.one_ne_zero
      | args t => exact (ih h).comp (identArg_operator name).hasEffect
  | ident name => exact ident_hasEffect name
  | parenExpr t ih => exact (ih h).comp parenExpr_operator.hasEffect
  | listLit arguments ih =>
      cases arguments with
      | noArgs => exact absurd h Nat.one_ne_zero
      | args t => exact (ih h).comp listLit_operator.hasEffect
  | mapLit inits ih => exact (ih h).comp (hasEffect_fail _ _ 1)
  | literal value => exact (literal_operator rt value).hasEffect
  | noArgs => exact hasEffect_skip 0
  | args t ih => exact (ih h).comp (exprlist_operator t.exprlistLength).hasEffect
  | exprlistOne t ih => exact ih h
  | exprlistSnoc init t ihi iht =>
      replace h := Nat.add_eq_zero_iff.mp h
      have hright := (iht h.right).extend init.width
      rw [Nat.zero_add] at hright
      have hcomp := (ihi h.left).comp hright
      rwa [Nat.add_comm] at hcomp
  | noFieldinits => exact hasEffect_skip 0
  | fieldinitsSnoc init name t ihi iht =>
      replace h := Nat.add_eq_zero_iff.mp h
      have hright := (iht h.right).extend init.width
      rw [Nat.zero_add] at hright
      have hcomp := (ihi h.left).comp hright
      rwa [Nat.add_comm] at hcomp
  | noMapinits => exact hasEffect_skip 0
  | mapinitsSnoc init key value ihi ihk ihv =>
      replace h := And.imp_left Nat.add_eq_zero_iff.mp (Nat.add_eq_zero_iff.mp h)
      have hkey := (ihk h.left.right).extend init.width
      have hvalue := (ihv h.right).extend (1 + init.width)
      rw [Nat.zero_add] at hkey hvalue
      have hcomp := (ihi h.left.left).comp (hkey.comp hvalue)
      rwa [← Nat.add_assoc, Nat.add_comm] at hcomp

end Cel
end KeepGateway
