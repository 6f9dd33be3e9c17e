import KeepGateway.Cel.ConverterEffects

/-!
# The structural AST

On the supported fragment the two stacks of the converter compute a plain
recursion on the parse tree: operands, list elements and path segments in source
order, and the literals as `to_constant_node` reads them.
-/

namespace KeepGateway
namespace Cel

open StackEffect

namespace Tree

/-!
## The supported fragment
-/

/-- A single literal token below the rules that pass one child up. -/
def isLiteral : {r : Rule} -> Tree r -> Bool
  | _, exprOne t => t.isLiteral
  | _, orOne t => t.isLiteral
  | _, andOne t => t.isLiteral
  | _, relationOne t => t.isLiteral
  | _, additionOne t => t.isLiteral
  | _, multiplicationOne t => t.isLiteral
  | _, unaryOne t => t.isLiteral
  | _, memberPrimary t => t.isLiteral
  | _, literal _ => true
  | _, _ => false

def areLiterals : {r : Rule} -> Tree r -> Bool
  | _, exprlistOne t => t.isLiteral
  | _, exprlistSnoc init t => init.areLiterals && t.isLiteral
  | _, _ => false

/-- An identifier followed by names and literal indices. -/
def isPath : {r : Rule} -> Tree r -> Bool
  | _, exprOne t => t.isPath
  | _, orOne t => t.isPath
  | _, andOne t => t.isPath
  | _, relationOne t => t.isPath
  | _, additionOne t => t.isPath
  | _, multiplicationOne t => t.isPath
  | _, unaryOne t => t.isPath
  | _, memberPrimary t => t.isPath
  | _, memberDot t _ => t.isPath
  | _, memberIndex t index => t.isPath && index.isLiteral
  | _, ident _ => true
  | _, _ => false

def inFragment : {r : Rule} -> Tree r -> Bool
  | _, exprOne t => t.inFragment
  | _, orOne t => t.inFragment
  | _, or left right => left.inFragment && right.inFragment
  | _, andOne t => t.inFragment
  | _, and left right => left.inFragment && right.inFragment
  | _, relationOne t => t.inFragment
  | _, relation _ left right => left.inFragment && right.inFragment
  | _, additionOne t => t.inFragment
  | _, multiplicationOne t => t.inFragment
  | _, unaryOne t => t.inFragment
  | _, unary _ t => t.inFragment
  | _, memberPrimary t => t.inFragment
  | _, memberDot t _ => t.isPath
  | _, memberDotArg t method (args (exprlistOne argument)) =>
      t.isPath && method ∈ ["contains", "startsWith", "endsWith"] && argument.isLiteral
  | _, memberIndex t index => t.isPath && index.isLiteral
  | _, identArg name (args (exprlistOne argument)) => name == "has" && argument.isPath
  | _, ident _ => true
  | _, parenExpr t => t.inFragment
  | _, listLit (args items) => items.areLiterals
  | _, literal _ => true
  | _, _ => false

/-- The whole tree is a list literal. -/
def isList : {r : Rule} -> Tree r -> Bool
  | _, exprOne t => t.isList
  | _, orOne t => t.isList
  | _, andOne t => t.isList
  | _, relationOne t => t.isList
  | _, additionOne t => t.isList
  | _, multiplicationOne t => t.isList
  | _, unaryOne t => t.isList
  | _, memberPrimary t => t.isList
  | _, listLit _ => true
  | _, _ => false

/-- No list literal stands where the node classes demand a node: as an operand of
`&&` or `||`, as a left operand of a comparison or between parentheses. -/
def listsPlaced : {r : Rule} -> Tree r -> Bool
  | _, exprOne t => t.listsPlaced
  | _, orOne t => t.listsPlaced
  | _, or left right =>
      left.listsPlaced && right.listsPlaced && !left.isList && !right.isList
  | _, andOne t => t.listsPlaced
  | _, and left right =>
      left.listsPlaced && right.listsPlaced && !left.isList && !right.isList
  | _, relationOne t => t.listsPlaced
  | _, relation _ left right => left.listsPlaced && right.listsPlaced && !left.isList
  | _, additionOne t => t.listsPlaced
  | _, multiplicationOne t => t.listsPlaced
  | _, unaryOne t => t.listsPlaced
  | _, unary _ t => t.listsPlaced
  | _, memberPrimary t => t.listsPlaced
  | _, parenExpr t => t.listsPlaced && !t.isList
  | _, _ => true

/-- Every literal token of the tree is one that `to_constant_node` accepts. -/
def literalsAccepted (rt : Runtime) : {r : Rule} -> Tree r -> Bool
  | _, exprOne t => t.literalsAccepted rt
  | _, orOne t => t.literalsAccepted rt
  | _, or left right => left.literalsAccepted rt && right.literalsAccepted rt
  | _, andOne t => t.literalsAccepted rt
  | _, and left right => left.literalsAccepted rt && right.literalsAccepted rt
  | _, relationOne t => t.literalsAccepted rt
  | _, relation _ left right => left.literalsAccepted rt && right.literalsAccepted rt
  | _, additionOne t => t.literalsAccepted rt
  | _, multiplicationOne t => t.literalsAccepted rt
  | _, unaryOne t => t.literalsAccepted rt
  | _, unary _ t => t.literalsAccepted rt
  | _, memberPrimary t => t.literalsAccepted rt
  | _, memberDot t _ => t.literalsAccepted rt
  | _, memberDotArg t _ arguments =>
      t.literalsAccepted rt && arguments.literalsAccepted rt
  | _, memberIndex t index => t.literalsAccepted rt && index.literalsAccepted rt
  | _, identArg _ arguments => arguments.literalsAccepted rt
  | _, parenExpr t => t.literalsAccepted rt
  | _, listLit arguments => arguments.literalsAccepted rt
  | _, literal value => (toConstantNode rt value).isOk
  | _, args t => t.literalsAccepted rt
  | _, exprlistOne t => t.literalsAccepted rt
  | _, exprlistSnoc init t => init.literalsAccepted rt && t.literalsAccepted rt
  | _, _ => true

/-!
## The recursion
-/

def outside {α : Type} : Except PyException α :=
  .error (.notImplementedError "outside of the fragment")

/-- The value of a literal. -/
def value (rt : Runtime) : {r : Rule} -> Tree r -> Except PyException Value
  | _, exprOne t => t.value rt
  | _, orOne t => t.value rt
  | _, andOne t => t.value rt
  | _, relationOne t => t.value rt
  | _, additionOne t => t.value rt
  | _, multiplicationOne t => t.value rt
  | _, unaryOne t => t.value rt
  | _, memberPrimary t => t.value rt
  | _, literal token => toConstantNode rt token
  | _, _ => outside

/-- The values of a list of literals, in source order. -/
def values (rt : Runtime) : {r : Rule} -> Tree r -> Except PyException (List Value)
  | _, exprlistOne t => do
      let v <- t.value rt
      .ok [v]
  | _, exprlistSnoc init t => do
      let vs <- init.values rt
      let v <- t.value rt
      .ok (vs ++ [v])
  | _, _ => outside

/-- The segments of a path, in source order. -/
def path (rt : Runtime) : {r : Rule} -> Tree r -> Except PyException (List String)
  | _, exprOne t => t.path rt
  | _, orOne t => t.path rt
  | _, andOne t => t.path rt
  | _, relationOne t => t.path rt
  | _, additionOne t => t.path rt
  | _, multiplicationOne t => t.path rt
  | _, unaryOne t => t.path rt
  | _, memberPrimary t => t.path rt
  | _, memberDot t name => do
      let segments <- t.path rt
      .ok (segments ++ [name])
  | _, memberIndex t index => do
      let segments <- t.path rt
      let key <- index.value rt
      .ok (segments ++ [key.text])
  | _, ident name => .ok [name]
  | _, _ => outside

def structuralAst (rt : Runtime) : {r : Rule} -> Tree r -> Except PyException Node
  | _, exprOne t => t.structuralAst rt
  | _, orOne t => t.structuralAst rt
  | _, or left right => do
      let left <- left.structuralAst rt
      let right <- right.structuralAst rt
      .ok (.logical left .or right)
  | _, andOne t => t.structuralAst rt
  | _, and left right => do
      let left <- left.structuralAst rt
      let right <- right.structuralAst rt
      .ok (.logical left .and right)
  | _, relationOne t => t.structuralAst rt
  | _, relation op left right => do
      let left <- left.structuralAst rt
      let right <- right.structuralAst rt
      .ok (.comparison left op.operator right)
  | _, additionOne t => t.structuralAst rt
  | _, multiplicationOne t => t.structuralAst rt
  | _, unaryOne t => t.structuralAst rt
  | _, unary op t => do
      let operand <- t.structuralAst rt
      .ok (.unary op.operator operand)
  | _, memberPrimary t => t.structuralAst rt
  | _, memberDot t name => do
      let segments <- (memberDot t name).path rt
      .ok (simpleNode segments)
  | _, memberDotArg t method (args (exprlistOne argument)) => do
      let segments <- t.path rt
      let v <- argument.value rt
      let op <- methodOperator method
      .ok (.comparison (simpleNode segments) op (.constant v))
  | _, memberIndex t index => do
      let segments <- (memberIndex t index).path rt
      .ok (simpleNode segments)
  | _, identArg _ (args (exprlistOne argument)) => do
      let segments <- argument.path rt
      .ok (.unary .has (simpleNode segments))
  | _, ident name => .ok (simpleNode [name])
  | _, parenExpr t => do
      let expression <- t.structuralAst rt
      .ok (.parenthesis expression)
  | _, listLit (args items) => do
      let vs <- items.values rt
      .ok (.list (vs.map .constant))
  | _, literal token => do
      let v <- toConstantNode rt token
      .ok (.constant v)
  | _, _ => outside

end Tree

/-!
## Literals and paths
-/

theorem visit_literal (rt : Runtime) {r : Rule} (t : Tree r) (h : t.isLiteral = true) :
    IsOperator (visit rt t) 0 fun _ => (t.value rt).map .constant := by
  induction t with
  | exprOne t ih => exact ih h
  | orOne t ih => exact ih h
  | andOne t ih => exact ih h
  | relationOne t ih => exact ih h
  | additionOne t ih => exact ih h
  | multiplicationOne t ih => exact ih h
  | unaryOne t ih => exact ih h
  | memberPrimary t ih => exact ih h
  | literal token => exact literal_operator rt token
  | _ => cases h

theorem visit_literal_apply (rt : Runtime) {r : Rule} (t : Tree r) (h : t.isLiteral = true)
    (stack : List Node) (m : List (List String)) :
    visit rt t (stack, m) = (t.value rt).map fun v => (.constant v :: stack, m) := by
  have happly := visit_literal rt t h [] rfl stack m
  rw [List.nil_append] at happly
  rw [happly]
  cases t.value rt <;> rfl

/-- The operands of a list literal are pushed in source order, the last on top. -/
theorem visit_literals (rt : Runtime) {r : Rule} (t : Tree r) (h : t.areLiterals = true) :
    forall stack m, visit rt t (stack, m) =
      (t.values rt).map fun vs => ((vs.map Node.constant).reverse ++ stack, m) := by
  induction t with
  | exprlistOne t ih =>
      intro stack m
      show visit rt t (stack, m) = _
      rw [visit_literal_apply rt t h]
      show _ = (t.value rt >>= fun v => .ok [v]).map _
      cases t.value rt <;> rfl
  | exprlistSnoc init t ihi iht =>
      intro stack m
      replace h := Bool.and_eq_true_iff.mp h
      show visit rt init (stack, m) >>= visit rt t = _
      rw [ihi h.left]
      show _ = (init.values rt >>= fun vs => t.value rt >>= fun v => .ok (vs ++ [v])).map _
      cases init.values rt with
      | error e => rfl
      | ok vs =>
          show visit rt t ((vs.map Node.constant).reverse ++ stack, m) = _
          rw [visit_literal_apply rt t h.right]
          cases t.value rt with
          | error e => rfl
          | ok v => simp [bind, Except.bind, Except.map]
  | _ => cases h

theorem areLiterals_length (rt : Runtime) {r : Rule} (t : Tree r) (h : t.areLiterals = true) :
    forall vs, t.values rt = .ok vs -> vs.length = t.exprlistLength := by
  induction t with
  | exprlistOne t ih =>
      intro vs hvs
      rcases bind_eq_ok.mp hvs with ⟨v, _, hv⟩
      cases hv
      rfl
  | exprlistSnoc init t ihi iht =>
      intro vs hvs
      replace h := Bool.and_eq_true_iff.mp h
      rcases bind_eq_ok.mp hvs with ⟨us, hus, hvs⟩
      rcases bind_eq_ok.mp hvs with ⟨v, _, hv⟩
      cases hv
      simp [Tree.exprlistLength, ihi h.left us hus]
  | _ => cases h

/-- The program pushes the property node of the path, also on the member access
stack, or fails as `r` does. -/
def LeavesPath (f : Visitor) (r : Except PyException (List String)) : Prop :=
  forall stack m,
    (forall e, r = .error e -> f (stack, m) = .error e) ∧
      forall path, r = .ok path ->
        exists rest, f (stack, m) = .ok (simpleNode path :: stack, path :: rest)

/-- What follows a path starts from its property node. -/
theorem LeavesPath.bind {f g : Visitor} {r : Except PyException (List String)}
    {k : List String -> Except PyException (List String)} (hf : LeavesPath f r)
    (hg : forall segments stack rest,
      (forall e, k segments = .error e ->
        g (simpleNode segments :: stack, segments :: rest) = .error e) ∧
      forall path, k segments = .ok path ->
        exists rest', g (simpleNode segments :: stack, segments :: rest) =
          .ok (simpleNode path :: stack, path :: rest')) :
    LeavesPath (fun s => f s >>= g) (r >>= k) := by
  intro stack m
  cases r with
  | error e =>
      have hfailed : f (stack, m) = .error e := (hf stack m).left e rfl
      constructor
      · intro e' he
        cases he
        show f (stack, m) >>= g = _
        rw [hfailed]
        rfl
      · intro path hp
        cases hp
  | ok segments =>
      rcases (hf stack m).right segments rfl with ⟨rest, hrun⟩
      show (forall e, k segments = .error e -> f (stack, m) >>= g = .error e) ∧
        forall path, k segments = .ok path ->
          exists rest', f (stack, m) >>= g = .ok (simpleNode path :: stack, path :: rest')
      rw [hrun]
      exact hg segments stack rest

theorem visit_path (rt : Runtime) {r : Rule} (t : Tree r) (h : t.isPath = true) :
    LeavesPath (visit rt t) (t.path rt) := by
  induction t with
  | exprOne t ih => exact ih h
  | orOne t ih => exact ih h
  | andOne t ih => exact ih h
  | relationOne t ih => exact ih h
  | additionOne t ih => exact ih h
  | multiplicationOne t ih => exact ih h
  | unaryOne t ih => exact ih h
  | memberPrimary t ih => exact ih h
  | memberDot t name ih =>
      refine (ih h).bind fun segments stack rest => ⟨?_, ?_⟩
      · intro e he
        cases he
      · intro path hp
        cases hp
        exact ⟨rest, rfl⟩
  | memberIndex t index iht ihi =>
      replace h := Bool.and_eq_true_iff.mp h
      refine (iht h.left).bind fun segments stack rest => ?_
      have hindex := visit_literal_apply rt index h.right
        (simpleNode segments :: stack) (segments :: rest)
      rw [hindex]
      cases index.value rt with
      | error e =>
          constructor
          · intro e' he
            cases he
            rfl
          · intro path hp
            cases hp
      | ok key =>
          constructor
          · intro e he
            cases he
          · intro path hp
            cases hp
            exact ⟨segments :: rest, rfl⟩
  | ident name =>
      intro stack m
      constructor
      · intro e he
        cases he
      · intro path hp
        cases hp
        exact ⟨[], rfl⟩
  | _ => cases h

theorem LeavesPath.leaves {f : Visitor} {r : Except PyException (List String)}
    (hf : LeavesPath f r) : Leaves f (r >>= fun segments => .ok (simpleNode segments)) := by
  intro stack m
  cases r with
  | error e =>
      rw [(hf stack m).left e rfl]
      rfl
  | ok path =>
      rcases (hf stack m).right path rfl with ⟨rest, hrun⟩
      rw [hrun]
      rfl

/-!
## The visit of the fragment
-/

/-- Every AST of the fragment other than a list is accepted as a `Node`. -/
theorem structuralAst_validates (rt : Runtime) {r : Rule} (t : Tree r)
    (hl : t.isList = false) :
    forall x, t.structuralAst rt = .ok x -> validateNode x = .ok x := by
  induction t with
  | exprOne t ih => exact ih hl
  | orOne t ih => exact ih hl
  | or left right ihl ihr =>
      intro x hx
      rcases bind_eq_ok.mp hx with ⟨l, _, hx⟩
      rcases bind_eq_ok.mp hx with ⟨y, _, hx⟩
      cases hx
      rfl
  | andOne t ih => exact ih hl
  | and left right ihl ihr =>
      intro x hx
      rcases bind_eq_ok.mp hx with ⟨l, _, hx⟩
      rcases bind_eq_ok.mp hx with ⟨y, _, hx⟩
      cases hx
      rfl
  | relationOne t ih => exact ih hl
  | relation op left right ihl ihr =>
      intro x hx
      rcases bind_eq_ok.mp hx with ⟨l, _, hx⟩
      rcases bind_eq_ok.mp hx with ⟨y, _, hx⟩
      cases hx
      rfl
  | additionOne t ih => exact ih hl
  | multiplicationOne t ih => exact ih hl
  | unaryOne t ih => exact ih hl
  | unary op t ih =>
      intro x hx
      rcases bind_eq_ok.mp hx with ⟨operand, _, hx⟩
      cases hx
      rfl
  | memberPrimary t ih => exact ih hl
  | memberDot t name ih =>
      intro x hx
      rcases bind_eq_ok.mp hx with ⟨segments, _, hx⟩
      cases hx
      rfl
  | memberDotArg t method arguments iht iha =>
      intro x hx
      cases arguments with
      | noArgs => cases hx
      | args items =>
          cases items with
          | exprlistSnoc init t => cases hx
          | exprlistOne argument =>
              rcases bind_eq_ok.mp hx with ⟨segments, _, hx⟩
              rcases bind_eq_ok.mp hx with ⟨v, _, hx⟩
              rcases bind_eq_ok.mp hx with ⟨op, _, hx⟩
              cases hx
              rfl
  | memberIndex t index iht ihi =>
      intro x hx
      rcases bind_eq_ok.mp hx with ⟨segments, _, hx⟩
      cases hx
      rfl
  | identArg name arguments ih =>
      intro x hx
      cases arguments with
      | noArgs => cases hx
      | args items =>
          cases items with
          | exprlistSnoc init t => cases hx
          | exprlistOne argument =>
              rcases bind_eq_ok.mp hx with ⟨segments, _, hx⟩
              cases hx
              rfl
  | ident name =>
      intro x hx
      cases hx
      rfl
  | parenExpr t ih =>
      intro x hx
      rcases bind_eq_ok.mp hx with ⟨expression, _, hx⟩
      cases hx
      rfl
  | listLit arguments ih => cases hl
  | literal token =>
      intro x hx
      rcases bind_eq_ok.mp hx with ⟨v, _, hx⟩
      cases hx
      rfl
  | _ =>
      intro x hx
      cases hx

/-- With operands that are nodes the validation of a logical node changes
nothing. -/
theorem logicalResult_of_nodes (op : LogicalNodeOperator) {left right : Except PyException Node}
    (hl : forall x, left = .ok x -> validateNode x = .ok x)
    (hr : forall y, right = .ok y -> validateNode y = .ok y) :
    (left >>= fun x => right >>= fun y => logicalResult op [y, x]) =
      (left >>= fun x => right >>= fun y => .ok (.logical x op y)) := by
  cases left with
  | error e => rfl
  | ok x =>
      cases right with
      | error e => rfl
      | ok y =>
          show logicalResult op [y, x] = .ok (.logical x op y)
          simp [logicalResult, hl x rfl, hr y rfl, bind, Except.bind]

theorem relationResult_of_nodes (op : RelationOp) {left right : Except PyException Node}
    (hl : forall x, left = .ok x -> validateNode x = .ok x) :
    ((left >>= fun x => relationOpResult op [x]) >>= fun x => right >>= fun y =>
        relationResult [y, x]) =
      (left >>= fun x => right >>= fun y => .ok (.comparison x op.operator y)) := by
  cases left with
  | error e => rfl
  | ok x =>
      show (relationOpResult op [x] >>= _) = _
      simp only [relationOpResult, hl x rfl]
      cases right <;> rfl

theorem parenExprResult_of_node {operand : Except PyException Node}
    (h : forall x, operand = .ok x -> validateNode x = .ok x) :
    (operand >>= fun x => parenExprResult [x]) =
      (operand >>= fun x => .ok (.parenthesis x)) := by
  cases operand with
  | error e => rfl
  | ok x =>
      show parenExprResult [x] = .ok (.parenthesis x)
      simp [parenExprResult, h x rfl, bind, Except.bind]

/-- A list literal is reversed by the pops of `exprlist` and again by
`list_lit`. -/
theorem visit_listLit (rt : Runtime) (items : Tree .exprlist) (h : items.areLiterals = true) :
    Leaves (visit rt (.listLit (.args items))) ((Tree.listLit (.args items)).structuralAst rt) := by
  intro stack m
  show ((visit rt items (stack, m) >>= exprlist items.exprlistLength) >>= listLit).map
    Prod.fst = (items.values rt >>= fun vs => .ok (Node.list (vs.map .constant))).map _
  rw [visit_literals rt items h]
  cases hvs : items.values rt with
  | error e => rfl
  | ok vs =>
      have hlen : ((vs.map Node.constant).reverse).length = items.exprlistLength := by
        rw [List.length_reverse, List.length_map]
        exact areLiterals_length rt items h vs hvs
      show ((exprlist items.exprlistLength ((vs.map Node.constant).reverse ++ stack, m) >>=
        listLit).map Prod.fst) = _
      rw [exprlist_operator _ _ hlen]
      simp [listLit, reversedList, pop, push, bind, Except.bind, Except.map]

theorem visit_methodCall (rt : Runtime) (t : Tree .member) (method : String)
    (argument : Tree .expr) (ht : t.isPath = true)
    (hmethod : method ∈ ["contains", "startsWith", "endsWith"])
    (hargument : argument.isLiteral = true) :
    Leaves (visit rt (.call t method argument))
      ((Tree.call t method argument).structuralAst rt) := by
  intro stack m
  show (visit rt t (stack, m) >>= fun s => (visit rt argument s >>= exprlist 1) >>=
      memberDotArg method true).map Prod.fst =
    (t.path rt >>= fun segments => argument.value rt >>= fun v => methodOperator method >>=
      fun op => .ok (Node.comparison (simpleNode segments) op (.constant v))).map _
  have hpath := visit_path rt t ht stack m
  cases hsegments : t.path rt with
  | error e =>
      rw [hpath.left e hsegments]
      rfl
  | ok segments =>
      rcases hpath.right segments hsegments with ⟨rest, hrun⟩
      rw [hrun]
      show ((visit rt argument (simpleNode segments :: stack, segments :: rest) >>=
        exprlist 1) >>= memberDotArg method true).map Prod.fst = _
      rw [visit_literal_apply rt argument hargument]
      cases argument.value rt with
      | error e => rfl
      | ok v =>
          show (memberDotArg method true (.list [.constant v] :: simpleNode segments :: stack,
            segments :: rest)).map Prod.fst = _
          rw [memberDotArg_apply]
          simp only [List.mem_cons, List.not_mem_nil, or_false] at hmethod
          rcases hmethod with rfl | rfl | rfl <;> rfl

theorem visit_has (rt : Runtime) (argument : Tree .expr) (h : argument.isPath = true) :
    Leaves (visit rt (.identArg "has" (.args (.exprlistOne argument))))
      ((Tree.identArg "has" (.args (.exprlistOne argument))).structuralAst rt) := by
  intro stack m
  show (((visit rt argument (stack, m)) >>= exprlist 1) >>= identArg "has").map Prod.fst =
    (argument.path rt >>= fun segments => .ok (Node.unary .has (simpleNode segments))).map _
  have hpath := visit_path rt argument h stack m
  cases hsegments : argument.path rt with
  | error e =>
      rw [hpath.left e hsegments]
      rfl
  | ok segments =>
      rcases hpath.right segments hsegments with ⟨rest, hrun⟩
      rw [hrun]
      rfl

theorem visit_leaves (rt : Runtime) {r : Rule} (t : Tree r) (hf : t.inFragment = true)
    (hp : t.listsPlaced = true) : Leaves (visit rt t) (t.structuralAst rt) := by
  induction t with
  | exprOne t ih => exact ih hf hp
  | orOne t ih => exact ih hf hp
  | or left right ihl ihr =>
      replace hf := Bool.and_eq_true_iff.mp hf
      change (left.listsPlaced && right.listsPlaced && !left.isList && !right.isList) = true at hp
      simp only [Bool.and_eq_true, Bool.not_eq_true'] at hp
      have hbinary := (ihl hf.left hp.left.left.left).binary (ihr hf.right hp.left.left.right)
        (logicalNode_operator .or)
      rw [logicalResult_of_nodes .or (structuralAst_validates rt left hp.left.right)
        (structuralAst_validates rt right hp.right)] at hbinary
      exact hbinary
  | andOne t ih => exact ih hf hp
  | and left right ihl ihr =>
      replace hf := Bool.and_eq_true_iff.mp hf
      change (left.listsPlaced && right.listsPlaced && !left.isList && !right.isList) = true at hp
      simp only [Bool.and_eq_true, Bool.not_eq_true'] at hp
      have hbinary := (ihl hf.left hp.left.left.left).binary (ihr hf.right hp.left.left.right)
        (logicalNode_operator .and)
      rw [logicalResult_of_nodes .and (structuralAst_validates rt left hp.left.right)
        (structuralAst_validates rt right hp.right)] at hbinary
      exact hbinary
  | relationOne t ih => exact ih hf hp
  | relation op left right ihl ihr =>
      replace hf := Bool.and_eq_true_iff.mp hf
      change (left.listsPlaced && right.listsPlaced && !left.isList) = true at hp
      simp only [Bool.and_eq_true, Bool.not_eq_true'] at hp
      have hleft := (ihl hf.left hp.left.left).comp (relationOp_operator op)
      have hbinary := hleft.binary (ihr hf.right hp.left.right) relation_operator
      rw [relationResult_of_nodes op (structuralAst_validates rt left hp.right)] at hbinary
      intro stack m
      rw [show visit rt (.relation op left right) (stack, m) =
        ((visit rt left (stack, m) >>= relationOp op) >>= fun s =>
          visit rt right s >>= relation) from by rw [bind_assoc]; rfl]
      exact hbinary stack m
  | additionOne t ih => exact ih hf hp
  | multiplicationOne t ih => exact ih hf hp
  | unaryOne t ih => exact ih hf hp
  | unary op t ih => exact (unaryOp_operator op).leaves.binary (ih hf hp) unary_operator
  | memberPrimary t ih => exact ih hf hp
  | memberDot t name ih => exact (visit_path rt (.memberDot t name) hf).leaves
  | memberDotArg t method arguments iht iha =>
      cases arguments with
      | noArgs => cases hf
      | args items =>
          cases items with
          | exprlistSnoc init t => cases hf
          | exprlistOne argument =>
              change (t.isPath && method ∈ ["contains", "startsWith", "endsWith"] &&
                argument.isLiteral) = true at hf
              simp only [Bool.and_eq_true, decide_eq_true_eq] at hf
              exact visit_methodCall rt t method argument hf.left.left hf.left.right hf.right
  | memberIndex t index iht ihi => exact (visit_path rt (.memberIndex t index) hf).leaves
  | identArg name arguments ih =>
      cases arguments with
      | noArgs => cases hf
      | args items =>
          cases items with
          | exprlistSnoc init t => cases hf
          | exprlistOne argument =>
              change (name == "has" && argument.isPath) = true at hf
              simp only [Bool.and_eq_true, beq_iff_eq] at hf
              rcases hf with ⟨rfl, hargument⟩
              exact visit_has rt argument hargument
  | ident name => exact (visit_path rt (.ident name) rfl).leaves
  | parenExpr t ih =>
      change (t.listsPlaced && !t.isList) = true at hp
      simp only [Bool.and_eq_true, Bool.not_eq_true'] at hp
      have hparen := (ih hf hp.left).comp parenExpr_operator
      rw [parenExprResult_of_node (structuralAst_validates rt t hp.right)] at hparen
      exact hparen
  | listLit arguments ih =>
      cases arguments with
      | noArgs => cases hf
      | args items => exact visit_listLit rt items hf
  | literal token =>
      intro stack m
      show (literal rt token (stack, m)).map Prod.fst =
        (toConstantNode rt token >>= fun v => .ok (Node.constant v)).map _
      cases hv : toConstantNode rt token <;>
        simp [literal, push, hv, bind, Except.bind, Except.map]
  | _ => cases hf

/-!
## Accepted literals

The recursion only fails where `to_constant_node` does.
-/

theorem isOk_iff {x : Except PyException Value} :
    x.isOk = true <-> exists v, x = .ok v := by
  cases x with
  | error e => simp [Except.isOk, Except.toBool]
  | ok v => simp [Except.isOk, Except.toBool]

theorem value_ok (rt : Runtime) {r : Rule} (t : Tree r) (h : t.isLiteral = true)
    (ha : t.literalsAccepted rt = true) : exists v, t.value rt = .ok v := by
  induction t with
  | exprOne t ih => exact ih h ha
  | orOne t ih => exact ih h ha
  | andOne t ih => exact ih h ha
  | relationOne t ih => exact ih h ha
  | additionOne t ih => exact ih h ha
  | multiplicationOne t ih => exact ih h ha
  | unaryOne t ih => exact ih h ha
  | memberPrimary t ih => exact ih h ha
  | literal token => exact isOk_iff.mp ha
  | _ => cases h

theorem values_ok (rt : Runtime) {r : Rule} (t : Tree r) (h : t.areLiterals = true)
    (ha : t.literalsAccepted rt = true) : exists vs, t.values rt = .ok vs := by
  induction t with
  | exprlistOne t ih =>
      rcases value_ok rt t h ha with ⟨v, hv⟩
      exact ⟨[v], bind_eq_ok.mpr ⟨v, hv, rfl⟩⟩
  | exprlistSnoc init t ihi iht =>
      replace h := Bool.and_eq_true_iff.mp h
      replace ha := Bool.and_eq_true_iff.mp ha
      rcases ihi h.left ha.left with ⟨vs, hvs⟩
      rcases value_ok rt t h.right ha.right with ⟨v, hv⟩
      exact ⟨vs ++ [v], bind_eq_ok.mpr ⟨vs, hvs, bind_eq_ok.mpr ⟨v, hv, rfl⟩⟩⟩
  | _ => cases h

theorem path_ok (rt : Runtime) {r : Rule} (t : Tree r) (h : t.isPath = true)
    (ha : t.literalsAccepted rt = true) : exists segments, t.path rt = .ok segments := by
  induction t with
  | exprOne t ih => exact ih h ha
  | orOne t ih => exact ih h ha
  | andOne t ih => exact ih h ha
  | relationOne t ih => exact ih h ha
  | additionOne t ih => exact ih h ha
  | multiplicationOne t ih => exact ih h ha
  | unaryOne t ih => exact ih h ha
  | memberPrimary t ih => exact ih h ha
  | memberDot t name ih =>
      rcases ih h ha with ⟨segments, hsegments⟩
      exact ⟨segments ++ [name], bind_eq_ok.mpr ⟨segments, hsegments, rfl⟩⟩
  | memberIndex t index iht ihi =>
      replace h := Bool.and_eq_true_iff.mp h
      replace ha := Bool.and_eq_true_iff.mp ha
      rcases iht h.left ha.left with ⟨segments, hsegments⟩
      rcases value_ok rt index h.right ha.right with ⟨key, hkey⟩
      exact ⟨segments ++ [key.text],
        bind_eq_ok.mpr ⟨segments, hsegments, bind_eq_ok.mpr ⟨key, hkey, rfl⟩⟩⟩
  | ident name => exact ⟨[name], rfl⟩
  | _ => cases h

theorem methodOperator_ok {method : String}
    (h : method ∈ ["contains", "startsWith", "endsWith"]) :
    exists op, methodOperator method = .ok op := by
  simp only [List.mem_cons, List.not_mem_nil, or_false] at h
  rcases h with rfl | rfl | rfl
  · exact ⟨.contains, rfl⟩
  · exact ⟨.startsWith, rfl⟩
  · exact ⟨.endsWith, rfl⟩

theorem structuralAst_ok (rt : Runtime) {r : Rule} (t : Tree r) (hf : t.inFragment = true)
    (ha : t.literalsAccepted rt = true) : exists x, t.structuralAst rt = .ok x := by
  induction t with
  | exprOne t ih => exact ih hf ha
  | orOne t ih => exact ih hf ha
  | or left right ihl ihr =>
      replace hf := Bool.and_eq_true_iff.mp hf
      replace ha := Bool.and_eq_true_iff.mp ha
      rcases ihl hf.left ha.left with ⟨x, hx⟩
      rcases ihr hf.right ha.right with ⟨y, hy⟩
      exact ⟨.logical x .or y, bind_eq_ok.mpr ⟨x, hx, bind_eq_ok.mpr ⟨y, hy, rfl⟩⟩⟩
  | andOne t ih => exact ih hf ha
  | and left right ihl ihr =>
      replace hf := Bool.and_eq_true_iff.mp hf
      replace ha := Bool.and_eq_true_iff.mp ha
      rcases ihl hf.left ha.left with ⟨x, hx⟩
      rcases ihr hf.right ha.right with ⟨y, hy⟩
      exact ⟨.logical x .and y, bind_eq_ok.mpr ⟨x, hx, bind_eq_ok.mpr ⟨y, hy, rfl⟩⟩⟩
  | relationOne t ih => exact ih hf ha
  | relation op left right ihl ihr =>
      replace hf := Bool.and_eq_true_iff.mp hf
      replace ha := Bool.and_eq_true_iff.mp ha
      rcases ihl hf.left ha.left with ⟨x, hx⟩
      rcases ihr hf.right ha.right with ⟨y, hy⟩
      exact ⟨.comparison x op.operator y,
        bind_eq_ok.mpr ⟨x, hx, bind_eq_ok.mpr ⟨y, hy, rfl⟩⟩⟩
  | additionOne t ih => exact ih hf ha
  | multiplicationOne t ih => exact ih hf ha
  | unaryOne t ih => exact ih hf ha
  | unary op t ih =>
      rcases ih hf ha with ⟨x, hx⟩
      exact ⟨.unary op.operator x, bind_eq_ok.mpr ⟨x, hx, rfl⟩⟩
  | memberPrimary t ih => exact ih hf ha
  | memberDot t name ih =>
      rcases path_ok rt (.memberDot t name) hf ha with ⟨segments, hsegments⟩
      exact ⟨simpleNode segments, bind_eq_ok.mpr ⟨segments, hsegments, rfl⟩⟩
  | memberDotArg t method arguments iht iha =>
      cases arguments with
      | noArgs => cases hf
      | args items =>
          cases items with
          | exprlistSnoc init t => cases hf
          | exprlistOne argument =>
              change (t.isPath && method ∈ ["contains", "startsWith", "endsWith"] &&
                argument.isLiteral) = true at hf
              simp only [Bool.and_eq_true, decide_eq_true_eq] at hf
              replace ha := Bool.and_eq_true_iff.mp ha
              rcases path_ok rt t hf.left.left ha.left with ⟨segments, hsegments⟩
              rcases value_ok rt argument hf.right ha.right with ⟨v, hv⟩
              rcases methodOperator_ok hf.left.right with ⟨op, hop⟩
              exact ⟨.comparison (simpleNode segments) op (.constant v),
                bind_eq_ok.mpr ⟨segments, hsegments, bind_eq_ok.mpr ⟨v, hv, bind_eq_ok.mpr ⟨op, hop, rfl⟩⟩⟩⟩
  | memberIndex t index iht ihi =>
      rcases path_ok rt (.memberIndex t index) hf ha with ⟨segments, hsegments⟩
      exact ⟨simpleNode segments, bind_eq_ok.mpr ⟨segments, hsegments, rfl⟩⟩
  | identArg name arguments ih =>
      cases arguments with
      | noArgs => cases hf
      | args items =>
          cases items with
          | exprlistSnoc init t => cases hf
          | exprlistOne argument =>
              replace hf := Bool.and_eq_true_iff.mp hf
              rcases path_ok rt argument hf.right ha with ⟨segments, hsegments⟩
              exact ⟨.unary .has (simpleNode segments), bind_eq_ok.mpr ⟨segments, hsegments, rfl⟩⟩
  | ident name => exact ⟨simpleNode [name], rfl⟩
  | parenExpr t ih =>
      rcases ih hf ha with ⟨x, hx⟩
      exact ⟨.parenthesis x, bind_eq_ok.mpr ⟨x, hx, rfl⟩⟩
  | listLit arguments ih =>
      cases arguments with
      | noArgs => cases hf
      | args items =>
          rcases values_ok rt items hf ha with ⟨vs, hvs⟩
          exact ⟨.list (vs.map .constant), bind_eq_ok.mpr ⟨vs, hvs, rfl⟩⟩
  | literal token =>
      rcases isOk_iff.mp ha with ⟨v, hv⟩
      exact ⟨.constant v, bind_eq_ok.mpr ⟨v, hv, rfl⟩⟩
  | _ => cases hf

/-- The claim of the fragment for one tree: the visit ends with the structural AST
as the only element of the stack. -/
def VisitedStructurally (rt : Runtime) (t : Tree .expr) : Prop :=
  exists x m, t.structuralAst rt = .ok x ∧ visit rt t ([], []) = .ok ([x], m)

theorem visitedStructurally_of_lists_placed (rt : Runtime) (t : Tree .expr)
    (hf : t.inFragment = true) (ha : t.literalsAccepted rt = true)
    (hp : t.listsPlaced = true) : VisitedStructurally rt t := by
  rcases structuralAst_ok rt t hf ha with ⟨x, hx⟩
  have hleaves := visit_leaves rt t hf hp
  rw [hx] at hleaves
  rcases hleaves.ok [] [] with ⟨m, hrun⟩
  exact ⟨x, m, hx, hrun⟩

/-- `path[index] op [values]` -/
def memberInList : Tree .expr :=
  .ofRelation (.relation .isIn
    (.ofUnary (.ofMember (.memberIndex (.memberPrimary (.ident "a")) (.ofLiteral "\"k\""))))
    (.additionOne (.multiplicationOne (.unaryOne (.memberPrimary (.listLit (.args
      (.exprlistSnoc (.exprlistOne (.ofLiteral "1")) (.ofLiteral "2")))))))))

theorem visitedStructurally_memberInList : VisitedStructurally asciiRuntime memberInList :=
  visitedStructurally_of_lists_placed asciiRuntime memberInList rfl rfl rfl

/-- `[1] == x` -/
def listAsLeftOperand : Tree .expr :=
  .ofRelation (.relation .eq
    (.ofUnary (.ofMember (.memberPrimary (.listLit (.args (.exprlistOne (.ofLiteral "1")))))))
    (.additionOne (.multiplicationOne (.unaryOne (.memberPrimary (.ident "x"))))))

/-- A list is not a `Node`, so it cannot be the first operand of a comparison. -/
theorem listAsLeftOperand_not_visited :
    ¬ (listAsLeftOperand.inFragment = true ->
      listAsLeftOperand.literalsAccepted asciiRuntime = true ->
      VisitedStructurally asciiRuntime listAsLeftOperand) := by
  intro h
  rcases h rfl rfl with ⟨x, m, _, hrun⟩
  have herror : visit asciiRuntime listAsLeftOperand ([], []) = .error .validationError := rfl
  rw [herror] at hrun
  cases hrun

end Cel
end KeepGateway
