import KeepGateway.Cel.AstNodes
import KeepGateway.Cel.Grammar

/-!
# The CEL to AST converter

`CelToAstConverter` visits a celpy parse tree children first, left to right,
and calls the method named after each rule on two stacks: the operands, and the
property nodes that member access may extend.
-/

namespace KeepGateway
namespace Cel

/-!
## Literals

`int()`, the two date patterns and `to_constant_node`.
-/

def isDecimal (rt : Runtime) (c : Char) : Bool := (rt.decimal c).isSome

/-- The digits of an `int()` literal; an underscore may stand between two. -/
def intDigits (rt : Runtime) : Nat -> List Char -> Option Nat
  | acc, [] => some acc
  | acc, '_' :: c :: rest =>
      match rt.decimal c with
      | some d => intDigits rt (10 * acc + d) rest
      | none => none
  | acc, c :: rest =>
      match rt.decimal c with
      | some d => intDigits rt (10 * acc + d) rest
      | none => none

def unsignedInt (rt : Runtime) : List Char -> Option Nat
  | [] => none
  | c :: rest =>
      match rt.decimal c with
      | some d => intDigits rt d rest
      | none => none

def strip (rt : Runtime) (cs : List Char) : List Char :=
  ((cs.dropWhile rt.isSpace).reverse.dropWhile rt.isSpace).reverse

/-- Python's `int(value)`; `none` is `ValueError`. -/
def pyInt (rt : Runtime) (value : String) : Option Int :=
  match strip rt value.toList with
  | '-' :: cs => (unsignedInt rt cs).map fun n => -(n : Int)
  | '+' :: cs => (unsignedInt rt cs).map fun n => (n : Int)
  | cs => (unsignedInt rt cs).map fun n => (n : Int)

def isNumber (rt : Runtime) (value : String) : Bool := (pyInt rt value).isSome

def isFloat (rt : Runtime) (value : String) : Bool := (rt.float value).isSome

/-- Reads exactly `n` digits. -/
def takeDigits (rt : Runtime) : Nat -> List Char -> Option (List Char)
  | 0, cs => some cs
  | n + 1, c :: cs => if isDecimal rt c then takeDigits rt n cs else none
  | _ + 1, [] => none

def takeChar (expected : Char) : List Char -> Option (List Char)
  | [] => none
  | c :: cs => if c = expected then some cs else none

/-- `(\d{4})-(\d{2})-(\d{2})` -/
def takeDate (rt : Runtime) (cs : List Char) : Option (List Char) := do
  let cs <- takeDigits rt 4 cs
  let cs <- takeChar '-' cs
  let cs <- takeDigits rt 2 cs
  let cs <- takeChar '-' cs
  takeDigits rt 2 cs

/-- `(\d{2}):(\d{2}):(\d{2})` -/
def takeTime (rt : Runtime) (cs : List Char) : Option (List Char) := do
  let cs <- takeDigits rt 2 cs
  let cs <- takeChar ':' cs
  let cs <- takeDigits rt 2 cs
  let cs <- takeChar ':' cs
  takeDigits rt 2 cs

/-- `(?:\.(\d+))?` -/
def takeFraction (rt : Runtime) : List Char -> List Char
  | '.' :: c :: cs =>
      if isDecimal rt c then cs.dropWhile (isDecimal rt) else '.' :: c :: cs
  | cs => cs

/-- `(?:Z|[+-]\d{2}:\d{2})?` -/
def takeZone (rt : Runtime) : List Char -> List Char
  | [] => []
  | c :: cs =>
      if c = 'Z' then cs
      else if c = '+' ∨ c = '-' then
        (do
          let rest <- takeDigits rt 2 cs
          let rest <- takeChar ':' rest
          takeDigits rt 2 rest).getD (c :: cs)
      else c :: cs

/-- `$` also matches before a final newline. -/
def atEnd (cs : List Char) : Bool := cs == [] || cs == ['\n']

def isoRegex (rt : Runtime) (cs : List Char) : Bool :=
  match (takeDate rt cs).bind (takeChar 'T') |>.bind (takeTime rt) with
  | some rest => atEnd (takeZone rt (takeFraction rt rest))
  | none => false

/-- `(?:\s(\d{2}):(\d{2}):(\d{2}))?` -/
def takeSpacedTime (rt : Runtime) : List Char -> List Char
  | [] => []
  | c :: cs => if rt.isSpace c then (takeTime rt cs).getD (c :: cs) else c :: cs

def datetimeRegex (rt : Runtime) (cs : List Char) : Bool :=
  match takeDate rt cs with
  | some rest => atEnd (takeSpacedTime rt rest)
  | none => false

def isDate (rt : Runtime) (value : String) : Bool :=
  isoRegex rt value.toList || datetimeRegex rt value.toList

/-- `re.sub(r'\\(["\'])', r"\1", value)` -/
def unescapeQuotes : List Char -> List Char
  | [] => []
  | '\\' :: c :: cs =>
      if c = '"' ∨ c = '\'' then c :: unescapeQuotes cs
      else '\\' :: unescapeQuotes (c :: cs)
  | c :: cs => c :: unescapeQuotes cs

def isQuotedBy (q : Char) (cs : List Char) : Bool :=
  cs.head? == some q && cs.getLast? == some q

/-- `value[1:-1]` -/
def trimEnds (cs : List Char) : List Char := (cs.drop 1).dropLast

def toConstantNode (rt : Runtime) (value : String) : Except PyException Value :=
  if value = "null" ∨ value = "NULL" then .ok .none
  else if isQuotedBy '"' value.toList || isQuotedBy '\'' value.toList then
    let value := String.ofList (trimEnds value.toList)
    if !isNumber rt value && isDate rt value then
      match rt.parse value with
      | some d => .ok (.datetime d)
      | none => .error (.valueError "ParserError")
    else .ok (.str (String.ofList (unescapeQuotes value.toList)))
  else if value = "true" ∨ value = "false" then .ok (.bool (value == "true"))
  else if value.toList.contains '.' && isFloat rt value then
    match rt.float value with
    | some r => .ok (.float r)
    | none => .error (.valueError "could not convert string to float")
  else
    match pyInt rt value with
    | some n => .ok (.int n)
    | none => .error (.valueError ("Unknown literal type: " ++ value))

/-!
## Text of nodes

`str()` of what an index expression or a ternary operand evaluates to.
-/

def Value.text : Value -> String
  | .none => "None"
  | .bool true => "True"
  | .bool false => "False"
  | .int n => toString n
  | .float r => r
  | .str s => s
  | .datetime d => d.str

def LogicalNodeOperator.text : LogicalNodeOperator -> String
  | .and => "LogicalNodeOperator.AND"
  | .or => "LogicalNodeOperator.OR"

def ComparisonNodeOperator.text : ComparisonNodeOperator -> String
  | .lt => "ComparisonNodeOperator.LT"
  | .le => "ComparisonNodeOperator.LE"
  | .gt => "ComparisonNodeOperator.GT"
  | .ge => "ComparisonNodeOperator.GE"
  | .eq => "ComparisonNodeOperator.EQ"
  | .ne => "ComparisonNodeOperator.NE"
  | .isIn => "ComparisonNodeOperator.IN"
  | .contains => "ComparisonNodeOperator.CONTAINS"
  | .startsWith => "ComparisonNodeOperator.STARTS_WITH"
  | .endsWith => "ComparisonNodeOperator.ENDS_WITH"

def UnaryNodeOperator.text : UnaryNodeOperator -> String
  | .not => "UnaryNodeOperator.NOT"
  | .neg => "UnaryNodeOperator.NEG"
  | .has => "UnaryNodeOperator.HAS"

/-- `str(node)`.  A constant returns its value, which must be a string, and a
property node reads the attribute `value`, which it does not have. -/
def Node.text (rt : Runtime) : Node -> Except PyException String
  | .constant (.str s) => .ok s
  | .constant _ => .error .typeError
  | .parenthesis e => do
      let e <- e.text rt
      .ok ("(" ++ e ++ ")")
  | .logical l op r => do
      let l <- l.text rt
      let r <- r.text rt
      .ok (l ++ " " ++ op.text ++ " " ++ r)
  | .comparison l op r => do
      let l <- l.text rt
      let r <- r.text rt
      .ok (l ++ " " ++ op.text ++ " " ++ r)
  | .unary .has x => do
      let x <- x.text rt
      .ok (x ++ "(" ++ UnaryNodeOperator.has.text ++ ")")
  | .unary op x => do
      let x <- x.text rt
      .ok (op.text ++ x)
  | .propertyAccess _ => .error .attributeError
  | .multipleFields fields dataType => .ok (rt.repr (.multipleFields fields dataType))
  | .node => .ok "node_type=None"
  | .none => .ok "None"
  | .list items => .ok (rt.repr (.list items))
  | .dict l op r => .ok (rt.repr (.dict l op r))
  | .str s => .ok s

/-!
## The visitor methods
-/

/-- The operand stack and the member access stack, tops first. -/
abbrev State := List Node × List (List String)

abbrev Visitor := State -> Except PyException State

def pop : State -> Except PyException (Node × State)
  | ([], _) => .error .indexError
  | (x :: stack, memberAccessStack) => .ok (x, (stack, memberAccessStack))

def push (x : Node) (s : State) : State := (x :: s.1, s.2)

/-- The validation of a field declared `Node`.  A dict is read as the keyword
arguments of a `Node`, which keeps none of them; a list or a string is not a
dict. -/
def validateNode : Node -> Except PyException Node
  | .list _ => .error .validationError
  | .str _ => .error .validationError
  | .none => .error .validationError
  | .dict _ _ _ => .ok .node
  | x => .ok x

/-- The validation of a field declared `Optional[Node | Any]`: what is not a
node is kept as it is. -/
def validateAny : Node -> Node
  | .dict _ _ _ => .node
  | x => x

def expr (rt : Runtime) : Visitor := fun s => do
  let (right, s) <- pop s
  let (left, s) <- pop s
  let (cond, s) <- pop s
  let cond <- cond.text rt
  let left <- left.text rt
  let right <- right.text rt
  .ok (push (.str (cond ++ " ? " ++ left ++ " : " ++ right)) s)

def logicalNode (op : LogicalNodeOperator) : Visitor := fun s => do
  let (right, s) <- pop s
  let (left, s) <- pop s
  let left <- validateNode left
  let right <- validateNode right
  .ok (push (.logical left op right) s)

def conditionalor : Visitor := logicalNode .or

def conditionaland : Visitor := logicalNode .and

def RelationOp.operator : RelationOp -> ComparisonNodeOperator
  | .lt => .lt
  | .le => .le
  | .gt => .gt
  | .ge => .ge
  | .eq => .eq
  | .ne => .ne
  | .isIn => .isIn

/-- `relation_lt` and its siblings push a comparison that still lacks its
second operand. -/
def relationOp (op : RelationOp) : Visitor := fun s => do
  let (first, s) <- pop s
  let first <- validateNode first
  .ok (push (.comparison first op.operator .none) s)

/-- The exception of assigning a field that an object does not have. -/
def noField (field : String) : Node -> PyException
  | .none => .attributeError
  | .list _ => .attributeError
  | .dict _ _ _ => .attributeError
  | .str _ => .attributeError
  | _ => .valueError ("object has no field \"" ++ field ++ "\"")

def relation : Visitor := fun s => do
  let (second, s) <- pop s
  let (comparison, s) <- pop s
  match comparison with
  | .comparison first op _ => .ok (push (.comparison first op second) s)
  | x => .error (noField "second_operand" x)

def AdditionOp.text : AdditionOp -> String
  | .add => "ADD"
  | .sub => "SUB"

def MultiplicationOp.text : MultiplicationOp -> String
  | .mul => "MUL"
  | .div => "DIV"
  | .mod => "MOD"

/-- `addition_add` and its siblings. -/
def arithmeticOp (op : String) : Visitor := fun s => do
  let (left, s) <- pop s
  .ok (push (.dict left op .none) s)

/-- `addition` and `multiplication`: the dict gets its key `right`. -/
def arithmetic : Visitor := fun s => do
  let (right, s) <- pop s
  let (left, s) <- pop s
  match left with
  | .dict l op _ => .ok (push (.dict l op right) s)
  | _ => .error .typeError

def UnaryOp.operator : UnaryOp -> UnaryNodeOperator
  | .not => .not
  | .neg => .neg

/-- `unary_not` and `unary_neg`. -/
def unaryOp (op : UnaryOp) : Visitor := fun s =>
  .ok (push (.unary op.operator .none) s)

def unary : Visitor := fun s => do
  let (operand, s) <- pop s
  let (unaryNode, s) <- pop s
  match unaryNode with
  | .unary op _ => .ok (push (.unary op operand) s)
  | x => .error (noField "operand" x)

def memberDot (right : String) : Visitor := fun s =>
  match s with
  | (stack, []) => .ok (stack, [])
  | (stack, path :: memberAccessStack) => do
      let path := path ++ [right]
      let (_, s) <- pop (stack, path :: memberAccessStack)
      .ok (push (simpleNode path) s)

/-- Reading a method name as a `ComparisonNodeOperator`.  Names are accepted in
lower case before, but only the exact values are members of the enumeration. -/
def methodOperator : String -> Except PyException ComparisonNodeOperator
  | "contains" => .ok .contains
  | "startsWith" => .ok .startsWith
  | "endsWith" => .ok .endsWith
  | _ => .error .validationError

/-- `xs[0]` -/
def subscriptZero : Node -> Except PyException Node
  | .list [] => .error .indexError
  | .list (x :: _) => .ok x
  | .str s =>
      match s.toList with
      | [] => .error .indexError
      | c :: _ => .ok (.str (String.singleton c))
  | .dict _ _ _ => .error .keyError
  | _ => .error .typeError

/-- `hasArgs` tells whether the tree has an argument list, whose visit left a
list on the stack.  The method name is an identifier, so it is ASCII. -/
def memberDotArg (right : String) (hasArgs : Bool) : Visitor := fun s => do
  let (exprlist, s) <- if hasArgs then pop s else .ok (.list [], s)
  if s.2 = [] then .error (.valueError "No member access stack")
  else
    if asciiLower right ∈ ["contains", "startswith", "endswith"] then do
      let (first, s) <- pop s
      let second <- subscriptZero exprlist
      let first <- validateNode first
      let op <- methodOperator right
      .ok (push (.comparison first op (validateAny second)) s)
    else .error (.notImplementedError ("Method '" ++ right ++ "' not implemented"))

/-- `str(right)` of an index, after a constant was replaced by its value. -/
def indexText (rt : Runtime) : Node -> Except PyException String
  | .constant value => .ok value.text
  | right => right.text rt

def memberIndex (rt : Runtime) : Visitor := fun s => do
  let (right, s) <- pop s
  let (left, s) <- pop s
  match left with
  | .propertyAccess (.simple path _) => do
      let key <- indexText rt right
      let path := path ++ [key]
      .ok (simpleNode path :: s.1, path :: s.2)
  | _ => .error .attributeError

def identArg (name : String) : Visitor := fun s =>
  if name = "has" then do
    let (args, s) <- pop s
    let operand <- subscriptZero args
    let operand <- validateNode operand
    .ok (push (.unary .has operand) s)
  else
    .error (.notImplementedError ("Ident arg not implemented for token_value:" ++ name))

def ident (name : String) : Visitor := fun s =>
  .ok (simpleNode [name] :: s.1, [[name]])

def parenExpr : Visitor := fun s =>
  match s.1 with
  | [] => .error (.valueError "Cannot handle parenthesis expression without stack")
  | _ => do
      let (expression, s) <- pop s
      let expression <- validateNode expression
      .ok (push (.parenthesis expression) s)

/-- `[item for item in reversed(left)]` -/
def reversedList : Node -> Except PyException Node
  | .list items => .ok (.list items.reverse)
  | .str s => .ok (.list (s.toList.reverse.map fun c => .str (String.singleton c)))
  | .dict _ _ .none => .ok (.list [.str "operator", .str "left"])
  | .dict _ _ _ => .ok (.list [.str "right", .str "operator", .str "left"])
  | _ => .error .typeError

def listLit : Visitor := fun s =>
  match s.1 with
  | [] => .ok s
  | _ => do
      let (left, s) <- pop s
      let items <- reversedList left
      .ok (push items s)

def popN : Nat -> State -> Except PyException (List Node × State)
  | 0, s => .ok ([], s)
  | n + 1, s => do
      let (x, s) <- pop s
      let (xs, s) <- popN n s
      .ok (x :: xs, s)

def exprlist (n : Nat) : Visitor := fun s => do
  let (items, s) <- popN n s
  .ok (push (.list items) s)

def literal (rt : Runtime) (value : String) : Visitor := fun s => do
  let value <- toConstantNode rt value
  .ok (push (.constant value) s)

def notImplemented (message : String) : Visitor := fun _ =>
  .error (.notImplementedError message)

/-!
## The visit
-/

def Tree.hasArgs : Tree .args -> Bool
  | .noArgs => false
  | .args _ => true

/-- The entries of field or map initialisers are visited before their method
raises; without entries the method of the parent does. -/
def Tree.hasInits : {r : Rule} -> Tree r -> Bool
  | _, .fieldinitsSnoc _ _ _ => true
  | _, .mapinitsSnoc _ _ _ => true
  | _, _ => false

def initsNotImplemented {r : Rule} (inits : Tree r) (own parent : String) : Visitor :=
  notImplemented (if inits.hasInits then own else parent)

/-- `Visitor_Recursive.visit`: the children left to right, then the method of
the rule.  A rule with one child has a method that does nothing. -/
def visit (rt : Runtime) : {r : Rule} -> Tree r -> Visitor
  | _, .exprOne t => visit rt t
  | _, .exprCond cond left right => fun s => do
      let s <- visit rt cond s
      let s <- visit rt left s
      let s <- visit rt right s
      expr rt s
  | _, .orOne t => visit rt t
  | _, .or left right => fun s => do
      let s <- visit rt left s
      let s <- visit rt right s
      conditionalor s
  | _, .andOne t => visit rt t
  | _, .and left right => fun s => do
      let s <- visit rt left s
      let s <- visit rt right s
      conditionaland s
  | _, .relationOne t => visit rt t
  | _, .relation op left right => fun s => do
      let s <- visit rt left s
      let s <- relationOp op s
      let s <- visit rt right s
      relation s
  | _, .additionOne t => visit rt t
  | _, .addition op left right => fun s => do
      let s <- visit rt left s
      let s <- arithmeticOp op.text s
      let s <- visit rt right s
      arithmetic s
  | _, .multiplicationOne t => visit rt t
  | _, .multiplication op left right => fun s => do
      let s <- visit rt left s
      let s <- arithmeticOp op.text s
      let s <- visit rt right s
      arithmetic s
  | _, .unaryOne t => visit rt t
  | _, .unary op t => fun s => do
      let s <- unaryOp op s
      let s <- visit rt t s
      unary s
  | _, .memberPrimary t => visit rt t
  | _, .memberDot t right => fun s => do
      let s <- visit rt t s
      memberDot right s
  | _, .memberDotArg t right args => fun s => do
      let s <- visit rt t s
      let s <- visit rt args s
      memberDotArg right args.hasArgs s
  | _, .memberIndex t index => fun s => do
      let s <- visit rt t s
      let s <- visit rt index s
      memberIndex rt s
  | _, .memberObject t inits => fun s => do
      let s <- visit rt t s
      let s <- visit rt inits s
      initsNotImplemented inits "Fieldinits not implemented"
        "Member object not implemented" s
  | _, .dotIdentArg _ args => fun s => do
      let s <- visit rt args s
      notImplemented "Dot ident arg not implemented" s
  | _, .dotIdent _ => notImplemented "Dot ident not implemented"
  | _, .identArg name args => fun s => do
      let s <- visit rt args s
      identArg name s
  | _, .ident name => ident name
  | _, .parenExpr t => fun s => do
      let s <- visit rt t s
      parenExpr s
  | _, .listLit args => fun s => do
      let s <- visit rt args s
      listLit s
  | _, .mapLit inits => fun s => do
      let s <- visit rt inits s
      initsNotImplemented inits "Mapinits not implemented"
        "Map literal not implemented" s
  | _, .literal value => literal rt value
  | _, .noArgs => .ok
  | _, .args t => fun s => do
      let s <- visit rt t s
      exprlist t.exprlistLength s
  | _, .exprlistOne t => visit rt t
  | _, .exprlistSnoc init t => fun s => do
      let s <- visit rt init s
      visit rt t s
  | _, .noFieldinits => .ok
  | _, .fieldinitsSnoc init _ t => fun s => do
      let s <- visit rt init s
      visit rt t s
  | _, .noMapinits => .ok
  | _, .mapinitsSnoc init key value => fun s => do
      let s <- visit rt init s
      let s <- visit rt key s
      visit rt value s

/-- `convert_to_ast` on a parsed expression: the bottom of the final stack. -/
def convertToAst (rt : Runtime) (t : Tree .expr) : Except PyException Node := do
  let s <- visit rt t ([], [])
  match s.1.getLast? with
  | some x => .ok x
  | none => .error .indexError

end Cel
end KeepGateway
