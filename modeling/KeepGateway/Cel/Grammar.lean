import Mathlib.Data.List.Basic

/-!
# celpy parse trees

The trees that the celpy parser builds, one constructor for each production of
the grammar.  The index is the grammar rule of the root, so only trees that the
grammar derives can be written down.
-/

namespace KeepGateway
namespace Cel

inductive Rule where
  | expr
  | conditionalor
  | conditionaland
  | relation
  | addition
  | multiplication
  | unary
  | member
  | primary
  | exprlist
  | args
  | fieldinits
  | mapinits

inductive RelationOp where
  | lt
  | le
  | gt
  | ge
  | eq
  | ne
  | isIn
  deriving DecidableEq, Repr

inductive AdditionOp where
  | add
  | sub
  deriving DecidableEq, Repr

inductive MultiplicationOp where
  | mul
  | div
  | mod
  deriving DecidableEq, Repr

inductive UnaryOp where
  | not
  | neg
  deriving DecidableEq, Repr

/-- Parse trees.  The constructors ending in `One` are the rules that pass a
single child up; `args` is the optional argument list of a call or a list
literal. -/
inductive Tree : Rule -> Type where
  | exprOne : Tree .conditionalor -> Tree .expr
  | exprCond : Tree .conditionalor -> Tree .conditionalor -> Tree .expr -> Tree .expr
  | orOne : Tree .conditionaland -> Tree .conditionalor
  | or : Tree .conditionalor -> Tree .conditionaland -> Tree .conditionalor
  | andOne : Tree .relation -> Tree .conditionaland
  | and : Tree .conditionaland -> Tree .relation -> Tree .conditionaland
  | relationOne : Tree .addition -> Tree .relation
  | relation : RelationOp -> Tree .relation -> Tree .addition -> Tree .relation
  | additionOne : Tree .multiplication -> Tree .addition
  | addition : AdditionOp -> Tree .addition -> Tree .multiplication -> Tree .addition
  | multiplicationOne : Tree .unary -> Tree .multiplication
  | multiplication : MultiplicationOp -> Tree .multiplication -> Tree .unary ->
      Tree .multiplication
  | unaryOne : Tree .member -> Tree .unary
  | unary : UnaryOp -> Tree .member -> Tree .unary
  | memberPrimary : Tree .primary -> Tree .member
  | memberDot : Tree .member -> String -> Tree .member
  | memberDotArg : Tree .member -> String -> Tree .args -> Tree .member
  | memberIndex : Tree .member -> Tree .expr -> Tree .member
  | memberObject : Tree .member -> Tree .fieldinits -> Tree .member
  | dotIdentArg : String -> Tree .args -> Tree .primary
  | dotIdent : String -> Tree .primary
  | identArg : String -> Tree .args -> Tree .primary
  | ident : String -> Tree .primary
  | parenExpr : Tree .expr -> Tree .primary
  | listLit : Tree .args -> Tree .primary
  | mapLit : Tree .mapinits -> Tree .primary
  | literal : String -> Tree .primary
  | noArgs : Tree .args
  | args : Tree .exprlist -> Tree .args
  | exprlistOne : Tree .expr -> Tree .exprlist
  | exprlistSnoc : Tree .exprlist -> Tree .expr -> Tree .exprlist
  | noFieldinits : Tree .fieldinits
  | fieldinitsSnoc : Tree .fieldinits -> String -> Tree .expr -> Tree .fieldinits
  | noMapinits : Tree .mapinits
  | mapinitsSnoc : Tree .mapinits -> Tree .expr -> Tree .expr -> Tree .mapinits

namespace Tree

/-!
## Passing a rule up

The chains of single-child rules that celpy puts above a tree.
-/

def ofMember (t : Tree .member) : Tree .unary := unaryOne t

def ofUnary (t : Tree .unary) : Tree .relation :=
  relationOne (additionOne (multiplicationOne t))

def ofRelation (t : Tree .relation) : Tree .expr :=
  exprOne (orOne (andOne t))

def ofPrimary (t : Tree .primary) : Tree .expr :=
  ofRelation (ofUnary (ofMember (memberPrimary t)))

def ofLiteral (value : String) : Tree .expr := ofPrimary (literal value)

/-- The call `t.method(argument)`. -/
def call (t : Tree .member) (method : String) (argument : Tree .expr) : Tree .member :=
  memberDotArg t method (args (exprlistOne argument))

/-- A parenthesised expression standing as an operand of `&&` or `||`. -/
def parenRelation (t : Tree .expr) : Tree .relation :=
  ofUnary (ofMember (memberPrimary (parenExpr t)))

/-- The whole expression `(a)`. -/
def paren (a : Tree .expr) : Tree .expr := ofRelation (parenRelation a)

/-- The number of children of an `exprlist`. -/
def exprlistLength : {r : Rule} -> Tree r -> Nat
  | _, exprlistOne _ => 1
  | _, exprlistSnoc init _ => init.exprlistLength + 1
  | _, _ => 0

end Tree

end Cel
end KeepGateway
