import KeepGateway.Lib.Truth

/-!
# SQL conditions

Conditions of a WHERE clause over columns that may be NULL, with their text and with what
they say of a row in three-valued logic.  Expressions on a value and tests of a value are
texts around it, for which the database is a parameter.
-/

namespace KeepGateway
namespace Sql

/-- A text around one operand. -/
structure Frame where
  before : String
  after : String
  deriving DecidableEq, Repr

def Frame.text (frame : Frame) (operand : String) : String :=
  frame.before ++ operand ++ frame.after

/-- What a database makes of values other than NULL. -/
structure Database (V : Type) where
  literal : String -> V
  ofBool : Bool -> V
  apply : Frame -> V -> V
  test : Frame -> V -> Bool
  /-- Whether a subquery over the value finds a row. -/
  finds : Frame -> V -> Bool

/-- The values of the columns of a row, by the text that names the column. -/
abbrev Row (V : Type) := String -> Option V

/-!
## Expressions
-/

/-- The result of a branch of a `CASE`. -/
inductive Branch where
  | literal (text : String)
  | test (frame : Frame)
  deriving DecidableEq, Repr

/-- An expression on one operand. -/
inductive Function where
  | same
  | around (frame : Frame)
  | caseWhen (branches : List (Frame × Branch)) (otherwise : String)
  deriving DecidableEq, Repr

inductive Scalar where
  | column (text : String)
  | coalesce (columns : List String)
  | apply (function : Function) (operand : Scalar)
  deriving Repr

def Branch.text (operand : String) : Branch -> String
  | .literal text => text
  | .test frame => frame.text operand

def Function.text (operand : String) : Function -> String
  | .same => operand
  | .around frame => frame.text operand
  | .caseWhen branches otherwise =>
      "CASE " ++
        " ".intercalate (branches.map fun b =>
          "WHEN " ++ b.1.text operand ++ " THEN " ++ b.2.text operand) ++
        " ELSE " ++ otherwise ++ " END"

def Scalar.text : Scalar -> String
  | .column text => text
  | .coalesce columns => "COALESCE(" ++ ", ".intercalate columns ++ ")"
  | .apply function operand => function.text operand.text

section Evaluation

variable {V : Type} (db : Database V)

def Branch.eval (value : V) : Branch -> V
  | .literal text => db.literal text
  | .test frame => db.ofBool (db.test frame value)

/-- The tests of a `CASE` are unknown on NULL, so that its last branch is taken. -/
def Function.eval : Function -> Option V -> Option V
  | .same, value => value
  | .around frame, value => value.map (db.apply frame)
  | .caseWhen branches otherwise, value =>
      some (((value.bind fun v =>
        (branches.find? fun b => db.test b.1 v).map fun b => b.2.eval db v)).getD
          (db.literal otherwise))

def Scalar.eval (row : Row V) : Scalar -> Option V
  | .column text => row text
  | .coalesce columns => columns.findSome? row
  | .apply function operand => function.eval db (operand.eval row)

end Evaluation

/-!
## Conditions
-/

inductive Condition where
  | constant (value : Bool) (text : String)
  | test (frame : Frame) (operand : Scalar)
  | isNull (operand : Scalar)
  | isNotNull (operand : Scalar)
  | subquery (frame : Frame) (operand : Scalar)
  | paren (condition : Condition)
  | not (condition : Condition)
  | and (left right : Condition)
  | or (left right : Condition)
  deriving Repr

namespace Condition

def text : Condition -> String
  | constant _ text => text
  | test frame operand => frame.text operand.text
  | isNull operand => operand.text ++ " IS NULL"
  | isNotNull operand => operand.text ++ " IS NOT NULL"
  | subquery frame operand => frame.text operand.text
  | paren condition => "(" ++ condition.text ++ ")"
  | not condition => "NOT " ++ condition.text
  | and left right => left.text ++ " AND " ++ right.text
  | or left right => left.text ++ " OR " ++ right.text

/-- How tightly the outermost operator binds: `OR`, `AND`, `NOT`, none. -/
def level : Condition -> Nat
  | or _ _ => 0
  | and _ _ => 1
  | not _ => 2
  | _ => 3

/-- The text is grouped as the condition is, under the precedences of SQL. -/
def Grouped : Condition -> Prop
  | paren condition => condition.Grouped
  | not condition => 2 ≤ condition.level ∧ condition.Grouped
  | and left right =>
      (1 ≤ left.level ∧ left.Grouped) ∧ 2 ≤ right.level ∧ right.Grouped
  | or left right => left.Grouped ∧ 1 ≤ right.level ∧ right.Grouped
  | _ => True

/-- The conjunction that `left AND right` reads as: the operands of `right` join those of
`left` one by one. -/
def conj (left : Condition) : Condition -> Condition
  | and a b => and (conj left a) b
  | right => and left right

section Evaluation

variable {V : Type} (db : Database V) (row : Row V)

/-- A comparison with NULL is unknown. -/
def strictly (test : V -> Bool) : Option V -> Truth
  | none => .unknown
  | some v => .ofBool (test v)

/-- The value of a subquery is NULL where it finds no row. -/
def whereFound (finds : V -> Bool) : Option V -> Truth
  | none => .unknown
  | some v => if finds v then .yes else .unknown

def eval : Condition -> Truth
  | constant value _ => .ofBool value
  | test frame operand => strictly (db.test frame) (operand.eval db row)
  | isNull operand => .ofBool (operand.eval db row).isNone
  | isNotNull operand => .ofBool (operand.eval db row).isSome
  | subquery frame operand => whereFound (db.finds frame) (operand.eval db row)
  | paren condition => condition.eval
  | not condition => condition.eval.not
  | and left right => left.eval.and right.eval
  | or left right => left.eval.or right.eval

end Evaluation

/-!
## Conjunctions
-/

theorem text_conj (left right : Condition) :
    (conj left right).text = left.text ++ " AND " ++ right.text := by
  induction right with
  | and a b iha _ =>
      rw [conj, text, iha, text]
      simp only [String.append_assoc]
  | _ => rfl

theorem grouped_conj {left right : Condition} (hleft : 1 ≤ left.level ∧ left.Grouped)
    (hright : 1 ≤ right.level ∧ right.Grouped) :
    1 ≤ (conj left right).level ∧ (conj left right).Grouped := by
  induction right with
  | and a b iha _ =>
      rcases hright.2 with ⟨ha, hb⟩
      exact ⟨Nat.le_refl 1, iha ha, hb⟩
  | or a b => exact absurd hright.1 (Nat.not_succ_le_zero 0)
  | not a => exact ⟨Nat.le_refl 1, hleft, Nat.le_refl 2, hright.2⟩
  | _ => exact ⟨Nat.le_refl 1, hleft, Nat.le_succ 2, hright.2⟩

theorem eval_conj {V : Type} (db : Database V) (row : Row V) (left right : Condition) :
    (conj left right).eval db row = (left.eval db row).and (right.eval db row) := by
  induction right with
  | and a b iha _ =>
      rw [conj, eval, iha, Truth.and_assoc]
      rfl
  | _ => rfl

end Condition

/-!
## Filters
-/

/-- A WHERE clause, or none. -/
abbrev Filter := Option Condition

namespace Filter

def text : Filter -> String
  | none => ""
  | some condition => condition.text

/-- A row is selected where the condition is true. -/
def Selects {V : Type} (db : Database V) (row : Row V) : Filter -> Prop
  | none => True
  | some condition => condition.eval db row = .yes

end Filter

end Sql
end KeepGateway
