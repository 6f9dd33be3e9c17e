import KeepGateway.Cel.AlertFields
import KeepGateway.Cel.Negation
import KeepGateway.Cel.StringLiterals

/-!
# Equalities

What the SQL of `field == literal` selects: the rows whose column the database finds equal to
the value that the literal is read as.
-/

namespace KeepGateway
namespace Cel

open Sql

/-!
## Numbers and Booleans
-/

/-- Python reads the digits of ASCII, and neither they nor a minus are spaces. -/
structure Runtime.Digits (rt : Runtime) : Prop where
  digit : forall c : Char, c.isDigit = true -> rt.decimal c = some (c.toNat - '0'.toNat)
  numeral : forall c : Char, c.isDigit = true ∨ c = '-' -> rt.isSpace c = false

section Numbers

variable {rt : Runtime}

/-- The literal of a Boolean. -/
def boolLiteral (b : Bool) : String := if b = true then "true" else "false"

end Numbers

/-!
## Trees
-/

/-- `name == literal` -/
def equalityTree (name literal : String) : Tree .expr :=
  .ofRelation (.relation .eq
    (.relationOne (.additionOne (.multiplicationOne (.unaryOne (.memberPrimary (.ident name))))))
    (.additionOne (.multiplicationOne (.unaryOne (.memberPrimary (.literal literal))))))

/-- The equality that a tree is converted to, unless its literal is not read. -/
def equality (name : String) (value : Value) : Node :=
  .comparison (simpleNode [name]) .eq (.constant value)

section Selections

variable {p : Provider} {celpy : Celpy} {cel name literal : String}

end Selections

end Cel
end KeepGateway
