import Mathlib.Logic.Basic

/-!
# Three-valued truth

The truth values of a condition that may meet missing values, with the connectives that
find an answer wherever the known operands alone decide it.
-/

namespace KeepGateway

inductive Truth where
  | yes
  | no
  | unknown
  deriving DecidableEq, Repr

namespace Truth

def ofBool : Bool -> Truth
  | true => yes
  | false => no

def not : Truth -> Truth
  | yes => no
  | no => yes
  | unknown => unknown

def and : Truth -> Truth -> Truth
  | no, _ => no
  | _, no => no
  | yes, t => t
  | unknown, _ => unknown

def or : Truth -> Truth -> Truth
  | yes, _ => yes
  | _, yes => yes
  | no, t => t
  | unknown, _ => unknown

@[simp] theorem yes_and (a : Truth) : and yes a = a := by
  cases a <;> rfl

@[simp] theorem no_or (a : Truth) : or no a = a := by
  cases a <;> rfl

@[simp] theorem or_no (a : Truth) : or a no = a := by
  cases a <;> rfl

@[simp] theorem no_and (a : Truth) : and no a = no := by
  cases a <;> rfl

@[simp] theorem or_yes (a : Truth) : or a yes = yes := by
  cases a <;> rfl

theorem and_assoc (a b c : Truth) : and (and a b) c = and a (and b c) := by
  cases a <;> cases b <;> cases c <;> rfl

theorem or_assoc (a b c : Truth) : or (or a b) c = or a (or b c) := by
  cases a <;> cases b <;> cases c <;> rfl

theorem and_eq_yes {a b : Truth} : and a b = yes <-> a = yes ∧ b = yes := by
  cases a <;> cases b <;> simp [and]

theorem or_eq_yes {a b : Truth} : or a b = yes <-> a = yes ∨ b = yes := by
  cases a <;> cases b <;> simp [or]

@[simp] theorem and_ofBool (a b : Bool) : and (ofBool a) (ofBool b) = ofBool (a && b) := by
  cases a <;> cases b <;> rfl

@[simp] theorem or_ofBool (a b : Bool) : or (ofBool a) (ofBool b) = ofBool (a || b) := by
  cases a <;> cases b <;> rfl

@[simp] theorem not_ofBool (a : Bool) : not (ofBool a) = ofBool !a := by
  cases a <;> rfl

theorem foldl_no {α : Type} (f : α -> Truth) (items : List α) :
    items.foldl (fun t item => and t (f item)) no = no := by
  induction items with
  | nil => rfl
  | cons item rest ih =>
      rw [List.foldl_cons, no_and]
      exact ih

/-- Exactly one of a condition and its negation holds where the condition is decided. -/
theorem xor_not_iff {a : Truth} : Xor (a = yes) (not a = yes) <-> a ≠ unknown := by
  cases a <;> simp [not, Xor]

end Truth

end KeepGateway
