import Mathlib.Data.List.Infix

/-!
# Strings and separators

`str.startswith`, `str.endswith`, `in`, `str.split` and `str.join` on strings, as they are on
lists of characters.
-/

namespace KeepGateway
namespace Separated

/-!
## Lists
-/

section Lists

variable {α : Type} [DecidableEq α]

/-- The pieces of a list, for a separator that is not empty.  `piece` holds the piece that is
being read, reversed; of a separator that was found, `skip` elements are left to pass. -/
def splitFrom (sep : List α) : Nat -> List α -> List α -> List (List α)
  | _, piece, [] => [piece.reverse]
  | skip + 1, piece, _ :: rest => splitFrom sep skip piece rest
  | 0, piece, c :: rest =>
      if sep.isPrefixOf (c :: rest) then
        piece.reverse :: splitFrom sep (sep.length - 1) [] rest
      else splitFrom sep 0 (c :: piece) rest

theorem splitFrom_ne_nil (sep : List α) (skip : Nat) (piece s : List α) :
    splitFrom sep skip piece s ≠ [] := by
  induction s generalizing skip piece with
  | nil => exact List.cons_ne_nil _ _
  | cons c rest ih =>
      cases skip with
      | succ skip => exact ih skip piece
      | zero =>
          unfold splitFrom
          split
          · exact List.cons_ne_nil _ _
          · exact ih 0 (c :: piece)

/-- The last piece ends what is read; inside a separator no piece is being read. -/
theorem getLastD_splitFrom (sep : List α) {skip : Nat} {piece : List α}
    (hpiece : skip = 0 ∨ piece = []) (s : List α) :
    (splitFrom sep skip piece s).getLastD [] <:+ piece.reverse ++ s := by
  induction s generalizing skip piece with
  | nil =>
      rw [List.append_nil]
      exact List.suffix_refl _
  | cons c rest ih =>
      cases skip with
      | succ skip =>
          have hnone : piece = [] := hpiece.resolve_left (Nat.succ_ne_zero skip)
          rw [hnone]
          exact (ih (.inr rfl)).trans (List.suffix_cons c rest)
      | zero =>
          unfold splitFrom
          split
          · have hlast : (piece.reverse :: splitFrom sep (sep.length - 1) [] rest).getLastD [] =
                (splitFrom sep (sep.length - 1) [] rest).getLastD [] := by
              have hne := splitFrom_ne_nil sep (sep.length - 1) [] rest
              cases hsplit : splitFrom sep (sep.length - 1) [] rest with
              | nil => exact absurd hsplit hne
              | cons first more => rfl
            rw [hlast]
            refine (ih (.inr rfl)).trans ?_
            exact (List.suffix_cons c rest).trans (List.suffix_append _ _)
          · have hread := @ih 0 (c :: piece) (.inl rfl)
            rw [List.reverse_cons, List.append_assoc] at hread
            exact hread

end Lists

/-!
## Strings
-/

/-- `s.startswith(p)` -/
def startsWith (s p : String) : Bool := p.toList.isPrefixOf s.toList

/-- `s.endswith(p)` -/
def endsWith (s p : String) : Bool := p.toList.isSuffixOf s.toList

/-- `part in s` -/
def occursIn (part s : String) : Bool := decide (part.toList <:+: s.toList)

/-- `s.split(sep)`, for a separator that is not empty -/
def split (sep s : String) : List String :=
  (splitFrom sep.toList 0 [] s.toList).map String.ofList

/-- `sep.join(pieces)` -/
def join (sep : String) (pieces : List String) : String :=
  String.ofList (sep.toList.intercalate (pieces.map String.toList))

theorem occursIn_of_infix {part s : String} (h : part.toList <:+: s.toList) :
    occursIn part s = true := decide_eq_true h

/-- The last piece of a string occurs in it. -/
theorem occursIn_getLastD_split (sep s : String) :
    occursIn ((split sep s).getLastD "") s = true := by
  have hlast : ((split sep s).getLastD "").toList =
      (splitFrom sep.toList 0 [] s.toList).getLastD [] := by
    have hne := splitFrom_ne_nil sep.toList 0 [] s.toList
    unfold split
    rw [List.getLastD_eq_getLast?, List.getLastD_eq_getLast?, List.getLast?_map]
    cases h : (splitFrom sep.toList 0 [] s.toList).getLast? with
    | none => exact absurd (List.getLast?_eq_none_iff.mp h) hne
    | some last =>
        simp only [Option.map_some, Option.getD_some]
        exact String.toList_ofList
  refine occursIn_of_infix ?_
  rw [hlast]
  exact (getLastD_splitFrom sep.toList (.inl rfl) s.toList).isInfix

end Separated

/-!
## Replacing in a list

Replacing the occurrences of a list that begins with a mark and has no other mark, so that no two
occurrences overlap.
-/

namespace Replace

variable {α : Type} [DecidableEq α]

/-- What `text.replace(old, new)` returns, for an `old` that is not empty.  Of an occurrence that
was found, `skip` elements are left to pass. -/
def replaceAll (old new : List α) : Nat -> List α -> List α
  | _, [] => []
  | skip + 1, _ :: rest => replaceAll old new skip rest
  | 0, a :: rest =>
      if old <+: a :: rest then new ++ replaceAll old new (old.length - 1) rest
      else a :: replaceAll old new 0 rest

/-- The number of places where the list occurs in the text. -/
def occurrences (old : List α) : List α -> Nat
  | [] => 0
  | a :: rest => (if old <+: a :: rest then 1 else 0) + occurrences old rest

variable {old new : List α}

theorem replaceAll_skip (text rest : List α) :
    replaceAll old new text.length (text ++ rest) = replaceAll old new 0 rest := by
  induction text with
  | nil => rfl
  | cons a text ih => exact ih

theorem replaceAll_cons {a : α} {rest : List α} (h : ¬ old <+: a :: rest) :
    replaceAll old new 0 (a :: rest) = a :: replaceAll old new 0 rest := by
  rw [replaceAll, if_neg h]

section Marked

variable {mark : α} {body : List α}

theorem replaceAll_occurrence (rest : List α) :
    replaceAll (mark :: body) new 0 (mark :: body ++ rest) =
      new ++ replaceAll (mark :: body) new 0 rest := by
  rw [List.cons_append, replaceAll, if_pos ⟨rest, rfl⟩]
  exact congrArg (new ++ ·) (replaceAll_skip body rest)

omit [DecidableEq α] in
theorem not_prefix_of_ne {a : α} (h : a ≠ mark) (rest : List α) :
    ¬ mark :: body <+: a :: rest := by
  intro hprefix
  exact h (List.cons_prefix_cons.mp hprefix).1.symm

/-- A text without the mark is passed as it is. -/
theorem replaceAll_append {text : List α} (h : mark ∉ text) (rest : List α) :
    replaceAll (mark :: body) new 0 (text ++ rest) =
      text ++ replaceAll (mark :: body) new 0 rest := by
  induction text with
  | nil => rfl
  | cons a text ih =>
      rw [List.mem_cons, not_or] at h
      rw [List.cons_append, replaceAll_cons (not_prefix_of_ne (Ne.symm h.1) _), ih h.2,
        List.cons_append]

theorem occurrences_append {text : List α} (h : mark ∉ text) (rest : List α) :
    occurrences (mark :: body) (text ++ rest) = occurrences (mark :: body) rest := by
  induction text with
  | nil => rfl
  | cons a text ih =>
      rw [List.mem_cons, not_or] at h
      rw [List.cons_append, occurrences, if_neg (not_prefix_of_ne (Ne.symm h.1) _), ih h.2,
        Nat.zero_add]

end Marked

end Replace

end KeepGateway
