import Mathlib.Data.List.Basic
import Mathlib.Data.List.DropRight

/-!
# Spans of a list

Reading the longest prefix whose elements satisfy a predicate, where it is known what follows,
and stripping both ends of a list.
-/

namespace KeepGateway
namespace Spans

variable {α : Type} {p : α -> Bool}

/-- The list does not begin with an element that satisfies the predicate. -/
def StopsAt (p : α -> Bool) (l : List α) : Prop := forall a rest, l = a :: rest -> p a = false

theorem stopsAt_nil : StopsAt p [] := by
  intro a rest h
  cases h

theorem stopsAt_cons {a : α} {rest : List α} : StopsAt p (a :: rest) <-> p a = false := by
  constructor
  · intro h
    exact h a rest rfl
  · intro h b more heq
    rw [← (List.cons.inj heq).1]
    exact h

theorem takeWhile_append_stop {l rest : List α} (hl : l.all p = true) (hrest : StopsAt p rest) :
    (l ++ rest).takeWhile p = l := by
  rw [List.takeWhile_append_of_pos (List.all_eq_true.mp hl)]
  cases rest with
  | nil => rw [List.takeWhile_nil, List.append_nil]
  | cons a rest =>
      rw [List.takeWhile_cons_of_neg (by rw [stopsAt_cons.mp hrest]; exact Bool.false_ne_true),
        List.append_nil]

theorem dropWhile_append_stop {l rest : List α} (hl : l.all p = true) (hrest : StopsAt p rest) :
    (l ++ rest).dropWhile p = rest := by
  rw [List.dropWhile_append_of_pos (List.all_eq_true.mp hl)]
  cases rest with
  | nil => exact List.dropWhile_nil
  | cons a rest =>
      exact List.dropWhile_cons_of_neg (by rw [stopsAt_cons.mp hrest]; exact Bool.false_ne_true)

/-- The list without the elements at both ends that satisfy the predicate. -/
def strip (p : α -> Bool) (l : List α) : List α := (l.dropWhile p).rdropWhile p

theorem mem_strip {l : List α} {a : α} (ha : a ∈ l) (hp : p a = false) : a ∈ strip p l := by
  have hdrop : a ∈ l.dropWhile p := by
    rw [← List.takeWhile_append_dropWhile (p := p) (l := l)] at ha
    rcases List.mem_append.mp ha with htake | hdrop
    · have hpa := List.all_eq_true.mp (List.all_takeWhile (p := p) (l := l)) a htake
      rw [hp] at hpa
      cases hpa
    · exact hdrop
  have hright := List.rdropWhile_append_rtakeWhile (p := p) (l := l.dropWhile p)
  rw [← hright] at hdrop
  rcases List.mem_append.mp hdrop with hkept | htail
  · exact hkept
  · have hpa := List.mem_rtakeWhile_imp htail
    rw [hp] at hpa
    cases hpa

/-- An end that satisfies the predicate throughout is stripped to the last element before it
that does not. -/
theorem rdropWhile_append_of_all {l rest : List α} {a : α} (ha : p a = false)
    (hrest : rest.all p = true) : (l ++ a :: rest).rdropWhile p = l ++ [a] := by
  induction rest using List.reverseRecOn with
  | nil => exact List.rdropWhile_concat_neg _ _ _ (by rw [ha]; exact Bool.false_ne_true)
  | append_singleton rest b ih =>
      rw [List.all_append, Bool.and_eq_true] at hrest
      have hb : p b = true := by simpa using hrest.2
      have happend : l ++ a :: (rest ++ [b]) = (l ++ a :: rest) ++ [b] := by simp
      rw [happend, List.rdropWhile_concat_pos _ _ _ hb]
      exact ih hrest.1

/-- An element that stops the stripping keeps all that is before it. -/
theorem rdropWhile_append_cons (l rest : List α) {a : α} (ha : p a = false) :
    exists more, (l ++ a :: rest).rdropWhile p = l ++ a :: more := by
  induction rest using List.reverseRecOn with
  | nil =>
      exact ⟨[], List.rdropWhile_concat_neg _ _ _ (by rw [ha]; exact Bool.false_ne_true)⟩
  | append_singleton rest b ih =>
      have happend : l ++ a :: (rest ++ [b]) = (l ++ a :: rest) ++ [b] := by simp
      rcases Bool.eq_false_or_eq_true (p b) with hb | hb
      · rw [happend, List.rdropWhile_concat_pos _ _ _ hb]
        exact ih
      · refine ⟨rest ++ [b], ?_⟩
        rw [happend]
        exact List.rdropWhile_concat_neg _ _ _ (by rw [hb]; exact Bool.false_ne_true)

/-- Of a list with both ends to keep, only what follows is stripped. -/
theorem strip_append_of_all {l rest : List α} (hne : l ≠ [])
    (hhead : forall a, l.head? = some a -> p a = false)
    (hlast : forall a, l.getLast? = some a -> p a = false) (hrest : rest.all p = true) :
    strip p (l ++ rest) = l := by
  have hdrop : (l ++ rest).dropWhile p = l ++ rest := by
    cases l with
    | nil => exact absurd rfl hne
    | cons a l =>
        exact List.dropWhile_cons_of_neg (by rw [hhead a rfl]; exact Bool.false_ne_true)
  rcases List.eq_nil_or_concat l with hnil | ⟨front, a, hl⟩
  · exact absurd hnil hne
  · rw [strip, hdrop, hl]
    rw [hl, List.concat_eq_append, List.getLast?_concat] at hlast
    rw [List.concat_eq_append, List.append_assoc]
    exact rdropWhile_append_of_all (hlast a rfl) hrest

/-- Both ends of a list are stripped whatever is within. -/
theorem strip_cons_concat {a b : α} (ha : p a = true) (hb : p b = true) (l : List α) :
    strip p (a :: (l ++ [b])) = strip p l := by
  rw [strip, strip, List.dropWhile_cons_of_pos ha, List.dropWhile_append]
  split
  · next hempty =>
      rw [List.dropWhile_cons_of_pos hb, List.isEmpty_iff.mp hempty, List.dropWhile_nil]
  · exact List.rdropWhile_concat_pos _ _ _ hb

end Spans

/-!
## Splits of lists

A list split at one of its items, and what is said of every item and those before it.
-/

namespace Splits

variable {α : Type}

/-- A split of a longer list is at its last item, or a split of the list. -/
theorem split_concat {l before after : List α} {last a : α}
    (h : l ++ [last] = before ++ a :: after) :
    (before = l ∧ a = last ∧ after = []) ∨
      exists rest, after = rest ++ [last] ∧ l = before ++ a :: rest := by
  rcases List.eq_nil_or_concat after with hnil | ⟨rest, b, hafter⟩
  · rw [hnil] at h
    rcases List.append_inj' h rfl with ⟨hl, hlast⟩
    exact Or.inl ⟨hl.symm, (List.cons.inj hlast).1.symm, hnil⟩
  · rw [List.concat_eq_append] at hafter
    rw [hafter, ← List.cons_append, ← List.append_assoc] at h
    rcases List.append_inj' h rfl with ⟨hl, hlast⟩
    rw [← (List.cons.inj hlast).1] at hafter
    exact Or.inr ⟨rest, hafter, hl⟩

/-- What is said of every item and those before it, of a list with one more item. -/
theorem forall_split_concat {p : List α -> α -> Prop} {l : List α} {last : α} :
    (forall before a after, l ++ [last] = before ++ a :: after -> p before a) <->
      (forall before a after, l = before ++ a :: after -> p before a) ∧ p l last := by
  constructor
  · intro h
    refine ⟨?_, h l last [] rfl⟩
    intro before a after heq
    refine h before a (after ++ [last]) ?_
    rw [heq, List.append_assoc]
    rfl
  · rintro ⟨hl, hlast⟩ before a after heq
    rcases split_concat heq with ⟨rfl, rfl, _⟩ | ⟨rest, _, hsplit⟩
    · exact hlast
    · exact hl before a rest hsplit

/-- A list with an item of a kind is split at the last of them. -/
theorem exists_last {p : α -> Prop} {l : List α} (h : exists a, a ∈ l ∧ p a) :
    exists before a after, l = before ++ a :: after ∧ p a ∧ forall b, b ∈ after -> ¬ p b := by
  induction l with
  | nil =>
      rcases h with ⟨a, hmem, _⟩
      cases hmem
  | cons first rest ih =>
      rcases Classical.em (exists a, a ∈ rest ∧ p a) with hrest | hnone
      · rcases ih hrest with ⟨before, a, after, heq, ha, hafter⟩
        exact ⟨first :: before, a, after, by rw [heq]; rfl, ha, hafter⟩
      · rcases h with ⟨a, hmem, ha⟩
        rcases List.mem_cons.mp hmem with hfirst | hrest
        · exact ⟨[], first, rest, rfl, hfirst ▸ ha, fun b hb hp => hnone ⟨b, hb, hp⟩⟩
        · exact absurd ⟨a, hrest, ha⟩ hnone

/-- A text without the separator that occurs on both sides of one occurs on one of them. -/
theorem infix_or_infix {text before after : List α} {separator : α}
    (hfree : separator ∉ text) (h : text <:+: before ++ separator :: after) :
    text <:+: before ∨ text <:+: after := by
  rcases h with ⟨front, back, heq⟩
  rw [List.append_assoc, List.append_eq_append_iff] at heq
  rcases heq with ⟨more, hbefore, hrest⟩ | ⟨more, hfront, hrest⟩
  · rcases List.append_eq_append_iff.mp hrest with ⟨rest, hmore, _⟩ | ⟨rest, htext, hafter⟩
    · exact Or.inl ⟨front, rest, by rw [hbefore, hmore, List.append_assoc]⟩
    · cases rest with
      | nil => exact Or.inl ⟨front, [], by rw [hbefore, htext]; simp⟩
      | cons first rest =>
          rw [List.cons_append] at hafter
          rw [(List.cons.inj hafter).1, htext] at hfree
          exact absurd (List.mem_append_right _ List.mem_cons_self) hfree
  · cases more with
    | nil =>
        cases text with
        | nil => exact Or.inl (List.nil_infix)
        | cons first text =>
            rw [List.nil_append, List.cons_append] at hrest
            rw [(List.cons.inj hrest).1] at hfree
            exact absurd List.mem_cons_self hfree
    | cons first more =>
        rw [List.cons_append] at hrest
        exact Or.inr ⟨more, back, by rw [(List.cons.inj hrest).2, List.append_assoc]⟩

end Splits

end KeepGateway
