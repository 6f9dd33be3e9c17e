import Mathlib.Data.List.Basic

/-!
# Concatenated words

Two lists of as many words have one concatenation if they are the same, or if at the first words
that differ one goes on where the other stops and the words after it make up for that.
-/

namespace KeepGateway
namespace Concatenations

variable {α : Type}

/-- The words differ, and what one has more is made up for by later words of the other list. -/
inductive RunsOver : List (List α) -> List (List α) -> Prop where
  | later {word : List α} {words others : List (List α)} :
      RunsOver words others -> RunsOver (word :: words) (word :: others)
  | left {word more : List α} {words others : List (List α)} :
      more ≠ [] -> more ++ words.flatten = others.flatten ->
        RunsOver ((word ++ more) :: words) (word :: others)
  | right {word more : List α} {words others : List (List α)} :
      more ≠ [] -> words.flatten = more ++ others.flatten ->
        RunsOver (word :: words) ((word ++ more) :: others)

theorem RunsOver.flatten_eq {words others : List (List α)} (h : RunsOver words others) :
    words.flatten = others.flatten := by
  induction h with
  | later _ ih => rw [List.flatten_cons, List.flatten_cons, ih]
  | left _ h => rw [List.flatten_cons, List.flatten_cons, List.append_assoc, h]
  | right _ h => rw [List.flatten_cons, List.flatten_cons, List.append_assoc, h]

theorem RunsOver.ne {words others : List (List α)} (h : RunsOver words others) :
    words ≠ others := by
  induction h with
  | later _ ih => exact fun heq => ih (List.cons.inj heq).2
  | left hmore _ => exact fun heq => hmore (List.append_right_eq_self.mp (List.cons.inj heq).1)
  | right hmore _ =>
      exact fun heq => hmore (List.append_right_eq_self.mp (List.cons.inj heq).1.symm)

theorem flatten_eq_iff {words others : List (List α)} (hlength : words.length = others.length) :
    words.flatten = others.flatten <-> words = others ∨ RunsOver words others := by
  constructor
  · intro h
    induction words generalizing others with
    | nil => exact Or.inl (List.length_eq_zero_iff.mp hlength.symm).symm
    | cons word words ih =>
        cases others with
        | nil => cases hlength
        | cons other others =>
            rw [List.flatten_cons, List.flatten_cons] at h
            rcases List.append_eq_append_iff.mp h with ⟨more, hother, hrest⟩ | ⟨more, hword, hrest⟩
            · cases more with
              | nil =>
                  rw [List.append_nil] at hother
                  rw [hother]
                  rcases ih (Nat.succ.inj hlength) hrest with heq | hover
                  · exact Or.inl (by rw [heq])
                  · exact Or.inr (.later hover)
              | cons c more =>
                  rw [hother]
                  exact Or.inr (.right (List.cons_ne_nil c more) hrest)
            · cases more with
              | nil =>
                  rw [List.append_nil] at hword
                  rw [hword]
                  rcases ih (Nat.succ.inj hlength) hrest.symm with heq | hover
                  · exact Or.inl (by rw [heq])
                  · exact Or.inr (.later hover)
              | cons c more =>
                  rw [hword]
                  exact Or.inr (.left (List.cons_ne_nil c more) hrest.symm)
  · rintro (h | h)
    · rw [h]
    · exact h.flatten_eq

end Concatenations
end KeepGateway
