import KeepGateway.Rules.Substitutions

/-!
# The substitution of a word

One step of it at a time, and what it does to a text.
-/

namespace KeepGateway
namespace Rules

open Interleaved

/-- The last character of a text, or the one before it. -/
def lastOr (text : List Char) (before : Option Char) : Option Char := text.getLast?.or before

theorem lastOr_cons (c : Char) (text : List Char) (before : Option Char) :
    lastOr (c :: text) before = lastOr text (some c) := by
  rw [lastOr, lastOr, List.getLast?_cons]
  cases text.getLast? <;> rfl

variable {isAlnum : Char -> Bool} {word replacement : List Char}

/-!
## One match at a time
-/

theorem subWord_skip (text rest : List Char) (before : Option Char) :
    subWord isAlnum word replacement text.length before (text ++ rest) =
      subWord isAlnum word replacement 0 (lastOr text before) rest := by
  induction text generalizing before with
  | nil => rfl
  | cons c text ih =>
      rw [lastOr_cons, ← ih]
      rfl

theorem subWord_other {before : Option Char} {c : Char} {rest : List Char}
    (h : isFreeWord isAlnum word before (c :: rest) = false) :
    subWord isAlnum word replacement 0 before (c :: rest) =
      c :: subWord isAlnum word replacement 0 (some c) rest := by
  rw [subWord, h, if_neg Bool.false_ne_true]

/-- A free word is its letters, and no quote follows. -/
theorem isFreeWord_eq_true {before : Option Char} {text : List Char}
    (h : isFreeWord isAlnum word before text = true) :
    exists occurrence after, text = occurrence ++ after ∧ SameLetters word occurrence ∧
      forall c rest, after = c :: rest -> isQuote c = false := by
  rw [isFreeWord, Bool.and_eq_true] at h
  rcases h with ⟨_, h⟩
  cases hread : readWord word text with
  | none =>
      rw [hread] at h
      cases h
  | some after =>
      rcases readWord_eq_some.mp hread with ⟨occurrence, htext, hsame⟩
      refine ⟨occurrence, after, htext, hsame, ?_⟩
      intro c rest hafter
      rw [hread, hafter, Bool.and_eq_true, Bool.not_eq_true'] at h
      exact h.1

theorem subWord_free {before : Option Char} {occurrence after : List Char} (hword : word ≠ [])
    (hsame : SameLetters word occurrence)
    (h : isFreeWord isAlnum word before (occurrence ++ after) = true) :
    subWord isAlnum word replacement 0 before (occurrence ++ after) =
      replacement ++ subWord isAlnum word replacement 0 (lastOr occurrence before) after := by
  have hlength := hsame.length_eq
  cases occurrence with
  | nil =>
      rw [List.length_nil, List.length_eq_zero_iff] at hlength
      exact absurd hlength hword
  | cons c occurrence =>
      rw [List.cons_append] at h ⊢
      rw [subWord, if_pos h, hlength, List.length_cons, Nat.add_sub_cancel, subWord_skip,
        lastOr_cons]

/-- Along the scan of a text for the word: at a character where it is not, and at the word. -/
theorem word_induction (isAlnum : Char -> Bool) {word : List Char} (hword : word ≠ [])
    {P : Option Char -> List Char -> Prop} (nil : forall before, P before [])
    (other : forall before c rest, isFreeWord isAlnum word before (c :: rest) = false ->
      P (some c) rest -> P before (c :: rest))
    (free : forall before occurrence after,
      isFreeWord isAlnum word before (occurrence ++ after) = true -> SameLetters word occurrence ->
        (forall c rest, after = c :: rest -> isQuote c = false) ->
          P (lastOr occurrence before) after -> P before (occurrence ++ after))
    (before : Option Char) (text : List Char) : P before text := by
  induction hlength : text.length using Nat.strong_induction_on generalizing text before with
  | _ n ih =>
      cases text with
      | nil => exact nil before
      | cons c rest =>
          rcases Bool.eq_false_or_eq_true (isFreeWord isAlnum word before (c :: rest)) with
            hfree | hnot
          · rcases isFreeWord_eq_true hfree with ⟨occurrence, after, htext, hsame, hafter⟩
            have hpos : 0 < occurrence.length := by
              rw [← hsame.length_eq]
              exact List.length_pos_iff.mpr hword
            have hshorter := congrArg List.length htext
            rw [List.length_append, hlength] at hshorter
            rw [htext] at hfree ⊢
            exact free before occurrence after hfree hsame hafter
              (ih after.length (by omega) _ after rfl)
          · rw [List.length_cons] at hlength
            exact other before c rest hnot (ih rest.length (by omega) _ rest rfl)

/-!
## What is replaced
-/

theorem hasFreeWord_other {before : Option Char} {c : Char} {rest : List Char}
    (h : isFreeWord isAlnum word before (c :: rest) = false) :
    hasFreeWord isAlnum word before (c :: rest) = hasFreeWord isAlnum word (some c) rest := by
  rw [hasFreeWord, h, Bool.false_or]

theorem hasFreeWord_free {before : Option Char} {text : List Char}
    (hne : text ≠ []) (h : isFreeWord isAlnum word before text = true) :
    hasFreeWord isAlnum word before text = true := by
  cases text with
  | nil => exact absurd rfl hne
  | cons c rest => rw [hasFreeWord, h, Bool.true_or]

/-- Some number of occurrences is replaced, none if the word is not in the text. -/
theorem subWord_counts (hword : word ≠ []) (hletters : IsLetters word) (before : Option Char)
    (text : List Char) :
    exists k, (k = 0 -> hasFreeWord isAlnum word before text = false) ∧
      (subWord isAlnum word replacement 0 before text).length + k * word.length =
        text.length + k * replacement.length ∧
      forall p : Char -> Bool, (forall c, p c = true -> isMark c = true) ->
        (subWord isAlnum word replacement 0 before text).countP p =
          text.countP p + k * replacement.countP p := by
  induction before, text using word_induction isAlnum hword with
  | nil before =>
      refine ⟨0, fun _ => rfl, ?_, ?_⟩
      · rw [subWord, Nat.zero_mul, Nat.zero_mul]
      · intro p _
        rw [subWord, Nat.zero_mul, Nat.add_zero]
  | other before c rest hnot ih =>
      rcases ih with ⟨k, hzero, hlength, hcount⟩
      refine ⟨k, ?_, ?_, ?_⟩
      · rw [hasFreeWord_other hnot]
        exact hzero
      · rw [subWord_other hnot, List.length_cons, List.length_cons]
        omega
      · intro p hp
        rw [subWord_other hnot, List.countP_cons, List.countP_cons, hcount p hp]
        omega
  | free before occurrence after hfree hsame _ ih =>
      rcases ih with ⟨k, _, hlength, hcount⟩
      refine ⟨k + 1, fun h => absurd h (Nat.succ_ne_zero k), ?_, ?_⟩
      · rw [subWord_free hword hsame hfree, List.length_append, List.length_append,
          ← hsame.length_eq, Nat.add_mul, Nat.add_mul]
        omega
      · intro p hp
        have hoccurrence : occurrence.countP p = 0 := by
          rw [List.countP_eq_zero]
          intro c hc hpc
          have hmark := hsame.isMark hletters c hc
          rw [hp c hpc] at hmark
          cases hmark
        rw [subWord_free hword hsame hfree, List.countP_append, List.countP_append, hcount p hp,
          hoccurrence, Nat.add_mul]
        omega

/-- A text without the word stays as it is. -/
theorem subWord_eq_self (hword : word ≠ []) {before : Option Char} {text : List Char}
    (h : hasFreeWord isAlnum word before text = false) :
    subWord isAlnum word replacement 0 before text = text := by
  induction before, text using word_induction isAlnum hword with
  | nil before => rfl
  | other before c rest hnot ih =>
      rw [hasFreeWord_other hnot] at h
      rw [subWord_other hnot, ih h]
  | free before occurrence after hfree hsame _ _ =>
      have hne : occurrence ++ after ≠ [] := by
        intro hnil
        have hlength := hsame.length_eq
        rw [(List.append_eq_nil_iff.mp hnil).1, List.length_nil, List.length_eq_zero_iff] at hlength
        exact hword hlength
      rw [hasFreeWord_free hne hfree] at h
      cases h

end Rules
end KeepGateway
