import KeepGateway.Rules.FreeWords
import KeepGateway.Rules.PiecewiseComparisons

/-!
# The substitution of a word, piece by piece

A word does not go beyond a quote, and it is not replaced right before one.
-/

namespace KeepGateway
namespace Rules

open Interleaved

variable {isAlnum : Char -> Bool} {word replacement : List Char}

/-!
## Quoted texts
-/

theorem readWord_append {text : List Char} (hletters : IsLetters word) (htext : EndsQuoted text)
    (rest : List Char) :
    readWord word (text ++ rest) = (readWord word text).map (fun after => after ++ rest) ∧
      forall after, readWord word text = some after -> EndsQuoted after := by
  induction word generalizing text with
  | nil =>
      refine ⟨rfl, ?_⟩
      intro after h
      cases h
      exact htext
  | cons p word ih =>
      rw [IsLetters, List.all_cons, Bool.and_eq_true] at hletters
      cases text with
      | nil =>
          rcases htext with ⟨q, hlast, _⟩
          cases hlast
      | cons c text =>
          rw [List.cons_append, readWord, readWord]
          split
          · next hpc =>
              have hne : text ≠ [] := by
                intro hnil
                rcases htext with ⟨q, hlast, hq⟩
                rw [hnil, List.getLast?_singleton, Option.some.injEq] at hlast
                have hmark := isQuote_of_not_isMark (isMark_of_sameLetter hletters.1 hpc)
                rw [hlast, hq] at hmark
                cases hmark
              exact ih hletters.2 ((endsQuoted_cons hne).mp htext)
          · refine ⟨rfl, ?_⟩
            intro after h
            cases h

theorem isFreeWord_append {text : List Char} (hletters : IsLetters word) (htext : EndsQuoted text)
    (before : Option Char) (rest : List Char) :
    isFreeWord isAlnum word before (text ++ rest) = isFreeWord isAlnum word before text := by
  rcases readWord_append hletters htext rest with ⟨hread, hends⟩
  rw [isFreeWord, isFreeWord, hread]
  cases hword : readWord word text with
  | none => rfl
  | some after =>
      cases after with
      | nil =>
          rcases hends [] hword with ⟨q, hlast, _⟩
          cases hlast
      | cons c after => rfl

theorem not_isFreeWord_quote {q : Char} (hword : word ≠ []) (hletters : IsLetters word)
    (hq : isQuote q = true) (before : Option Char) (rest : List Char) :
    isFreeWord isAlnum word before (q :: rest) = false := by
  rcases word with _ | ⟨p, word⟩
  · exact absurd rfl hword
  · rw [IsLetters, List.all_cons, Bool.and_eq_true] at hletters
    have hread : readWord (p :: word) (q :: rest) = none := by
      rw [readWord]
      apply if_neg
      intro hpq
      have hmark := isQuote_of_not_isMark (isMark_of_sameLetter hletters.1 hpq)
      rw [hq] at hmark
      cases hmark
    rw [isFreeWord, hread, Bool.and_false]

/-- The letters before the end of a quoted text leave a quoted text. -/
theorem endsQuoted_after {occurrence after : List Char} (hletters : IsLetters word)
    (hsame : SameLetters word occurrence) (h : EndsQuoted (occurrence ++ after)) :
    after ≠ [] ∧ EndsQuoted after := by
  have hne : after ≠ [] := by
    intro hnil
    rcases h with ⟨q, hlast, hq⟩
    rw [hnil, List.append_nil] at hlast
    have hmark := hsame.unmarked hletters q (List.mem_of_getLast? hlast)
    rw [hq] at hmark
    cases hmark
  exact ⟨hne, (endsQuoted_append_iff hne).mp h⟩

/-- A text that ends with a quote is substituted by itself, and ends with a quote again. -/
theorem subWord_append {text : List Char} (hword : word ≠ []) (hletters : IsLetters word)
    (htext : EndsQuoted text) (before : Option Char) (rest : List Char) :
    subWord isAlnum word replacement 0 before (text ++ rest) =
        subWord isAlnum word replacement 0 before text ++
          subWord isAlnum word replacement 0 text.getLast? rest ∧
      EndsQuoted (subWord isAlnum word replacement 0 before text) := by
  induction before, text using word_induction isAlnum hword with
  | nil before =>
      rcases htext with ⟨q, hlast, _⟩
      cases hlast
  | other before c more hnot ih =>
      have hnot' : isFreeWord isAlnum word before (c :: (more ++ rest)) = false := by
        rw [← List.cons_append, isFreeWord_append hletters htext, hnot]
      rw [List.cons_append, subWord_other hnot', subWord_other hnot]
      cases more with
      | nil => exact ⟨rfl, htext⟩
      | cons d more =>
          have hends := (endsQuoted_cons (List.cons_ne_nil d more)).mp htext
          rcases ih hends with ⟨happend, hinner⟩
          rw [happend, List.getLast?_cons_of_ne_nil (List.cons_ne_nil d more)]
          exact ⟨rfl, @endsQuoted_append [c] _ hinner⟩
  | free before occurrence after hfree hsame _ ih =>
      rcases endsQuoted_after hletters hsame htext with ⟨hne, hafter⟩
      have hfree' : isFreeWord isAlnum word before (occurrence ++ (after ++ rest)) = true := by
        rw [← List.append_assoc, isFreeWord_append hletters htext, hfree]
      rcases ih hafter with ⟨happend, hinner⟩
      rw [List.append_assoc, subWord_free hword hsame hfree', subWord_free hword hsame hfree,
        happend, List.getLast?_append_of_ne_nil _ hne, List.append_assoc]
      exact ⟨rfl, endsQuoted_append hinner⟩

/-- What comes before a quote is of no account. -/
theorem subWord_marked {text : List Char} (hword : word ≠ []) (hletters : IsLetters word)
    (htext : Marked isQuote text) (before : Option Char) (rest : List Char) :
    subWord isAlnum word replacement 0 before (text ++ rest) =
        subWord isAlnum word replacement 0 none text ++
          subWord isAlnum word replacement 0 text.getLast? rest ∧
      Marked isQuote (subWord isAlnum word replacement 0 none text) := by
  rcases marked_iff.mp htext with ⟨⟨q, body, heq, hq⟩, hends⟩
  have hfirst : forall before, subWord isAlnum word replacement 0 before text =
      q :: subWord isAlnum word replacement 0 (some q) body := by
    intro before
    rw [heq, subWord_other (not_isFreeWord_quote hword hletters hq before body)]
  rcases @subWord_append isAlnum word replacement text hword hletters hends before rest with
    ⟨happend, hinner⟩
  rw [hfirst before] at happend hinner
  rw [hfirst none]
  exact ⟨happend, marked_iff.mpr ⟨⟨q, _, rfl, hq⟩, hinner⟩⟩

/-!
## Code
-/

/-- A free word in front of code and a quote is in the code, and more code follows it. -/
theorem free_in_code {code : List Char} (hletters : IsLetters word)
    {q : Char} (hq : isQuote q = true) {before : Option Char} {rest : List Char}
    (h : isFreeWord isAlnum word before (code ++ q :: rest) = true) :
    exists occurrence tail,
      code = occurrence ++ tail ∧ SameLetters word occurrence ∧ tail ≠ [] := by
  rcases isFreeWord_eq_true h with ⟨occurrence, after, heq, hsame, hafter⟩
  have hbefore := hsame.unmarked hletters
  rcases List.append_eq_append_iff.mp heq with ⟨inner, hoccurrence, hrest⟩ | ⟨tail, hcode, hrest⟩
  · have hhead : exists others, after = q :: others ∨ q ∈ occurrence := by
      cases inner with
      | nil => exact ⟨rest, Or.inl hrest.symm⟩
      | cons d inner =>
          rw [(List.cons.inj hrest).1, hoccurrence]
          exact ⟨rest, Or.inr (List.mem_append_right code List.mem_cons_self)⟩
    rcases hhead with ⟨others, hnext | hmem⟩
    · rw [hafter q others hnext] at hq
      cases hq
    · rw [hbefore q hmem] at hq
      cases hq
  · refine ⟨occurrence, tail, hcode, hsame, ?_⟩
    intro hnil
    rw [hnil, List.nil_append] at hrest
    rw [hafter q rest hrest] at hq
    cases hq

/-- Code before a quote is substituted by code that stands in for it. -/
theorem subWord_code {code : List Char} (hword : word ≠ []) (hletters : IsLetters word)
    (hreplacement : Unmarked isQuote replacement) (hcode : Unmarked isQuote code) {q : Char}
    (hq : isQuote q = true) (before : Option Char) (rest : List Char) :
    exists code' before', subWord isAlnum word replacement 0 before (code ++ q :: rest) =
        code' ++ subWord isAlnum word replacement 0 before' (q :: rest) ∧ StandsIn code code' := by
  induction hlength : code.length using Nat.strong_induction_on generalizing code before with
  | _ n ih =>
      cases code with
      | nil => exact ⟨[], before, rfl, StandsIn.refl hcode⟩
      | cons c code =>
          rw [List.length_cons] at hlength
          rcases Bool.eq_false_or_eq_true
            (isFreeWord isAlnum word before (c :: (code ++ q :: rest))) with hfree | hnot
          · rcases free_in_code hletters hq (show isFreeWord isAlnum word before
              (c :: code ++ q :: rest) = true from hfree) with
            ⟨occurrence, tail, hsplit, hsame, hne⟩
            have hpos : 0 < occurrence.length := by
              rw [← hsame.length_eq]
              exact List.length_pos_iff.mpr hword
            have hshorter := congrArg List.length hsplit
            rw [List.length_cons, List.length_append] at hshorter
            rw [hsplit] at hcode ⊢
            rw [← List.cons_append, hsplit, List.append_assoc] at hfree
            rcases ih tail.length (by omega) (unmarked_append.mp hcode).2
              (lastOr occurrence before) rfl with ⟨code', before', hsub, hstands⟩
            have hne' : code' ≠ [] := fun hnil => hne (hstands.nil_iff.mp hnil)
            refine ⟨replacement ++ code', before', ?_, ?_, ?_, ?_⟩
            · rw [List.append_assoc, subWord_free hword hsame hfree, hsub, List.append_assoc]
            · exact unmarked_append.mpr ⟨hreplacement, hstands.unmarked⟩
            · exact iff_of_false (fun hnil => hne' (List.append_eq_nil_iff.mp hnil).2)
                fun hnil => hne (List.append_eq_nil_iff.mp hnil).2
            · rw [endsRaw_append hne', endsRaw_append hne, hstands.raw]
          · rcases unmarked_cons.mp hcode with ⟨hc, hcode⟩
            rcases ih code.length (by omega) hcode (some c) rfl with
              ⟨code', before', hsub, hstands⟩
            refine ⟨c :: code', before', ?_, ?_, ?_, ?_⟩
            · rw [List.cons_append, subWord_other hnot, hsub, List.cons_append]
            · exact unmarked_cons.mpr ⟨hc, hstands.unmarked⟩
            · exact iff_of_false (List.cons_ne_nil _ _) (List.cons_ne_nil _ _)
            · rcases Classical.em (code = []) with hnil | hne
              · rw [hnil, hstands.nil_iff.mpr hnil]
              · have hne' : code' ≠ [] := fun hnil => hne (hstands.nil_iff.mp hnil)
                have hraw := hstands.raw
                rw [← @endsRaw_append [c] code hne, ← @endsRaw_append [c] code' hne'] at hraw
                exact hraw

end Rules
end KeepGateway
