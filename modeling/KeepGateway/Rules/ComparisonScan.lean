import Mathlib.Data.List.Forall2
import KeepGateway.Lib.Spans
import KeepGateway.Rules.StringTokens

/-!
# Matches of the preprocessing patterns

What the patterns match, and one step of each substitution at a time.
-/

namespace KeepGateway
namespace Rules

open Interleaved Spans

/-!
## Characters
-/

theorem isQuote_iff {c : Char} : isQuote c = true <-> c = '"' ∨ c = '\'' := by
  rw [isQuote, Bool.or_eq_true, beq_iff_eq, beq_iff_eq]

theorem isSpace_of_isQuote {c : Char} (h : isQuote c = true) : isSpace c = false := by
  rcases isQuote_iff.mp h with h | h <;> rw [h] <;> decide

theorem isWord_of_isQuote (isAlnum : Char -> Bool) {c : Char} (h : isQuote c = true) :
    isWord isAlnum c = false := by
  rcases isQuote_iff.mp h with h | h <;> rw [h] <;> rfl

theorem isAlphanum_of_low {c : Char} (hlow : c.toNat ≤ 32) : c.isAlphanum = false := by
  have hbelow : forall first : Char, 32 < first.toNat -> ¬ first.val ≤ c.val := by
    intro first hfirst hle
    exact absurd (Nat.le_trans (UInt32.le_iff_toNat_le.mp hle) hlow) (Nat.not_le_of_lt hfirst)
  have hupper : c.isUpper = false := decide_eq_false fun h => hbelow 'A' (by decide) h.1
  have hlower : c.isLower = false :=
    Bool.and_eq_false_iff.mpr (Or.inl (decide_eq_false (hbelow 'a' (by decide))))
  have hdigit : c.isDigit = false :=
    Bool.and_eq_false_iff.mpr (Or.inl (decide_eq_false (hbelow '0' (by decide))))
  exact Bool.or_eq_false_iff.mpr ⟨Bool.or_eq_false_iff.mpr ⟨hupper, hlower⟩, hdigit⟩

theorem isWord_of_isSpace (isAlnum : Char -> Bool) {c : Char} (h : isSpace c = true) :
    isWord isAlnum c = false := by
  rw [isWord]
  split
  · next hascii =>
      have hlow : c.toNat ≤ 32 := by
        simp only [isSpace, Bool.or_eq_true, Bool.and_eq_true, decide_eq_true_eq, beq_iff_eq] at h
        omega
      rw [Bool.or_eq_false_iff, beq_eq_false_iff_ne]
      constructor
      · exact isAlphanum_of_low hlow
      · intro heq
        rw [heq] at hlow
        exact absurd hlow (by decide)
  · rw [h, Bool.not_true, Bool.and_false]

/-- A first character of an operator. -/
def isOpChar (c : Char) : Bool := c == '=' || c == '>' || c == '<' || c == '!'

theorem isOpChar_iff {c : Char} : isOpChar c = true <-> c = '=' ∨ c = '>' ∨ c = '<' ∨ c = '!' := by
  simp [isOpChar, or_assoc]

theorem isOpChar_excludes (isAlnum : Char -> Bool) {c : Char} (h : isOpChar c = true) :
    isWord isAlnum c = false ∧ isSpace c = false ∧ isQuote c = false := by
  rcases isOpChar_iff.mp h with h | h | h | h <;> rw [h] <;> exact ⟨rfl, by decide, by decide⟩

/-- A character that no letter of a pattern stands for. -/
def isMark (c : Char) : Bool := isQuote c || c == '_' || c == '\\' || isNewline c

/-- A pattern of small letters. -/
def IsLetters (word : List Char) : Prop := word.all Char.isLower = true

theorem isMark_of_sameLetter {p c : Char} (hp : p.isLower = true) (h : sameLetter p c = true) :
    isMark c = false := by
  rw [← Bool.not_eq_true]
  intro hmark
  simp only [isMark, isQuote, isNewline, Bool.or_eq_true, beq_iff_eq] at hmark
  have hsame : forall x : Char, x.toLower = x -> (x == '\u0130' || x == '\u0131') = false ->
      (x == '\u017f') = false -> x.isLower = false -> c ≠ x := by
    intro x hlower hi hs hnot heq
    rw [heq, sameLetter, hlower, hi, hs, Bool.and_false, Bool.and_false, Bool.or_false,
      Bool.or_false, beq_iff_eq] at h
    rw [h, hp] at hnot
    cases hnot
  rcases hmark with (((h | h) | h) | h) | h | h
  · exact hsame _ (by decide) (by decide) (by decide) (by decide) h
  · exact hsame _ (by decide) (by decide) (by decide) (by decide) h
  · exact hsame _ (by decide) (by decide) (by decide) (by decide) h
  · exact hsame _ (by decide) (by decide) (by decide) (by decide) h
  · exact hsame _ (by decide) (by decide) (by decide) (by decide) h
  · exact hsame _ (by decide) (by decide) (by decide) (by decide) h

/-!
## Words
-/

/-- The letters of the word, in any case. -/
def SameLetters (word occurrence : List Char) : Prop :=
  List.Forall₂ (fun p c => sameLetter p c = true) word occurrence

theorem readWord_eq_some {word text after : List Char} :
    readWord word text = some after <->
      exists occurrence, text = occurrence ++ after ∧ SameLetters word occurrence := by
  induction word generalizing text with
  | nil =>
      rw [readWord, Option.some.injEq]
      constructor
      · intro h
        exact ⟨[], h, List.Forall₂.nil⟩
      · intro h
        rcases h with ⟨occurrence, heq, hsame⟩
        cases hsame
        exact heq
  | cons p word ih =>
      constructor
      · intro h
        cases text with
        | nil => cases h
        | cons c text =>
            rw [readWord] at h
            split at h
            · next hpc =>
                rcases ih.mp h with ⟨occurrence, heq, hsame⟩
                exact ⟨c :: occurrence, by rw [heq, List.cons_append],
                  List.Forall₂.cons hpc hsame⟩
            · cases h
      · intro h
        rcases h with ⟨occurrence, heq, hsame⟩
        cases hsame with
        | cons hpc hsame =>
            rw [heq, List.cons_append, readWord, if_pos hpc]
            exact ih.mpr ⟨_, rfl, hsame⟩

theorem SameLetters.isMark {word occurrence : List Char} (hword : IsLetters word)
    (h : SameLetters word occurrence) : forall c, c ∈ occurrence -> isMark c = false := by
  induction h with
  | nil =>
      intro c hc
      exact absurd hc List.not_mem_nil
  | cons hpc _ ih =>
      rw [IsLetters, List.all_cons, Bool.and_eq_true] at hword
      intro c hc
      rcases List.mem_cons.mp hc with heq | hmem
      · rw [heq]
        exact isMark_of_sameLetter hword.1 hpc
      · exact ih hword.2 c hmem

theorem isQuote_of_not_isMark {c : Char} (h : isMark c = false) : isQuote c = false := by
  simp only [isMark, Bool.or_eq_false_iff] at h
  exact h.1.1.1

theorem SameLetters.unmarked {word occurrence : List Char} (hword : IsLetters word)
    (h : SameLetters word occurrence) : Unmarked isQuote occurrence :=
  fun c hc => isQuote_of_not_isMark (h.isMark hword c hc)

theorem isLetters_severity {severity : List Char × Nat} (h : severity ∈ severities) :
    IsLetters severity.1 ∧ severity.1 ≠ [] := by
  have hall : severities.all (fun severity => severity.1.all Char.isLower && severity.1 ≠ []) =
      true := by decide
  have hone := List.all_eq_true.mp hall severity h
  rw [Bool.and_eq_true, decide_eq_true_eq] at hone
  exact hone

/-!
## Comparisons
-/

/-- An operator: one character, or that and an `=`. -/
def IsOperator (operator : List Char) : Prop :=
  exists c, isOpChar c = true ∧ (operator = [c] ∨ operator = [c, '='])

theorem readOperator_eq_some {text operator after : List Char}
    (h : readOperator text = some (operator, after)) :
    IsOperator operator ∧ text = operator ++ after := by
  unfold readOperator at h
  split at h
  · cases h
  · next c rest =>
      split at h
      · next hc =>
          have hop : isOpChar c = true := isOpChar_iff.mpr hc
          split at h
          · cases h
            exact ⟨⟨c, hop, Or.inr rfl⟩, rfl⟩
          · cases h
            exact ⟨⟨c, hop, Or.inl rfl⟩, rfl⟩
      · cases h

theorem readOperator_append {operator after : List Char} (h : IsOperator operator)
    (hafter : StopsAt (fun c => c == '=') after) :
    readOperator (operator ++ after) = some (operator, after) := by
  rcases h with ⟨c, hc, hone | htwo⟩
  · rw [hone, List.singleton_append]
    unfold readOperator
    dsimp only
    rw [if_pos (isOpChar_iff.mp hc)]
    split
    · exact absurd (stopsAt_cons.mp hafter) (by decide)
    · rfl
  · rw [htwo]
    change readOperator (c :: '=' :: after) = some ([c, '='], after)
    unfold readOperator
    dsimp only
    rw [if_pos (isOpChar_iff.mp hc)]
    rfl

theorem IsOperator.excludes (isAlnum : Char -> Bool) {operator : List Char}
    (h : IsOperator operator) : operator ≠ [] ∧
      forall c, c ∈ operator ->
        isWord isAlnum c = false ∧ isSpace c = false ∧ isQuote c = false := by
  rcases h with ⟨c, hc, heq⟩
  have hequal := isOpChar_excludes isAlnum (show isOpChar '=' = true by decide)
  rcases heq with heq | heq
  · rw [heq]
    refine ⟨List.cons_ne_nil _ _, ?_⟩
    intro d hd
    rw [List.mem_singleton.mp hd]
    exact isOpChar_excludes isAlnum hc
  · rw [heq]
    refine ⟨List.cons_ne_nil _ _, ?_⟩
    intro d hd
    rcases List.mem_cons.mp hd with hd | hd
    · rw [hd]
      exact isOpChar_excludes isAlnum hc
    · rw [List.mem_singleton.mp hd]
      exact hequal

/-- A severity in any case. -/
def IsSeverityText (value : List Char) : Prop :=
  exists severity, severity ∈ severities ∧ SameLetters severity.1 value

theorem IsSeverityText.unmarked {value : List Char} (h : IsSeverityText value) :
    Unmarked isQuote value := by
  rcases h with ⟨severity, hsev, hsame⟩
  exact hsame.unmarked (isLetters_severity hsev).1

theorem readSeverity_eq_some {text value after : List Char}
    (h : readSeverity text = some (value, after)) :
    exists q, isQuote q = true ∧ IsSeverityText value ∧ text = q :: (value ++ q :: after) := by
  cases text with
  | nil => cases h
  | cons q rest =>
      rw [readSeverity] at h
      split at h
      · next hq =>
          rcases List.exists_of_findSome?_eq_some h with ⟨severity, hsev, hfound⟩
          split at hfound
          · next q' after' hword =>
              split at hfound
              · next hqq =>
                  rcases readWord_eq_some.mp hword with ⟨occurrence, hrest, hsame⟩
                  have htake : rest.take severity.1.length = occurrence := by
                    rw [hrest, hsame.length_eq, List.take_left]
                  rw [htake] at hfound
                  cases hfound
                  exact ⟨q, hq, ⟨severity, hsev, hsame⟩, by rw [hrest, hqq]⟩
              · cases hfound
          · cases hfound
      · cases h

theorem readSeverity_append {q : Char} {value : List Char} (hq : isQuote q = true)
    (hvalue : IsSeverityText value) (after : List Char) :
    readSeverity (q :: (value ++ q :: after)) = some (value, after) := by
  rcases hvalue with ⟨severity, hsev, hsame⟩
  have hsome : (readSeverity (q :: (value ++ q :: after))).isSome = true := by
    rw [readSeverity, if_pos hq, List.findSome?_isSome_iff]
    refine ⟨severity, hsev, ?_⟩
    rw [readWord_eq_some.mpr ⟨value, rfl, hsame⟩]
    dsimp only
    rw [if_pos rfl]
    rfl
  rcases Option.isSome_iff_exists.mp hsome with ⟨⟨value', after'⟩, hfound⟩
  rcases readSeverity_eq_some hfound with ⟨q', hq', hvalue', htext⟩
  rcases List.cons.inj htext with ⟨_, hrest⟩
  rcases split_first (hsame.unmarked (isLetters_severity hsev).1) hvalue'.unmarked hq hq' hrest with
    ⟨hsameValue, _, hsameAfter⟩
  rw [hfound, hsameValue, hsameAfter]

section

variable (isAlnum : Char -> Bool)

/-- What the first pattern matches: a word, an operator and a severity in quotes, with blanks
before and after the operator. -/
structure Comparison.IsMatch (comparison : Comparison) (space1 space2 : List Char) : Prop where
  fieldName_ne : comparison.fieldName ≠ []
  fieldName : comparison.fieldName.all (isWord isAlnum) = true
  space1 : space1.all isSpace = true
  operator : IsOperator comparison.operator
  space2 : space2.all isSpace = true
  quote : isQuote comparison.quote = true
  matchedValue : IsSeverityText comparison.matchedValue

/-- The text up to the quoted severity. -/
def Comparison.operand (comparison : Comparison) (space1 space2 : List Char) : List Char :=
  comparison.fieldName ++ (space1 ++ (comparison.operator ++ space2))

variable {isAlnum} {comparison : Comparison} {space1 space2 : List Char}

theorem Comparison.IsMatch.unmarked_operand (h : comparison.IsMatch isAlnum space1 space2) :
    Unmarked isQuote (comparison.operand space1 space2) := by
  have hof : forall {l : List Char} {p : Char -> Bool}, l.all p = true ->
      (forall c, p c = true -> isQuote c = false) -> Unmarked isQuote l :=
    fun hl hp c hc => hp c (List.all_eq_true.mp hl c hc)
  have hword : forall c, isWord isAlnum c = true -> isQuote c = false := by
    intro c hc
    rw [← Bool.not_eq_true]
    intro hquote
    rw [isWord_of_isQuote isAlnum hquote] at hc
    cases hc
  have hspace : forall c, isSpace c = true -> isQuote c = false := by
    intro c hc
    rw [← Bool.not_eq_true]
    intro hquote
    rw [isSpace_of_isQuote hquote] at hc
    cases hc
  have hoperator : Unmarked isQuote comparison.operator :=
    fun c hc => ((h.operator.excludes isAlnum).2 c hc).2.2
  rw [Comparison.operand, unmarked_append, unmarked_append, unmarked_append]
  exact ⟨hof h.fieldName hword, hof h.space1 hspace, hoperator, hof h.space2 hspace⟩

theorem readOperand_eq_some {text fieldName operator rest : List Char}
    (h : readOperand isAlnum text = some (fieldName, operator, rest)) :
    exists space1 space2, fieldName ≠ [] ∧ fieldName.all (isWord isAlnum) = true ∧
      space1.all isSpace = true ∧ IsOperator operator ∧ space2.all isSpace = true ∧
      text = fieldName ++ (space1 ++ (operator ++ (space2 ++ rest))) := by
  unfold readOperand at h
  split at h
  · cases h
  · next hfield =>
      split at h
      · cases h
      · next operator' afterOp hop =>
          cases h
          rcases readOperator_eq_some hop with ⟨hoperator, htext⟩
          refine ⟨(text.dropWhile (isWord isAlnum)).takeWhile isSpace, afterOp.takeWhile isSpace,
            hfield, List.all_takeWhile, List.all_takeWhile, hoperator, List.all_takeWhile, ?_⟩
          rw [List.takeWhile_append_dropWhile, ← htext, List.takeWhile_append_dropWhile,
            List.takeWhile_append_dropWhile]

/-- A list of elements that satisfy one predicate stops at another if they fail it. -/
theorem stopsAt_append {p r : Char -> Bool} {l rest : List Char} (hl : l.all p = true)
    (hpr : forall c, p c = true -> r c = false) (hrest : StopsAt r rest) :
    StopsAt r (l ++ rest) := by
  cases l with
  | nil => exact hrest
  | cons c l =>
      rw [List.cons_append, stopsAt_cons]
      exact hpr c (List.all_eq_true.mp hl c List.mem_cons_self)

theorem IsOperator.stopsAt {operator : List Char} (h : IsOperator operator)
    (rest : List Char) : StopsAt (isWord isAlnum) (operator ++ rest) ∧
      StopsAt isSpace (operator ++ rest) := by
  rcases h with ⟨c, hc, heq | heq⟩
  · rw [heq]
    exact ⟨stopsAt_cons.mpr (isOpChar_excludes isAlnum hc).1,
      stopsAt_cons.mpr (isOpChar_excludes isAlnum hc).2.1⟩
  · rw [heq]
    exact ⟨stopsAt_cons.mpr (isOpChar_excludes isAlnum hc).1,
      stopsAt_cons.mpr (isOpChar_excludes isAlnum hc).2.1⟩

theorem Comparison.IsMatch.readOperand (h : comparison.IsMatch isAlnum space1 space2)
    (rest : List Char) :
    readOperand isAlnum (comparison.operand space1 space2 ++ (comparison.quote :: rest)) =
      some (comparison.fieldName, comparison.operator, comparison.quote :: rest) := by
  have hquote : StopsAt isSpace (comparison.quote :: rest) :=
    stopsAt_cons.mpr (isSpace_of_isQuote h.quote)
  have hafter : StopsAt (fun c => c == '=') (space2 ++ comparison.quote :: rest) := by
    apply stopsAt_append h.space2
    · intro c hc
      rw [beq_eq_false_iff_ne]
      intro heq
      rw [heq] at hc
      exact absurd hc (by decide)
    · rw [stopsAt_cons, beq_eq_false_iff_ne]
      intro heq
      have hq := h.quote
      rw [heq] at hq
      exact absurd hq (by decide)
  have hop := @IsOperator.stopsAt isAlnum _ h.operator (space2 ++ comparison.quote :: rest)
  have htext : comparison.operand space1 space2 ++ (comparison.quote :: rest) =
      comparison.fieldName ++ (space1 ++ (comparison.operator ++
        (space2 ++ comparison.quote :: rest))) := by
    simp only [Comparison.operand, List.append_assoc]
  have hspace1 := stopsAt_append h.space1 (fun c => isWord_of_isSpace isAlnum) hop.1
  unfold Rules.readOperand
  rw [htext, takeWhile_append_stop h.fieldName hspace1, dropWhile_append_stop h.fieldName hspace1,
    dropWhile_append_stop h.space1 hop.2, readOperator_append h.operator hafter]
  split
  · next hnil => exact absurd hnil h.fieldName_ne
  · dsimp only
    rw [dropWhile_append_stop h.space2 hquote]

theorem Comparison.cons_literal (comparison : Comparison) (after : List Char) :
    comparison.literal ++ after =
      comparison.quote :: (comparison.matchedValue ++ comparison.quote :: after) := by
  rw [Comparison.literal, List.cons_append, List.append_assoc, List.singleton_append]

theorem readComparison_eq_some {text after : List Char} :
    readComparison isAlnum text = some (comparison, after) <->
      exists space1 space2, comparison.IsMatch isAlnum space1 space2 ∧
        text = comparison.operand space1 space2 ++ (comparison.literal ++ after) := by
  constructor
  · intro h
    unfold readComparison at h
    split at h
    · cases h
    · next fieldName operator rest hoperand =>
        rcases Option.map_eq_some_iff.mp h with ⟨⟨value, rest'⟩, hseverity, heq⟩
        rcases readSeverity_eq_some hseverity with ⟨q, hq, hvalue, hrest⟩
        rcases readOperand_eq_some hoperand with
          ⟨space1, space2, hne, hfield, hspace1, hop, hspace2, htext⟩
        rcases Prod.mk.inj heq with ⟨hcomparison, hafter⟩
        have hhead : rest.headD '"' = q := by rw [hrest, List.headD_cons]
        rw [hhead] at hcomparison
        rw [← hcomparison, ← hafter]
        refine ⟨space1, space2, ⟨hne, hfield, hspace1, hop, hspace2, hq, hvalue⟩, ?_⟩
        rw [Comparison.cons_literal, Comparison.operand, htext, hrest]
        simp only [List.append_assoc]
  · intro h
    rcases h with ⟨space1, space2, hmatch, htext⟩
    rw [htext, Comparison.cons_literal, readComparison, hmatch.readOperand]
    dsimp only
    rw [readSeverity_append hmatch.quote hmatch.matchedValue]
    rfl

/-!
## The first substitution, one match at a time
-/

theorem subComparisons_skip (text rest : List Char) :
    subComparisons isAlnum text.length (text ++ rest) = subComparisons isAlnum 0 rest := by
  induction text with
  | nil => rfl
  | cons c text ih => exact ih

theorem comparisons_skip (text rest : List Char) :
    comparisons isAlnum text.length (text ++ rest) = comparisons isAlnum 0 rest := by
  induction text with
  | nil => rfl
  | cons c text ih => exact ih

theorem subComparisons_none {c : Char} {rest : List Char}
    (h : readComparison isAlnum (c :: rest) = none) :
    subComparisons isAlnum 0 (c :: rest) = c :: subComparisons isAlnum 0 rest := by
  rw [subComparisons, h]

theorem comparisons_none {c : Char} {rest : List Char}
    (h : readComparison isAlnum (c :: rest) = none) :
    comparisons isAlnum 0 (c :: rest) = comparisons isAlnum 0 rest := by
  rw [comparisons, h]

/-- The text of a match. -/
def Comparison.matched (comparison : Comparison) (space1 space2 : List Char) : List Char :=
  comparison.operand space1 space2 ++ comparison.literal

/-- A match begins with a character of the word. -/
theorem Comparison.IsMatch.matched_cons (h : comparison.IsMatch isAlnum space1 space2) :
    exists c more, comparison.matched space1 space2 = c :: more ∧ isWord isAlnum c = true := by
  have hfield := h.fieldName
  rcases hchars : comparison.fieldName with _ | ⟨c, more⟩
  · exact absurd hchars h.fieldName_ne
  · rw [hchars, List.all_cons, Bool.and_eq_true] at hfield
    refine ⟨c, more ++ (space1 ++ (comparison.operator ++ space2)) ++ comparison.literal, ?_,
      hfield.1⟩
    rw [Comparison.matched, Comparison.operand, hchars]
    rfl

theorem Comparison.IsMatch.read (h : comparison.IsMatch isAlnum space1 space2)
    (after : List Char) :
    readComparison isAlnum (comparison.matched space1 space2 ++ after) =
      some (comparison, after) :=
  readComparison_eq_some.mpr ⟨space1, space2, h, List.append_assoc _ _ _⟩

theorem subComparisons_match (h : comparison.IsMatch isAlnum space1 space2) (after : List Char) :
    subComparisons isAlnum 0 (comparison.matched space1 space2 ++ after) =
      comparison.replacement.getD (comparison.matched space1 space2) ++
        subComparisons isAlnum 0 after := by
  have hread := h.read after
  rcases h.matched_cons with ⟨c, more, hmatched, _⟩
  rw [hmatched] at hread ⊢
  have htake : (c :: (more ++ after)).take ((c :: (more ++ after)).length - after.length) =
      c :: more := by
    rw [← List.cons_append, List.length_append, Nat.add_sub_cancel, List.take_left]
  rw [List.cons_append] at hread ⊢
  rw [subComparisons, hread]
  dsimp only
  rw [htake, List.length_cons, Nat.add_sub_cancel, subComparisons_skip]

theorem comparisons_match (h : comparison.IsMatch isAlnum space1 space2) (after : List Char) :
    comparisons isAlnum 0 (comparison.matched space1 space2 ++ after) =
      comparison :: comparisons isAlnum 0 after := by
  have hread := h.read after
  rcases h.matched_cons with ⟨c, more, hmatched, _⟩
  rw [hmatched] at hread ⊢
  have hlength : (c :: (more ++ after)).length - after.length - 1 = more.length := by
    rw [List.length_cons, List.length_append]
    omega
  rw [List.cons_append] at hread ⊢
  rw [comparisons, hread]
  dsimp only
  rw [hlength, comparisons_skip]

/-- Along the scan of a text: at a character where nothing matches, and at a match. -/
theorem scan_induction (isAlnum : Char -> Bool) {P : List Char -> Prop} (nil : P [])
    (none : forall c rest, readComparison isAlnum (c :: rest) = none -> P rest -> P (c :: rest))
    (matched : forall comparison space1 space2 after,
      Comparison.IsMatch isAlnum comparison space1 space2 -> P after ->
        P (comparison.matched space1 space2 ++ after)) (text : List Char) : P text := by
  induction hlength : text.length using Nat.strong_induction_on generalizing text with
  | _ n ih =>
      cases text with
      | nil => exact nil
      | cons c rest =>
          rw [List.length_cons] at hlength
          cases hread : readComparison isAlnum (c :: rest) with
          | none => exact none c rest hread (ih rest.length (by omega) rest rfl)
          | some found =>
              rcases found with ⟨comparison, after⟩
              rcases readComparison_eq_some.mp hread with ⟨space1, space2, hmatch, htext⟩
              rcases hmatch.matched_cons with ⟨d, more, hmatched, _⟩
              rw [← List.append_assoc] at htext
              change _ = comparison.matched space1 space2 ++ after at htext
              have hshorter := congrArg List.length htext
              rw [hmatched, List.length_cons, List.length_append, List.length_cons] at hshorter
              rw [htext]
              exact matched comparison space1 space2 after hmatch
                (ih after.length (by omega) after rfl)

end

end Rules
end KeepGateway
