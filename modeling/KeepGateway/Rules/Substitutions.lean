import KeepGateway.Rules.ComparisonScan

/-!
# Effects of the substitutions

What each substitution does to the numbers of quotes and underscores and to the length of a text,
and where it leaves the text as it is.
-/

namespace KeepGateway
namespace Rules

open Interleaved

variable {isAlnum : Char -> Bool}

/-!
## Replacements of comparisons
-/

section

variable {comparison : Comparison} {space1 space2 : List Char}

theorem replacement_of_isSeverity (h : comparison.isSeverity = true) :
    exists order : Nat, comparison.replacement = some (comparison.fieldName ++ [' '] ++
      comparison.operator ++ [' '] ++ (toString order).toList) := by
  rw [Comparison.isSeverity, Bool.and_eq_true, decide_eq_true_eq] at h
  rcases Option.isSome_iff_exists.mp h.2 with ⟨order, horder⟩
  refine ⟨order, ?_⟩
  rw [Comparison.replacement, if_pos h.1, horder, Option.map_some]

/-- What the code makes of the operand of a comparison of the field `source`. -/
def Comparison.providerOperand (comparison : Comparison) : List Char :=
  "provider_type ".toList ++ comparison.operator ++ [' ']

theorem replacement_of_not_isSeverity (h : comparison.isSeverity = false) :
    comparison.replacement = none ∨
      lower comparison.fieldName = "source".toList ∧
        comparison.replacement = some (comparison.providerOperand ++ comparison.literal) := by
  unfold Comparison.replacement
  split
  · next hfield =>
      rw [Comparison.isSeverity, hfield, decide_eq_true rfl, Bool.true_and] at h
      rw [Option.isSome_eq_false_iff, Option.isNone_iff_eq_none] at h
      rw [h]
      exact Or.inl rfl
  · split
    · next hfield => exact Or.inr ⟨hfield, rfl⟩
    · exact Or.inl rfl

theorem replacement_eq_none_iff : comparison.replacement = none <->
    comparison.isSeverity = false ∧ lower comparison.fieldName ≠ "source".toList := by
  constructor
  · intro h
    constructor
    · rw [← Bool.not_eq_true]
      intro hseverity
      rcases replacement_of_isSeverity hseverity with ⟨order, hsome⟩
      rw [h] at hsome
      cases hsome
    · intro hsource
      rw [Comparison.replacement, hsource, if_neg (by decide), if_pos rfl] at h
      cases h
  · intro h
    rcases replacement_of_not_isSeverity h.1 with hnone | ⟨hsource, _⟩
    · exact hnone
    · exact absurd hsource h.2

theorem quotes_literal (h : comparison.IsMatch isAlnum space1 space2) :
    comparison.literal.countP isQuote = 2 := by
  rw [Comparison.literal, List.countP_cons_of_pos h.quote, List.countP_append,
    countP_unmarked h.matchedValue.unmarked, List.countP_singleton, if_pos h.quote]

theorem quotes_matched (h : comparison.IsMatch isAlnum space1 space2) :
    (comparison.matched space1 space2).countP isQuote = 2 := by
  rw [Comparison.matched, List.countP_append, countP_unmarked h.unmarked_operand,
    quotes_literal h]

theorem unmarked_digits (n : Nat) : Unmarked isQuote (toString n).toList := by
  intro c hc
  rw [Nat.toString_eq_ofList_toDigits, String.toList_ofList] at hc
  have hdigit := Nat.isDigit_of_mem_toDigits (by decide) (by decide) hc
  rw [← Bool.not_eq_true]
  intro hquote
  rcases isQuote_iff.mp hquote with heq | heq
  · rw [heq] at hdigit
    exact absurd hdigit (by decide)
  · rw [heq] at hdigit
    exact absurd hdigit (by decide)

theorem unmarked_number (h : comparison.IsMatch isAlnum space1 space2) (order : Nat) :
    Unmarked isQuote (comparison.fieldName ++ [' '] ++ comparison.operator ++ [' '] ++
      (toString order).toList) := by
  have hoperand := h.unmarked_operand
  have hblank : Unmarked isQuote [' '] := unmarked_cons.mpr ⟨by decide, unmarked_nil⟩
  rw [Comparison.operand, unmarked_append, unmarked_append, unmarked_append] at hoperand
  rw [unmarked_append, unmarked_append, unmarked_append, unmarked_append]
  exact ⟨⟨⟨⟨hoperand.1, hblank⟩, hoperand.2.2.1⟩, hblank⟩, unmarked_digits order⟩

theorem unmarked_providerOperand (h : comparison.IsMatch isAlnum space1 space2) :
    Unmarked isQuote comparison.providerOperand := by
  have hprovider : "provider_type ".toList.all (fun c => !isQuote c) = true := by decide
  have hblank : Unmarked isQuote [' '] := unmarked_cons.mpr ⟨by decide, unmarked_nil⟩
  rw [List.all_eq_true] at hprovider
  unfold Comparison.providerOperand
  rw [unmarked_append, unmarked_append]
  refine ⟨⟨?_, fun c hc => ((h.operator.excludes isAlnum).2 c hc).2.2⟩, hblank⟩
  intro c hc
  rw [← Bool.not_eq_true']
  exact hprovider c hc

/-- Each severity that is turned into a number takes its two quotes away. -/
theorem quotes_subComparisons (text : List Char) :
    (subComparisons isAlnum 0 text).countP isQuote +
        2 * (comparisons isAlnum 0 text).countP Comparison.isSeverity =
      text.countP isQuote := by
  induction text using scan_induction isAlnum with
  | nil => rfl
  | none c rest hread ih =>
      rw [subComparisons_none hread, comparisons_none hread, List.countP_cons, List.countP_cons]
      omega
  | matched comparison space1 space2 after hmatch ih =>
      rw [subComparisons_match hmatch, comparisons_match hmatch, List.countP_append,
        List.countP_append, List.countP_cons, quotes_matched hmatch]
      rcases Bool.eq_false_or_eq_true comparison.isSeverity with hseverity | hother
      · rcases replacement_of_isSeverity hseverity with ⟨order, hreplacement⟩
        rw [hreplacement, Option.getD_some, countP_unmarked (unmarked_number hmatch order),
          if_pos hseverity]
        omega
      · have hquotes : (comparison.replacement.getD (comparison.matched space1 space2)).countP
            isQuote = 2 := by
          rcases replacement_of_not_isSeverity hother with hnone | ⟨_, hsome⟩
          · rw [hnone, Option.getD_none, quotes_matched hmatch]
          · rw [hsome, Option.getD_some, List.countP_append,
              countP_unmarked (unmarked_providerOperand hmatch), quotes_literal hmatch]
        rw [hquotes, hother, if_neg Bool.false_ne_true]
        omega

/-!
## Texts in which no severity is turned into a number
-/

/-- No comparison of a severity is in the text. -/
def NoSeverity (isAlnum : Char -> Bool) (text : List Char) : Prop :=
  forall comparison, comparison ∈ comparisons isAlnum 0 text -> comparison.isSeverity = false

theorem noSeverity_iff {text : List Char} : NoSeverity isAlnum text <->
    (comparisons isAlnum 0 text).countP Comparison.isSeverity = 0 := by
  rw [List.countP_eq_zero]
  constructor
  · intro h other hother
    rw [h other hother]
    exact Bool.false_ne_true
  · intro h other hother
    exact Bool.not_eq_true _ ▸ h other hother

theorem isMark_of_isSpace {c : Char} (h : isSpace c = true) : c ≠ '_' := by
  intro heq
  rw [heq] at h
  exact absurd h (by decide)

theorem underscores_literal (h : comparison.IsMatch isAlnum space1 space2) :
    comparison.literal.count '_' = 0 := by
  rw [List.count_eq_zero]
  intro hmem
  rcases h.matchedValue with ⟨severity, hsev, hsame⟩
  have hquote : comparison.quote ≠ '_' := by
    intro heq
    have hq := h.quote
    rw [heq] at hq
    exact absurd hq (by decide)
  rcases List.mem_cons.mp hmem with heq | hmem
  · exact hquote heq.symm
  · rcases List.mem_append.mp hmem with hvalue | heq
    · have hletters := hsame.isMark (isLetters_severity hsev).1 _ hvalue
      exact absurd hletters (by decide)
    · exact hquote (List.mem_singleton.mp heq).symm

theorem underscores_operator (h : IsOperator comparison.operator) :
    comparison.operator.count '_' = 0 := by
  rw [List.count_eq_zero]
  intro hmem
  have hword := ((h.excludes fun _ => false).2 _ hmem).1
  exact absurd hword (by decide)

theorem underscores_providerOperand (h : IsOperator comparison.operator) :
    comparison.providerOperand.count '_' = 1 := by
  have hprovider : ("provider_type ".toList).count '_' = 1 := by decide
  have hblank : ([' '] : List Char).count '_' = 0 := by decide
  unfold Comparison.providerOperand
  rw [List.count_append, List.count_append, hprovider, hblank, underscores_operator h]

/-- In a comparison of the field `source` there is no underscore. -/
theorem underscores_matched (h : comparison.IsMatch isAlnum space1 space2)
    (hsource : lower comparison.fieldName = "source".toList) :
    (comparison.matched space1 space2).count '_' = 0 := by
  have hspace : forall {l : List Char}, l.all isSpace = true -> l.count '_' = 0 := by
    intro l hl
    rw [List.count_eq_zero]
    intro hmem
    exact isMark_of_isSpace (List.all_eq_true.mp hl _ hmem) rfl
  have hfield : comparison.fieldName.count '_' = 0 := by
    rw [List.count_eq_zero]
    intro hmem
    have hlower : Char.toLower '_' ∈ lower comparison.fieldName := List.mem_map_of_mem hmem
    rw [hsource] at hlower
    exact absurd hlower (by decide)
  unfold Comparison.matched Comparison.operand
  rw [List.count_append, List.count_append, List.count_append, List.count_append, hfield,
    hspace h.space1, underscores_operator h.operator, hspace h.space2, underscores_literal h]

/-- Each comparison that is replaced adds an underscore. -/
theorem underscores_subComparisons {text : List Char} (h : NoSeverity isAlnum text) :
    (subComparisons isAlnum 0 text).count '_' = text.count '_' +
      (comparisons isAlnum 0 text).countP (fun comparison => comparison.replacement.isSome) := by
  induction text using scan_induction isAlnum with
  | nil => rfl
  | none c rest hread ih =>
      unfold NoSeverity at h
      rw [comparisons_none hread] at h
      rw [subComparisons_none hread, comparisons_none hread, List.count_cons, List.count_cons, ih h]
      omega
  | matched comparison space1 space2 after hmatch ih =>
      unfold NoSeverity at h
      rw [comparisons_match hmatch] at h
      have hfirst := h comparison List.mem_cons_self
      have hrest := ih fun other hother => h other (List.mem_cons_of_mem _ hother)
      rw [subComparisons_match hmatch, comparisons_match hmatch, List.count_append,
        List.count_append, List.countP_cons, hrest]
      rcases replacement_of_not_isSeverity hfirst with hnone | ⟨hsource, hsome⟩
      · rw [hnone, Option.getD_none, Option.isSome_none, if_neg Bool.false_ne_true]
        omega
      · rw [hsome, Option.getD_some, Option.isSome_some, if_pos rfl, List.count_append,
          underscores_providerOperand hmatch.operator, underscores_literal hmatch,
          underscores_matched hmatch hsource]
        omega

/-- A text in which no comparison is replaced stays as it is. -/
theorem subComparisons_eq_self {text : List Char}
    (h : forall comparison, comparison ∈ comparisons isAlnum 0 text ->
      comparison.replacement = none) : subComparisons isAlnum 0 text = text := by
  induction text using scan_induction isAlnum with
  | nil => rfl
  | none c rest hread ih =>
      rw [comparisons_none hread] at h
      rw [subComparisons_none hread, ih h]
  | matched comparison space1 space2 after hmatch ih =>
      rw [comparisons_match hmatch] at h
      rw [subComparisons_match hmatch, h comparison List.mem_cons_self, Option.getD_none,
        ih fun other hother => h other (List.mem_cons_of_mem _ hother)]

/-- The text ends with a quote. -/
def EndsQuoted (text : List Char) : Prop := exists q, text.getLast? = some q ∧ isQuote q = true

theorem endsQuoted_append {text rest : List Char} (h : EndsQuoted rest) :
    EndsQuoted (text ++ rest) := by
  rcases h with ⟨q, hlast, hq⟩
  exact ⟨q, by rw [List.getLast?_append, hlast, Option.some_or], hq⟩

theorem endsQuoted_cons {c : Char} {rest : List Char} (hne : rest ≠ []) :
    EndsQuoted (c :: rest) <-> EndsQuoted rest := by
  unfold EndsQuoted
  rw [List.getLast?_cons_of_ne_nil hne]

theorem endsQuoted_append_iff {text rest : List Char} (hne : rest ≠ []) :
    EndsQuoted (text ++ rest) <-> EndsQuoted rest := by
  unfold EndsQuoted
  rw [List.getLast?_append_of_ne_nil _ hne]

theorem marked_iff {text : List Char} : Marked isQuote text <->
    (exists q rest, text = q :: rest ∧ isQuote q = true) ∧ EndsQuoted text := by
  constructor
  · intro h
    rcases h.last with ⟨front, q, heq, hq⟩
    exact ⟨h.head, q, by rw [heq, List.getLast?_concat], hq⟩
  · intro h
    rcases h.2 with ⟨q, hlast, hq⟩
    rcases List.getLast?_eq_some_iff.mp hlast with ⟨front, heq⟩
    exact ⟨h.1, front, q, heq, hq⟩

theorem endsQuoted_literal (h : comparison.IsMatch isAlnum space1 space2) :
    EndsQuoted comparison.literal := by
  refine ⟨comparison.quote, ?_, h.quote⟩
  rw [Comparison.literal, ← List.cons_append, List.getLast?_concat]

theorem endsQuoted_subComparisons {text : List Char} (hno : NoSeverity isAlnum text)
    (h : EndsQuoted text) : EndsQuoted (subComparisons isAlnum 0 text) := by
  induction text using scan_induction isAlnum with
  | nil => exact h
  | none c rest hread ih =>
      unfold NoSeverity at hno
      rw [comparisons_none hread] at hno
      rw [subComparisons_none hread]
      cases rest with
      | nil => exact h
      | cons d rest =>
          have hrest := ih hno ((endsQuoted_cons (List.cons_ne_nil d rest)).mp h)
          exact @endsQuoted_append [c] _ hrest
  | matched comparison space1 space2 after hmatch ih =>
      unfold NoSeverity at hno
      rw [comparisons_match hmatch] at hno
      rw [subComparisons_match hmatch]
      rcases Classical.em (after = []) with hnil | hne
      · have hreplaced : EndsQuoted (comparison.replacement.getD
            (comparison.matched space1 space2)) := by
          rcases replacement_of_not_isSeverity (hno comparison List.mem_cons_self) with
            hnone | ⟨_, hsome⟩
          · rw [hnone, Option.getD_none]
            exact endsQuoted_append (endsQuoted_literal hmatch)
          · rw [hsome, Option.getD_some]
            exact endsQuoted_append (endsQuoted_literal hmatch)
        rw [hnil, subComparisons, List.append_nil]
        exact hreplaced
      · exact endsQuoted_append (ih (fun other hother => hno other (List.mem_cons_of_mem _ hother))
          ((endsQuoted_append_iff hne).mp h))

/-- Nothing is matched from a quote on. -/
theorem readComparison_quote {q : Char} (hq : isQuote q = true) (rest : List Char) :
    readComparison isAlnum (q :: rest) = none := by
  rw [Option.eq_none_iff_forall_ne_some]
  intro found hread
  rcases readComparison_eq_some.mp (show readComparison isAlnum (q :: rest) =
    some (found.1, found.2) from hread) with ⟨space1, space2, hmatch, htext⟩
  rcases hmatch.matched_cons with ⟨c, more, hmatched, hc⟩
  rw [← List.append_assoc] at htext
  change _ = found.1.matched space1 space2 ++ found.2 at htext
  rw [hmatched] at htext
  rw [← (List.cons.inj htext).1, isWord_of_isQuote isAlnum hq] at hc
  cases hc

theorem marked_subComparisons {text : List Char} (hno : NoSeverity isAlnum text)
    (h : Marked isQuote text) : Marked isQuote (subComparisons isAlnum 0 text) := by
  rcases marked_iff.mp h with ⟨⟨q, rest, heq, hq⟩, hlast⟩
  rw [marked_iff]
  constructor
  · refine ⟨q, subComparisons isAlnum 0 rest, ?_, hq⟩
    rw [heq, subComparisons_none (readComparison_quote hq rest)]
  · exact endsQuoted_subComparisons hno hlast

end

end Rules
end KeepGateway
