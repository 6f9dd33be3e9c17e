import KeepGateway.Rules.LiteralReading

/-!
# The first substitution, piece by piece

In an expression the matches of the first pattern are within a literal, or they are the end of the
code before a literal with the whole of the literal.
-/

namespace KeepGateway
namespace Rules

open Interleaved

variable {isAlnum : Char -> Bool}

/-!
## Literals
-/

/-- The text is not a severity up to its first quote. -/
def NoSeverityFirst (text : List Char) : Prop :=
  forall value q after, IsSeverityText value -> isQuote q = true -> text ≠ value ++ q :: after

theorem noSeverityFirst_joinedText {next : List Char} {more : List (List Char × List Char)}
    (hbetween : more ≠ [] -> next ≠ [] ∧ isSeverityWord next = false)
    (hmore : WellFormed next more) : NoSeverityFirst (joinedText next more) := by
  intro value q after hvalue hq heq
  cases more with
  | nil =>
      have hnot := hmore q (by
        rw [joinedText] at heq
        rw [heq]
        exact List.mem_append_right value List.mem_cons_self)
      rw [hq] at hnot
      cases hnot
  | cons piece more =>
      rcases piece with ⟨literal, others⟩
      rcases hmore with ⟨hnext, hliteral, _, _⟩
      rcases hliteral.1 with ⟨q', body, hbody, hq'⟩
      rw [joinedText, hbody, List.cons_append] at heq
      rcases split_first hnext hvalue.unmarked hq' hq heq with ⟨hsame, _, _⟩
      rcases hvalue with ⟨severity, hsev, hletters⟩
      have hword : isSeverityWord next = true := by
        rw [isSeverityWord, List.any_eq_true]
        refine ⟨severity, hsev, ?_⟩
        rw [beq_iff_eq, readWord_eq_some]
        exact ⟨value, by rw [hsame, List.append_nil], hletters⟩
      rw [(hbetween (List.cons_ne_nil _ _)).2] at hword
      cases hword

/-- A list that ends with a quote has a first one. -/
theorem EndsQuoted.split {text : List Char} (h : EndsQuoted text) :
    exists front q rest, text = front ++ q :: rest ∧ Unmarked isQuote front ∧ isQuote q = true := by
  rcases unmarked_or_split isQuote text with hnone | hsplit
  · rcases h with ⟨q, hlast, hq⟩
    have hnot := hnone q (List.mem_of_getLast? hlast)
    rw [hq] at hnot
    cases hnot
  · exact hsplit

/-- A match from within a text that ends with a quote does not go beyond it. -/
theorem readComparison_within {text rest after : List Char} {comparison : Comparison}
    (htext : EndsQuoted text) (hrest : NoSeverityFirst rest)
    (h : readComparison isAlnum (text ++ rest) = some (comparison, after)) :
    exists after', readComparison isAlnum text = some (comparison, after') := by
  rcases readComparison_eq_some.mp h with ⟨space1, space2, hmatch, heq⟩
  rcases htext.split with ⟨front, q, tail, hsplit, hfront, hq⟩
  rw [hsplit, List.append_assoc, List.cons_append, Comparison.cons_literal] at heq
  rcases split_first hfront hmatch.unmarked_operand hq hmatch.quote heq with ⟨hoperand, hqq, htail⟩
  rcases Classical.em (tail = []) with hnil | hne
  · rw [hnil, List.nil_append] at htail
    exact absurd htail (hrest _ _ _ hmatch.matchedValue hmatch.quote)
  · rw [hsplit] at htext
    have hends : EndsQuoted tail :=
      (endsQuoted_cons hne).mp ((endsQuoted_append_iff (List.cons_ne_nil q tail)).mp htext)
    rcases hends.split with ⟨front', q', tail', hsplit', hfront', hq'⟩
    rw [hsplit', List.append_assoc, List.cons_append] at htail
    rcases split_first hfront' hmatch.matchedValue.unmarked hq' hmatch.quote htail with
      ⟨hvalue, hqq', _⟩
    refine ⟨tail', readComparison_eq_some.mpr ⟨space1, space2, hmatch, ?_⟩⟩
    rw [hsplit, hsplit', hoperand, hqq, hvalue, hqq', Comparison.cons_literal]

/-- A text that ends with a quote is substituted by itself. -/
theorem subComparisons_append {text rest : List Char} (htext : EndsQuoted text)
    (hrest : NoSeverityFirst rest) :
    subComparisons isAlnum 0 (text ++ rest) =
      subComparisons isAlnum 0 text ++ subComparisons isAlnum 0 rest := by
  induction text using scan_induction isAlnum with
  | nil =>
      rcases htext with ⟨q, hlast, _⟩
      cases hlast
  | none c more hread ih =>
      have hnone : readComparison isAlnum (c :: (more ++ rest)) = none := by
        rw [Option.eq_none_iff_forall_ne_some]
        intro found hfound
        rcases readComparison_within htext hrest (show readComparison isAlnum (c :: more ++ rest) =
          some (found.1, found.2) from hfound) with ⟨after', hwithin⟩
        rw [hread] at hwithin
        cases hwithin
      rw [List.cons_append, subComparisons_none hnone, subComparisons_none hread]
      cases more with
      | nil => rfl
      | cons d more =>
          rw [ih ((endsQuoted_cons (List.cons_ne_nil d more)).mp htext)]
          rfl
  | matched comparison space1 space2 after hmatch ih =>
      rw [List.append_assoc, subComparisons_match hmatch, subComparisons_match hmatch,
        List.append_assoc]
      cases after with
      | nil => rfl
      | cons c after =>
          rw [ih ((endsQuoted_append_iff (List.cons_ne_nil c after)).mp htext)]

/-- Each match has two quotes. -/
theorem quotes_comparisons (text : List Char) :
    2 * (comparisons isAlnum 0 text).length ≤ text.countP isQuote := by
  induction text using scan_induction isAlnum with
  | nil => exact le_rfl
  | none c rest hread ih =>
      rw [comparisons_none hread, List.countP_cons]
      omega
  | matched comparison space1 space2 after hmatch ih =>
      rw [comparisons_match hmatch, List.countP_append, quotes_matched hmatch, List.length_cons]
      omega

/-- Nothing is replaced with less than two quotes. -/
theorem subComparisons_of_quotes {text : List Char} (h : text.countP isQuote < 2) :
    subComparisons isAlnum 0 text = text := by
  have hlength := @quotes_comparisons isAlnum text
  have hnone : comparisons isAlnum 0 text = [] := List.eq_nil_of_length_eq_zero (by omega)
  apply subComparisons_eq_self
  rw [hnone]
  intro comparison hcomparison
  exact absurd hcomparison List.not_mem_nil

/-- Nothing is matched within a quoted severity. -/
theorem subComparisons_literal {comparison : Comparison} {space1 space2 : List Char}
    (h : comparison.IsMatch isAlnum space1 space2) :
    subComparisons isAlnum 0 comparison.literal = comparison.literal := by
  have hquotes := quotes_literal h
  rw [Comparison.literal, List.countP_cons_of_pos h.quote] at hquotes
  rw [Comparison.literal, subComparisons_none (readComparison_quote h.quote _),
    subComparisons_of_quotes (by omega)]

/-!
## Code before a literal
-/

section

variable {raw : Bool} {literal code rest : List Char}

/-- A match that begins in the code is the rest of the code and the literal. -/
theorem readComparison_code {after : List Char} {comparison : Comparison}
    (hliteral : IsLiteral raw literal) (hrest : NoQuoteFirst rest)
    (hcode : Unmarked isQuote code)
    (h : readComparison isAlnum (code ++ (literal ++ rest)) = some (comparison, after)) :
    exists space1 space2, comparison.IsMatch isAlnum space1 space2 ∧
      code = comparison.operand space1 space2 ∧ literal = comparison.literal := by
  rcases readComparison_eq_some.mp h with ⟨space1, space2, hmatch, heq⟩
  rcases hliteral.1 with ⟨q, body, hbody, hq⟩
  have hoperand : code = comparison.operand space1 space2 := by
    rw [hbody, Comparison.cons_literal, List.cons_append] at heq
    exact (split_first hcode hmatch.unmarked_operand hq hmatch.quote heq).1
  rw [hoperand] at heq
  have hread := hliteral.read hrest
  rw [List.append_cancel_left heq, readLiteral_severity hmatch, Option.some.injEq] at hread
  exact ⟨space1, space2, hmatch, hoperand, hread.symm⟩

theorem readComparison_code_none (hliteral : IsLiteral raw literal) (hrest : NoQuoteFirst rest)
    (hcode : Unmarked isQuote code) (h : readComparison isAlnum (code ++ literal) = none) :
    readComparison isAlnum (code ++ (literal ++ rest)) = none := by
  rw [Option.eq_none_iff_forall_ne_some]
  intro found hfound
  rcases readComparison_code hliteral hrest hcode (show readComparison isAlnum _ =
    some (found.1, found.2) from hfound) with ⟨space1, space2, hmatch, hoperand, heq⟩
  have hread := hmatch.read []
  rw [List.append_nil, Comparison.matched, ← hoperand, ← heq, h] at hread
  cases hread

theorem noQuoteFirst_nil : NoQuoteFirst [] := by
  intro c rest h
  cases h

/-- With no comparison at the end of the code, the literal is substituted by itself. -/
theorem subComparisons_operandOf_none (hliteral : IsLiteral raw literal)
    (hquote : NoQuoteFirst rest) (hseverity : NoSeverityFirst rest)
    (hcode : Unmarked isQuote code) (h : operandOf isAlnum literal code = none) :
    subComparisons isAlnum 0 (code ++ (literal ++ rest)) =
      code ++ (subComparisons isAlnum 0 literal ++ subComparisons isAlnum 0 rest) := by
  induction code with
  | nil => exact subComparisons_append (marked_iff.mp hliteral.marked).2 hseverity
  | cons c code ih =>
      rw [operandOf] at h
      split at h
      · cases h
      · next hread =>
          have hnone := readComparison_code_none hliteral hquote hcode hread
          rw [List.cons_append] at hnone ⊢
          rw [subComparisons_none hnone,
            ih (unmarked_cons.mp hcode).2 (Option.map_eq_none_iff.mp h), List.cons_append]

/-- A comparison at the end of the code is replaced with the literal. -/
theorem subComparisons_operandOf_some {before : List Char} {comparison : Comparison}
    (hliteral : IsLiteral raw literal) (hquote : NoQuoteFirst rest)
    (hcode : Unmarked isQuote code)
    (h : operandOf isAlnum literal code = some (before, comparison)) :
    exists space1 space2, comparison.IsMatch isAlnum space1 space2 ∧
      code = before ++ comparison.operand space1 space2 ∧ literal = comparison.literal ∧
      subComparisons isAlnum 0 (code ++ (literal ++ rest)) =
        before ++ (comparison.replacement.getD (comparison.matched space1 space2) ++
          subComparisons isAlnum 0 rest) := by
  induction code generalizing before with
  | nil => cases h
  | cons c code ih =>
      rw [operandOf] at h
      split at h
      · next found after hread =>
          cases h
          rw [← List.cons_append] at hread
          have hread' : readComparison isAlnum (c :: code ++ (literal ++ [])) =
              some (comparison, after) := by
            rw [List.append_nil]
            exact hread
          rcases readComparison_code hliteral noQuoteFirst_nil hcode hread' with
            ⟨space1, space2, hmatch, hoperand, heq⟩
          refine ⟨space1, space2, hmatch, hoperand, heq, ?_⟩
          rw [hoperand, heq, ← List.append_assoc]
          exact subComparisons_match hmatch rest
      · next hread =>
          rcases Option.map_eq_some_iff.mp h with ⟨found, hfound, heq⟩
          rcases Prod.mk.inj heq with ⟨hbefore, hcomparison⟩
          have hfound' : operandOf isAlnum literal code = some (found.1, comparison) := by
            rw [hfound, ← hcomparison]
          rcases ih (unmarked_cons.mp hcode).2 hfound' with
            ⟨space1, space2, hmatch, hsplit, hlit, hsub⟩
          have hnone := readComparison_code_none hliteral hquote hcode hread
          refine ⟨space1, space2, hmatch, ?_, hlit, ?_⟩
          · rw [← hbefore, hsplit, List.cons_append]
          · rw [List.cons_append] at hnone ⊢
            rw [subComparisons_none hnone, hsub, ← hbefore, List.cons_append]

/-- Code that stands in for other code before a literal. -/
structure StandsIn (code code' : List Char) : Prop where
  unmarked : Unmarked isQuote code'
  nil_iff : code' = [] <-> code = []
  raw : endsRaw code' = endsRaw code

theorem StandsIn.refl (h : Unmarked isQuote code) : StandsIn code code :=
  ⟨h, Iff.rfl, rfl⟩

theorem endsRaw_append {l m : List Char} (hne : m ≠ []) : endsRaw (l ++ m) = endsRaw m := by
  rw [endsRaw, endsRaw, List.getLast?_append_of_ne_nil _ hne]

/-- The operand of a comparison ends with an operator or a blank. -/
theorem endsRaw_operand {comparison : Comparison} {space1 space2 : List Char}
    (h : comparison.IsMatch isAlnum space1 space2) :
    endsRaw (comparison.operand space1 space2) = false := by
  have hne := (h.operator.excludes isAlnum).1
  have htail : comparison.operator ++ space2 ≠ [] :=
    fun hnil => hne (List.append_eq_nil_iff.mp hnil).1
  have hnot : forall c, isRawMark c = true -> isWord isAlnum c = true := by
    intro c hc
    rw [isRawMark, Bool.or_eq_true, beq_iff_eq, beq_iff_eq] at hc
    rcases hc with heq | heq <;> rw [heq] <;> rfl
  rw [Comparison.operand, ← List.append_assoc, endsRaw_append htail, endsRaw,
    Option.any_eq_false]
  intro c hlast
  rw [← Bool.not_eq_true]
  intro hraw
  have hword := hnot c hraw
  rcases List.mem_append.mp (List.mem_of_getLast? hlast) with hop | hspace
  · rw [((h.operator.excludes isAlnum).2 c hop).1] at hword
    cases hword
  · rw [isWord_of_isSpace isAlnum (List.all_eq_true.mp h.space2 c hspace)] at hword
    cases hword

theorem standsIn_providerOperand {before : List Char} {comparison : Comparison}
    {space1 space2 : List Char} (h : comparison.IsMatch isAlnum space1 space2)
    (hbefore : Unmarked isQuote before)
    (hcode : code = before ++ comparison.operand space1 space2) :
    StandsIn code (before ++ comparison.providerOperand) where
  unmarked := unmarked_append.mpr ⟨hbefore, unmarked_providerOperand h⟩
  nil_iff := by
    apply iff_of_false
    · intro hnil
      have hblank := (List.append_eq_nil_iff.mp (List.append_eq_nil_iff.mp hnil).2).2
      exact List.cons_ne_nil _ _ hblank
    · rw [hcode]
      intro hnil
      exact h.fieldName_ne (List.append_eq_nil_iff.mp (List.append_eq_nil_iff.mp hnil).2).1
  raw := by
    have hne : comparison.operand space1 space2 ≠ [] :=
      fun hnil => h.fieldName_ne (List.append_eq_nil_iff.mp hnil).1
    unfold Comparison.providerOperand
    rw [hcode, endsRaw_append hne, endsRaw_operand h, ← List.append_assoc,
      endsRaw_append (List.cons_ne_nil _ _)]
    rfl

/-- The code before a literal that is turned into a number goes on with the number; before any
other, code stands in for it and the literal is substituted by itself. -/
theorem subComparisons_code (hliteral : IsLiteral raw literal) (hquote : NoQuoteFirst rest)
    (hseverity : NoSeverityFirst rest) (hcode : Unmarked isQuote code) :
    exists code', subComparisons isAlnum 0 (code ++ (literal ++ rest)) =
        code' ++ ((if isSeverityOperand isAlnum code literal then []
          else subComparisons isAlnum 0 literal) ++ subComparisons isAlnum 0 rest) ∧
      (isSeverityOperand isAlnum code literal = true -> Unmarked isQuote code' ∧ code' ≠ []) ∧
      (isSeverityOperand isAlnum code literal = false -> StandsIn code code') := by
  cases hoperand : operandOf isAlnum literal code with
  | none =>
      have hnot : isSeverityOperand isAlnum code literal = false := by
        rw [isSeverityOperand, hoperand]
        rfl
      refine ⟨code, ?_, fun h => absurd (hnot.symm.trans h) Bool.false_ne_true,
        fun _ => StandsIn.refl hcode⟩
      rw [hnot, if_neg Bool.false_ne_true]
      exact subComparisons_operandOf_none hliteral hquote hseverity hcode hoperand
  | some found =>
      rcases found with ⟨before, comparison⟩
      rcases subComparisons_operandOf_some hliteral hquote hcode hoperand with
        ⟨space1, space2, hmatch, hsplit, hlit, hsub⟩
      have hturned : isSeverityOperand isAlnum code literal = comparison.isSeverity := by
        rw [isSeverityOperand, hoperand]
        rfl
      have hbefore := (unmarked_append.mp (hsplit ▸ hcode)).1
      rw [hsub, hturned]
      rcases Bool.eq_false_or_eq_true comparison.isSeverity with hsev | hother
      · rcases replacement_of_isSeverity hsev with ⟨order, hreplacement⟩
        refine ⟨before ++ (comparison.fieldName ++ [' '] ++ comparison.operator ++ [' '] ++
          (toString order).toList), ?_, ?_, fun h => absurd (h.symm.trans hsev) Bool.false_ne_true⟩
        · rw [hreplacement, Option.getD_some, if_pos hsev, List.nil_append, ← List.append_assoc]
        · intro _
          refine ⟨unmarked_append.mpr ⟨hbefore, unmarked_number hmatch order⟩, ?_⟩
          intro hnil
          have hnumber := (List.append_eq_nil_iff.mp hnil).2
          rw [List.append_assoc, List.append_assoc, List.append_assoc] at hnumber
          exact hmatch.fieldName_ne (List.append_eq_nil_iff.mp hnumber).1
      · have hsame : subComparisons isAlnum 0 literal = literal := by
          rw [hlit, subComparisons_literal hmatch]
        rw [hother, if_neg Bool.false_ne_true, hsame]
        rcases replacement_of_not_isSeverity hother with hnone | ⟨_, hsome⟩
        · refine ⟨code, ?_, fun h => absurd h Bool.false_ne_true, fun _ => StandsIn.refl hcode⟩
          rw [hnone, Option.getD_none, hsplit, hlit, Comparison.matched]
          simp only [List.append_assoc]
        · refine ⟨before ++ comparison.providerOperand, ?_,
            fun h => absurd h Bool.false_ne_true, fun _ => ?_⟩
          · rw [hsome, Option.getD_some, hlit]
            simp only [List.append_assoc]
          · exact standsIn_providerOperand hmatch hbefore hsplit

end

end Rules
end KeepGateway
