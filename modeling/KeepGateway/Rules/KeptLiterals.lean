import KeepGateway.Rules.PiecewiseWords

/-!
# Literals that preprocessing keeps

Which expressions have the same string literals after preprocessing, apart from the severities
that are turned into numbers.
-/

namespace KeepGateway
namespace Rules

open Interleaved

/-!
## Expressions through the substitutions
-/

/-- Code without quotes between texts, two of which are never next to each other. -/
def Spaced : List Char -> List (List Char × List Char) -> Prop
  | code, [] => Unmarked isQuote code
  | code, (_, next) :: more =>
      Unmarked isQuote code ∧ (more ≠ [] -> next ≠ []) ∧ Spaced next more

/-- Each text between code, and whether the code before it makes a literal raw. -/
def tagged : List Char -> List (List Char × List Char) -> List (Bool × List Char)
  | _, [] => []
  | code, (text, next) :: more => (endsRaw code, text) :: tagged next more

theorem Spaced.code {code : List Char} {rest : List (List Char × List Char)}
    (h : Spaced code rest) : Unmarked isQuote code := by
  cases rest with
  | nil => exact h
  | cons piece more => exact h.1

theorem Spaced.codes {code : List Char} {rest : List (List Char × List Char)}
    (h : Spaced code rest) : forall piece, piece ∈ rest -> Unmarked isQuote piece.2 := by
  induction rest generalizing code with
  | nil =>
      intro piece hpiece
      exact absurd hpiece List.not_mem_nil
  | cons first more ih =>
      rcases first with ⟨text, next⟩
      intro piece hpiece
      rcases List.mem_cons.mp hpiece with heq | hmem
      · rw [heq]
        exact h.2.2.code
      · exact ih h.2.2 piece hmem

theorem tagged_snd (code : List Char) (rest : List (List Char × List Char)) :
    (tagged code rest).map Prod.snd = rest.map Prod.fst := by
  induction rest generalizing code with
  | nil => rfl
  | cons piece more ih =>
      rw [tagged, List.map_cons, List.map_cons, ih]

/-- The code before the first text may be preceded by other code. -/
theorem tagged_append {code next : List Char} {more : List (List Char × List Char)}
    (h : more ≠ [] -> next ≠ []) : tagged (code ++ next) more = tagged next more := by
  cases more with
  | nil => rfl
  | cons piece more =>
      rw [tagged, tagged, endsRaw_append (h (List.cons_ne_nil piece more))]

theorem spaced_append {code next : List Char} {more : List (List Char × List Char)}
    (hcode : Unmarked isQuote code) (h : Spaced next more) : Spaced (code ++ next) more := by
  cases more with
  | nil => exact unmarked_append.mpr ⟨hcode, h⟩
  | cons piece more => exact ⟨unmarked_append.mpr ⟨hcode, h.1⟩, h.2⟩

theorem joinedText_append (code next : List Char) (more : List (List Char × List Char)) :
    joinedText (code ++ next) more = code ++ joinedText next more := by
  cases more with
  | nil => rfl
  | cons piece more => rw [joinedText, joinedText, List.append_assoc]

/-- Texts that are literals after their code make the whole readable. -/
theorem Spaced.readable {code : List Char} {rest : List (List Char × List Char)}
    (h : Spaced code rest) (hliterals : forall t, t ∈ tagged code rest -> IsLiteral t.1 t.2) :
    Readable code rest := by
  induction rest generalizing code with
  | nil => exact h
  | cons piece more ih =>
      rcases piece with ⟨text, next⟩
      exact ⟨h.1, hliterals _ List.mem_cons_self, h.2.1,
        ih h.2.2 fun t ht => hliterals t (List.mem_cons_of_mem _ ht)⟩

/-- A substitution has made the text of code between texts into one of code between other texts,
with no code gone between two of them. -/
def SubstitutedBy (code : List Char) (rest : List (List Char × List Char))
    (texts : List (Bool × List Char)) (substituted : List Char) : Prop :=
  exists code' rest', substituted = joinedText code' rest' ∧ Spaced code' rest' ∧
    tagged code' rest' = texts ∧ (code ≠ [] -> rest' ≠ [] -> code' ≠ []) ∧
      (rest = [] -> rest' = [])

section

variable (isAlnum : Char -> Bool)

/-- The literals that are not turned into numbers, as `tagged` gives them. -/
def taggedKept : List Char -> List (List Char × List Char) -> List (Bool × List Char)
  | _, [] => []
  | code, (literal, next) :: more =>
      if isSeverityOperand isAlnum code literal then taggedKept next more
      else (endsRaw code, literal) :: taggedKept next more

theorem taggedKept_snd (code : List Char) (rest : List (List Char × List Char)) :
    (taggedKept isAlnum code rest).map Prod.snd = keptLiterals isAlnum code rest := by
  induction rest generalizing code with
  | nil => rfl
  | cons piece more ih =>
      rw [taggedKept, keptLiterals]
      split
      · exact ih piece.2
      · rw [List.map_cons, ih]

variable {isAlnum}

theorem isLiteral_of_taggedKept {code : List Char} {rest : List (List Char × List Char)}
    (h : WellFormed code rest) :
    forall t, t ∈ taggedKept isAlnum code rest -> IsLiteral t.1 t.2 := by
  induction rest generalizing code with
  | nil =>
      intro t ht
      exact absurd ht List.not_mem_nil
  | cons piece more ih =>
      rcases piece with ⟨literal, next⟩
      rcases h with ⟨_, hliteral, _, hmore⟩
      intro t ht
      rw [taggedKept] at ht
      split at ht
      · exact ih hmore t ht
      · rcases List.mem_cons.mp ht with heq | hmem
        · rw [heq]
          exact hliteral
        · exact ih hmore t hmem

/-- The first substitution turns severities into numbers and goes through the other literals. -/
theorem subComparisons_joinedText {code : List Char} {rest : List (List Char × List Char)}
    (h : WellFormed code rest) :
    SubstitutedBy code rest
      ((taggedKept isAlnum code rest).map fun t => (t.1, subComparisons isAlnum 0 t.2))
      (subComparisons isAlnum 0 (joinedText code rest)) := by
  induction rest generalizing code with
  | nil =>
      refine ⟨code, [], ?_, h, rfl, fun hne _ => hne, id⟩
      exact subComparisons_of_quotes (by rw [joinedText, countP_unmarked h]; decide)
  | cons piece more ih =>
      rcases piece with ⟨literal, next⟩
      rcases h with ⟨hcode, hliteral, hbetween, hmore⟩
      rcases ih hmore with ⟨next', more', hsub, hspaced, htagged, hnext, hnil⟩
      have hquote := noQuoteFirst_joinedText hmore.readable.code fun hne => (hbetween hne).1
      rcases @subComparisons_code isAlnum _ _ _ _ hliteral hquote
        (noSeverityFirst_joinedText hbetween hmore) hcode with ⟨code', hcodeSub, hturned, hkept⟩
      have hseparate : more' ≠ [] -> next' ≠ [] :=
        fun hne => hnext (hbetween fun heq => hne (hnil heq)).1 hne
      rw [joinedText, hcodeSub, hsub, taggedKept]
      rcases Bool.eq_false_or_eq_true (isSeverityOperand isAlnum code literal) with hsev | hother
      · rcases hturned hsev with ⟨hunmarked, hne⟩
        rw [if_pos hsev, if_pos hsev, List.nil_append, ← joinedText_append]
        refine ⟨code' ++ next', more', rfl, spaced_append hunmarked hspaced, ?_, ?_, ?_⟩
        · rw [tagged_append hseparate, htagged]
        · intro _ _ hempty
          exact hne (List.append_eq_nil_iff.mp hempty).1
        · intro hcons
          cases hcons
      · have hstands := hkept hother
        rw [hother, if_neg Bool.false_ne_true, if_neg Bool.false_ne_true]
        refine ⟨code', (subComparisons isAlnum 0 literal, next') :: more', rfl,
          ⟨hstands.unmarked, hseparate, hspaced⟩, ?_, ?_, ?_⟩
        · rw [tagged, htagged, List.map_cons, hstands.raw]
        · intro hne _ hempty
          exact hne (hstands.nil_iff.mp hempty)
        · intro hcons
          cases hcons

theorem quotes_subWord {word replacement : List Char} (hword : word ≠ [])
    (hletters : IsLetters word) (hreplacement : Unmarked isQuote replacement)
    (before : Option Char) (text : List Char) :
    (subWord isAlnum word replacement 0 before text).countP isQuote = text.countP isQuote := by
  rcases @subWord_counts isAlnum word replacement hword hletters before text with
    ⟨k, _, _, hcount⟩
  rw [hcount isQuote, countP_unmarked hreplacement, Nat.mul_zero, Nat.add_zero]
  intro c hc
  rw [isMark, hc]
  rfl

/-- The substitution of a word goes through quoted texts between code. -/
theorem subWord_joinedText {word replacement : List Char} (hword : word ≠ [])
    (hletters : IsLetters word) (hreplacement : Unmarked isQuote replacement) {code : List Char}
    {rest : List (List Char × List Char)} (h : Spaced code rest)
    (hmarked : forall t, t ∈ tagged code rest -> Marked isQuote t.2) (before : Option Char) :
    SubstitutedBy code rest
      ((tagged code rest).map fun t => (t.1, subWord isAlnum word replacement 0 none t.2))
      (subWord isAlnum word replacement 0 before (joinedText code rest)) := by
  induction rest generalizing code before with
  | nil =>
      refine ⟨_, [], rfl, ?_, rfl, fun _ hne => absurd rfl hne, id⟩
      have hquotes := @quotes_subWord isAlnum _ _ hword hletters hreplacement before code
      rw [countP_unmarked h, List.countP_eq_zero] at hquotes
      intro c hc
      rw [← Bool.not_eq_true]
      exact hquotes c hc
  | cons piece more ih =>
      rcases piece with ⟨text, next⟩
      rcases h with ⟨hcode, hbetween, hmore⟩
      have htext := hmarked _ List.mem_cons_self
      rcases htext.head with ⟨q, body, heq, hq⟩
      rcases @subWord_code isAlnum word replacement code hword hletters hreplacement hcode q hq
        before (body ++ joinedText next more) with ⟨code', before', hcodeSub, hstands⟩
      rw [← List.cons_append, ← heq] at hcodeSub
      have htextSub := (@subWord_marked isAlnum word replacement text hword hletters htext before'
        (joinedText next more)).1
      rcases ih hmore (fun t ht => hmarked t (List.mem_cons_of_mem _ ht)) text.getLast? with
        ⟨next', more', hsub, hspaced, htagged, hnext, hnil⟩
      have hseparate : more' ≠ [] -> next' ≠ [] :=
        fun hne => hnext (hbetween fun heq => hne (hnil heq)) hne
      rw [joinedText, hcodeSub, htextSub, hsub, tagged]
      refine ⟨code', (subWord isAlnum word replacement 0 none text, next') :: more', rfl,
        ⟨hstands.unmarked, hseparate, hspaced⟩, ?_, ?_, ?_⟩
      · rw [tagged, htagged, List.map_cons, hstands.raw]
      · intro hne _ hempty
        exact hne (hstands.nil_iff.mp hempty)
      · intro hcons
        cases hcons

/-!
## The whole of preprocessing
-/

theorem source_word : "source".toList ≠ [] ∧ IsLetters "source".toList :=
  ⟨by decide, by unfold IsLetters; decide⟩

theorem deleted_word : "deleted".toList ≠ [] ∧ IsLetters "deleted".toList :=
  ⟨by decide, by unfold IsLetters; decide⟩

theorem unmarked_of_test {l : List Char} (h : l.all (fun c => !isQuote c) = true) :
    Unmarked isQuote l := by
  intro c hc
  rw [← Bool.not_eq_true']
  exact List.all_eq_true.mp h c hc

theorem unmarked_providerType : Unmarked isQuote "provider_type".toList :=
  unmarked_of_test (by decide)

theorem unmarked_false : Unmarked isQuote "false".toList := unmarked_of_test (by decide)

theorem marked_preprocess {text : List Char} (h : Marked isQuote text)
    (hno : NoSeverity isAlnum text) : Marked isQuote (preprocessCelExpression isAlnum text) := by
  have hfirst := marked_subComparisons hno h
  have hsource := (@subWord_marked isAlnum _ "provider_type".toList _ source_word.1 source_word.2
    hfirst none []).2
  exact (subWord_marked deleted_word.1 deleted_word.2 hsource none []).2

/-- Where no severity is within a literal that is kept, preprocessing goes through these
literals. -/
theorem preprocess_joinedText {code : List Char} {rest : List (List Char × List Char)}
    (h : WellFormed code rest)
    (hno : forall t, t ∈ taggedKept isAlnum code rest -> NoSeverity isAlnum t.2) :
    exists code' rest',
      preprocessCelExpression isAlnum (joinedText code rest) = joinedText code' rest' ∧
      Spaced code' rest' ∧ tagged code' rest' = (taggedKept isAlnum code rest).map
        fun t => (t.1, preprocessCelExpression isAlnum t.2) := by
  rcases subComparisons_joinedText h with ⟨code1, rest1, htext1, hspaced1, htagged1, _, _⟩
  have hmarked1 : forall t, t ∈ tagged code1 rest1 -> Marked isQuote t.2 := by
    intro t ht
    rw [htagged1] at ht
    rcases List.mem_map.mp ht with ⟨kept, hkept, heq⟩
    rw [← heq]
    exact marked_subComparisons (hno kept hkept) (isLiteral_of_taggedKept h kept hkept).marked
  rcases @subWord_joinedText isAlnum _ _ source_word.1 source_word.2 unmarked_providerType _ _
    hspaced1 hmarked1 none with ⟨code2, rest2, htext2, hspaced2, htagged2, _, _⟩
  have hmarked2 : forall t, t ∈ tagged code2 rest2 -> Marked isQuote t.2 := by
    intro t ht
    rw [htagged2] at ht
    rcases List.mem_map.mp ht with ⟨kept, hkept, heq⟩
    rw [← heq]
    exact (subWord_marked source_word.1 source_word.2 (hmarked1 kept hkept) none []).2
  rcases @subWord_joinedText isAlnum _ _ deleted_word.1 deleted_word.2 unmarked_false _ _ hspaced2
    hmarked2 none with ⟨code3, rest3, htext3, hspaced3, htagged3, _, _⟩
  refine ⟨code3, rest3, ?_, hspaced3, ?_⟩
  · rw [preprocessCelExpression, htext1, htext2, htext3]
  · rw [htagged3, htagged2, htagged1, List.map_map, List.map_map]
    rfl

/-- The quotes of the preprocessed text: two less for each severity within a literal that is
kept. -/
theorem quotes_preprocess {code : List Char} {rest : List (List Char × List Char)}
    (h : WellFormed code rest) :
    (preprocessCelExpression isAlnum (joinedText code rest)).countP isQuote =
      ((keptLiterals isAlnum code rest).map fun literal =>
        (subComparisons isAlnum 0 literal).countP isQuote).sum := by
  rcases subComparisons_joinedText h with ⟨code1, rest1, htext1, hspaced1, htagged1, _, _⟩
  have hpieces : rest1.map Prod.fst =
      (keptLiterals isAlnum code rest).map (subComparisons isAlnum 0) := by
    rw [← tagged_snd code1, htagged1, ← taggedKept_snd, List.map_map, List.map_map]
    rfl
  rw [preprocessCelExpression, quotes_subWord deleted_word.1 deleted_word.2 unmarked_false,
    quotes_subWord source_word.1 source_word.2 unmarked_providerType, htext1,
    countP_interleaves (interleaves_joinedText hspaced1.code hspaced1.codes), hpieces, List.map_map]
  rfl

/-!
## The condition
-/

theorem Untouched.noSeverity {text : List Char} (h : Untouched isAlnum text) :
    NoSeverity isAlnum text :=
  fun comparison hcomparison => (h.comparisons comparison hcomparison).1

theorem Untouched.preprocess {text : List Char} (h : Untouched isAlnum text) :
    preprocessCelExpression isAlnum text = text := by
  have hcomparisons := subComparisons_eq_self fun comparison hcomparison =>
    replacement_eq_none_iff.mpr (h.comparisons comparison hcomparison)
  rw [preprocessCelExpression, hcomparisons, subWord_eq_self source_word.1 h.source,
    subWord_eq_self deleted_word.1 h.deleted]

/-- Underscores and lengths tell what was replaced in a text that stays the same. -/
theorem untouched_of_preprocess {text : List Char} (hno : NoSeverity isAlnum text)
    (h : preprocessCelExpression isAlnum text = text) : Untouched isAlnum text := by
  rw [preprocessCelExpression] at h
  rcases @subWord_counts isAlnum "source".toList "provider_type".toList source_word.1 source_word.2
    none (subComparisons isAlnum 0 text) with ⟨k1, hzero1, _, hcount1⟩
  rcases @subWord_counts isAlnum "deleted".toList "false".toList deleted_word.1 deleted_word.2
    none (subWord isAlnum "source".toList "provider_type".toList 0 none
      (subComparisons isAlnum 0 text)) with ⟨k2, hzero2, hlength2, hcount2⟩
  have hmark : forall c : Char, (c == '_') = true -> isMark c = true := by
    intro c hc
    rw [isMark, hc, Bool.or_true, Bool.true_or, Bool.true_or]
  have hunderscores := hcount2 (fun c => c == '_') hmark
  rw [hcount1 (fun c => c == '_') hmark, h] at hunderscores
  have hfirst := underscores_subComparisons hno
  rw [List.count] at hfirst
  have hprovider : "provider_type".toList.countP (fun c => c == '_') = 1 := by decide
  have hfalse : "false".toList.countP (fun c => c == '_') = 0 := by decide
  rw [hprovider, hfalse, hfirst] at hunderscores
  have hnone : (comparisons isAlnum 0 text).countP
      (fun comparison => comparison.replacement.isSome) = 0 := by omega
  have hk1 : k1 = 0 := by omega
  have hcomparisons : forall comparison, comparison ∈ comparisons isAlnum 0 text ->
      comparison.replacement = none := by
    intro comparison hcomparison
    rw [← Option.not_isSome_iff_eq_none]
    exact List.countP_eq_zero.mp hnone comparison hcomparison
  have hsame := subComparisons_eq_self hcomparisons
  rw [hsame] at hzero1 hzero2 hlength2 h
  have hsource := hzero1 hk1
  rw [subWord_eq_self source_word.1 hsource] at hzero2 hlength2 h
  rw [h] at hlength2
  have hsizes : "deleted".toList.length = 7 ∧ "false".toList.length = 5 := by decide
  rw [hsizes.1, hsizes.2] at hlength2
  exact ⟨fun comparison hcomparison =>
    replacement_eq_none_iff.mp (hcomparisons comparison hcomparison), hsource, hzero2 (by omega)⟩

theorem quotes_preprocess_self {text : List Char} (hno : NoSeverity isAlnum text) :
    (preprocessCelExpression isAlnum text).countP isQuote = text.countP isQuote := by
  have hquotes := @quotes_subComparisons isAlnum text
  rw [noSeverity_iff.mp hno] at hquotes
  rw [preprocessCelExpression, quotes_subWord deleted_word.1 deleted_word.2 unmarked_false,
    quotes_subWord source_word.1 source_word.2 unmarked_providerType]
  omega

theorem mem_taggedKept {code : List Char} {rest : List (List Char × List Char)}
    {P : List Char -> Prop} :
    (forall literal, literal ∈ keptLiterals isAlnum code rest -> P literal) <->
      forall t, t ∈ taggedKept isAlnum code rest -> P t.2 := by
  rw [← taggedKept_snd]
  exact List.forall_mem_map

theorem keepsLiterals_of_untouched {expression : Expression}
    (h : forall literal, literal ∈ keptLiterals isAlnum expression.first expression.rest ->
      Untouched isAlnum literal) : KeepsLiterals isAlnum expression := by
  have hkept := mem_taggedKept.mp h
  rcases preprocess_joinedText expression.wellFormed fun t ht => (hkept t ht).noSeverity with
    ⟨code, rest, htext, hspaced, htagged⟩
  have hsame : (taggedKept isAlnum expression.first expression.rest).map
      (fun t => (t.1, preprocessCelExpression isAlnum t.2)) =
      taggedKept isAlnum expression.first expression.rest := by
    rw [← List.map_id (taggedKept isAlnum expression.first expression.rest), List.map_map]
    apply List.map_congr_left
    intro t ht
    exact Prod.ext rfl (hkept t ht).preprocess
  rw [hsame] at htagged
  have hreadable : Readable code rest := by
    apply hspaced.readable
    rw [htagged]
    exact isLiteral_of_taggedKept expression.wellFormed
  rw [KeepsLiterals, Expression.text, htext, stringTokens_joinedText hreadable, ← tagged_snd code,
    htagged, taggedKept_snd]

/-- The quotes tell that no severity within a literal that is kept becomes a number. -/
theorem KeepsLiterals.noSeverity {expression : Expression} (h : KeepsLiterals isAlnum expression) :
    forall literal, literal ∈ keptLiterals isAlnum expression.first expression.rest ->
      NoSeverity isAlnum literal := by
  have hquotes := countP_interleaves (interleaves_stringTokens h).1
  rw [Expression.text, quotes_preprocess expression.wellFormed] at hquotes
  have hle : forall literal : List Char,
      (subComparisons isAlnum 0 literal).countP isQuote ≤ literal.countP isQuote := by
    intro literal
    have := @quotes_subComparisons isAlnum literal
    omega
  intro literal hliteral
  have hsame := eq_of_sum_eq (fun kept _ => hle kept) hquotes literal hliteral
  have hcount := @quotes_subComparisons isAlnum literal
  rw [noSeverity_iff]
  omega

theorem KeepsLiterals.untouched {expression : Expression} (h : KeepsLiterals isAlnum expression) :
    forall literal, literal ∈ keptLiterals isAlnum expression.first expression.rest ->
      Untouched isAlnum literal := by
  have hno := h.noSeverity
  rcases interleaves_stringTokens h with ⟨hread, hmarked⟩
  rcases preprocess_joinedText expression.wellFormed (mem_taggedKept.mp hno) with
    ⟨code, rest, htext, hspaced, htagged⟩
  have hwritten := interleaves_joinedText hspaced.code hspaced.codes
  have hpieces : rest.map Prod.fst = (keptLiterals isAlnum expression.first expression.rest).map
      (preprocessCelExpression isAlnum) := by
    rw [← tagged_snd code, htagged, ← taggedKept_snd, List.map_map, List.map_map]
    rfl
  rw [← htext, hpieces] at hwritten
  rw [← List.map_id (keptLiterals isAlnum expression.first expression.rest)] at hread
  have hsame := interleaves_unique
    (fun literal hliteral =>
      ⟨marked_preprocess (hmarked literal hliteral) (hno literal hliteral),
        hmarked literal hliteral⟩)
    (fun literal hliteral => quotes_preprocess_self (hno literal hliteral)) hwritten hread
  intro literal hliteral
  exact untouched_of_preprocess (hno literal hliteral) (hsame literal hliteral)

/-- An expression keeps its literals exactly where none of those that are not turned into numbers
has in it a comparison of a severity or a source with a severity in quotes, or one of the words
`source` and `deleted` that is not next to a quote. -/
theorem keepsLiterals_iff (isAlnum : Char -> Bool) (expression : Expression) :
    KeepsLiterals isAlnum expression <->
      forall literal, literal ∈ keptLiterals isAlnum expression.first expression.rest ->
        Untouched isAlnum literal :=
  ⟨KeepsLiterals.untouched, keepsLiterals_of_untouched⟩

end

/-- `message == "the source is down"` -/
def sourceMessage : Expression where
  first := "message == ".toList
  rest := [("\"the source is down\"".toList, [])]
  wellFormed := by
    refine ⟨unmarked_of_test (by decide), ⟨⟨'"', _, rfl, by decide⟩, by decide⟩, ?_, unmarked_nil⟩
    intro hne
    exact absurd rfl hne

/-- The message becomes `"the provider_type is down"`. -/
theorem sourceMessage_not_keepsLiterals : ¬ KeepsLiterals Char.isAlphanum sourceMessage := by
  unfold KeepsLiterals
  decide

end Rules
end KeepGateway
