import KeepGateway.Rules.Substitutions

/-!
# Reading literals

A literal is read whatever follows it, and a text of code and literals is read as its literals.
-/

namespace KeepGateway
namespace Rules

open Interleaved

variable {q : Char} {raw escaped : Bool}

/-!
## The body of a literal
-/

theorem readBody_append {text body : List Char} (h : readBody q raw escaped text = some body)
    (rest : List Char) : readBody q raw escaped (text ++ rest) = some body := by
  induction text generalizing escaped body with
  | nil => cases h
  | cons c text ih =>
      rw [readBody] at h
      rw [List.cons_append, readBody]
      split at h
      · cases h
      · next hnewline =>
          rw [if_neg hnewline]
          split at h
          · next hclose =>
              rw [if_pos hclose]
              exact h
          · next hopen =>
              rcases Option.map_eq_some_iff.mp h with ⟨more, hmore, hbody⟩
              rw [if_neg hopen, ih hmore, ← hbody]
              rfl

theorem endsQuoted_body {text body : List Char} (hq : isQuote q = true)
    (h : readBody q raw escaped text = some body) : EndsQuoted body := by
  induction text generalizing escaped body with
  | nil => cases h
  | cons c text ih =>
      rw [readBody] at h
      split at h
      · cases h
      · split at h
        · next hclose =>
            cases h
            exact ⟨c, rfl, by rw [hclose.2]; exact hq⟩
        · rcases Option.map_eq_some_iff.mp h with ⟨more, hmore, hbody⟩
          rw [← hbody]
          exact @endsQuoted_append [c] _ (ih hmore)

theorem readTripleBody_length {text body : List Char}
    (h : readTripleBody q raw escaped text = some body) : 3 ≤ text.length := by
  induction text generalizing escaped body with
  | nil => cases h
  | cons c text ih =>
      rw [readTripleBody] at h
      rw [List.length_cons]
      split at h
      · next hclose =>
          have hlength := congrArg List.length hclose.2.2
          rw [List.length_take, List.length_cons, List.length_singleton] at hlength
          omega
      · rcases Option.map_eq_some_iff.mp h with ⟨more, hmore, _⟩
        have hrest := ih hmore
        omega

theorem readTripleBody_append {text body : List Char}
    (h : readTripleBody q raw escaped text = some body) (rest : List Char) :
    readTripleBody q raw escaped (text ++ rest) = some body := by
  induction text generalizing escaped body with
  | nil => cases h
  | cons c text ih =>
      have hlength := readTripleBody_length h
      rw [List.length_cons] at hlength
      have htake : (text ++ rest).take 2 = text.take 2 := List.take_append_of_le_length (by omega)
      rw [readTripleBody] at h
      rw [List.cons_append, readTripleBody, htake]
      split at h
      · next hclose =>
          rw [if_pos hclose]
          exact h
      · next hopen =>
          rcases Option.map_eq_some_iff.mp h with ⟨more, hmore, hbody⟩
          rw [if_neg hopen, ih hmore, ← hbody]
          rfl

theorem endsQuoted_tripleBody {text body : List Char} (hq : isQuote q = true)
    (h : readTripleBody q raw escaped text = some body) : EndsQuoted body := by
  induction text generalizing escaped body with
  | nil => cases h
  | cons c text ih =>
      rw [readTripleBody] at h
      split at h
      · cases h
        exact ⟨q, rfl, hq⟩
      · rcases Option.map_eq_some_iff.mp h with ⟨more, hmore, hbody⟩
        rw [← hbody]
        exact @endsQuoted_append [c] _ (ih hmore)

/-!
## Literals
-/

/-- The text does not begin with a quote. -/
def NoQuoteFirst (text : List Char) : Prop := forall c rest, text = c :: rest -> isQuote c = false

theorem endsQuoted_readLiteral {text literal : List Char}
    (hhead : forall q rest, text = q :: rest -> isQuote q = true)
    (h : readLiteral raw text = some literal) : EndsQuoted literal := by
  cases text with
  | nil => cases h
  | cons q rest =>
      have hq := hhead q rest rfl
      rw [readLiteral] at h
      split at h
      · rcases Option.map_eq_some_iff.mp h with ⟨body, hbody, hliteral⟩
        rw [← hliteral]
        exact @endsQuoted_append [q, q, q] _ (endsQuoted_tripleBody hq hbody)
      · rcases Option.map_eq_some_iff.mp h with ⟨body, hbody, hliteral⟩
        rw [← hliteral]
        exact @endsQuoted_append [q] _ (endsQuoted_body hq hbody)

theorem IsLiteral.marked {literal : List Char} (h : IsLiteral raw literal) :
    Marked isQuote literal := by
  rcases h with ⟨⟨q, rest, heq, hq⟩, hread⟩
  rw [marked_iff]
  refine ⟨⟨q, rest, heq, hq⟩, endsQuoted_readLiteral ?_ hread⟩
  intro q' rest' heq'
  rw [heq] at heq'
  rw [← (List.cons.inj heq').1]
  exact hq

/-- A literal is read in front of any text that does not begin with a quote. -/
theorem IsLiteral.read {literal : List Char} (h : IsLiteral raw literal) {rest : List Char}
    (hrest : NoQuoteFirst rest) : readLiteral raw (literal ++ rest) = some literal := by
  rcases h with ⟨⟨q, body, heq, hq⟩, hread⟩
  rw [heq] at hread ⊢
  rw [readLiteral] at hread
  rw [List.cons_append, readLiteral]
  split at hread
  · next htriple =>
      have hlength := congrArg List.length htriple
      rw [List.length_take, List.length_cons, List.length_singleton] at hlength
      have hle : 2 ≤ body.length := by omega
      rw [List.take_append_of_le_length hle, if_pos htriple, List.drop_append_of_le_length hle]
      rcases Option.map_eq_some_iff.mp hread with ⟨more, hmore, hliteral⟩
      rw [readTripleBody_append hmore, Option.map_some, hliteral]
  · next hsingle =>
      rcases Option.map_eq_some_iff.mp hread with ⟨more, hmore, hliteral⟩
      have htake : (body ++ rest).take 2 ≠ [q, q] := by
        rcases body with _ | ⟨c, _ | ⟨d, body⟩⟩
        · cases hmore
        · intro htriple
          cases rest with
          | nil => cases htriple
          | cons d rest =>
              have hd := (List.cons.inj (List.cons.inj htriple).2).1
              have hnot := hrest d rest rfl
              rw [hd, hq] at hnot
              cases hnot
        · exact hsingle
      rw [if_neg htake, readBody_append hmore, Option.map_some, hliteral]

theorem readBody_letters {value : List Char} (hq : isQuote q = true)
    (h : forall c, c ∈ value -> isMark c = false) (rest : List Char) :
    readBody q raw false (value ++ q :: rest) = some (value ++ [q]) := by
  induction value with
  | nil =>
      have hnewline : ¬ isNewline q = true := by
        rcases isQuote_iff.mp hq with heq | heq <;> rw [heq] <;> decide
      rw [List.nil_append, readBody, if_neg hnewline, if_pos ⟨rfl, rfl⟩, List.nil_append]
  | cons c value ih =>
      have hc := h c List.mem_cons_self
      simp only [isMark, Bool.or_eq_false_iff, beq_eq_false_iff_ne] at hc
      rcases hc with ⟨⟨⟨hquote, _⟩, hslash⟩, hnewline⟩
      have hclose : ¬ (false = false ∧ c = q) := by
        intro hand
        rw [hand.2, hq] at hquote
        cases hquote
      rw [List.cons_append, readBody, hnewline, if_neg Bool.false_ne_true, if_neg hclose,
        beq_eq_false_iff_ne.mpr hslash, Bool.and_false,
        ih fun d hd => h d (List.mem_cons_of_mem c hd), Option.map_some, List.cons_append]

/-- A quoted severity is a literal, whatever follows it. -/
theorem readLiteral_severity {isAlnum : Char -> Bool} {comparison : Comparison}
    {space1 space2 : List Char} (h : comparison.IsMatch isAlnum space1 space2)
    (rest : List Char) :
    readLiteral raw (comparison.literal ++ rest) = some comparison.literal := by
  rcases h.matchedValue with ⟨severity, hsev, hsame⟩
  have hletters := hsame.isMark (isLetters_severity hsev).1
  have hne : comparison.matchedValue ≠ [] := by
    intro hnil
    have hlength := hsame.length_eq
    rw [hnil, List.length_nil, List.length_eq_zero_iff] at hlength
    exact (isLetters_severity hsev).2 hlength
  have htake : (comparison.matchedValue ++ comparison.quote :: rest).take 2 ≠
      [comparison.quote, comparison.quote] := by
    rcases hvalue : comparison.matchedValue with _ | ⟨c, value⟩
    · exact absurd hvalue hne
    · intro htriple
      rw [List.cons_append, List.take_succ_cons] at htriple
      have hc := isQuote_of_not_isMark (hletters c (by rw [hvalue]; exact List.mem_cons_self))
      rw [(List.cons.inj htriple).1, h.quote] at hc
      cases hc
  rw [Comparison.cons_literal, readLiteral, if_neg htake, readBody_letters h.quote hletters]
  rfl

/-!
## Texts of code and literals
-/

theorem stringTokens_skip (text rest : List Char) :
    stringTokens text.length false (text ++ rest) = stringTokens 0 false rest := by
  induction text with
  | nil => rfl
  | cons c text ih => exact ih

theorem stringTokens_code {code : List Char} (hcode : Unmarked isQuote code)
    (rest : List Char) :
    stringTokens 0 false (code ++ rest) = stringTokens 0 (endsRaw code) rest := by
  have hlast : forall (code : List Char) (raw : Bool), Unmarked isQuote code ->
      stringTokens 0 raw (code ++ rest) =
        stringTokens 0 ((code.getLast?.map isRawMark).getD raw) rest := by
    intro code
    induction code with
    | nil =>
        intro raw _
        rfl
    | cons c code ih =>
        intro raw hcode
        rcases unmarked_cons.mp hcode with ⟨hc, hcode⟩
        rw [List.cons_append, stringTokens, hc, if_neg Bool.false_ne_true, ih _ hcode,
          List.getLast?_cons]
        cases code.getLast? <;> rfl
  rw [hlast code false hcode, endsRaw]
  cases code.getLast? <;> rfl

theorem stringTokens_literal {literal : List Char} (h : IsLiteral raw literal)
    {rest : List Char} (hrest : NoQuoteFirst rest) :
    stringTokens 0 raw (literal ++ rest) =
      (stringTokens 0 false rest).map fun tokens => literal :: tokens := by
  have hread := h.read hrest
  rcases h.1 with ⟨q, body, heq, hq⟩
  rw [heq, List.cons_append] at hread ⊢
  rw [stringTokens, if_pos hq, hread]
  dsimp only
  rw [List.length_cons, Nat.add_sub_cancel, stringTokens_skip]

/-- Code without quotes that alternates with literals, two of which are never next to each other. -/
def Readable : List Char -> List (List Char × List Char) -> Prop
  | code, [] => Unmarked isQuote code
  | code, (literal, next) :: more =>
      Unmarked isQuote code ∧ IsLiteral (endsRaw code) literal ∧ (more ≠ [] -> next ≠ []) ∧
        Readable next more

theorem Readable.code {code : List Char} {rest : List (List Char × List Char)}
    (h : Readable code rest) : Unmarked isQuote code := by
  cases rest with
  | nil => exact h
  | cons piece more => exact h.1

/-- After a literal no quote follows. -/
theorem noQuoteFirst_joinedText {next : List Char} {more : List (List Char × List Char)}
    (hnext : Unmarked isQuote next) (hne : more ≠ [] -> next ≠ []) :
    NoQuoteFirst (joinedText next more) := by
  intro c rest heq
  cases next with
  | nil =>
      cases more with
      | nil => cases heq
      | cons piece more => exact absurd rfl (hne (List.cons_ne_nil piece more))
  | cons d next =>
      have hd : d = c := by
        cases more with
        | nil => exact (List.cons.inj heq).1
        | cons piece more => exact (List.cons.inj heq).1
      rw [← hd]
      exact (unmarked_cons.mp hnext).1

theorem stringTokens_joinedText {code : List Char} {rest : List (List Char × List Char)}
    (h : Readable code rest) :
    stringTokens 0 false (joinedText code rest) = some (rest.map Prod.fst) := by
  induction rest generalizing code with
  | nil =>
      have hcode := stringTokens_code h []
      rw [List.append_nil] at hcode
      rw [joinedText, hcode]
      rfl
  | cons piece more ih =>
      rcases piece with ⟨literal, next⟩
      rcases h with ⟨hcode, hliteral, hne, hmore⟩
      rw [joinedText, stringTokens_code hcode,
        stringTokens_literal hliteral (noQuoteFirst_joinedText hmore.code hne), ih hmore]
      rfl

theorem WellFormed.readable {code : List Char} {rest : List (List Char × List Char)}
    (h : WellFormed code rest) : Readable code rest := by
  induction rest generalizing code with
  | nil => exact h
  | cons piece more ih =>
      rcases piece with ⟨literal, next⟩
      rcases h with ⟨hcode, hliteral, hbetween, hmore⟩
      exact ⟨hcode, hliteral, fun hne => (hbetween hne).1, ih hmore⟩

/-- The literals of an expression are read in its text. -/
theorem stringTokens_text (expression : Expression) :
    stringTokens 0 false expression.text = some (expression.rest.map Prod.fst) :=
  stringTokens_joinedText expression.wellFormed.readable

/-!
## What was read
-/

theorem readBody_isPrefix {text body : List Char} (h : readBody q raw escaped text = some body) :
    body <+: text := by
  induction text generalizing escaped body with
  | nil => cases h
  | cons c text ih =>
      rw [readBody] at h
      split at h
      · cases h
      · split at h
        · cases h
          exact ⟨text, rfl⟩
        · rcases Option.map_eq_some_iff.mp h with ⟨more, hmore, hbody⟩
          rw [← hbody]
          exact (List.prefix_cons_inj c).mpr (ih hmore)

theorem readTripleBody_isPrefix {text body : List Char}
    (h : readTripleBody q raw escaped text = some body) : body <+: text := by
  induction text generalizing escaped body with
  | nil => cases h
  | cons c text ih =>
      rw [readTripleBody] at h
      split at h
      · next hclose =>
          cases h
          rw [← hclose.2.2, ← hclose.2.1]
          exact (List.prefix_cons_inj c).mpr (List.take_prefix 2 text)
      · rcases Option.map_eq_some_iff.mp h with ⟨more, hmore, hbody⟩
        rw [← hbody]
        exact (List.prefix_cons_inj c).mpr (ih hmore)

theorem readLiteral_isPrefix {text literal : List Char}
    (h : readLiteral raw text = some literal) :
    literal <+: text ∧ literal.head? = text.head? := by
  cases text with
  | nil => cases h
  | cons q rest =>
      rw [readLiteral] at h
      split at h
      · next htriple =>
          rcases Option.map_eq_some_iff.mp h with ⟨body, hbody, hliteral⟩
          rw [← hliteral]
          refine ⟨(List.prefix_cons_inj q).mpr ?_, rfl⟩
          have hsplit := List.take_append_drop 2 rest
          rw [htriple] at hsplit
          rw [← hsplit]
          exact (List.prefix_append_right_inj [q, q]).mpr (readTripleBody_isPrefix hbody)
      · rcases Option.map_eq_some_iff.mp h with ⟨body, hbody, hliteral⟩
        rw [← hliteral]
        exact ⟨(List.prefix_cons_inj q).mpr (readBody_isPrefix hbody), rfl⟩

/-- The literals that are read begin and end with quotes, and no quote is outside of them. -/
theorem interleaves_stringTokens {text : List Char} {tokens : List (List Char)}
    (h : stringTokens 0 raw text = some tokens) :
    Interleaves isQuote text tokens ∧ forall t, t ∈ tokens -> Marked isQuote t := by
  induction hlength : text.length using Nat.strong_induction_on generalizing text raw tokens with
  | _ n ih =>
      cases text with
      | nil =>
          cases h
          exact ⟨unmarked_nil, fun t ht => absurd ht List.not_mem_nil⟩
      | cons c rest =>
          rw [List.length_cons] at hlength
          rw [stringTokens] at h
          split at h
          · next hc =>
              cases hread : readLiteral raw (c :: rest) with
              | none =>
                  rw [hread] at h
                  cases h
              | some literal =>
                  rw [hread] at h
                  rcases readLiteral_isPrefix hread with ⟨⟨after, hafter⟩, hhead⟩
                  have hmarked : Marked isQuote literal := by
                    rw [marked_iff]
                    have hends : EndsQuoted literal := by
                      apply endsQuoted_readLiteral _ hread
                      intro d other heq
                      rw [← (List.cons.inj heq).1]
                      exact hc
                    rcases literal with _ | ⟨d, body⟩
                    · cases hhead
                    · rw [List.head?_cons, List.head?_cons, Option.some.injEq] at hhead
                      exact ⟨⟨d, body, rfl, by rw [hhead]; exact hc⟩, hends⟩
                  rcases literal with _ | ⟨d, body⟩
                  · cases hhead
                  · have hrest := (List.cons.inj hafter).2
                    change body ++ after = rest at hrest
                    dsimp only at h
                    rw [List.length_cons, Nat.add_sub_cancel, ← hrest, stringTokens_skip] at h
                    rcases Option.map_eq_some_iff.mp h with ⟨others, hothers, htokens⟩
                    have hshorter := congrArg List.length hrest
                    rw [List.length_append] at hshorter
                    rcases ih after.length (by omega) hothers rfl with ⟨hinner, hall⟩
                    rw [← htokens]
                    constructor
                    · exact ⟨[], after, hafter.symm, unmarked_nil, hinner⟩
                    · intro t ht
                      rcases List.mem_cons.mp ht with heq | hmem
                      · rw [heq]
                        exact hmarked
                      · exact hall t hmem
          · next hc =>
              rw [Bool.not_eq_true] at hc
              rcases ih rest.length (by omega) h rfl with ⟨hrest, hmarked⟩
              refine ⟨?_, hmarked⟩
              cases tokens with
              | nil => exact unmarked_cons.mpr ⟨hc, hrest⟩
              | cons token tokens =>
                  rcases hrest with ⟨code, after, heq, hcode, hafter⟩
                  exact ⟨c :: code, after, by rw [heq, List.cons_append],
                    unmarked_cons.mpr ⟨hc, hcode⟩, hafter⟩

theorem interleaves_joinedText {code : List Char} {rest : List (List Char × List Char)}
    (hcode : Unmarked isQuote code)
    (hrest : forall piece, piece ∈ rest -> Unmarked isQuote piece.2) :
    Interleaves isQuote (joinedText code rest) (rest.map Prod.fst) := by
  induction rest generalizing code with
  | nil => exact hcode
  | cons piece more ih =>
      exact ⟨code, joinedText piece.2 more, rfl, hcode,
        ih (hrest piece List.mem_cons_self) fun p hp => hrest p (List.mem_cons_of_mem _ hp)⟩

end Rules
end KeepGateway
