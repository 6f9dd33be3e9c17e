import KeepGateway.Search.RawSql

/-!
# Parameters replaced at once

When replacing the parameters one after another is replacing them all at once.
-/

namespace KeepGateway
namespace Search

open Replace Templates

/-!
## Names of parameters
-/

theorem toDigits_injective {j k : Nat} (h : Nat.toDigits 10 j = Nat.toDigits 10 k) : j = k := by
  rw [← @Nat.ofDigitChars_ten_toDigits j, h, Nat.ofDigitChars_ten_toDigits]

theorem length_toDigits_le {j k : Nat} (h : j ≤ k) :
    (Nat.toDigits 10 j).length ≤ (Nat.toDigits 10 k).length := by
  rw [Nat.length_toDigits_le_iff (by decide) Nat.length_toDigits_pos]
  have hlength := (@Nat.length_toDigits_le_iff 10 k _ (by decide) Nat.length_toDigits_pos).mp
    (Nat.le_refl _)
  omega

theorem isDigit_toDigits {k : Nat} {c : Char} (hc : c ∈ Nat.toDigits 10 k) :
    c.isDigit = true :=
  Nat.isDigit_of_mem_toDigits (by decide) (by decide) hc

theorem colon_not_mem_paramKey (k : Nat) : ':' ∉ paramKey k := by
  intro h
  rcases List.mem_append.mp h with hname | hdigits
  · exact absurd hname (by decide)
  · exact absurd (isDigit_toDigits hdigits) (by decide)

/-- Only digits can make a later placeholder of an earlier one. -/
theorem longer_placeholder {j k : Nat} (hjk : j < k) {rest : List Char}
    (h : placeholder k <+: placeholder j ++ rest) :
    exists c more, rest = c :: more ∧ c.isDigit = true := by
  have hdigits : Nat.toDigits 10 k <+: Nat.toDigits 10 j ++ rest := by
    have htail : paramKey k <+: paramKey j ++ rest := (List.cons_prefix_cons.mp h).2
    unfold paramKey at htail
    rw [List.append_assoc] at htail
    exact (List.prefix_append_right_inj _).mp htail
  have hlength := length_toDigits_le (Nat.le_of_lt hjk)
  rcases List.prefix_of_prefix_length_le (List.prefix_append _ rest) hdigits hlength with
    ⟨more, hmore⟩
  cases more with
  | nil =>
      rw [List.append_nil] at hmore
      exact absurd (toDigits_injective hmore) (Nat.ne_of_lt hjk)
  | cons c more =>
      have hc : c.isDigit = true := by
        apply isDigit_toDigits (k := k)
        rw [← hmore]
        exact List.mem_append_right _ List.mem_cons_self
      rcases hdigits with ⟨others, hothers⟩
      rw [← hmore, List.append_assoc] at hothers
      exact ⟨c, more ++ others, (List.append_cancel_left hothers).symm, hc⟩

theorem named_placeholder : Named ':' 'p' Char.isDigit placeholder where
  name := fun _ => ⟨_, rfl⟩
  unmarked := colon_not_mem_paramKey
  longer := fun _ _ hjk _ h => longer_placeholder hjk h

/-- No value begins like a placeholder. -/
theorem begins_rendered (value : ParamValue) : Begins ':' 'p' value.rendered := by
  cases value with
  | string text => exact ⟨_, _, rfl, by decide, by decide⟩
  | number numeral =>
      rcases List.exists_cons_of_ne_nil numeral.ne_nil with ⟨c, more, htext⟩
      have hc : isNumeralChar c = true := by
        apply List.all_eq_true.mp numeral.wellFormed
        rw [htext]
        exact List.mem_cons_self
      have hne : forall other, isNumeralChar other = false -> c ≠ other := by
        intro other hother heq
        rw [heq, hother] at hc
        cases hc
      exact ⟨c, more, htext, hne ':' (by decide), hne 'p' (by decide)⟩

/-!
## Templates of texts
-/

theorem template_skip (n : Nat) (text rest : List Char) :
    template n text.length (text ++ rest) = template n 0 rest := by
  induction text with
  | nil => rfl
  | cons c text ih => exact ih

/-- A placeholder stands at the start of a text that it was read from. -/
theorem placeholderAt_eq_some {n k : Nat} {text : List Char} (h : placeholderAt n text = some k) :
    (0 < k ∧ k ≤ n) ∧ placeholder k <+: text := by
  unfold placeholderAt at h
  split at h
  · next hname =>
      have hfound := List.find?_some h
      have hdigits := of_decide_eq_true hfound
      have hrange := List.mem_range'_1.mp (List.mem_of_find?_eq_some h)
      refine ⟨by omega, ?_⟩
      rcases hname with ⟨rest, hrest⟩
      rw [← hrest, List.drop_left] at hdigits
      show ":params_".toList ++ Nat.toDigits 10 k <+: text
      rw [← hrest, hdigits]
      exact (List.prefix_append_right_inj _).mpr (List.takeWhile_prefix _)
  · cases h

/-- The template of a text by its length: an element, or a placeholder. -/
theorem template_induction (n : Nat) {P : List Char -> List (Piece Char) -> Prop} (nil : P [] [])
    (element : forall c rest pieces, P rest pieces -> P (c :: rest) (.element c :: pieces))
    (slot : forall k rest pieces, 0 < k ∧ k ≤ n -> P rest pieces ->
      P (placeholder k ++ rest) (.slot k :: pieces))
    (text : List Char) : P text (template n 0 text) := by
  induction hlength : text.length using Nat.strong_induction_on generalizing text with
  | _ length ih =>
      cases text with
      | nil => exact nil
      | cons c rest =>
          rw [List.length_cons] at hlength
          rw [template]
          cases hread : placeholderAt n (c :: rest) with
          | none => exact element c rest _ (ih rest.length (by omega) rest rfl)
          | some k =>
              rcases placeholderAt_eq_some hread with ⟨hbounds, more, hmore⟩
              rcases List.cons.inj hmore with ⟨hc, (hrest : paramKey k ++ more = rest)⟩
              have hshorter : more.length < length := by
                rw [← hrest, List.length_append] at hlength
                omega
              have hpieces : template n (paramKey k).length rest = template n 0 more := by
                rw [← hrest, template_skip]
              simp only
              rw [hpieces, ← hmore]
              exact slot k more _ hbounds (ih more.length hshorter more rfl)

theorem fill_template (n : Nat) (text : List Char) :
    fill placeholder (template n 0 text) = text := by
  apply template_induction n (P := fun text pieces => fill placeholder pieces = text)
  · rfl
  · intro c rest pieces ih
    rw [fill, ih]
  · intro k rest pieces _ ih
    rw [fill, ih]

theorem slots_template (n : Nat) (text : List Char) :
    forall j, .slot j ∈ template n 0 text -> 0 < j ∧ j ≤ n := by
  apply template_induction n
    (P := fun _ pieces => forall j, .slot j ∈ pieces -> 0 < j ∧ j ≤ n)
  · intro j hj
    cases hj
  · intro c rest pieces ih j hj
    rcases List.mem_cons.mp hj with heq | hmem
    · cases heq
    · exact ih j hmem
  · intro k rest pieces hbounds ih j hj
    rcases List.mem_cons.mp hj with heq | hmem
    · cases heq
      exact hbounds
    · exact ih j hmem

/-!
## One after another
-/

theorem replaceDown_congr {f g : Nat -> List Char} {n : Nat}
    (h : forall k, 0 < k -> k ≤ n -> f k = g k) (text : List Char) :
    replaceDown placeholder f n text = replaceDown placeholder g n text := by
  induction n generalizing text with
  | zero => rfl
  | succ n ih =>
      rw [replaceDown, replaceDown, h (n + 1) n.succ_pos (Nat.le_refl _)]
      exact ih (fun k hpos hk => h k hpos (by omega)) _

/-- The loop replaces the parameters from the last one down. -/
theorem createRawSql_eq (values : List ParamValue) (sqlTemplate : List Char) :
    createRawSql sqlTemplate (numbered values) =
      replaceDown placeholder (renderedAt values) values.length sqlTemplate := by
  unfold createRawSql numbered
  induction values using List.reverseRecOn generalizing sqlTemplate with
  | nil => rfl
  | append_singleton values value ih =>
      have hlast : renderedAt (values ++ [value]) (values.length + 1) = value.rendered := by
        unfold renderedAt
        rw [Nat.add_sub_cancel, List.getElem?_concat_length]
        rfl
      have hbefore : forall k, 0 < k -> k ≤ values.length ->
          renderedAt values k = renderedAt (values ++ [value]) k := by
        intro k hpos hk
        unfold renderedAt
        rw [List.getElem?_append_left (by omega)]
      rw [List.zipIdx_append, List.map_append, List.reverse_append, List.foldl_append, ih,
        List.length_append, List.length_singleton, replaceDown, hlast, replaceDown_congr hbefore,
        Nat.add_comm values.length 1]
      rfl

/-- The parameters are replaced at once if every placeholder is alone when its turn comes; and
only then, where no placeholder is directly followed by another one. -/
theorem simultaneous_iff (values : List ParamValue) (sqlTemplate : List Char) :
    (PlaceholdersAlone values sqlTemplate -> Simultaneous values sqlTemplate) ∧
      (Separated values.length sqlTemplate ->
        (Simultaneous values sqlTemplate <-> PlaceholdersAlone values sqlTemplate)) := by
  have hslots := slots_template values.length sqlTemplate
  have hfill : fill (stage placeholder (renderedAt values) 0)
      (template values.length 0 sqlTemplate) = substituted values sqlTemplate := by
    apply fill_congr
    intro j hj
    exact if_pos (hslots j hj).1
  have hloop : createRawSql sqlTemplate (numbered values) =
      replaceDown placeholder (renderedAt values) values.length
        (fill placeholder (template values.length 0 sqlTemplate)) := by
    rw [createRawSql_eq, fill_template]
  have hvalues : forall k, 0 < k -> k ≤ values.length -> Begins ':' 'p' (renderedAt values k) := by
    intro k hpos hk
    unfold renderedAt
    rw [List.getElem?_eq_getElem (by omega)]
    exact begins_rendered _
  have henough : PlaceholdersAlone values sqlTemplate -> Simultaneous values sqlTemplate := by
    intro halone
    rw [Simultaneous, hloop, ← hfill]
    exact named_placeholder.replaceDown_eq hslots halone
  refine ⟨henough, ?_⟩
  intro hseparated
  constructor
  · intro h
    rw [Simultaneous, hloop, ← hfill] at h
    exact named_placeholder.alone_of_replaceDown hvalues hseparated hslots h
  · exact henough

/-- A value that has a placeholder in it. -/
def placeholderInValue : List ParamValue :=
  [.string "x".toList, .string "see :params_1".toList]

/-- `name = :params_2` becomes `name = 'see 'x''`. -/
theorem placeholderInValue_not_simultaneous :
    ¬ Simultaneous placeholderInValue "name = :params_2".toList := by
  unfold Simultaneous
  decide

end Search
end KeepGateway
