import Mathlib.Data.List.Infix
import KeepGateway.Cel.AlertFields
import KeepGateway.Lib.Except
import KeepGateway.Lib.Spans

/-!
# Lookup by wildcards

Whether the two matchers of a wildcard key, the glob and the regular expression, and the rendering
of paths agree for a property path.
-/

namespace KeepGateway
namespace Cel

open Spans

/-!
## Rendered paths
-/

/-- The text of a segment in a path. -/
def renderedSegment (segment : String) : List Char :=
  if hasSpecialChar segment then '[' :: (segment.toList ++ [']']) else segment.toList

/-- The text of segments that come after others. -/
def renderedAfter (segments : List String) : List Char :=
  segments.flatMap fun segment => '.' :: renderedSegment segment

/-- The text of segments that come before others. -/
def renderedBefore (segments : List String) : List Char :=
  segments.flatMap fun segment => renderedSegment segment ++ ['.']

theorem toList_getPropertyPathStr (path : List String) :
    (getPropertyPathStr path).toList = ['.'].intercalate (path.map renderedSegment) := by
  have hsegment : forall segment : String,
      (if hasSpecialChar segment then "[" ++ segment ++ "]" else segment).toList =
        renderedSegment segment := by
    intro segment
    rw [renderedSegment]
    split
    · rw [String.toList_append, String.toList_append]
      rfl
    · rfl
  rw [getPropertyPathStr, String.toList_intercalate, List.map_map]
  congr 1
  apply List.map_congr_left
  intro segment _
  exact hsegment segment

theorem rendered_cons (segment : String) (rest : List String) :
    (getPropertyPathStr (segment :: rest)).toList =
      renderedSegment segment ++ renderedAfter rest := by
  rw [toList_getPropertyPathStr]
  induction rest generalizing segment with
  | nil => rw [renderedAfter, List.flatMap_nil, List.append_nil, List.map_singleton,
      List.intercalate_singleton]
  | cons next rest ih =>
      rw [List.map_cons, List.map_cons, List.intercalate_cons_cons, ← List.map_cons, ih,
        renderedAfter, renderedAfter, List.flatMap_cons, List.append_assoc]
      rfl

theorem renderedAfter_eq {segments : List String} (h : segments ≠ []) :
    renderedAfter segments = '.' :: (getPropertyPathStr segments).toList := by
  cases segments with
  | nil => exact absurd rfl h
  | cons segment rest =>
      rw [rendered_cons, renderedAfter, List.flatMap_cons]
      rfl

theorem rendered_append {middle : List String} (hmiddle : middle ≠ [])
    (before after : List String) :
    (getPropertyPathStr (before ++ (middle ++ after))).toList =
      renderedBefore before ++ ((getPropertyPathStr middle).toList ++ renderedAfter after) := by
  induction before with
  | nil =>
      cases middle with
      | nil => exact absurd rfl hmiddle
      | cons segment rest =>
          rw [List.nil_append, List.cons_append, rendered_cons, rendered_cons, renderedBefore,
            List.flatMap_nil, List.nil_append, renderedAfter, List.flatMap_append,
            List.append_assoc]
          rfl
  | cons segment before ih =>
      have hrest : before ++ (middle ++ after) ≠ [] := by
        intro hnil
        exact hmiddle (List.append_eq_nil_iff.mp (List.append_eq_nil_iff.mp hnil).2).1
      rw [List.cons_append, rendered_cons, renderedAfter_eq hrest, ih, renderedBefore,
        renderedBefore, List.flatMap_cons, List.append_assoc, List.append_assoc]
      rfl

/-- A segment of a path: not empty, and without brackets. -/
def IsSegment (segment : String) : Prop :=
  segment.toList ≠ [] ∧ '[' ∉ segment.toList ∧ ']' ∉ segment.toList

/-- A character of a segment that is rendered without brackets. -/
theorem plain_of_not_special {segment : String} (h : ¬ hasSpecialChar segment = true) {c : Char}
    (hc : c ∈ segment.toList) : c ≠ '.' ∧ c ≠ '[' ∧ c ≠ '\n' := by
  rw [hasSpecialChar, List.any_eq_true] at h
  have hplain : (c.isAlphanum || c == '*') = true := by
    rw [← Bool.not_eq_false]
    intro hfalse
    exact h ⟨c, hc, by rw [hfalse]; rfl⟩
  have hne : forall other : Char, (other.isAlphanum || other == '*') = false -> c ≠ other := by
    intro other hother heq
    rw [heq, hother] at hplain
    cases hplain
  exact ⟨hne _ (by decide), hne _ (by decide), hne _ (by decide)⟩

/-- A path that is rendered does not end with a line break. -/
theorem rendered_getLast {path : List String} (hsegments : forall s, s ∈ path -> IsSegment s) :
    (getPropertyPathStr path).toList.getLast? ≠ some '\n' := by
  rcases List.eq_nil_or_concat path with hnil | ⟨before, segment, hpath⟩
  · rw [hnil]
    decide
  · have hsegment := hsegments segment (by rw [hpath]; simp)
    have htext : (getPropertyPathStr path).toList =
        renderedBefore before ++ renderedSegment segment := by
      have happend := rendered_append (List.cons_ne_nil segment []) before []
      rw [List.append_nil, rendered_cons, renderedAfter, List.flatMap_nil,
        List.append_nil] at happend
      rw [hpath, List.concat_eq_append, happend, List.append_nil]
    rw [htext, renderedSegment]
    split
    · rw [← List.cons_append, ← List.append_assoc, List.getLast?_concat]
      decide
    · next hplain =>
        intro hlast
        rw [List.getLast?_append_of_ne_nil _ hsegment.1] at hlast
        exact (plain_of_not_special hplain (List.mem_of_getLast? hlast)).2.2 rfl

/-!
## Extracted paths
-/

theorem takeRun_append {p : Char -> Bool} {run rest : List Char} (hrun : run.all p = true)
    (hrest : StopsAt p rest) : takeRun p (run ++ rest) = (run, rest) := by
  rw [takeRun, takeWhile_append_stop hrun hrest, dropWhile_append_stop hrun hrest]

theorem takeBracketed_segment {segment : String} (h : IsSegment segment) (rest : List Char) :
    takeBracketed ('[' :: (segment.toList ++ ']' :: rest)) = some (segment.toList, rest) := by
  have hall : segment.toList.all (fun c => c != '[' && c != ']') = true := by
    rw [List.all_eq_true]
    intro c hc
    rw [Bool.and_eq_true, bne_iff_ne, bne_iff_ne]
    constructor
    · intro heq
      exact h.2.1 (heq ▸ hc)
    · intro heq
      exact h.2.2 (heq ▸ hc)
  have hrun := takeRun_append hall (stopsAt_cons.mpr (show _ = false by decide) :
    StopsAt (fun c => c != '[' && c != ']') (']' :: rest))
  rw [takeBracketed, hrun]
  rcases hchars : segment.toList with _ | ⟨c, cs⟩
  · exact absurd hchars h.1
  · rfl

/-- Of a rendered segment at the start of the text the field is the segment. -/
theorem findFields_segment {segment : String} (h : IsSegment segment) {after : List Char}
    (hafter : StopsAt (fun c => c != '.') after) (n : Nat) :
    findFields (n + 1) (renderedSegment segment ++ after) =
      segment.toList :: findFields n after := by
  rw [renderedSegment]
  split
  · rw [List.cons_append, List.append_assoc, List.singleton_append, findFields,
      takeBracketed_segment h]
  · next hplain =>
      have hall : segment.toList.all (fun c => c != '.') = true := by
        rw [List.all_eq_true]
        intro c hc
        rw [bne_iff_ne]
        exact (plain_of_not_special hplain hc).1
      have hrun := takeRun_append hall hafter
      revert hrun
      rcases hchars : segment.toList with _ | ⟨c, cs⟩
      · exact absurd hchars h.1
      · intro hrun
        have hc := plain_of_not_special hplain (c := c) (by rw [hchars]; exact List.mem_cons_self)
        have hbracketed : takeBracketed (c :: (cs ++ after)) = none := by
          unfold takeBracketed
          split
          · next heq => exact absurd (List.cons.inj heq).1 hc.2.1
          · rfl
        rw [List.cons_append] at hrun ⊢
        rw [findFields, hbracketed]
        dsimp only
        rw [if_neg hc.1, hrun]

theorem findFields_dot (n : Nat) (rest : List Char) :
    findFields (n + 1) ('.' :: rest) = findFields n rest := rfl

theorem renderedSegment_ne_nil {segment : String} (h : IsSegment segment) :
    renderedSegment segment ≠ [] := by
  rw [renderedSegment]
  split
  · exact List.cons_ne_nil _ _
  · exact h.1

theorem findFields_renderedAfter {segments : List String}
    (h : forall s, s ∈ segments -> IsSegment s) {n : Nat}
    (hn : (renderedAfter segments).length ≤ n) :
    findFields n (renderedAfter segments) = segments.map String.toList := by
  induction segments generalizing n with
  | nil => cases n <;> rfl
  | cons segment rest ih =>
      have hsegment := h segment List.mem_cons_self
      have hpos := List.length_pos_iff.mpr (renderedSegment_ne_nil hsegment)
      have htext : renderedAfter (segment :: rest) =
          '.' :: (renderedSegment segment ++ renderedAfter rest) := List.flatMap_cons
      have hafter : StopsAt (fun c => c != '.') (renderedAfter rest) := by
        cases rest with
        | nil => exact stopsAt_nil
        | cons next rest => exact stopsAt_cons.mpr (by decide)
      rw [htext] at hn ⊢
      rw [List.length_cons, List.length_append] at hn
      -- one step for the dot, one for the segment
      rcases n with _ | _ | n
      · omega
      · omega
      · rw [findFields_dot, List.map_cons, findFields_segment hsegment hafter,
          ih (fun s hs => h s (List.mem_cons_of_mem _ hs)) (by omega)]

/-- The segments of a rendered path are extracted. -/
theorem extractFields_rendered {path : List String} (h : forall s, s ∈ path -> IsSegment s) :
    extractFields (getPropertyPathStr path) = path := by
  have hfields : findFields (getPropertyPathStr path).toList.length
      (getPropertyPathStr path).toList = path.map String.toList := by
    cases path with
    | nil => rfl
    | cons segment rest =>
        have hafter := findFields_renderedAfter h (le_refl (renderedAfter (segment :: rest)).length)
        rw [renderedAfter_eq (List.cons_ne_nil segment rest), List.length_cons,
          findFields_dot] at hafter
        exact hafter
  rw [extractFields, hfields, List.map_map]
  have hid : String.ofList ∘ String.toList = id := by
    funext s
    exact String.ofList_toList
  rw [hid, List.map_id]

/-!
## The regular expression of a key
-/

/-- A character that is no `*` is matched by itself. -/
theorem matchKey_cons {k : Char} (hk : k ≠ '*') {key text : List Char} {groups : List (List Char)}
    (h : matchKey (k :: key) text = some groups) :
    exists rest, text = k :: rest ∧ matchKey key rest = some groups := by
  unfold matchKey at h
  rw [if_neg hk] at h
  cases text with
  | nil => cases h
  | cons c text =>
      dsimp only at h
      split at h
      · next heq => exact ⟨text, by rw [heq], h⟩
      · cases h

/-- What of a key has no `*` is matched by itself. -/
theorem matchKey_literal {literal key text : List Char} {groups : List (List Char)}
    (hliteral : '*' ∉ literal) (h : matchKey (literal ++ key) text = some groups) :
    exists rest, text = literal ++ rest ∧ matchKey key rest = some groups := by
  induction literal generalizing text with
  | nil => exact ⟨text, rfl, h⟩
  | cons k literal ih =>
      have hk : k ≠ '*' := fun heq => hliteral (heq ▸ List.mem_cons_self)
      rcases matchKey_cons hk h with ⟨tail, htail, hmatch⟩
      rcases ih (fun hmem => hliteral (List.mem_cons_of_mem k hmem)) hmatch with
        ⟨rest, hrest, hmatch⟩
      exact ⟨rest, by rw [htail, hrest, List.cons_append], hmatch⟩

theorem matchKey_star_eq (key text : List Char) : matchKey ('*' :: key) text =
    ((List.range ((text.takeWhile fun c => c != '\n').length + 1)).reverse).findSome? fun n =>
      (matchKey key (text.drop n)).map fun groups => text.take n :: groups := rfl

theorem matchKey_star {key text : List Char} {groups : List (List Char)}
    (h : matchKey ('*' :: key) text = some groups) :
    exists group rest more, text = group ++ rest ∧ groups = group :: more ∧
      matchKey key rest = some more := by
  rw [matchKey_star_eq] at h
  rcases List.exists_of_findSome?_eq_some h with ⟨n, _, hn⟩
  rcases Option.map_eq_some_iff.mp hn with ⟨more, hmore, hgroups⟩
  exact ⟨text.take n, text.drop n, more, (List.take_append_drop n text).symm, hgroups.symm, hmore⟩

/-- A key with a `*` has a group. -/
theorem matchKey_ne_nil {key text : List Char} {groups : List (List Char)} (hkey : '*' ∈ key)
    (h : matchKey key text = some groups) : exists group more, groups = group :: more := by
  rcases List.append_of_mem hkey with ⟨before, after, hsplit⟩
  induction before generalizing key text with
  | nil =>
      rw [hsplit] at h
      rcases matchKey_star h with ⟨group, _, more, _, hgroups, _⟩
      exact ⟨group, more, hgroups⟩
  | cons k before ih =>
      rw [hsplit, List.cons_append] at h
      rcases Classical.em (k = '*') with hk | hk
      · rw [hk] at h
        rcases matchKey_star h with ⟨group, _, more, _, hgroups, _⟩
        exact ⟨group, more, hgroups⟩
      · rcases matchKey_cons hk h with ⟨rest, _, hmatch⟩
        exact ih (List.mem_append_right before List.mem_cons_self) hmatch rfl

/-- The group of a key with one `*` is what is between the texts around it. -/
theorem matchKey_group {before middle after : List Char} {groups : List (List Char)}
    (hbefore : '*' ∉ before) (hafter : '*' ∉ after)
    (hlast : (before ++ (middle ++ after)).getLast? ≠ some '\n')
    (h : matchKey (before ++ '*' :: after) (before ++ (middle ++ after)) = some groups) :
    groups = [middle] := by
  rcases matchKey_literal hbefore h with ⟨rest, hrest, hmatch⟩
  rcases matchKey_star hmatch with ⟨group, tail, more, htail, hgroups, hmore⟩
  rw [← List.append_nil after] at hmore
  rcases matchKey_literal hafter hmore with ⟨last, hafterLast, hend⟩
  have hmiddle : middle ++ after = group ++ (after ++ last) := by
    rw [List.append_cancel_left hrest, htail, hafterLast]
  rw [matchKey] at hend
  split at hend
  · next hcases =>
      rcases hcases with hnil | hnewline
      · rw [hnil, List.append_nil] at hmiddle
        cases hend
        rw [hgroups, List.append_cancel_right hmiddle]
      · refine absurd ?_ hlast
        rw [hmiddle, hnewline, ← List.append_assoc, ← List.append_assoc, List.getLast?_concat]
  · cases hend

/-!
## The mapping of a column
-/

/-- The mapping `JSON(col).*` -/
def columnMapping (col : String) : String := "JSON(" ++ col ++ ").*"

theorem removeAll_prefix (c : Char) (old rest : List Char) (n : Nat) :
    removeAll (c :: old) (n + 1) (c :: (old ++ rest)) = removeAll (c :: old) n rest := by
  have hopening : (c :: old).isPrefixOf (c :: (old ++ rest)) = true :=
    List.isPrefixOf_iff_prefix.mpr ⟨rest, rfl⟩
  rw [removeAll, if_pos hopening, ← List.cons_append, List.drop_left]

theorem removeAll_star (old : List Char) (n : Nat) :
    removeAll ('J' :: old) n ['.', '*'] = ['.', '*'] := by
  rcases n with _ | _ | _ | n <;> rfl

/-- Of a column in parentheses the `*` is replaced by the template. -/
theorem fieldMapping_column {col : String} (hne : col.toList ≠ []) (hcol : ')' ∉ col.toList)
    (template : String) :
    fieldMapping template (columnMapping col) = .json col (extractFields template) := by
  have hitem : (columnMapping col).toList =
      'J' :: 'S' :: 'O' :: 'N' :: '(' :: (col.toList ++ ')' :: ['.', '*']) := by
    rw [columnMapping, String.toList_append, String.toList_append]
    exact List.append_assoc _ _ _
  have hopening : ("JSON(" ++ col ++ ")").toList =
      'J' :: 'S' :: 'O' :: 'N' :: '(' :: (col.toList ++ [')']) := by
    rw [String.toList_append, String.toList_append]
    exact List.append_assoc _ _ _
  have hcolumn : jsonColumn (columnMapping col) = some col := by
    have hall : col.toList.all (fun c => c != ')') = true := by
      rw [List.all_eq_true]
      intro c hc
      rw [bne_iff_ne]
      intro heq
      exact hcol (heq ▸ hc)
    have hrun := takeRun_append hall (stopsAt_cons.mpr (show _ = false by decide) :
      StopsAt (fun c => c != ')') (')' :: ['.', '*']))
    rw [jsonColumn, hitem]
    split
    · rename_i cs hcs
      cases hcs
      rw [hrun]
      cases hchars : col.toList with
      | nil => exact absurd hchars hne
      | cons c cs =>
          change some (String.ofList (c :: cs)) = some col
          rw [← hchars, String.ofList_toList]
    · rename_i hnot
      exact absurd rfl (hnot _)
  have hremoved : removeAll ("JSON(" ++ col ++ ")").toList (columnMapping col).toList.length
      (columnMapping col).toList = ['.', '*'] := by
    have hsplit : (columnMapping col).toList =
        'J' :: ('S' :: 'O' :: 'N' :: '(' :: (col.toList ++ [')']) ++ ['.', '*']) := by
      rw [hitem, List.cons_append, List.cons_append, List.cons_append, List.cons_append,
        List.append_assoc, List.singleton_append]
    rw [hopening, hsplit, List.length_cons, removeAll_prefix, removeAll_star]
  have hdots : splitDots (String.ofList ['.', '*']) = ["", "*"] := by decide
  have hfilled : fillTemplate template ["", "*"] = ["", template] := rfl
  rw [fieldMapping, hcolumn]
  dsimp only
  rw [hremoved, hdots, hfilled, List.drop_succ_cons, List.drop_zero, String.intercalate_singleton]

/-!
## The lookup
-/

/-- A property path: one or more segments. -/
structure PropertyPath where
  segments : List String
  ne_nil : segments ≠ []
  isSegment : forall s, s ∈ segments -> IsSegment s

/-- The first wildcard configuration stands for the path, which is not configured itself: the
literal segments around the `*` are those of the path, with one or more segments between. -/
structure StandsFor (metadata : PropertiesMetadata) (path : PropertyPath) where
  key : String
  config : FieldMappingConfiguration
  before : List String
  middle : List String
  after : List String
  unknown : metadata.knownConfigurations.lookup (getPropertyPathStr path.segments) = none
  first : metadata.wildcardConfigurations.head? = some (key, config)
  key_eq : key = getPropertyPathStr (before ++ (["*"] ++ after))
  literal : forall s, s ∈ before ++ after -> '*' ∉ s.toList
  path_eq : path.segments = before ++ (middle ++ after)
  middle_ne : middle ≠ []

/-- The lookup does not raise, and a path that the first wildcard configuration stands for is
matched by it, with the segments matched by the `*` in a JSON column. -/
structure LookupWorks (metadata : PropertiesMetadata) (path : PropertyPath) : Prop where
  total : exists info, metadata.getPropertyMetadata path.segments = .ok info
  matched : forall stands : StandsFor metadata path,
    metadata.findMappingConfiguration (getPropertyPathStr path.segments) =
      some (stands.config, stands.key)
  extracted : forall (stands : StandsFor metadata path) (info : PropertyMetadataInfo),
    metadata.getPropertyMetadata path.segments = .ok (some info) ->
    forall (i : Nat) (col : String), col.toList ≠ [] -> ')' ∉ col.toList ->
      stands.config.mapTo[i]? = some (columnMapping col) ->
      info.fieldMappings[i]? = some (.json col stands.middle)

/-- The glob and the regular expression of a key agree on a path that is not configured itself: of
the first key that the glob accepts the regular expression matches, and the glob accepts the
path if the first key stands for it. -/
structure MatchersAgree (metadata : PropertiesMetadata) (path : PropertyPath) : Prop where
  accepted : metadata.knownConfigurations.lookup (getPropertyPathStr path.segments) = none ->
    forall entry, metadata.wildcardConfigurations.find?
        (fun entry => fnmatch (getPropertyPathStr path.segments) entry.1) = some entry ->
      '*' ∈ entry.1.toList ->
      (matchKey entry.1.toList (getPropertyPathStr path.segments).toList).isSome = true
  standing : forall stands : StandsFor metadata path,
    fnmatch (getPropertyPathStr path.segments) stands.key = true

section

variable {metadata : PropertiesMetadata} {path : PropertyPath}

theorem StandsFor.key_toList (stands : StandsFor metadata path) : stands.key.toList =
    renderedBefore stands.before ++ '*' :: renderedAfter stands.after := by
  rw [stands.key_eq, rendered_append (List.cons_ne_nil _ _)]
  rfl

theorem star_mem_key (stands : StandsFor metadata path) : '*' ∈ stands.key.toList := by
  rw [stands.key_toList]
  exact List.mem_append_right _ List.mem_cons_self

theorem findMappingConfiguration_of_unknown {propPathStr : String}
    (h : metadata.knownConfigurations.lookup propPathStr = none) :
    metadata.findMappingConfiguration propPathStr =
      (metadata.wildcardConfigurations.find? fun entry => fnmatch propPathStr entry.1).map
        fun entry => (entry.2, entry.1) := by
  rw [PropertiesMetadata.findMappingConfiguration, h]

/-- A first key that the glob accepts is found. -/
theorem find?_of_standing (stands : StandsFor metadata path)
    (h : fnmatch (getPropertyPathStr path.segments) stands.key = true) :
    metadata.wildcardConfigurations.find?
        (fun entry => fnmatch (getPropertyPathStr path.segments) entry.1) =
      some (stands.key, stands.config) := by
  have hfirst := stands.first
  cases hwildcards : metadata.wildcardConfigurations with
  | nil =>
      rw [hwildcards] at hfirst
      cases hfirst
  | cons entry rest =>
      rw [hwildcards, List.head?_cons, Option.some.injEq] at hfirst
      rw [hfirst]
      exact List.find?_cons_of_pos h

theorem LookupWorks.matchersAgree (h : LookupWorks metadata path) :
    MatchersAgree metadata path where
  accepted := by
    intro hunknown entry hentry hstar
    rcases h.total with ⟨info, hinfo⟩
    rw [PropertiesMetadata.getPropertyMetadata, findMappingConfiguration_of_unknown hunknown,
      hentry] at hinfo
    rcases bind_eq_ok.mp hinfo with ⟨template, htemplate, _⟩
    rw [templateProp, if_pos (List.contains_iff_mem.mpr hstar)] at htemplate
    split at htemplate
    · next hmatch => rw [hmatch, Option.isSome_some]
    · cases htemplate
  standing := by
    intro stands
    have hfind := h.matched stands
    rw [findMappingConfiguration_of_unknown stands.unknown] at hfind
    rcases Option.map_eq_some_iff.mp hfind with ⟨entry, hentry, heq⟩
    have haccepted := List.find?_some hentry
    rw [(Prod.mk.inj heq).2] at haccepted
    exact haccepted

theorem templateProp_isOk {key propPathStr : String}
    (h : '*' ∈ key.toList -> (matchKey key.toList propPathStr.toList).isSome = true) :
    exists template, templateProp key propPathStr = .ok template := by
  rw [templateProp]
  split
  · next hstar =>
      have hmem := List.contains_iff_mem.mp hstar
      rcases Option.isSome_iff_exists.mp (h hmem) with ⟨groups, hgroups⟩
      rcases matchKey_ne_nil hmem hgroups with ⟨group, more, heq⟩
      rw [hgroups, heq]
      exact ⟨_, rfl⟩
  · exact ⟨_, rfl⟩

/-- The text of segments without a `*` has none. -/
theorem star_not_mem_rendered {segments : List String}
    (h : forall s, s ∈ segments -> '*' ∉ s.toList) :
    '*' ∉ (getPropertyPathStr segments).toList := by
  intro hstar
  rcases getPropertyPathStr_mem hstar with hdot | hopen | hclose | ⟨item, hitem, hc⟩
  · cases hdot
  · cases hopen
  · cases hclose
  · exact h item hitem hc

theorem star_not_mem_around {segments : List String}
    (h : forall s, s ∈ segments -> '*' ∉ s.toList) :
    '*' ∉ renderedBefore segments ∧ '*' ∉ renderedAfter segments := by
  have hsegment : forall s, s ∈ segments -> '*' ∉ renderedSegment s := by
    intro s hs
    have hone : '*' ∉ (getPropertyPathStr [s]).toList := by
      apply star_not_mem_rendered
      intro other hother
      rw [List.mem_singleton.mp hother]
      exact h s hs
    rw [rendered_cons, renderedAfter, List.flatMap_nil, List.append_nil] at hone
    exact hone
  constructor
  · intro hstar
    rcases List.mem_flatMap.mp hstar with ⟨s, hs, hc⟩
    rcases List.mem_append.mp hc with hc | hdot
    · exact hsegment s hs hc
    · exact absurd (List.mem_singleton.mp hdot) (by decide)
  · intro hstar
    rcases List.mem_flatMap.mp hstar with ⟨s, hs, hc⟩
    rcases List.mem_cons.mp hc with hdot | hc
    · exact absurd hdot (by decide)
    · exact hsegment s hs hc

/-- The template of a key that stands for the path is the text of the segments between. -/
theorem templateProp_standing (stands : StandsFor metadata path)
    (h : (matchKey stands.key.toList (getPropertyPathStr path.segments).toList).isSome = true) :
    templateProp stands.key (getPropertyPathStr path.segments) =
      .ok (getPropertyPathStr stands.middle) := by
  rcases Option.isSome_iff_exists.mp h with ⟨groups, hgroups⟩
  have hlast := rendered_getLast path.isSegment
  have hbefore := (star_not_mem_around fun s hs =>
    stands.literal s (List.mem_append_left stands.after hs)).1
  have hafter := (star_not_mem_around fun s hs =>
    stands.literal s (List.mem_append_right stands.before hs)).2
  have hgroup : groups = [(getPropertyPathStr stands.middle).toList] := by
    rw [stands.path_eq, rendered_append stands.middle_ne] at hlast hgroups
    rw [stands.key_toList] at hgroups
    exact matchKey_group hbefore hafter hlast hgroups
  rw [templateProp, if_pos (List.contains_iff_mem.mpr (star_mem_key stands)), hgroups, hgroup]
  change Except.ok (String.ofList (getPropertyPathStr stands.middle).toList) = _
  rw [String.ofList_toList]

theorem getPropertyMetadata_of_find {config : FieldMappingConfiguration} {key template : String}
    {segments : List String}
    (hfind : metadata.findMappingConfiguration (getPropertyPathStr segments) = some (config, key))
    (htemplate : templateProp key (getPropertyPathStr segments) = .ok template) :
    metadata.getPropertyMetadata segments = .ok (some {
      fieldName := getPropertyPathStr segments
      fieldMappings := config.mapTo.map (fieldMapping template)
      enumValues := config.enumValues
      dataType := config.dataType }) := by
  rw [PropertiesMetadata.getPropertyMetadata, hfind]
  dsimp only
  rw [htemplate]
  rfl

theorem MatchersAgree.lookupWorks
    (hknown : forall key config, metadata.knownConfigurations.lookup key = some config ->
      '*' ∉ key.toList)
    (h : MatchersAgree metadata path) : LookupWorks metadata path := by
  have hfind : forall stands : StandsFor metadata path,
      metadata.findMappingConfiguration (getPropertyPathStr path.segments) =
        some (stands.config, stands.key) := by
    intro stands
    rw [findMappingConfiguration_of_unknown stands.unknown,
      find?_of_standing stands (h.standing stands)]
    rfl
  refine ⟨?_, hfind, ?_⟩
  · cases hlookup : metadata.knownConfigurations.lookup (getPropertyPathStr path.segments) with
    | some config =>
        have hmapping : metadata.findMappingConfiguration (getPropertyPathStr path.segments) =
            some (config, getPropertyPathStr path.segments) := by
          rw [PropertiesMetadata.findMappingConfiguration, hlookup]
        have htext := hknown _ _ hlookup
        rcases @templateProp_isOk _ (getPropertyPathStr path.segments)
          fun hstar => absurd hstar htext with ⟨template, htemplate⟩
        exact ⟨_, getPropertyMetadata_of_find hmapping htemplate⟩
    | none =>
        have hmapping := findMappingConfiguration_of_unknown hlookup
        cases hentry : metadata.wildcardConfigurations.find?
            (fun entry => fnmatch (getPropertyPathStr path.segments) entry.1) with
        | none =>
            rw [hentry] at hmapping
            exact ⟨none, by rw [PropertiesMetadata.getPropertyMetadata, hmapping]; rfl⟩
        | some entry =>
            rw [hentry] at hmapping
            rcases templateProp_isOk (h.accepted hlookup entry hentry) with ⟨template, htemplate⟩
            exact ⟨_, getPropertyMetadata_of_find hmapping htemplate⟩
  · intro stands info hinfo i col hne hcol hmapTo
    have haccepted := h.accepted stands.unknown _
      (find?_of_standing stands (h.standing stands)) (star_mem_key stands)
    rw [getPropertyMetadata_of_find (hfind stands)
      (templateProp_standing stands haccepted)] at hinfo
    have hmiddle : forall s, s ∈ stands.middle -> IsSegment s := by
      intro s hs
      apply path.isSegment
      rw [stands.path_eq]
      exact List.mem_append_right _ (List.mem_append_left _ hs)
    cases hinfo
    rw [List.getElem?_map, hmapTo, Option.map_some, fieldMapping_column hne hcol,
      extractFields_rendered hmiddle]

end

/-!
## Plain keys

Keys without brackets and question marks, as they are of segments of letters and digits.
-/

def isPlainKey (key : List Char) : Bool := key.all fun c => c != '[' && c != '?'

def plainElement (c : Char) : Glob := if c = '*' then .star else .char c

theorem globElements_plain {key : List Char} (h : isPlainKey key = true) :
    globElements key.length key = key.map plainElement := by
  induction key with
  | nil => rfl
  | cons k key ih =>
      rw [isPlainKey, List.all_cons, Bool.and_eq_true, Bool.and_eq_true, bne_iff_ne,
        bne_iff_ne] at h
      rw [List.length_cons, List.map_cons, ← ih h.2, plainElement]
      split
      · next hstar => rw [hstar, globElements]
      · next hstar => exact globElements.eq_7 _ k key hstar h.1.2 h.1.1

/-- The matches of a star in a text of one line. -/
theorem matchKey_star_isSome {key text : List Char} (htext : '\n' ∉ text) :
    (matchKey ('*' :: key) text).isSome = true <->
      exists n, n ≤ text.length ∧ (matchKey key (text.drop n)).isSome = true := by
  have hrun : text.takeWhile (fun c => c != '\n') = text := by
    rw [List.takeWhile_eq_self_iff]
    intro c hc
    rw [bne_iff_ne]
    intro heq
    exact htext (heq ▸ hc)
  rw [matchKey_star_eq, hrun, List.findSome?_isSome_iff]
  constructor
  · intro h
    rcases h with ⟨n, hn, hmatch⟩
    rw [Option.isSome_map] at hmatch
    rw [List.mem_reverse, List.mem_range] at hn
    exact ⟨n, Nat.le_of_lt_succ hn, hmatch⟩
  · intro h
    rcases h with ⟨n, hn, hmatch⟩
    refine ⟨n, ?_, ?_⟩
    · rw [List.mem_reverse, List.mem_range]
      exact Nat.lt_succ_of_le hn
    · rw [Option.isSome_map]
      exact hmatch

theorem globMatch_star {gs : List Glob} {text : List Char} :
    globMatch (.star :: gs) text = true <->
      exists n, n ≤ text.length ∧ globMatch gs (text.drop n) = true := by
  rw [globMatch, List.any_eq_true]
  constructor
  · intro h
    rcases h with ⟨rest, hrest, hmatch⟩
    have hdrop := List.suffix_iff_eq_drop.mp ((List.mem_tails _ _).mp hrest)
    exact ⟨text.length - rest.length, Nat.sub_le _ _, by rw [← hdrop]; exact hmatch⟩
  · intro h
    rcases h with ⟨n, _, hmatch⟩
    exact ⟨text.drop n, (List.mem_tails _ _).mpr (List.drop_suffix n text), hmatch⟩

/-- The glob and the regular expression of a plain key accept the same texts of one line. -/
theorem globMatch_plain {key text : List Char} (htext : '\n' ∉ text) :
    globMatch (key.map plainElement) text = (matchKey key text).isSome := by
  induction key generalizing text with
  | nil =>
      cases text with
      | nil => rfl
      | cons c text =>
          have hnewline : c :: text ≠ ['\n'] := by
            intro heq
            exact htext (heq ▸ List.mem_cons_self)
          unfold matchKey
          rw [if_neg (not_or.mpr ⟨List.cons_ne_nil c text, hnewline⟩)]
          rfl
  | cons k key ih =>
      have hdrop : forall n, '\n' ∉ text.drop n := fun n hmem => htext (List.mem_of_mem_drop hmem)
      rw [List.map_cons, plainElement]
      split
      · next hstar =>
          rw [hstar, Bool.eq_iff_iff, globMatch_star, matchKey_star_isSome htext]
          constructor
          · intro h
            rcases h with ⟨n, hn, hmatch⟩
            exact ⟨n, hn, by rw [← ih (hdrop n)]; exact hmatch⟩
          · intro h
            rcases h with ⟨n, hn, hmatch⟩
            exact ⟨n, hn, by rw [ih (hdrop n)]; exact hmatch⟩
      · next hstar =>
          cases text with
          | nil =>
              unfold matchKey
              rw [if_neg hstar]
              rfl
          | cons c text =>
              have htail : '\n' ∉ text := fun hmem => htext (List.mem_cons_of_mem c hmem)
              have hglob : globMatch (.char k :: key.map plainElement) (c :: text) =
                  (c == k && globMatch (key.map plainElement) text) := rfl
              unfold matchKey
              rw [if_neg hstar, hglob, ih htail]
              dsimp only
              split
              · next heq => rw [heq, beq_self_eq_true, Bool.true_and]
              · next hne => rw [beq_eq_false_iff_ne.mpr hne, Bool.false_and, Option.isSome_none]

theorem globMatch_literal {literal : List Char} (h : '*' ∉ literal) (key text : List Char) :
    globMatch ((literal ++ key).map plainElement) (literal ++ text) =
      globMatch (key.map plainElement) text := by
  induction literal with
  | nil => rfl
  | cons c literal ih =>
      have hc : c ≠ '*' := fun heq => h (heq ▸ List.mem_cons_self)
      have hglob : globMatch (.char c :: (literal ++ key).map plainElement)
          (c :: (literal ++ text)) =
            (c == c && globMatch ((literal ++ key).map plainElement) (literal ++ text)) := rfl
      rw [List.cons_append, List.cons_append, List.map_cons, plainElement, if_neg hc, hglob,
        beq_self_eq_true, Bool.true_and, ih fun hmem => h (List.mem_cons_of_mem c hmem)]

theorem fnmatch_plain {text key : String} (hkey : isPlainKey key.toList = true) :
    fnmatch text key = globMatch (key.toList.map plainElement) text.toList := by
  rw [fnmatch, globElements_plain hkey]

section

variable {metadata : PropertiesMetadata} {path : PropertyPath}

/-- With plain keys the lookup works for every path without a line break. -/
theorem matchersAgree_of_plain
    (hkeys : forall entry, entry ∈ metadata.wildcardConfigurations ->
      isPlainKey entry.1.toList = true)
    (hpath : '\n' ∉ (getPropertyPathStr path.segments).toList) :
    MatchersAgree metadata path where
  accepted := by
    intro _ entry hentry _
    have haccepted := List.find?_some hentry
    rw [fnmatch_plain (hkeys entry (List.mem_of_find?_eq_some hentry))] at haccepted
    rw [← globMatch_plain hpath]
    exact haccepted
  standing := by
    intro stands
    have hkey := hkeys _ (List.mem_of_head? stands.first)
    have hbefore := (star_not_mem_around fun s hs =>
      stands.literal s (List.mem_append_left stands.after hs)).1
    have hafter := (star_not_mem_around fun s hs =>
      stands.literal s (List.mem_append_right stands.before hs)).2
    have htail := globMatch_literal hafter [] []
    rw [List.append_nil] at htail
    rw [fnmatch_plain hkey, stands.key_toList, stands.path_eq, rendered_append stands.middle_ne,
      globMatch_literal hbefore]
    apply globMatch_star.mpr
    refine ⟨(getPropertyPathStr stands.middle).toList.length, ?_, ?_⟩
    · rw [List.length_append]
      exact Nat.le_add_right _ _
    · rw [List.drop_left, htail]
      rfl

end

theorem star_not_mem_known (configurations : List FieldMappingConfiguration) {key : String}
    {config : FieldMappingConfiguration}
    (h : (PropertiesMetadata.ofConfigurations configurations).knownConfigurations.lookup key =
      some config) : '*' ∉ key.toList := by
  induction configurations using List.reverseRecOn generalizing config with
  | nil => cases h
  | append_singleton configurations added ih =>
      rw [PropertiesMetadata.ofConfigurations, List.foldl_append, List.foldl_cons, List.foldl_nil,
        PropertiesMetadata.add] at h
      split at h
      · exact ih h
      · next hstar =>
          rw [Dict.lookup_set] at h
          split at h
          · next heq =>
              rw [← heq]
              apply pattern_star
              intro hmem
              exact hstar (List.contains_iff_mem.mpr hmem)
          · exact ih h

/-- For every list of configurations and every path, the lookup works exactly where the glob and
the regular expression of the keys agree. -/
theorem lookupWorks_iff (configurations : List FieldMappingConfiguration) (path : PropertyPath) :
    LookupWorks (.ofConfigurations configurations) path <->
      MatchersAgree (.ofConfigurations configurations) path := by
  constructor
  · intro h
    exact h.matchersAgree
  · intro h
    exact h.lookupWorks fun key config hlookup => star_not_mem_known configurations hlookup

/-- The lookup works for every path without a line break, if no wildcard key has a bracket or a
question mark. -/
theorem lookupWorks_of_plain {configurations : List FieldMappingConfiguration}
    (hkeys : forall entry, entry ∈
        (PropertiesMetadata.ofConfigurations configurations).wildcardConfigurations ->
      isPlainKey entry.1.toList = true) {path : PropertyPath}
    (hpath : '\n' ∉ (getPropertyPathStr path.segments).toList) :
    LookupWorks (.ofConfigurations configurations) path :=
  (matchersAgree_of_plain hkeys hpath).lookupWorks fun _ _ hlookup =>
    star_not_mem_known configurations hlookup

theorem isSegment_label : forall s, s ∈ ["labels", "my-host"] -> IsSegment s := by
  unfold IsSegment
  decide

theorem lookupWorks_label :
    LookupWorks (.ofConfigurations [⟨"labels.*", ["JSON(event).*"], none, []⟩])
      ⟨["labels", "my-host"], List.cons_ne_nil _ _, isSegment_label⟩ :=
  lookupWorks_of_plain (by decide) (by decide)

/-!
## A key with a hyphen
-/

/-- `my-field.*` -/
def hyphenConfiguration : FieldMappingConfiguration :=
  ⟨"my-field.*", ["JSON(event).*"], none, []⟩

/-- `m.x` -/
def letterPath : PropertyPath where
  segments := ["m", "x"]
  ne_nil := List.cons_ne_nil _ _
  isSegment := by
    intro s hs
    rcases List.mem_cons.mp hs with hm | hx
    · rw [hm]
      exact ⟨by decide, by decide, by decide⟩
    · rw [List.mem_singleton.mp hx]
      exact ⟨by decide, by decide, by decide⟩

/-- The rendered key is a class of characters to the glob, which accepts `m.x`; the regular
expression does not match, and the lookup raises. -/
theorem letterPath_not_lookupWorks :
    ¬ LookupWorks (.ofConfigurations [hyphenConfiguration]) letterPath := by
  intro h
  rcases h.total with ⟨info, hinfo⟩
  have hraises : PropertiesMetadata.getPropertyMetadata
      (.ofConfigurations [hyphenConfiguration]) letterPath.segments =
        .error .attributeError := by
    decide
  rw [hraises] at hinfo
  cases hinfo

end Cel
end KeepGateway
