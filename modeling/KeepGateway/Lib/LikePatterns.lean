import Mathlib.Data.List.Infix
import Mathlib.Data.List.Lemmas

/-!
# LIKE patterns

String literals and LIKE patterns of SQL: how a literal is read, how the pattern in it is
read, and which texts it matches.
-/

namespace KeepGateway
namespace Like

inductive Token where
  | char (c : Char)
  | one
  | many
  deriving DecidableEq, Repr

/-- Whether a pattern matches a text; `key` and `key'` are what is compared of a character of
the pattern and of the text. -/
def matchesText (key key' : Char -> Char) : List Token -> List Char -> Bool
  | [], text => text.isEmpty
  | .char _ :: _, [] => false
  | .char c :: pattern, d :: text => key c == key' d && matchesText key key' pattern text
  | .one :: _, [] => false
  | .one :: pattern, _ :: text => matchesText key key' pattern text
  | .many :: pattern, text => text.tails.any (matchesText key key' pattern)

/-- How a database reads patterns: the character that escapes the next one, if any, and whether
it stands for itself at the end; and whether backslashes are escapes in string literals. -/
structure Reader where
  escape : Option Char
  escapeAtEnd : Bool
  backslashes : Bool
  deriving DecidableEq, Repr

/-- A character that is not escaped. -/
def token (c : Char) : Token :=
  if c = '%' then .many else if c = '_' then .one else .char c

def readPattern (r : Reader) : List Char -> Option (List Token)
  | [] => some []
  | c :: rest =>
      if r.escape = some c then
        match rest with
        | [] => if r.escapeAtEnd then some [.char c] else none
        | d :: rest => (readPattern r rest).map (.char d :: ·)
      else (readPattern r rest).map (token c :: ·)

/-- What an escape sequence of a string literal stands for. -/
def unescaped (c : Char) : List Char :=
  match c with
  | '0' => ['\x00']
  | 'b' => ['\x08']
  | 'n' => ['\n']
  | 'r' => ['\r']
  | 't' => ['\t']
  | 'Z' => ['\x1a']
  | '%' => ['\\', '%']
  | '_' => ['\\', '_']
  | c => [c]

/-- The rest of a string literal after its opening quote, which it takes up to its end. -/
def readBody (r : Reader) : List Char -> Option (List Char)
  | [] => none
  | c :: rest =>
      if c = '\'' then
        match rest with
        | [] => some []
        | d :: rest => if d = '\'' then (readBody r rest).map ('\'' :: ·) else none
      else if r.backslashes = true ∧ c = '\\' then
        match rest with
        | [] => none
        | d :: rest => (readBody r rest).map (unescaped d ++ ·)
      else (readBody r rest).map (c :: ·)

def readLiteral (r : Reader) : List Char -> Option (List Char)
  | [] => none
  | c :: rest => if c = '\'' then readBody r rest else none

/-!
## Plain characters
-/

section Matching

variable {key key' : Char -> Char}

theorem matchesText_many (pattern : List Token) (text : List Char) :
    matchesText key key' (.many :: pattern) text = true <->
      exists before after, text = before ++ after ∧ matchesText key key' pattern after = true := by
  rw [matchesText, List.any_eq_true]
  constructor
  · intro h
    rcases h with ⟨after, hafter, hmatches⟩
    rcases (List.mem_tails after text).mp hafter with ⟨before, heq⟩
    exact ⟨before, after, heq.symm, hmatches⟩
  · intro h
    rcases h with ⟨before, after, heq, hmatches⟩
    exact ⟨after, (List.mem_tails after text).mpr ⟨before, heq.symm⟩, hmatches⟩

theorem matchesText_chars (cs : List Char) (pattern : List Token) (text : List Char) :
    matchesText key key' (cs.map .char ++ pattern) text = true <->
      exists before after, text = before ++ after ∧ cs.map key = before.map key' ∧
        matchesText key key' pattern after = true := by
  induction cs generalizing text with
  | nil =>
      constructor
      · intro h
        exact ⟨[], text, rfl, rfl, h⟩
      · intro h
        rcases h with ⟨before, after, heq, hkeys, hmatches⟩
        rw [List.map_eq_nil_iff.mp hkeys.symm] at heq
        rw [heq]
        exact hmatches
  | cons c cs ih =>
      cases text with
      | nil =>
          refine ⟨fun h => Bool.noConfusion h, fun h => ?_⟩
          rcases h with ⟨before, after, heq, hkeys, _⟩
          rw [(List.append_eq_nil_iff.mp heq.symm).1] at hkeys
          cases hkeys
      | cons d text =>
          have hstep : matchesText key key' ((c :: cs).map .char ++ pattern) (d :: text) =
              (key c == key' d && matchesText key key' (cs.map .char ++ pattern) text) := rfl
          rw [hstep, Bool.and_eq_true, ih, beq_iff_eq]
          constructor
          · intro h
            rcases h with ⟨hkey, before, after, heq, hkeys, hmatches⟩
            refine ⟨d :: before, after, congrArg (d :: ·) heq, ?_, hmatches⟩
            rw [List.map_cons, List.map_cons, hkey, hkeys]
          · intro h
            rcases h with ⟨before, after, heq, hkeys, hmatches⟩
            cases before with
            | nil => cases hkeys
            | cons b before =>
                rcases List.cons.inj heq with ⟨hhead, htail⟩
                rcases List.cons.inj hkeys with ⟨hkey, hkeys⟩
                exact ⟨hhead ▸ hkey, before, after, htail, hkeys, hmatches⟩

theorem matchesText_end (text : List Char) :
    matchesText key key' [] text = true <-> text = [] :=
  List.isEmpty_iff

theorem matchesText_anything (text : List Char) :
    matchesText key key' [.many] text = true := by
  refine (matchesText_many [] text).mpr ⟨text, [], (List.append_nil text).symm, ?_⟩
  exact (matchesText_end []).mpr rfl

theorem matchesText_starts (cs text : List Char) :
    matchesText key key' (cs.map .char ++ [.many]) text = true <->
      cs.map key <+: text.map key' := by
  rw [matchesText_chars]
  constructor
  · intro h
    rcases h with ⟨before, after, heq, hkeys, _⟩
    rw [heq, hkeys, List.map_append]
    exact List.prefix_append _ _
  · intro h
    rcases h with ⟨rest, heq⟩
    rcases List.map_eq_append_iff.mp heq.symm with ⟨before, after, htext, hbefore, _⟩
    exact ⟨before, after, htext, hbefore.symm, matchesText_anything after⟩

theorem matchesText_ends (cs text : List Char) :
    matchesText key key' (.many :: cs.map .char) text = true <->
      cs.map key <:+ text.map key' := by
  rw [matchesText_many]
  constructor
  · intro h
    rcases h with ⟨skipped, rest, heq, hmatches⟩
    rw [← List.append_nil (cs.map Token.char)] at hmatches
    rcases (matchesText_chars cs [] rest).mp hmatches with ⟨before, after, hrest, hkeys, hend⟩
    rw [(matchesText_end after).mp hend, List.append_nil] at hrest
    rw [heq, List.map_append, hrest, ← hkeys]
    exact List.suffix_append _ _
  · intro h
    rcases h with ⟨rest, heq⟩
    rcases List.map_eq_append_iff.mp heq.symm with ⟨before, after, htext, _, hafter⟩
    refine ⟨before, after, htext, ?_⟩
    rw [← List.append_nil (cs.map Token.char)]
    refine (matchesText_chars cs [] after).mpr ⟨after, [], ?_, hafter.symm, ?_⟩
    · exact (List.append_nil after).symm
    · exact (matchesText_end []).mpr rfl

theorem matchesText_within (cs text : List Char) :
    matchesText key key' (.many :: (cs.map .char ++ [.many])) text = true <->
      cs.map key <:+: text.map key' := by
  rw [matchesText_many]
  constructor
  · intro h
    rcases h with ⟨skipped, rest, heq, hmatches⟩
    rcases (matchesText_starts cs rest).mp hmatches with ⟨after, hafter⟩
    refine ⟨skipped.map key', after, ?_⟩
    rw [List.append_assoc, hafter, heq, List.map_append]
  · intro h
    rcases h with ⟨first, last, heq⟩
    rw [List.append_assoc] at heq
    rcases List.map_eq_append_iff.mp heq.symm with ⟨before, after, htext, _, hafter⟩
    exact ⟨before, after, htext, (matchesText_starts cs after).mpr ⟨last, hafter.symm⟩⟩

/-- A character with the property that the pattern names. -/
def Token.names (p : Char -> Bool) : Token -> Bool
  | char c => p c
  | _ => false

/-- What matches can be cut down to the characters that the pattern names, with `other` for the
rest. -/
theorem exists_shrunk {p : Char -> Bool} {other : Char} (hother : p other = false)
    (hkeys : forall c d, key c = key' d -> p c = p d) {pattern : List Token} {text : List Char}
    (h : matchesText key key' pattern text = true) :
    exists shrunk, matchesText key key' pattern shrunk = true ∧
      shrunk.countP p = pattern.countP (Token.names p) := by
  induction pattern generalizing text with
  | nil => exact ⟨[], rfl, rfl⟩
  | cons t pattern ih =>
      cases t with
      | many =>
          rcases (matchesText_many pattern text).mp h with ⟨before, after, _, hmatches⟩
          rcases ih hmatches with ⟨shrunk, hshrunk, hcount⟩
          refine ⟨shrunk, (matchesText_many pattern shrunk).mpr ⟨[], shrunk, rfl, hshrunk⟩, ?_⟩
          rw [hcount, List.countP_cons_of_neg Bool.false_ne_true]
      | one =>
          cases text with
          | nil => cases h
          | cons d text =>
              rcases ih h with ⟨shrunk, hshrunk, hcount⟩
              refine ⟨other :: shrunk, hshrunk, ?_⟩
              rw [List.countP_cons_of_neg (ne_true_of_eq_false hother), hcount,
                List.countP_cons_of_neg Bool.false_ne_true]
      | char c =>
          cases text with
          | nil => cases h
          | cons d text =>
              rcases Bool.and_eq_true_iff.mp h with ⟨hkey, hmatches⟩
              rcases ih hmatches with ⟨shrunk, hshrunk, hcount⟩
              refine ⟨d :: shrunk, Bool.and_eq_true_iff.mpr ⟨hkey, hshrunk⟩, ?_⟩
              rw [List.countP_cons, List.countP_cons, hcount, ← hkeys c d (beq_iff_eq.mp hkey)]
              rfl

end Matching

/-!
## Reading
-/

section Reading

variable {r : Reader}

/-- A character that stands for itself in patterns. -/
def Plain (r : Reader) (c : Char) : Prop :=
  c ≠ '%' ∧ c ≠ '_' ∧ r.escape ≠ some c

theorem readPattern_token {c : Char} (h : r.escape ≠ some c) (rest : List Char) :
    readPattern r (c :: rest) = (readPattern r rest).map (token c :: ·) := by
  cases rest with
  | nil => rw [readPattern.eq_2, if_neg h]
  | cons d rest => rw [readPattern.eq_3, if_neg h]

theorem Plain.token_eq {c : Char} (h : Plain r c) : token c = .char c := by
  unfold token
  rw [if_neg h.1, if_neg h.2.1]

theorem readPattern_chars {cs : List Char} (h : forall c, c ∈ cs -> Plain r c)
    (rest : List Char) :
    readPattern r (cs ++ rest) = (readPattern r rest).map (cs.map .char ++ ·) := by
  induction cs with
  | nil => exact Option.map_id'.symm
  | cons c cs ih =>
      have hrest := ih fun d hd => h d (List.mem_cons_of_mem _ hd)
      have hc := h c List.mem_cons_self
      rw [List.cons_append, readPattern_token hc.2.2, hc.token_eq, hrest, Option.map_map]
      rfl

/-- Every quote twice. -/
def doubled (cs : List Char) : List Char :=
  cs.flatMap fun c => if c = '\'' then ['\'', '\''] else [c]

theorem readBody_char {c : Char} (hquote : c ≠ '\'') (hplain : r.backslashes = false ∨ c ≠ '\\')
    (rest : List Char) : readBody r (c :: rest) = (readBody r rest).map (c :: ·) := by
  have hescape : ¬ (r.backslashes = true ∧ c = '\\') := by
    intro h
    rcases hplain with hoff | hne
    · rw [hoff] at h
      cases h.1
    · exact hne h.2
  cases rest with
  | nil => rw [readBody.eq_2, if_neg hquote, if_neg hescape]
  | cons d rest => rw [readBody.eq_3, if_neg hquote, if_neg hescape]

/-- A text whose quotes are doubled is read back. -/
theorem readBody_doubled {cs : List Char}
    (h : forall c, c ∈ cs -> r.backslashes = false ∨ c ≠ '\\') (rest : List Char) :
    readBody r (doubled cs ++ rest) = (readBody r rest).map (cs ++ ·) := by
  induction cs with
  | nil => exact Option.map_id'.symm
  | cons c cs ih =>
      have hrest := ih fun d hd => h d (List.mem_cons_of_mem _ hd)
      unfold doubled at hrest ⊢
      rw [List.flatMap_cons, List.append_assoc]
      rcases Classical.em (c = '\'') with hquote | hquote
      · rw [if_pos hquote]
        show readBody r ('\'' :: '\'' :: (cs.flatMap _ ++ rest)) = _
        rw [readBody.eq_3, if_pos rfl, if_pos rfl, hrest, Option.map_map, hquote]
        rfl
      · rw [if_neg hquote]
        show readBody r (c :: (cs.flatMap _ ++ rest)) = _
        rw [readBody_char hquote (h c List.mem_cons_self), hrest, Option.map_map]
        rfl

/-!
## Backslashes
-/

/-- A backslash at the end that is taken for itself. -/
def slack (r : Reader) (text : List Char) : Nat :=
  if r.escapeAtEnd = true ∧ text.getLast? = some '\\' then 1 else 0

theorem slack_cons_cons (r : Reader) (c d : Char) (rest : List Char) :
    slack r (c :: d :: rest) = slack r (d :: rest) := by
  unfold slack
  rw [List.getLast?_cons_cons]

theorem slack_nil (r : Reader) : slack r [] = 0 :=
  if_neg fun h => by simp at h

theorem slack_le_one (r : Reader) (text : List Char) : slack r text ≤ 1 := by
  unfold slack
  split
  · exact Nat.le_refl 1
  · exact Nat.zero_le 1

theorem slack_le_cons (r : Reader) (c : Char) (rest : List Char) :
    slack r rest ≤ slack r (c :: rest) := by
  cases rest with
  | nil =>
      rw [slack_nil]
      exact Nat.zero_le _
  | cons d rest => rw [slack_cons_cons]

theorem slack_cons_le {c : Char} (h : r.escapeAtEnd = true -> c ≠ '\\') (rest : List Char) :
    slack r (c :: rest) ≤ slack r rest := by
  cases rest with
  | nil =>
      have hnot : ¬ (r.escapeAtEnd = true ∧ [c].getLast? = some '\\') :=
        fun hboth => h hboth.1 (Option.some.inj hboth.2)
      unfold slack
      rw [if_neg hnot]
      exact Nat.zero_le _
  | cons d rest => rw [slack_cons_cons]

theorem slack_cons_le_add (r : Reader) (c : Char) (rest : List Char) :
    slack r (c :: rest) ≤ slack r rest + 1 := by
  have hone := slack_le_one r (c :: rest)
  omega

def isBackslash (c : Char) : Bool := c == '\\'

theorem not_isBackslash {c : Char} (h : c ≠ '\\') : isBackslash c = false :=
  beq_eq_false_iff_ne.mpr h

/-- A pattern names a backslash only where two are written. -/
theorem countP_backslashes (hescape : r.escape = some '\\') {text : List Char}
    {pattern : List Token} (h : readPattern r text = some pattern) :
    2 * pattern.countP (Token.names isBackslash) ≤ text.countP isBackslash + slack r text := by
  have hnamed : forall {c : Char}, isBackslash c = true <-> r.escape = some c := by
    intro c
    rw [hescape, Option.some.injEq, isBackslash, beq_iff_eq]
    exact eq_comm
  induction text using readPattern.induct r generalizing pattern with
  | case1 =>
      cases h
      exact Nat.zero_le _
  | case2 c hc hend =>
      rw [readPattern.eq_2, if_pos hc, if_pos hend] at h
      cases h
      have hlast : slack r [c] = 1 := by
        rw [hescape, Option.some.injEq] at hc
        rw [← hc]
        simp [slack, hend]
      rw [hlast]
      simp [Token.names, hnamed.mpr hc]
  | case3 c hc hend =>
      rw [readPattern.eq_2, if_pos hc, if_neg hend] at h
      cases h
  | case4 c hc d rest ih =>
      rw [readPattern.eq_3, if_pos hc] at h
      rcases Option.map_eq_some_iff.mp h with ⟨tail, htail, heq⟩
      rw [← heq, List.countP_cons, List.countP_cons, List.countP_cons]
      have hrest := ih htail
      have hslack := (slack_le_cons r d rest).trans (slack_le_cons r c (d :: rest))
      rw [if_pos (hnamed.mpr hc)]
      show 2 * (_ + if isBackslash d = true then 1 else 0) ≤ _
      split
      · omega
      · omega
  | case5 c rest hc ih =>
      rw [readPattern_token hc] at h
      rcases Option.map_eq_some_iff.mp h with ⟨tail, htail, heq⟩
      have hname : ¬ Token.names isBackslash (token c) = true := by
        have hnot : isBackslash c = false := eq_false_of_ne_true (fun h => hc (hnamed.mp h))
        unfold token
        split
        · exact Bool.false_ne_true
        · split
          · exact Bool.false_ne_true
          · exact ne_true_of_eq_false hnot
      rw [← heq, List.countP_cons_of_neg hname, List.countP_cons]
      have hrest := ih htail
      have hslack := slack_le_cons r c rest
      omega

/-- An escape sequence that keeps its backslash is one of a wildcard, and a backslash alone
comes from two. -/
theorem unescaped_cases (d : Char) :
    (d ≠ '\\' ∧ unescaped d = ['\\', d]) ∨
      exists c, unescaped d = [c] ∧ (c = '\\' -> d = '\\') := by
  unfold unescaped
  split
  case h_7 => exact .inl ⟨by decide, rfl⟩
  case h_8 => exact .inl ⟨by decide, rfl⟩
  case h_9 => exact .inr ⟨d, rfl, id⟩
  all_goals exact .inr ⟨_, rfl, fun h => absurd h (by decide)⟩

theorem countP_unescaped (d : Char) (rest : List Char) :
    (unescaped d).countP isBackslash + slack r (unescaped d ++ rest) ≤
      1 + [d].countP isBackslash + slack r rest := by
  rcases unescaped_cases d with ⟨hd, heq⟩ | ⟨c, heq, hc⟩
  · have hcount : ['\\', d].countP isBackslash = 1 := by
      rw [List.countP_cons_of_pos rfl, List.countP_singleton, not_isBackslash hd]
      rfl
    have hslack : slack r ('\\' :: d :: rest) ≤ slack r rest := by
      rw [slack_cons_cons]
      exact slack_cons_le (fun _ => hd) rest
    rw [heq, hcount]
    show 1 + slack r ('\\' :: d :: rest) ≤ _
    omega
  · rw [heq]
    show [c].countP isBackslash + slack r (c :: rest) ≤ _
    rcases Classical.em (c = '\\') with hbackslash | hother
    · rw [hc hbackslash, hbackslash]
      have hslack := slack_cons_le_add r '\\' rest
      have hcount : ['\\'].countP isBackslash = 1 := rfl
      omega
    · have hslack := slack_cons_le (r := r) (fun _ => hother) rest
      rw [List.countP_singleton, not_isBackslash hother]
      simp only [Bool.false_eq_true, if_false]
      omega

/-- Reading a literal makes no backslashes. -/
theorem countP_readBody (hend : r.escapeAtEnd = true -> r.backslashes = true)
    {body text : List Char} (h : readBody r body = some text) :
    text.countP isBackslash + slack r text ≤ body.countP isBackslash := by
  induction body using readBody.induct r generalizing text with
  | case1 => cases h
  | case2 =>
      rw [readBody.eq_2, if_pos rfl] at h
      cases h
      rw [slack_nil]
      exact Nat.zero_le _
  | case3 rest ih =>
      rw [readBody.eq_3, if_pos rfl, if_pos rfl] at h
      rcases Option.map_eq_some_iff.mp h with ⟨tail, htail, heq⟩
      have hrest := ih htail
      have hslack := slack_cons_le (r := r) (c := '\'') (fun _ => by decide) tail
      rw [← heq, List.countP_cons_of_neg (by decide), List.countP_cons_of_neg (by decide),
        List.countP_cons_of_neg (by decide)]
      omega
  | case4 d rest hd =>
      rw [readBody.eq_3, if_pos rfl, if_neg hd] at h
      cases h
  | case5 c hquote hescape =>
      rw [readBody.eq_2, if_neg hquote, if_pos hescape] at h
      cases h
  | case6 c hquote hescape d rest ih =>
      rw [readBody.eq_3, if_neg hquote, if_pos hescape] at h
      rcases Option.map_eq_some_iff.mp h with ⟨tail, htail, heq⟩
      have hrest := ih htail
      have hunescaped := countP_unescaped (r := r) d tail
      have hbody : (c :: d :: rest).countP isBackslash =
          1 + [d].countP isBackslash + rest.countP isBackslash := by
        rw [hescape.2, List.countP_cons_of_pos rfl, ← List.singleton_append, List.countP_append]
        omega
      rw [← heq, List.countP_append, hbody]
      omega
  | case7 c rest hquote hescape ih =>
      have hplain : r.backslashes = false ∨ c ≠ '\\' := by
        cases hon : r.backslashes with
        | false => exact .inl rfl
        | true => exact .inr fun heq => hescape ⟨hon, heq⟩
      rw [readBody_char hquote hplain] at h
      rcases Option.map_eq_some_iff.mp h with ⟨tail, htail, heq⟩
      have hrest := ih htail
      have hslack : slack r (c :: tail) ≤ slack r tail := by
        refine slack_cons_le (fun hatEnd => ?_) tail
        rcases hplain with hoff | hne
        · rw [hend hatEnd] at hoff
          cases hoff
        · exact hne
      rw [← heq, List.countP_cons, List.countP_cons]
      omega

/-- A literal with `n` backslashes makes a pattern that names at most half as many. -/
theorem countP_literal (hescape : r.escape = some '\\')
    (hend : r.escapeAtEnd = true -> r.backslashes = true) {body text : List Char}
    {pattern : List Token} (hbody : readBody r body = some text)
    (hpattern : readPattern r text = some pattern) :
    2 * pattern.countP (Token.names isBackslash) ≤ body.countP isBackslash :=
  (countP_backslashes hescape hpattern).trans (countP_readBody hend hbody)

/-!
## Wildcards
-/

def isWildcard (c : Char) : Bool := c == '%' || c == '_'

/-- Without escapes a pattern names no wildcards. -/
theorem countP_wildcards {text : List Char} (h : forall c, c ∈ text -> r.escape ≠ some c)
    {pattern : List Token} (hpattern : readPattern r text = some pattern) :
    pattern.countP (Token.names isWildcard) = 0 := by
  induction text generalizing pattern with
  | nil =>
      cases hpattern
      rfl
  | cons c rest ih =>
      rw [readPattern_token (h c List.mem_cons_self)] at hpattern
      rcases Option.map_eq_some_iff.mp hpattern with ⟨tail, htail, heq⟩
      have hname : ¬ Token.names isWildcard (token c) = true := by
        unfold token
        split
        · exact Bool.false_ne_true
        · split
          · exact Bool.false_ne_true
          · rename_i hmany hone
            simp [Token.names, isWildcard, hmany, hone]
      rw [← heq, List.countP_cons_of_neg hname]
      exact ih (fun d hd => h d (List.mem_cons_of_mem _ hd)) htail

end Reading

end Like
end KeepGateway
