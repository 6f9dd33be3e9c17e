import KeepGateway.Cel.SqlProviders
import KeepGateway.Lib.LikePatterns

/-!
# Method calls as conditions on texts

`contains`, `startsWith` and `endsWith` against what the database makes of the SQL that is
generated for them.
-/

namespace KeepGateway
namespace Cel

open Like

/-!
## The condition
-/

inductive Method where
  | contains
  | startsWith
  | endsWith
  deriving DecidableEq, Repr

namespace Method

def operator : Method -> ComparisonNodeOperator
  | contains => .contains
  | startsWith => .startsWith
  | endsWith => .endsWith

/-- What the method says of two texts. -/
def Part {α : Type} : Method -> List α -> List α -> Prop
  | contains, part, whole => part <:+: whole
  | startsWith, part, whole => part <+: whole
  | endsWith, part, whole => part <:+ whole

end Method

/-- How the databases compare letters: `LOWER`, `ILIKE` and the `LIKE` of SQLite go by `lower`,
the `LIKE` of MySQL by its collation, which ignores the case of letters at most. -/
structure Letters where
  lower : Char -> Char
  collate : Char -> Char
  lower_eq : forall c x, x ∈ ['%', '_', '\\'] -> (lower c = x <-> c = x)
  collate_eq : forall c x, x ∈ ['%', '_', '\\'] -> (collate c = x <-> c = x)
  collate_lower : forall c d, collate (lower c) = collate (lower d) -> lower c = lower d

/-- PostgreSQL and MySQL escape by a backslash in patterns, MySQL also in string literals. -/
def Dialect.reader : Dialect -> Reader
  | .postgresql => { escape := some '\\', escapeAtEnd := false, backslashes := false }
  | .mysql => { escape := some '\\', escapeAtEnd := true, backslashes := true }
  | .sqlite => { escape := none, escapeAtEnd := false, backslashes := false }

namespace Letters

variable (letters : Letters)

def patternKey : Dialect -> Char -> Char
  | .mysql => letters.collate
  | _ => letters.lower

def textKey : Dialect -> Char -> Char
  | .mysql => fun c => letters.collate (letters.lower c)
  | _ => letters.lower

end Letters

/-- The condition up to its pattern. -/
def Dialect.beforePattern (dialect : Dialect) (column : String) : String :=
  column ++ " IS NOT NULL AND " ++
    match dialect with
    | .postgresql => column ++ " ILIKE "
    | .mysql => "LOWER(" ++ column ++ ") LIKE "
    | .sqlite => column ++ " LIKE "

/-- The pattern of a condition that ends with one string literal. -/
def readCondition (dialect : Dialect) (column sql : String) : Option (List Token) := do
  let literal <- sql.toList.dropPrefix? (dialect.beforePattern column).toList
  let pattern <- readLiteral dialect.reader literal
  readPattern dialect.reader pattern

/-- The SQL is true of a row with this text in the column. -/
def TrueOf (letters : Letters) (dialect : Dialect) (column sql : String) (text : List Char) :
    Prop :=
  exists pattern, readCondition dialect column sql = some pattern ∧
    matchesText (letters.patternKey dialect) (letters.textKey dialect) pattern text = true

/-- Percent signs are doubled for drivers that format the statement. -/
def percents (doublePercents : Bool) (cs : List Char) : List Char :=
  if doublePercents then cs.flatMap fun c => if c = '%' then ['%', '%'] else [c] else cs

/-- The literal processor. -/
def escapeLiteral (doublePercents : Bool) (s : String) : String :=
  String.ofList (doubled (percents doublePercents s.toList))

/-- What is relied on of the libraries: the literal processor, `str.lower`, and the text of a
date. -/
structure Provider.Outside (p : Provider) : Prop where
  escape : exists doublePercents, forall s, p.escape s = escapeLiteral doublePercents s
  lower : forall s x, x ∈ ['%', '_', '\\'] -> (p.rt.lower s).toList.count x = s.toList.count x
  date : forall s d, p.rt.parse s = some d ->
    forall c, c ∈ d.str.toList -> c ∉ ['%', '_', '\\', '\'']

/-- The string that a quoted literal stands for. -/
def literalString (token : String) : String :=
  String.ofList (unescapeQuotes (trimEnds token.toList))

/-- The SQL of a method call with this constant is true exactly of the texts of which the
method is, without regard to case. -/
def MeansMethod (p : Provider) (letters : Letters) (m : Method) (column : String)
    (value : Value) (s : String) : Prop :=
  exists sql, p.visitMethodCalling m.operator column (.constant value) = .ok sql ∧
    forall text : List Char, TrueOf letters p.dialect column sql text <->
      m.Part (s.toList.map letters.lower) (text.map letters.lower)

/-- The literal has nothing that a pattern reads as something else, and is the same text for
Python and the database. -/
def PlainLiteral (p : Provider) (letters : Letters) (value : Value) (s : String) : Prop :=
  match value with
  | .datetime d => d.str.toList.map (letters.patternKey p.dialect) =
      s.toList.map (letters.textKey p.dialect)
  | _ => (forall c, c ∈ s.toList -> Plain p.dialect.reader c) ∧
      (p.dialect = .mysql -> (p.rt.lower s).toList.map letters.collate =
        s.toList.map fun c => letters.collate (letters.lower c))

/-!
## Parts of texts
-/

namespace Method

variable {α β : Type} {m : Method} {f : α -> β}

theorem Part.refl (m : Method) (whole : List α) : m.Part whole whole := by
  cases m with
  | contains => exact List.infix_rfl
  | startsWith => exact List.prefix_rfl
  | endsWith => exact List.suffix_rfl

theorem Part.sublist {part whole : List α} (h : m.Part part whole) :
    List.Sublist part whole := by
  cases m with
  | contains => exact List.IsInfix.sublist h
  | startsWith => exact List.IsPrefix.sublist h
  | endsWith => exact List.IsSuffix.sublist h

/-- A part of a mapped text comes from a part of the text. -/
theorem part_map {part : List β} {whole : List α} :
    m.Part part (whole.map f) <-> exists u, m.Part u whole ∧ u.map f = part := by
  cases m with
  | contains =>
      constructor
      · intro h
        rcases h with ⟨first, last, heq⟩
        rw [List.append_assoc] at heq
        rcases List.map_eq_append_iff.mp heq.symm with ⟨before, rest, hwhole, _, hrest⟩
        rcases List.map_eq_append_iff.mp hrest with ⟨u, after, hu, hpart, _⟩
        refine ⟨u, ⟨before, after, ?_⟩, hpart⟩
        rw [List.append_assoc, ← hu, ← hwhole]
      · intro h
        rcases h with ⟨u, hu, heq⟩
        rw [← heq]
        exact List.IsInfix.map f hu
  | startsWith =>
      constructor
      · intro h
        rcases h with ⟨last, heq⟩
        rcases List.map_eq_append_iff.mp heq.symm with ⟨u, after, hwhole, hpart, _⟩
        exact ⟨u, ⟨after, hwhole.symm⟩, hpart⟩
      · intro h
        rcases h with ⟨u, hu, heq⟩
        rw [← heq]
        exact List.IsPrefix.map f hu
  | endsWith =>
      constructor
      · intro h
        rcases h with ⟨first, heq⟩
        rcases List.map_eq_append_iff.mp heq.symm with ⟨before, u, hwhole, _, hpart⟩
        exact ⟨u, ⟨before, hwhole.symm⟩, hpart⟩
      · intro h
        rcases h with ⟨u, hu, heq⟩
        rw [← heq]
        exact List.IsSuffix.map f hu

end Method

/-- Two ways to compare characters that agree compare lists alike. -/
theorem map_eq_map_of_kernel {α β γ : Type} {f : α -> β} {g : α -> γ}
    (h : forall a b, f a = f b <-> g a = g b) {xs ys : List α} :
    xs.map f = ys.map f <-> xs.map g = ys.map g := by
  induction xs generalizing ys with
  | nil =>
      cases ys with
      | nil => exact ⟨fun _ => rfl, fun _ => rfl⟩
      | cons y ys => exact ⟨fun h => absurd h (by simp), fun h => absurd h (by simp)⟩
  | cons x xs ih =>
      cases ys with
      | nil => exact ⟨fun h => absurd h (by simp), fun h => absurd h (by simp)⟩
      | cons y ys =>
          rw [List.map_cons, List.map_cons, List.map_cons, List.map_cons, List.cons.injEq,
            List.cons.injEq, h, ih]

/-- A part of every text of which another is a part, and the other way round, is the other. -/
theorem keys_eq_of_parts {m : Method} {letters : Letters} {dialect : Dialect}
    {part s : List Char}
    (h : forall text : List Char, m.Part part (text.map (letters.textKey dialect)) <->
      m.Part (s.map letters.lower) (text.map letters.lower)) :
    part = s.map (letters.textKey dialect) := by
  rcases Method.part_map.mp ((h s).mpr (Method.Part.refl m _)) with ⟨u, hu, heq⟩
  have hpart : m.Part part (u.map (letters.textKey dialect)) := by
    rw [heq]
    exact Method.Part.refl m part
  have hlength := ((h u).mp hpart).sublist.length_le
  rw [List.length_map, List.length_map] at hlength
  rw [← heq, hu.sublist.eq_of_length_le hlength]

theorem Letters.textKey_eq (letters : Letters) (dialect : Dialect) (c d : Char) :
    letters.textKey dialect c = letters.textKey dialect d <->
      letters.lower c = letters.lower d := by
  cases dialect with
  | mysql => exact ⟨letters.collate_lower c d, congrArg letters.collate⟩
  | _ => exact Iff.rfl

theorem part_textKey {m : Method} (letters : Letters) (dialect : Dialect)
    {part whole : List Char} :
    m.Part (part.map (letters.textKey dialect)) (whole.map (letters.textKey dialect)) <->
      m.Part (part.map letters.lower) (whole.map letters.lower) := by
  rw [Method.part_map, Method.part_map]
  constructor
  · intro h
    rcases h with ⟨u, hu, heq⟩
    exact ⟨u, hu, (map_eq_map_of_kernel (letters.textKey_eq dialect)).mp heq⟩
  · intro h
    rcases h with ⟨u, hu, heq⟩
    exact ⟨u, hu, (map_eq_map_of_kernel (letters.textKey_eq dialect)).mpr heq⟩

/-!
## Reading the condition
-/

namespace Method

/-- What the pattern has before and after the literal. -/
def before : Method -> List Char
  | startsWith => []
  | _ => ['%']

def after : Method -> List Char
  | endsWith => []
  | _ => ['%']

theorem toList_likePattern (m : Method) (literal : String) :
    (Provider.likePattern m.operator literal).toList =
      '\'' :: (m.before ++ literal.toList ++ m.after ++ ['\'']) := by
  cases m with
  | _ => simp [operator, Provider.likePattern, before, after]

end Method

namespace Provider

variable (p : Provider)

/-- What is pasted into the pattern. -/
def pasted (value : Value) : String :=
  match p.dialect with
  | .mysql => p.unquotedLiteral (p.lowerText value)
  | _ => p.unquotedLiteral value

theorem visitMethodCalling_eq (m : Method) (column : String) (value : Value) :
    p.visitMethodCalling m.operator column (.constant value) =
      .ok (p.dialect.beforePattern column ++ likePattern m.operator (p.pasted value)) := by
  rcases p with ⟨rt, dialect, escape, metadata⟩
  cases dialect with
  | _ =>
      simp only [visitMethodCalling, itemValue, pasted, Dialect.beforePattern, bind, Except.bind,
        String.append_assoc]

end Provider

theorem readCondition_eq (dialect : Dialect) (column : String) (m : Method) (literal : String) :
    readCondition dialect column
        (dialect.beforePattern column ++ Provider.likePattern m.operator literal) =
      (readBody dialect.reader (m.before ++ literal.toList ++ m.after ++ ['\''])).bind
        (readPattern dialect.reader) := by
  unfold readCondition
  rw [String.toList_append, List.dropPrefix?_append_of_beq _ (BEq.refl _), m.toList_likePattern]
  rfl

/-!
## Plain literals
-/

def Method.tokens (cs : List Char) : Method -> List Token
  | .contains => .many :: (cs.map .char ++ [.many])
  | .startsWith => cs.map .char ++ [.many]
  | .endsWith => .many :: cs.map .char

theorem matchesText_tokens (key key' : Char -> Char) (m : Method) (cs text : List Char) :
    matchesText key key' (m.tokens cs) text = true <-> m.Part (cs.map key) (text.map key') := by
  cases m with
  | contains => exact matchesText_within cs text
  | startsWith => exact matchesText_starts cs text
  | endsWith => exact matchesText_ends cs text

theorem Dialect.escape_ne (dialect : Dialect) : dialect.reader.escape ≠ some '%' := by
  cases dialect with
  | _ => decide

theorem Dialect.escape_eq {dialect : Dialect} {c : Char} (h : dialect.reader.escape = some c) :
    c = '\\' := by
  cases dialect with
  | sqlite => cases h
  | _ => exact (Option.some.inj h).symm

theorem Dialect.backslashes_escape {dialect : Dialect} (h : dialect.reader.backslashes = true) :
    dialect.reader.escape = some '\\' := by
  cases dialect with
  | mysql => rfl
  | _ => cases h

theorem doubled_append (cs ds : List Char) : doubled (cs ++ ds) = doubled cs ++ doubled ds :=
  List.flatMap_append

/-- The ends that the method leaves open are not touched by doubling. -/
theorem Method.doubled_around (m : Method) (cs : List Char) :
    m.before ++ doubled cs ++ m.after = doubled (m.before ++ cs ++ m.after) := by
  rw [doubled_append, doubled_append]
  cases m with
  | _ => rfl

theorem Method.mem_around {m : Method} {cs : List Char} {c : Char}
    (h : c ∈ m.before ++ cs ++ m.after) : c ∈ cs ∨ c = '%' := by
  cases m with
  | contains => simpa [Method.before, Method.after, or_comm] using h
  | startsWith => simpa [Method.before, Method.after] using h
  | endsWith => simpa [Method.before, Method.after, or_comm] using h

/-- A literal without backslashes is read back. -/
theorem readBody_around {dialect : Dialect} (m : Method) {cs : List Char}
    (h : forall c, c ∈ cs -> dialect.reader.backslashes = false ∨ c ≠ '\\') :
    readBody dialect.reader (m.before ++ doubled cs ++ m.after ++ ['\'']) =
      some (m.before ++ cs ++ m.after) := by
  have hall : forall c, c ∈ m.before ++ cs ++ m.after ->
      dialect.reader.backslashes = false ∨ c ≠ '\\' := by
    intro c hc
    rcases Method.mem_around hc with hmem | heq
    · exact h c hmem
    · rw [heq]
      exact .inr (by decide)
  rw [m.doubled_around, readBody_doubled hall]
  show (some []).map _ = _
  rw [Option.map_some, List.append_nil]

theorem readPattern_around {dialect : Dialect} (m : Method) {cs : List Char}
    (h : forall c, c ∈ cs -> Plain dialect.reader c) :
    readPattern dialect.reader (m.before ++ cs ++ m.after) = some (m.tokens cs) := by
  have hmany : forall rest, readPattern dialect.reader ('%' :: rest) =
      (readPattern dialect.reader rest).map (.many :: ·) :=
    readPattern_token dialect.escape_ne
  have hend : readPattern dialect.reader ['%'] = some [.many] := hmany []
  cases m with
  | contains =>
      show readPattern dialect.reader ('%' :: (cs ++ ['%'])) = _
      rw [hmany, readPattern_chars h, hend]
      rfl
  | startsWith =>
      show readPattern dialect.reader (cs ++ ['%']) = _
      rw [readPattern_chars h, hend]
      rfl
  | endsWith =>
      show readPattern dialect.reader ('%' :: (cs ++ [])) = _
      rw [hmany, readPattern_chars h]
      show some (Token.many :: (cs.map Token.char ++ [])) = _
      rw [List.append_nil]
      rfl

section Law

variable {letters : Letters} {dialect : Dialect} {column : String} {m : Method}
  {literal : String} {cs : List Char}

theorem trueOf_plain (hplain : forall c, c ∈ cs -> Plain dialect.reader c)
    (hliteral : literal.toList = doubled cs) (text : List Char) :
    TrueOf letters dialect column
        (dialect.beforePattern column ++ Provider.likePattern m.operator literal) text <->
      m.Part (cs.map (letters.patternKey dialect)) (text.map (letters.textKey dialect)) := by
  have hread : readCondition dialect column
      (dialect.beforePattern column ++ Provider.likePattern m.operator literal) =
        some (m.tokens cs) := by
    have hbackslash : forall c, c ∈ cs -> dialect.reader.backslashes = false ∨ c ≠ '\\' := by
      intro c hc
      cases hon : dialect.reader.backslashes with
      | false => exact .inl rfl
      | true =>
          refine .inr fun heq => (hplain c hc).2.2 ?_
          rw [heq]
          exact Dialect.backslashes_escape hon
    rw [readCondition_eq, hliteral, readBody_around m hbackslash, Option.bind_some,
      readPattern_around m hplain]
  unfold TrueOf
  rw [hread]
  constructor
  · intro h
    rcases h with ⟨pattern, hpattern, hmatches⟩
    rw [← Option.some.inj hpattern] at hmatches
    exact (matchesText_tokens _ _ m cs text).mp hmatches
  · intro h
    exact ⟨m.tokens cs, rfl, (matchesText_tokens _ _ m cs text).mpr h⟩

/-- For a plain literal the question is whether the pattern and the text are compared as one
text. -/
theorem plain_law {s : List Char} (hplain : forall c, c ∈ cs -> Plain dialect.reader c)
    (hliteral : literal.toList = doubled cs) :
    (forall text : List Char, TrueOf letters dialect column
        (dialect.beforePattern column ++ Provider.likePattern m.operator literal) text <->
      m.Part (s.map letters.lower) (text.map letters.lower)) <->
      cs.map (letters.patternKey dialect) = s.map (letters.textKey dialect) := by
  constructor
  · intro h
    refine @keys_eq_of_parts m _ _ _ _ fun text => ?_
    rw [← trueOf_plain hplain hliteral]
    exact h text
  · intro h text
    rw [trueOf_plain hplain hliteral, h, part_textKey]

end Law

/-!
## Literals that are not plain
-/

/-- Whether a character is one of some that no comparison of letters touches. -/
def Fixes (f : Char -> Char) (p : Char -> Bool) : Prop :=
  forall c, p (f c) = p c

theorem fixes_backslash {f : Char -> Char}
    (h : forall c x, x ∈ ['%', '_', '\\'] -> (f c = x <-> c = x)) : Fixes f isBackslash := by
  intro c
  rw [Bool.eq_iff_iff, isBackslash, isBackslash, beq_iff_eq, beq_iff_eq]
  exact h c '\\' (by decide)

theorem fixes_wildcard {f : Char -> Char}
    (h : forall c x, x ∈ ['%', '_', '\\'] -> (f c = x <-> c = x)) : Fixes f isWildcard := by
  intro c
  rw [Bool.eq_iff_iff, isWildcard, isWildcard, Bool.or_eq_true, Bool.or_eq_true, beq_iff_eq,
    beq_iff_eq, beq_iff_eq, beq_iff_eq, h c '%' (by decide), h c '_' (by decide)]

section Specials

variable {letters : Letters} {dialect : Dialect}

theorem Letters.fixes_keys {p : Char -> Bool} (hlower : Fixes letters.lower p)
    (hcollate : Fixes letters.collate p) :
    Fixes (letters.patternKey dialect) p ∧ Fixes (letters.textKey dialect) p := by
  cases dialect with
  | mysql => exact ⟨hcollate, fun c => (hcollate _).trans (hlower c)⟩
  | _ => exact ⟨hlower, hlower⟩

theorem countP_le_of_part {p : Char -> Bool} (hlower : Fixes letters.lower p) {m : Method}
    {part whole : List Char}
    (h : m.Part (part.map letters.lower) (whole.map letters.lower)) :
    part.countP p ≤ whole.countP p := by
  have hmap : forall cs : List Char, (cs.map letters.lower).countP p = cs.countP p := by
    intro cs
    rw [List.countP_map]
    exact List.countP_congr fun c _ => by rw [Function.comp_apply, hlower c]
  rw [← hmap part, ← hmap whole]
  exact h.sublist.countP_le

/-- A text of which the condition is true names no more of the special characters than the
pattern, and so has the literal. -/
theorem countP_le_pattern {p : Char -> Bool} (hother : exists other, p other = false)
    (hlower : Fixes letters.lower p) (hcollate : Fixes letters.collate p) {column sql : String}
    {m : Method} {s : List Char}
    (hlaw : forall text : List Char, TrueOf letters dialect column sql text <->
      m.Part (s.map letters.lower) (text.map letters.lower)) :
    exists pattern, readCondition dialect column sql = some pattern ∧
      s.countP p ≤ pattern.countP (Token.names p) := by
  rcases (hlaw s).mpr (Method.Part.refl m _) with ⟨pattern, hpattern, hmatches⟩
  rcases Letters.fixes_keys hlower hcollate with ⟨hpatternKey, htextKey⟩
  have hkeys : forall c d, letters.patternKey dialect c = letters.textKey dialect d ->
      p c = p d := by
    intro c d heq
    rw [← hpatternKey c, heq, htextKey d]
  rcases hother with ⟨other, hother⟩
  rcases exists_shrunk hother hkeys hmatches with ⟨shrunk, hshrunk, hcount⟩
  refine ⟨pattern, hpattern, ?_⟩
  rw [← hcount]
  exact countP_le_of_part hlower ((hlaw shrunk).mp ⟨pattern, hpattern, hshrunk⟩)

theorem countP_doubled (cs : List Char) :
    (doubled cs).countP isBackslash = cs.countP isBackslash := by
  induction cs with
  | nil => rfl
  | cons c cs ih =>
      have hcons : doubled (c :: cs) = (if c = '\'' then ['\'', '\''] else [c]) ++ doubled cs := rfl
      rw [hcons, List.countP_append, ih, List.countP_cons, Nat.add_comm]
      congr 1
      split
      · rename_i hquote
        rw [hquote]
        rfl
      · exact List.countP_singleton

theorem countP_around (m : Method) (cs : List Char) :
    (m.before ++ doubled cs ++ m.after ++ ['\'']).countP isBackslash =
      cs.countP isBackslash := by
  have hends : m.before.countP isBackslash = 0 ∧ m.after.countP isBackslash = 0 := by
    cases m with
    | _ => exact ⟨rfl, rfl⟩
  have hquote : ['\''].countP isBackslash = 0 := rfl
  rw [List.countP_append, List.countP_append, List.countP_append, countP_doubled, hends.1,
    hends.2, hquote]
  omega

/-- The law makes a literal plain. -/
theorem plain_of_law {column literal : String} {m : Method} {s cs : List Char}
    (hliteral : literal.toList = doubled cs)
    (hcount : cs.countP isBackslash = s.countP isBackslash)
    (hlaw : forall text : List Char, TrueOf letters dialect column
        (dialect.beforePattern column ++ Provider.likePattern m.operator literal) text <->
      m.Part (s.map letters.lower) (text.map letters.lower)) :
    forall c, c ∈ s -> Plain dialect.reader c := by
  have hread := readCondition_eq dialect column m literal
  rw [hliteral] at hread
  have hescape : dialect.reader.escape = some '\\' -> cs.countP isBackslash = 0 := by
    intro hescape
    rcases countP_le_pattern ⟨'a', rfl⟩ (fixes_backslash letters.lower_eq)
      (fixes_backslash letters.collate_eq) hlaw with ⟨pattern, hpattern, hle⟩
    rw [hread] at hpattern
    rcases Option.bind_eq_some_iff.mp hpattern with ⟨text, htext, hpattern⟩
    have hend : dialect.reader.escapeAtEnd = true -> dialect.reader.backslashes = true := by
      cases dialect with
      | _ => decide
    have hhalf := countP_literal hescape hend htext hpattern
    rw [countP_around] at hhalf
    omega
  have hnone : forall c, c ∈ cs -> dialect.reader.escape ≠ some c := by
    intro c hc heq
    have hzero := hescape (by rw [heq, Dialect.escape_eq heq])
    exact List.countP_eq_zero.mp hzero c hc (beq_iff_eq.mpr (Dialect.escape_eq heq))
  have hbackslash : forall c, c ∈ cs -> dialect.reader.backslashes = false ∨ c ≠ '\\' := by
    intro c hc
    cases hon : dialect.reader.backslashes with
    | false => exact .inl rfl
    | true =>
        refine .inr fun heq => hnone c hc ?_
        rw [heq]
        exact Dialect.backslashes_escape hon
  have hwildcards : s.countP isWildcard = 0 := by
    rcases countP_le_pattern ⟨'a', rfl⟩ (fixes_wildcard letters.lower_eq)
      (fixes_wildcard letters.collate_eq) hlaw with ⟨pattern, hpattern, hle⟩
    rw [hread, readBody_around m hbackslash, Option.bind_some] at hpattern
    refine Nat.le_zero.mp (hle.trans (Nat.le_of_eq (countP_wildcards ?_ hpattern)))
    intro c hc
    rcases Method.mem_around hc with hmem | hend
    · exact hnone c hmem
    · rw [hend]
      exact dialect.escape_ne
  intro c hc
  have hwildcard := List.countP_eq_zero.mp hwildcards c hc
  refine ⟨?_, ?_, ?_⟩
  · intro heq
    exact hwildcard (by rw [heq]; rfl)
  · intro heq
    exact hwildcard (by rw [heq]; rfl)
  · intro heq
    have hzero := hescape (by rw [heq, Dialect.escape_eq heq])
    rw [hcount] at hzero
    exact List.countP_eq_zero.mp hzero c hc (beq_iff_eq.mpr (Dialect.escape_eq heq))

end Specials

/-!
## Literals
-/

theorem trimEnds_quoted (q : Char) (cs : List Char) : trimEnds (q :: (cs ++ [q])) = cs := by
  unfold trimEnds
  rw [List.drop_one, List.tail_cons, List.dropLast_concat]

/-- A quoted literal is a string or a date. -/
theorem quoted_cases {rt : Runtime} {token : String} {value : Value}
    (hquoted : isQuotedBy '"' token.toList = true ∨ isQuotedBy '\'' token.toList = true)
    (hvalue : toConstantNode rt token = .ok value) :
    value = .str (literalString token) ∨
      exists s d, rt.parse s = some d ∧ value = .datetime d := by
  have hnull : ¬ (token = "null" ∨ token = "NULL") := by
    intro h
    rcases h with heq | heq
    · rw [heq] at hquoted
      rcases hquoted with h | h
      · cases h
      · cases h
    · rw [heq] at hquoted
      rcases hquoted with h | h
      · cases h
      · cases h
  unfold toConstantNode at hvalue
  rw [if_neg hnull, if_pos (Bool.or_eq_true_iff.mpr hquoted)] at hvalue
  simp only at hvalue
  split at hvalue
  · split at hvalue
    · rename_i d hd
      cases hvalue
      exact .inr ⟨_, d, hd, rfl⟩
    · cases hvalue
  · cases hvalue
    exact .inl (by simp [literalString])

namespace Provider

variable {p : Provider}

theorem unquotedLiteral_eq (value : Value) :
    p.unquotedLiteral value = match value with
      | .str s => p.escape s
      | value => value.text := by
  unfold unquotedLiteral
  cases value with
  | _ => simp [literalProc, trimEnds_quoted]

/-- The string that is escaped for the pattern. -/
def written (p : Provider) (s : String) : String :=
  match p.dialect with
  | .mysql => p.rt.lower s
  | _ => s

theorem pasted_str (s : String) : p.pasted (.str s) = p.escape (p.written s) := by
  unfold pasted written
  cases p.dialect with
  | _ => exact unquotedLiteral_eq _

theorem pasted_datetime (d : DateTime) : p.pasted (.datetime d) = d.str := by
  unfold pasted
  cases p.dialect with
  | _ => exact unquotedLiteral_eq _

theorem count_written (houtside : p.Outside) (s : String) {x : Char}
    (hx : x ∈ ['%', '_', '\\']) : (p.written s).toList.count x = s.toList.count x := by
  unfold written
  cases p.dialect with
  | mysql => exact houtside.lower s x hx
  | _ => rfl

end Provider

theorem percents_of_not_mem {cs : List Char} (h : '%' ∉ cs) (doublePercents : Bool) :
    percents doublePercents cs = cs := by
  have hsame : cs.flatMap (fun c => if c = '%' then ['%', '%'] else [c]) = cs := by
    induction cs with
    | nil => rfl
    | cons c cs ih =>
        rcases not_or.mp (fun hor => h (List.mem_cons.mpr hor)) with ⟨hne, hrest⟩
        rw [List.flatMap_cons, if_neg (Ne.symm hne), ih hrest]
        rfl
  unfold percents
  rw [hsame, ite_self]

theorem countP_percents (doublePercents : Bool) (cs : List Char) :
    (percents doublePercents cs).countP isBackslash = cs.countP isBackslash := by
  have hsame : (cs.flatMap fun c => if c = '%' then ['%', '%'] else [c]).countP isBackslash =
      cs.countP isBackslash := by
    induction cs with
    | nil => rfl
    | cons c cs ih =>
        rw [List.flatMap_cons, List.countP_append, ih, List.countP_cons, Nat.add_comm]
        congr 1
        split
        · rename_i hpercent
          rw [hpercent]
          rfl
        · exact List.countP_singleton
  unfold percents
  split
  · exact hsame
  · rfl

theorem doubled_of_not_mem {cs : List Char} (h : '\'' ∉ cs) : doubled cs = cs := by
  induction cs with
  | nil => rfl
  | cons c cs ih =>
      rcases not_or.mp (fun hor => h (List.mem_cons.mpr hor)) with ⟨hne, hrest⟩
      have hcons : doubled (c :: cs) = (if c = '\'' then ['\'', '\''] else [c]) ++ doubled cs :=
        rfl
      rw [hcons, if_neg (Ne.symm hne), ih hrest]
      rfl

/-- Texts with the same special characters are plain together. -/
theorem plain_of_count {dialect : Dialect} {cs ds : List Char}
    (hcount : forall x, x ∈ ['%', '_', '\\'] -> cs.count x = ds.count x)
    (h : forall c, c ∈ ds -> Plain dialect.reader c) :
    forall c, c ∈ cs -> Plain dialect.reader c := by
  intro c hc
  have hmem : c ∈ ['%', '_', '\\'] -> c ∈ ds := by
    intro hspecial
    rw [← List.count_pos_iff, ← hcount c hspecial]
    exact List.count_pos_iff.mpr hc
  refine ⟨?_, ?_, ?_⟩
  · intro heq
    exact (h c (hmem (by simp [heq]))).1 heq
  · intro heq
    exact (h c (hmem (by simp [heq]))).2.1 heq
  · intro heq
    exact (h c (hmem (by simp [Dialect.escape_eq heq]))).2.2 heq

/-- The SQL of a method call means the method exactly for plain literals. -/
theorem meansMethod_iff {p : Provider} (letters : Letters) (houtside : p.Outside) (m : Method)
    (column : String) {token : String} {value : Value}
    (hquoted : isQuotedBy '"' token.toList = true ∨ isQuotedBy '\'' token.toList = true)
    (hvalue : toConstantNode p.rt token = .ok value) :
    MeansMethod p letters m column value (literalString token) <->
      PlainLiteral p letters value (literalString token) := by
  have hmeans : MeansMethod p letters m column value (literalString token) <->
      forall text : List Char, TrueOf letters p.dialect column
          (p.dialect.beforePattern column ++ Provider.likePattern m.operator (p.pasted value))
          text <->
        m.Part ((literalString token).toList.map letters.lower) (text.map letters.lower) := by
    constructor
    · intro h
      rcases h with ⟨sql, hsql, hlaw⟩
      rw [p.visitMethodCalling_eq] at hsql
      cases hsql
      exact hlaw
    · intro h
      exact ⟨_, p.visitMethodCalling_eq m column value, h⟩
  rw [hmeans]
  have hcases := quoted_cases hquoted hvalue
  generalize literalString token = s at hcases
  rcases hcases with hstr | ⟨source, d, hparse, hdate⟩
  · rcases houtside.escape with ⟨doublePercents, hescape⟩
    have hcount : forall x, x ∈ ['%', '_', '\\'] ->
        (p.written s).toList.count x = s.toList.count x :=
      fun x hx => p.count_written houtside s hx
    have hliteral : (p.pasted value).toList =
        doubled (percents doublePercents (p.written s).toList) := by
      rw [hstr, p.pasted_str, hescape]
      exact String.toList_ofList
    have hlaw : (forall c, c ∈ s.toList -> Plain p.dialect.reader c) ->
        ((forall text : List Char, TrueOf letters p.dialect column
            (p.dialect.beforePattern column ++ Provider.likePattern m.operator (p.pasted value))
            text <->
          m.Part (s.toList.map letters.lower) (text.map letters.lower)) <->
        (p.written s).toList.map (letters.patternKey p.dialect) =
          s.toList.map (letters.textKey p.dialect)) := by
      intro hplain
      have hwritten := plain_of_count hcount hplain
      have hpercent : '%' ∉ (p.written s).toList := fun hmem => (hwritten _ hmem).1 rfl
      rw [percents_of_not_mem hpercent] at hliteral
      exact plain_law hwritten hliteral
    have hkeys : (p.written s).toList.map (letters.patternKey p.dialect) =
          s.toList.map (letters.textKey p.dialect) <->
        (p.dialect = .mysql -> (p.rt.lower s).toList.map letters.collate =
          s.toList.map fun c => letters.collate (letters.lower c)) := by
      unfold Provider.written
      cases p.dialect with
      | mysql => exact ⟨fun h _ => h, fun h => h rfl⟩
      | _ => exact ⟨fun _ h => (by cases h), fun _ => rfl⟩
    rw [hstr]
    constructor
    · intro h
      have hbackslash : (percents doublePercents (p.written s).toList).countP isBackslash =
          s.toList.countP isBackslash := by
        rw [countP_percents]
        exact hcount '\\' (by decide)
      rw [← hstr] at h
      have hplain := plain_of_law hliteral hbackslash h
      exact ⟨hplain, hkeys.mp ((hlaw hplain).mp h)⟩
    · intro h
      rw [← hstr]
      exact (hlaw h.1).mpr (hkeys.mpr h.2)
  · rw [hdate, p.pasted_datetime]
    have hspecial := houtside.date source d hparse
    have hplain : forall c, c ∈ d.str.toList -> Plain p.dialect.reader c := by
      intro c hc
      have hnot := hspecial c hc
      refine ⟨fun heq => hnot (by simp [heq]), fun heq => hnot (by simp [heq]), fun heq => ?_⟩
      exact hnot (by simp [Dialect.escape_eq heq])
    have hdoubled : d.str.toList = doubled d.str.toList := by
      refine (doubled_of_not_mem fun hmem => ?_).symm
      exact hspecial _ hmem (by simp)
    exact plain_law hplain hdoubled

theorem toLower_eq_iff (c : Char) {x : Char} (hx : x ∈ ['%', '_', '\\']) :
    c.toLower = x <-> c = x := by
  unfold Char.toLower
  split
  · rename_i hupper
    have hlow : 65 ≤ c.toNat ∧ c.toNat ≤ 90 := hupper
    have hx' : x.toNat = 37 ∨ x.toNat = 95 ∨ x.toNat = 92 := by
      simp only [List.mem_cons, List.not_mem_nil, or_false] at hx
      rcases hx with heq | heq | heq
      · exact .inl (by rw [heq]; rfl)
      · exact .inr (.inl (by rw [heq]; rfl))
      · exact .inr (.inr (by rw [heq]; rfl))
    constructor
    · intro h
      have hval : (c.val + ('a'.val - 'A'.val)).toNat = x.toNat := congrArg Char.toNat h
      have hsum : (c.val + ('a'.val - 'A'.val)).toNat = (c.toNat + 32) % 2 ^ 32 :=
        UInt32.toNat_add _ _
      omega
    · intro h
      rw [← h] at hx'
      omega
  · exact Iff.rfl

/-- Letters of ASCII, under a binary collation. -/
def asciiLetters : Letters where
  lower := Char.toLower
  collate := id
  lower_eq c _ hx := toLower_eq_iff c hx
  collate_eq _ _ _ := Iff.rfl
  collate_lower _ _ h := h

def asciiProvider (dialect : Dialect) : Provider where
  rt := asciiRuntime
  dialect := dialect
  escape := escapeLiteral false
  metadata := .empty

theorem asciiProvider_outside (dialect : Dialect) : (asciiProvider dialect).Outside := by
  constructor
  · exact ⟨false, fun _ => rfl⟩
  · intro s x hx
    show (String.ofList (s.toList.map Char.toLower)).toList.count x = _
    rw [String.toList_ofList, List.count_eq_countP, List.count_eq_countP, List.countP_map]
    refine List.countP_congr fun c _ => ?_
    rw [Function.comp_apply, beq_iff_eq, beq_iff_eq]
    exact toLower_eq_iff c hx
  · intro s d h
    cases h

theorem startsWith_plain :
    MeansMethod (asciiProvider .mysql) asciiLetters .startsWith "name" (.str "Disk")
        (literalString "'Disk'") <->
      PlainLiteral (asciiProvider .mysql) asciiLetters (.str "Disk") (literalString "'Disk'") :=
  meansMethod_iff asciiLetters (asciiProvider_outside .mysql) .startsWith "name"
    (.inr (by decide)) (by decide : toConstantNode asciiRuntime "'Disk'" = .ok (.str "Disk"))

/-- In a pattern an underscore is any character. -/
theorem contains_underscore :
    toConstantNode asciiRuntime "'_'" = .ok (.str "_") ∧
      ¬ MeansMethod (asciiProvider .postgresql) asciiLetters .contains "name" (.str "_") "_" := by
  refine ⟨by decide, ?_⟩
  intro h
  rcases h with ⟨sql, hsql, hlaw⟩
  rw [(asciiProvider .postgresql).visitMethodCalling_eq] at hsql
  cases hsql
  have hread : readCondition .postgresql "name"
      (Dialect.postgresql.beforePattern "name" ++ Provider.likePattern Method.contains.operator
        ((asciiProvider .postgresql).pasted (.str "_"))) = some [.many, .one, .many] := by
    have hpasted : ((asciiProvider .postgresql).pasted (.str "_")).toList = ['_'] := by
      rw [Provider.pasted_str]
      rfl
    rw [readCondition_eq, hpasted]
    rfl
  have hpart := (hlaw ['a']).mp ⟨_, hread, rfl⟩
  have hmem := hpart.sublist.subset (List.mem_map_of_mem (List.mem_singleton_self '_'))
  exact absurd hmem (by decide)

end Cel
end KeepGateway
