import KeepGateway.Rules.TypeCoercion

/-!
# Conjunctions under the type coercion fallback

Whether the fallback decides a conjunction of comparisons as comparing the two sides of each one
as strings would.
-/

namespace KeepGateway
namespace Rules

open Spans

/-!
## Conjunctions of comparisons
-/

def isBlank (c : Char) : Bool :=
  c == ' ' || c == '\t' || c == '\n' || c == '\r' || c == '\x0c'

/-- The value of a digit, in a base up to sixteen. -/
def digitValue (base : Nat) (c : Char) : Option Nat :=
  let n := c.toNat
  let value :=
    if 48 ≤ n ∧ n ≤ 57 then n - 48
    else if 97 ≤ n ∧ n ≤ 102 then n - 87
    else if 65 ≤ n ∧ n ≤ 70 then n - 55
    else base
  if value < base then some value else none

/-- The value of a text of digits, which come after those of a number. -/
def digitsValue (base : Nat) : Nat -> List Char -> Option Nat
  | n, [] => some n
  | n, c :: digits =>
      match digitValue base c with
      | none => none
      | some d => digitsValue base (n * base + d) digits

def naturalValue : List Char -> Option Nat
  | [] => none
  | '0' :: 'x' :: c :: digits => digitsValue 16 0 (c :: digits)
  | c :: digits => digitsValue 10 0 (c :: digits)

/-- The value of an integer literal. -/
def intValue : List Char -> Option Int
  | '-' :: text => (naturalValue text).map fun n : Nat => -(n : Int)
  | text => (naturalValue text).map fun n : Nat => (n : Int)

/-- Within double quotes no quote and no line break stands by itself. -/
def isContent : List Char -> Bool
  | [] => true
  | '\\' :: c :: rest => c != '\n' && isContent rest
  | c :: rest => c != '\\' && c != '"' && c != '\n' && isContent rest

/-- An integer, or a string in double quotes. -/
inductive EqualityLiteral where
  | int (text : List Char) (value : Int) (hvalue : intValue text = some value)
  | string (content : List Char) (hcontent : isContent content = true)

namespace EqualityLiteral

def text : EqualityLiteral -> List Char
  | int text _ _ => text
  | string content _ => '"' :: (content ++ ['"'])

/-- The value of the literal as a string. -/
def asString (reading : Reading) : EqualityLiteral -> List Char
  | int _ value _ => (toString value).toList
  | string content _ => reading.decode content

end EqualityLiteral

/-- Blanks between two tokens. -/
abbrev Blanks : Type := { blanks : List Char // blanks.all isBlank = true }

structure Equality where
  path : List Char
  path_ne : path ≠ []
  path_chars : path.all isPathChar = true
  beforeOp : Blanks
  op : EqualityOp
  afterOp : Blanks
  literal : EqualityLiteral

def EqualityOp.text : EqualityOp -> List Char
  | eq => ['=', '=']
  | ne => ['!', '=']

def Equality.text (equality : Equality) : List Char :=
  equality.path ++ (equality.beforeOp.val ++ (equality.op.text ++
    (equality.afterOp.val ++ equality.literal.text)))

/-- The comparison holds of the two sides as strings. -/
def Equality.holds (reading : Reading) (activation : List (List Char × CelValue))
    (equality : Equality) : Bool :=
  equality.op.holds (reading.leftText activation equality.path) (equality.literal.asString reading)

/-- One comparison after `&&`, with the blanks on both sides of it. -/
structure Conjunct where
  beforeAnd : Blanks
  afterAnd : Blanks
  equality : Equality

def Conjunct.text (conjunct : Conjunct) : List Char :=
  conjunct.beforeAnd.val ++ ('&' :: '&' :: (conjunct.afterAnd.val ++ conjunct.equality.text))

structure Conjunction where
  leading : Blanks
  first : Equality
  others : List Conjunct
  trailing : Blanks

namespace Conjunction

variable (conjunction : Conjunction)

/-- What follows the first comparison. -/
def rest : List Char :=
  conjunction.others.flatMap Conjunct.text ++ conjunction.trailing.val

def text : List Char :=
  conjunction.leading.val ++ (conjunction.first.text ++ conjunction.rest)

def equalities : List Equality := conjunction.first :: conjunction.others.map Conjunct.equality

/-- Every comparison holds of its sides as strings. -/
def allHold (reading : Reading) (activation : List (List Char × CelValue)) : Bool :=
  conjunction.equalities.all fun equality => equality.holds reading activation

/-- The rest of the line on which the first comparison ends. -/
def lineEnd : List Char := conjunction.rest.takeWhile fun c => c ≠ '\n'

end Conjunction

/-!
## Literals
-/

/-- The range of the signs and digits of an integer literal. -/
def isNumeral (c : Char) : Bool := 45 ≤ c.toNat && c.toNat ≤ 122

theorem isNumeral_iff {c : Char} : isNumeral c = true <-> 45 ≤ c.toNat ∧ c.toNat ≤ 122 := by
  rw [isNumeral, Bool.and_eq_true, decide_eq_true_eq, decide_eq_true_eq]

theorem isNumeral_of_digitValue {base d : Nat} {c : Char} (h : digitValue base c = some d) :
    isNumeral c = true := by
  rw [isNumeral_iff]
  simp only [digitValue] at h
  grind

theorem isNumeral_of_digitsValue {base m n : Nat} {digits : List Char}
    (h : digitsValue base m digits = some n) : digits.all isNumeral = true := by
  induction digits generalizing m with
  | nil => rfl
  | cons c digits ih =>
      rw [digitsValue] at h
      split at h
      · cases h
      · next d hd =>
          rw [List.all_cons, isNumeral_of_digitValue hd, ih h]
          rfl

theorem isNumeral_of_naturalValue {n : Nat} {text : List Char} (h : naturalValue text = some n) :
    text ≠ [] ∧ text.all isNumeral = true := by
  unfold naturalValue at h
  split at h
  · cases h
  · next c digits =>
      constructor
      · exact List.cons_ne_nil _ _
      · rw [List.all_cons, List.all_cons, isNumeral_of_digitsValue h]
        rfl
  · constructor
    · exact List.cons_ne_nil _ _
    · exact isNumeral_of_digitsValue h

theorem isNumeral_of_intValue {value : Int} {text : List Char} (h : intValue text = some value) :
    text ≠ [] ∧ text.all isNumeral = true := by
  unfold intValue at h
  split at h
  · next digits =>
      rcases Option.map_eq_some_iff.mp h with ⟨n, hn, _⟩
      constructor
      · exact List.cons_ne_nil _ _
      · rw [List.all_cons, (isNumeral_of_naturalValue hn).2]
        rfl
  · rcases Option.map_eq_some_iff.mp h with ⟨n, hn, _⟩
    exact isNumeral_of_naturalValue hn

theorem isNumeral_toString {value : Int} : (toString value).toList.all isNumeral = true := by
  have hdigits : forall n : Nat, (Nat.toDigits 10 n).all isNumeral = true := by
    intro n
    rw [List.all_eq_true]
    intro c hc
    have hdigit := Nat.isDigit_of_mem_toDigits (by decide) (by decide) hc
    rw [Char.isDigit, Bool.and_eq_true, decide_eq_true_eq, decide_eq_true_eq, ge_iff_le,
      UInt32.le_iff_toNat_le, UInt32.le_iff_toNat_le] at hdigit
    have hlow : 48 ≤ c.toNat := hdigit.1
    have hhigh : c.toNat ≤ 57 := hdigit.2
    rw [isNumeral_iff]
    omega
  cases value with
  | ofNat n =>
      have htext : (toString (Int.ofNat n)).toList = Nat.toDigits 10 n := Nat.toList_repr
      rw [htext]
      exact hdigits n
  | negSucc n =>
      have htext : (toString (Int.negSucc n)).toList = '-' :: Nat.toDigits 10 (n + 1) := by
        have happend : toString (Int.negSucc n) = "-" ++ Nat.repr (n + 1) := rfl
        rw [happend, String.toList_append, Nat.toList_repr]
        rfl
      rw [htext, List.all_cons, hdigits]
      rfl

/-- No blank, no quote, no `&` and no line break is in an integer. -/
theorem isNumeral_excludes {c : Char} (h : isNumeral c = true) :
    isSpace c = false ∧ c ≠ '\n' ∧ c ≠ '"' ∧ c ≠ '&' := by
  have hrange := isNumeral_iff.mp h
  have hne : forall other : Char, other.toNat < 45 -> c ≠ other := by
    intro other hother heq
    rw [heq] at hrange
    omega
  have hspace : isSpace c = false := by
    simp only [isSpace, Bool.or_eq_false_iff, Bool.and_eq_false_iff, decide_eq_false_iff_not,
      beq_eq_false_iff_ne]
    omega
  exact ⟨hspace, hne _ (by decide), hne _ (by decide), hne _ (by decide)⟩

theorem isContent_cons {c : Char} {content : List Char} (h : isContent (c :: content) = true) :
    c ≠ '"' ∧ c ≠ '\n' := by
  unfold isContent at h
  split at h
  · next heq => cases heq
  · next heq =>
      rw [(List.cons.inj heq).1]
      decide
  · next heq =>
      rw [(List.cons.inj heq).1]
      simp only [Bool.and_eq_true, bne_iff_ne] at h
      exact ⟨h.1.1.2, h.1.2⟩

theorem newline_not_mem_content {content : List Char} (h : isContent content = true) :
    '\n' ∉ content := by
  induction content using isContent.induct with
  | case1 => exact List.not_mem_nil
  | case2 c rest ih =>
      rw [isContent, Bool.and_eq_true, bne_iff_ne] at h
      intro hmem
      rcases List.mem_cons.mp hmem with hslash | hmem
      · exact absurd hslash (by decide)
      · rcases List.mem_cons.mp hmem with hc | hmem
        · exact h.1 hc.symm
        · exact ih h.2 hmem
  | case3 c rest hslash ih =>
      rw [isContent.eq_3 _ _ hslash] at h
      simp only [Bool.and_eq_true, bne_iff_ne] at h
      intro hmem
      rcases List.mem_cons.mp hmem with hc | hmem
      · exact h.1.2 hc.symm
      · exact ih h.2 hmem

namespace EqualityLiteral

variable (literal : EqualityLiteral)

/-- A literal begins with no blank, and is on one line. -/
theorem text_spec :
    (exists c rest, literal.text = c :: rest ∧ isSpace c = false) ∧
      literal.text.all (fun c => c ≠ '\n') = true := by
  cases literal with
  | int text value hvalue =>
      rcases isNumeral_of_intValue hvalue with ⟨hne, hall⟩
      rw [List.all_eq_true] at hall
      constructor
      · cases text with
        | nil => exact absurd rfl hne
        | cons c rest =>
            exact ⟨c, rest, rfl, (isNumeral_excludes (hall c List.mem_cons_self)).1⟩
      · rw [List.all_eq_true]
        intro c hc
        rw [decide_eq_true_eq]
        exact (isNumeral_excludes (hall c hc)).2.1
  | string content hcontent =>
      constructor
      · exact ⟨'"', content ++ ['"'], rfl, by decide⟩
      · rw [List.all_eq_true]
        intro c hc
        rw [decide_eq_true_eq]
        intro hnewline
        rw [hnewline] at hc
        have hmem : '\n' ∈ content := by simpa [text] using hc
        exact newline_not_mem_content hcontent hmem

end EqualityLiteral

/-!
## Reading the first comparison
-/

theorem isBlank_iff {c : Char} : isBlank c = true <->
    c = ' ' ∨ c = '\t' ∨ c = '\n' ∨ c = '\r' ∨ c = '\x0c' := by
  simp [isBlank, or_assoc]

theorem isSpace_of_isBlank {c : Char} (h : isBlank c = true) : isSpace c = true := by
  rcases isBlank_iff.mp h with h | h | h | h | h <;> rw [h] <;> decide

theorem not_isPathChar_of_isBlank {c : Char} (h : isBlank c = true) : isPathChar c = false := by
  rcases isBlank_iff.mp h with h | h | h | h | h <;> rw [h] <;> decide

theorem blanks_all_isSpace (blanks : Blanks) : blanks.val.all isSpace = true := by
  rw [List.all_eq_true]
  intro c hc
  exact isSpace_of_isBlank (List.all_eq_true.mp blanks.property c hc)

theorem stopsAt_blanks (blanks : Blanks) {rest : List Char} (hrest : StopsAt isPathChar rest) :
    StopsAt isPathChar (blanks.val ++ rest) := by
  rcases blanks with ⟨blanks, hblanks⟩
  cases blanks with
  | nil => exact hrest
  | cons c blanks =>
      rw [List.cons_append, stopsAt_cons]
      exact not_isPathChar_of_isBlank (List.all_eq_true.mp hblanks c List.mem_cons_self)

theorem op_text_spec (op : EqualityOp) (rest : List Char) :
    StopsAt isPathChar (op.text ++ rest) ∧ StopsAt isSpace (op.text ++ rest) ∧
      readEqualityOp (op.text ++ rest) = some (op, rest) := by
  cases op <;>
    exact ⟨stopsAt_cons.mpr (by decide), stopsAt_cons.mpr (by decide), rfl⟩

theorem readLine_literal (blanks : Blanks) (literal : EqualityLiteral) (rest : List Char) :
    readLine (blanks.val ++ (literal.text ++ rest)) =
      some (literal.text ++ rest.takeWhile fun c => c ≠ '\n') := by
  rcases literal.text_spec with ⟨⟨c, more, htext, hc⟩, hline⟩
  have hstop : StopsAt isSpace (literal.text ++ rest) := by
    rw [htext, List.cons_append, stopsAt_cons]
    exact hc
  rw [readLine, dropWhile_append_stop (blanks_all_isSpace blanks) hstop,
    ← List.takeWhile_append_of_pos (List.all_eq_true.mp hline), htext]
  rfl

/-- The left side and the operator are those of the comparison; the right side is what is left of
the line. -/
theorem readEquality_text (equality : Equality) (rest : List Char) :
    readEquality (equality.text ++ rest) =
      some (equality.path, equality.op,
        equality.literal.text ++ rest.takeWhile fun c => c ≠ '\n') := by
  rcases op_text_spec equality.op
    (equality.afterOp.val ++ (equality.literal.text ++ rest)) with ⟨hpath, hspace, hop⟩
  have htext : equality.text ++ rest = equality.path ++ (equality.beforeOp.val ++
      (equality.op.text ++ (equality.afterOp.val ++ (equality.literal.text ++ rest)))) := by
    simp only [Equality.text, List.append_assoc]
  have hstop := stopsAt_blanks equality.beforeOp hpath
  rw [readEquality, htext, takeWhile_append_stop equality.path_chars hstop,
    dropWhile_append_stop equality.path_chars hstop,
    dropWhile_append_stop (blanks_all_isSpace equality.beforeOp) hspace, hop]
  split
  · next hnil => exact absurd hnil equality.path_ne
  · simp only [readLine_literal, Option.map_some]

theorem readEquality_blank {c : Char} (hc : isBlank c = true) (rest : List Char) :
    readEquality (c :: rest) = none := by
  have hpath : ¬ isPathChar c = true := by
    rw [not_isPathChar_of_isBlank hc]
    decide
  rw [readEquality, List.takeWhile_cons_of_neg hpath]

/-!
## The right side
-/

namespace EqualityLiteral

/-- The literal without its quotes, and without those that its content begins or ends with. -/
def bare : EqualityLiteral -> List Char
  | int text _ _ => text
  | string content _ => strip (fun c => c == '"') content

/-- Followed by blanks alone, the literal is the right side. -/
theorem rightOf_blanks (literal : EqualityLiteral) {tail : List Char}
    (htail : tail.all isSpace = true) : rightOf (literal.text ++ tail) = literal.bare := by
  cases literal with
  | int text value hvalue =>
      rcases isNumeral_of_intValue hvalue with ⟨hne, hall⟩
      rw [List.all_eq_true] at hall
      have hstrip : strip isSpace (text ++ tail) = text := by
        apply strip_append_of_all hne _ _ htail
        · intro c hc
          exact (isNumeral_excludes (hall c (List.mem_of_head? hc))).1
        · intro c hc
          exact (isNumeral_excludes (hall c (List.mem_of_getLast? hc))).1
      have hquote : text.head? ≠ some '"' := by
        intro hc
        exact (isNumeral_excludes (hall _ (List.mem_of_head? hc))).2.2.1 rfl
      simp only [rightOf, EqualityLiteral.text, hstrip, hquote, false_and, if_false, bare]
  | string content hcontent =>
      have hlast : ('"' :: (content ++ ['"'])).getLast? = some '"' := by
        rw [← List.cons_append, List.getLast?_concat]
      have hstrip : strip isSpace ('"' :: (content ++ ['"']) ++ tail) =
          '"' :: (content ++ ['"']) := by
        apply strip_append_of_all (List.cons_ne_nil _ _) _ _ htail
        · intro c hc
          cases hc
          decide
        · intro c hc
          rw [hlast] at hc
          cases hc
          decide
      simp only [rightOf, EqualityLiteral.text, hstrip, hlast, List.head?_cons, and_self, if_true,
        bare]
      exact strip_cons_concat (by decide) (by decide) content

end EqualityLiteral

theorem ampersand_mem_rightOf {line : List Char} (h : '&' ∈ line) : '&' ∈ rightOf line := by
  have hright : '&' ∈ strip isSpace line := mem_strip h (by decide)
  unfold rightOf
  dsimp only
  split
  · exact mem_strip hright (by decide)
  · exact hright

theorem rightText_of_ampersand (reading : Reading) {right : List Char} (h : '&' ∈ right) :
    reading.rightText right = right := by
  rw [Reading.rightText, reading.number_ampersand right h, Option.getD_none]

/-- With an `&` after the string literal, the right side is longer than the content. -/
theorem length_lt_rightOf {content tail : List Char} (hcontent : isContent content = true)
    (htail : '&' ∈ tail) :
    content.length < (rightOf ('"' :: (content ++ '"' :: tail))).length := by
  rcases List.append_of_mem htail with ⟨before, after, htail⟩
  have hline : '"' :: (content ++ '"' :: tail) =
      '"' :: (content ++ '"' :: before) ++ '&' :: after := by
    rw [htail, List.cons_append, List.append_assoc, List.cons_append]
  rcases rdropWhile_append_cons (p := isSpace) ('"' :: (content ++ '"' :: before)) after
    (show isSpace '&' = false by decide) with ⟨more, hmore⟩
  have hright : strip isSpace ('"' :: (content ++ '"' :: tail)) =
      '"' :: (content ++ '"' :: before) ++ '&' :: more := by
    rw [strip, List.dropWhile_cons_of_neg (by decide), hline, hmore]
  unfold rightOf
  dsimp only
  rw [hright]
  split
  · cases content with
    | nil =>
        have hmem : '&' ∈ strip (fun c => c == '"') ('"' :: ([] ++ '"' :: before) ++ '&' :: more) :=
          mem_strip (List.mem_append_right _ List.mem_cons_self) (by decide)
        exact List.length_pos_of_mem hmem
    | cons c content =>
        have hc : ¬ (c == '"') = true := by
          rw [beq_iff_eq]
          exact (isContent_cons hcontent).1
        rcases rdropWhile_append_cons (p := fun c => c == '"') (c :: content ++ '"' :: before) more
          (show ('&' == '"') = false by decide) with ⟨last, hlast⟩
        have hdrop : ('"' :: (c :: content ++ '"' :: before) ++ '&' :: more).dropWhile
            (fun c => c == '"') = c :: content ++ '"' :: before ++ '&' :: more := by
          rw [List.cons_append, List.dropWhile_cons_of_pos (by decide)]
          exact List.dropWhile_cons_of_neg hc
        rw [strip, hdrop, hlast]
        simp only [List.length_append, List.length_cons]
        omega
  · simp only [List.length_append, List.length_cons]
    omega

/-- With an `&` after the literal, the right side is not the value of the literal. -/
theorem asString_ne_rightOf (reading : Reading) (literal : EqualityLiteral) {tail : List Char}
    (htail : '&' ∈ tail) : literal.asString reading ≠ rightOf (literal.text ++ tail) := by
  intro heq
  cases literal with
  | int text value hvalue =>
      have hmem : '&' ∈ rightOf (text ++ tail) :=
        ampersand_mem_rightOf (List.mem_append_right _ htail)
      rw [EqualityLiteral.asString, EqualityLiteral.text] at heq
      rw [← heq] at hmem
      exact (isNumeral_excludes (List.all_eq_true.mp isNumeral_toString _ hmem)).2.2.2 rfl
  | string content hcontent =>
      have hlength := length_lt_rightOf hcontent htail
      rw [EqualityLiteral.asString, EqualityLiteral.text, List.cons_append,
        List.append_assoc] at heq
      rw [List.singleton_append] at heq
      rw [← heq] at hlength
      exact absurd (reading.length_decode_le content) (Nat.not_le_of_lt hlength)

/-!
## What the fallback returns
-/

namespace Conjunction

variable {conjunction : Conjunction}

theorem coerce_of_leading (reading : Reading) (activation : List (List Char × CelValue))
    (h : conjunction.leading.val ≠ []) :
    coerceEqTypeError reading conjunction.text activation = false := by
  have hblanks := conjunction.leading.property
  unfold Conjunction.text
  revert h hblanks
  cases conjunction.leading.val with
  | nil =>
      intro h _
      exact absurd rfl h
  | cons c blanks =>
      intro _ hblanks
      have hc := List.all_eq_true.mp hblanks c List.mem_cons_self
      rw [coerceEqTypeError, List.cons_append, readEquality_blank hc]

/-- The left side of the first comparison is compared with what is left of its line. -/
theorem coerce_of_no_leading (reading : Reading) (activation : List (List Char × CelValue))
    (h : conjunction.leading.val = []) :
    coerceEqTypeError reading conjunction.text activation =
      conjunction.first.op.holds (reading.leftText activation conjunction.first.path)
        (reading.rightText (rightOf (conjunction.first.literal.text ++ conjunction.lineEnd))) := by
  rw [coerceEqTypeError, Conjunction.text, h, List.nil_append, readEquality_text]
  rfl

/-- What is left of the line is blank, or has the `&` of another comparison. -/
theorem lineEnd_cases (conjunction : Conjunction) :
    conjunction.lineEnd.all isSpace = true ∨ '&' ∈ conjunction.lineEnd := by
  have hblanks : forall blanks : Blanks,
      (blanks.val.takeWhile fun c => c ≠ '\n').all isSpace = true := by
    intro blanks
    rw [List.all_eq_true]
    intro c hc
    exact List.all_eq_true.mp (blanks_all_isSpace blanks) c ((List.takeWhile_sublist _).mem hc)
  unfold lineEnd rest
  cases conjunction.others with
  | nil => exact Or.inl (hblanks conjunction.trailing)
  | cons conjunct others =>
      have hrest : (conjunct :: others).flatMap Conjunct.text ++ conjunction.trailing.val =
          conjunct.beforeAnd.val ++ ('&' :: ('&' :: (conjunct.afterAnd.val ++
            conjunct.equality.text) ++ others.flatMap Conjunct.text ++
              conjunction.trailing.val)) := by
        simp only [List.flatMap_cons, Conjunct.text, List.append_assoc, List.cons_append]
      rw [hrest, List.takeWhile_append]
      split
      · rw [List.takeWhile_cons_of_pos (by decide)]
        exact Or.inr (List.mem_append_right _ List.mem_cons_self)
      · exact Or.inl (hblanks conjunct.beforeAnd)

/-!
## The condition
-/

variable (conjunction)

/-- The literal as the code reads it is its value as a string, or the value of the path is neither
of them. -/
def LiteralRead (reading : Reading) (activation : List (List Char × CelValue)) : Prop :=
  let left := reading.leftText activation conjunction.first.path
  let literal := conjunction.first.literal
  reading.rightText literal.bare = literal.asString reading ∨
    left ≠ reading.rightText literal.bare ∧ left ≠ literal.asString reading

/-- The comparisons after the first hold. -/
def othersHold (reading : Reading) (activation : List (List Char × CelValue)) : Bool :=
  conjunction.others.all fun conjunct => conjunct.equality.holds reading activation

/-- The value of the first path is the text of the rest of the line, without the blanks around it
and without the quotes that it is in. -/
def LeftIsLine (reading : Reading) (activation : List (List Char × CelValue)) : Prop :=
  reading.leftText activation conjunction.first.path =
    rightOf (conjunction.first.literal.text ++ conjunction.lineEnd)

/-- An expression that begins with a blank is not read, so some comparison has to fail.  If the
first comparison is all that is on its line, the literal has to be read and the other comparisons
must not matter.  Otherwise the rest of the line is taken for the literal. -/
def ReadsWhole (reading : Reading) (activation : List (List Char × CelValue)) : Prop :=
  let literal := conjunction.first.literal
  if conjunction.leading.val ≠ [] then ¬ conjunction.allHold reading activation
  else if conjunction.lineEnd.all isSpace then
    conjunction.LiteralRead reading activation ∧
        (conjunction.first.holds reading activation -> conjunction.othersHold reading activation) ∨
      ¬ conjunction.first.op.holds (reading.leftText activation conjunction.first.path)
          (reading.rightText literal.bare) ∧
        ¬ conjunction.othersHold reading activation
  else
    match conjunction.first.op with
    | .eq =>
        ¬ conjunction.LeftIsLine reading activation ∧ ¬ conjunction.allHold reading activation
    | .ne => ¬ (conjunction.LeftIsLine reading activation <-> conjunction.allHold reading activation)

variable {conjunction} {reading : Reading} {activation : List (List Char × CelValue)}

theorem allHold_eq : conjunction.allHold reading activation =
    (conjunction.first.holds reading activation && conjunction.othersHold reading activation) := by
  rw [allHold, equalities, List.all_cons, List.all_map]
  rfl

theorem holds_eq_iff (op : EqualityOp) (left a b : List Char) :
    op.holds left a = op.holds left b <-> (left = a <-> left = b) := by
  cases op with
  | eq => rw [EqualityOp.holds, EqualityOp.holds, Bool.eq_iff_iff, beq_iff_eq, beq_iff_eq]
  | ne =>
      rw [EqualityOp.holds, EqualityOp.holds, Bool.eq_iff_iff, bne_iff_ne, bne_iff_ne]
      exact not_iff_not

theorem literalRead_iff : conjunction.LiteralRead reading activation <->
    conjunction.first.op.holds (reading.leftText activation conjunction.first.path)
        (reading.rightText conjunction.first.literal.bare) =
      conjunction.first.holds reading activation := by
  rw [LiteralRead, Equality.holds, holds_eq_iff]
  constructor
  · intro h
    rcases h with h | ⟨hread, hvalue⟩
    · rw [h]
    · exact iff_of_false hread hvalue
  · intro h
    rcases Classical.em (reading.leftText activation conjunction.first.path =
      reading.rightText conjunction.first.literal.bare) with hread | hread
    · exact Or.inl (hread.symm.trans (h.mp hread))
    · exact Or.inr ⟨hread, fun hvalue => hread (h.mpr hvalue)⟩

/-- Where the rest of the line is taken for the literal, the first comparison fails if the value
of its path is that text. -/
theorem not_holds_of_leftIsLine (hop : conjunction.first.op = .eq)
    (hline : '&' ∈ conjunction.lineEnd)
    (h : conjunction.LeftIsLine reading activation) :
    conjunction.first.holds reading activation = false := by
  rw [Equality.holds, hop, EqualityOp.holds, beq_eq_false_iff_ne, h]
  exact (asString_ne_rightOf reading conjunction.first.literal hline).symm

end Conjunction

/-- The fallback decides a conjunction as all of its comparisons do, of their sides as strings,
exactly where the first comparison is read whole and decides the others. -/
theorem coerceEqTypeError_eq_allHold_iff (reading : Reading) (conjunction : Conjunction)
    (activation : List (List Char × CelValue)) :
    coerceEqTypeError reading conjunction.text activation =
        conjunction.allHold reading activation <->
      conjunction.ReadsWhole reading activation := by
  unfold Conjunction.ReadsWhole
  dsimp only
  split
  · next hleading =>
      rw [Conjunction.coerce_of_leading reading activation hleading, eq_comm, Bool.not_eq_true]
  · next hleading =>
      rw [Conjunction.coerce_of_no_leading reading activation (not_not.mp hleading)]
      split
      · next hblank =>
          rw [EqualityLiteral.rightOf_blanks _ hblank, Conjunction.allHold_eq,
            Conjunction.literalRead_iff]
          grind
      · next hblank =>
          have hamp := (conjunction.lineEnd_cases).resolve_left hblank
          have hmem := ampersand_mem_rightOf
            (List.mem_append_right conjunction.first.literal.text hamp)
          rw [rightText_of_ampersand reading hmem]
          split
          · next hop =>
              have hfirst : conjunction.LeftIsLine reading activation ->
                  conjunction.first.holds reading activation = false :=
                Conjunction.not_holds_of_leftIsLine hop hamp
              rw [hop, EqualityOp.holds, Conjunction.allHold_eq]
              unfold Conjunction.LeftIsLine at hfirst ⊢
              grind
          · next hop =>
              rw [hop, EqualityOp.holds]
              unfold Conjunction.LeftIsLine
              grind

/-!
## A second comparison
-/

/-- Strict evaluation of a comparison; none where the sides are not of one type. -/
def Equality.strict (reading : Reading) (activation : List (List Char × CelValue))
    (equality : Equality) : Option Bool :=
  match getNested (some (.map activation)) (equality.path.splitOn '.'), equality.literal with
  | some (.string value), .string content _ => some (equality.op.holds value (reading.decode content))
  | some (.int value), .int _ n _ =>
      some (match equality.op with
        | .eq => value == n
        | .ne => value != n)
  | _, _ => none

/-- Strict evaluation of the conjunction fails for want of an overload. -/
def Conjunction.OverloadFails (reading : Reading) (activation : List (List Char × CelValue))
    (conjunction : Conjunction) : Prop :=
  (forall equality, equality ∈ conjunction.equalities ->
      equality.strict reading activation ≠ some false) ∧
    exists equality, equality ∈ conjunction.equalities ∧
      equality.strict reading activation = none

/-- Integers as Python reads them, and string contents without escapes. -/
def plainReading : Reading where
  number text := (intValue text).map fun n => (toString n).toList
  number_ampersand text h := by
    rcases hvalue : intValue text with _ | n
    · rfl
    · exact absurd rfl (isNumeral_excludes
        (List.all_eq_true.mp (isNumeral_of_intValue hvalue).2 _ h)).2.2.2
  decode content := content
  length_decode_le content := le_rfl
  mapText _ := "{}".toList

def noBlanks : Blanks := ⟨[], rfl⟩

def oneBlank : Blanks := ⟨[' '], rfl⟩

/-- `id == 5 && name == "x"` -/
def idAndName : Conjunction where
  leading := noBlanks
  first := ⟨"id".toList, by decide, by decide, oneBlank, .eq, oneBlank, .int ['5'] 5 (by decide)⟩
  others :=
    [⟨oneBlank, oneBlank, ⟨"name".toList, by decide, by decide, oneBlank, .eq, oneBlank,
      .string ['x'] (by decide)⟩⟩]
  trailing := noBlanks

/-- An alert whose `id` is the text `5`. -/
def idAndNameActivation : List (List Char × CelValue) :=
  [("id".toList, .string ['5']), ("name".toList, .string ['x'])]

/-- Both comparisons hold as strings, and the fallback returns False. -/
theorem idAndName_not_coerced :
    idAndName.OverloadFails plainReading idAndNameActivation ∧
      ¬ coerceEqTypeError plainReading idAndName.text idAndNameActivation =
        idAndName.allHold plainReading idAndNameActivation := by
  have hcoerced : coerceEqTypeError plainReading idAndName.text idAndNameActivation = false := by
    decide
  have hhold : idAndName.allHold plainReading idAndNameActivation = true := by
    decide
  constructor
  · constructor
    · decide
    · exact ⟨idAndName.first, List.mem_cons_self, by decide⟩
  · rw [hcoerced, hhold]
    exact Bool.false_ne_true

end Rules
end KeepGateway
