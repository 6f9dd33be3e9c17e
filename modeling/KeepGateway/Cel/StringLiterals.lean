import KeepGateway.Cel.CelAstConverter
import KeepGateway.Lib.Except

/-!
# String literals

Whether the literal of a string is read back as the string, as a constant and as the index of a
field.  Of the escapes only those of quotes are undone, and a literal in the form of a date is
read as one.
-/

namespace KeepGateway
namespace Cel

/-!
## Literals
-/

inductive QuoteStyle where
  | double
  | single
  deriving DecidableEq, Repr

namespace QuoteStyle

def quote : QuoteStyle -> Char
  | double => '"'
  | single => '\''

def other : QuoteStyle -> Char
  | double => '\''
  | single => '"'

end QuoteStyle

/-- A backslash before every backslash and every quote of the style. -/
def escaped (style : QuoteStyle) : List Char -> List Char
  | [] => []
  | c :: cs =>
      if c = '\\' ∨ c = style.quote then '\\' :: c :: escaped style cs
      else c :: escaped style cs

/-- The CEL literal of a string. -/
def celLiteral (style : QuoteStyle) (s : String) : String :=
  String.ofList (style.quote :: (escaped style s.toList ++ [style.quote]))

/-- The literal denotes the string, as a constant and as the index of any field. -/
structure DenotesItself (rt : Runtime) (style : QuoteStyle) (s : String) : Prop where
  value : isDate rt s = false -> toConstantNode rt (celLiteral style s) = .ok (.str s)
  index : forall (t : Tree .member) (before : State) (path : List String)
      (dataType : Option DataType) (stack : List Node) (access : List (List String)),
    visit rt t before = .ok (.propertyAccess (.simple path dataType) :: stack, access) ->
      visit rt (.memberIndex t (.ofLiteral (celLiteral style s))) before =
        .ok (simpleNode (path ++ [s]) :: stack, (path ++ [s]) :: access)

/-- Every backslash stands right before this character. -/
def EachBackslashBefore (c : Char) : List Char -> Prop
  | [] => True
  | d :: cs => (d = '\\' -> cs.head? = some c) ∧ EachBackslashBefore c cs

/-- The backslashes stand before quotes of the other style, and a date is one that `dateutil`
prints as it is. -/
structure ReadsBack (rt : Runtime) (style : QuoteStyle) (s : String) : Prop where
  backslashes : EachBackslashBefore style.other s.toList
  date : isNumber rt s = false -> isDate rt s = true ->
    exists d, rt.parse s = some d ∧ d.str = s

/-- The characters that a literal escapes. -/
def escapable : List Char := ['\\', '"', '\'']

/-- Neither a backslash nor a quote is a digit or a space. -/
structure Runtime.Unicode (rt : Runtime) : Prop where
  decimal : forall c, c ∈ escapable -> rt.decimal c = none
  isSpace : forall c, c ∈ escapable -> rt.isSpace c = false

/-!
## Escapes
-/

section Escapes

variable {style : QuoteStyle}

theorem unescapeQuotes_cons {c : Char} (h : c ≠ '\\') (cs : List Char) :
    unescapeQuotes (c :: cs) = c :: unescapeQuotes cs := by
  rw [unescapeQuotes]
  intro _ _ hc _
  exact h hc

theorem unescapeQuotes_escape {c : Char} (h : c = '"' ∨ c = '\'') (cs : List Char) :
    unescapeQuotes ('\\' :: c :: cs) = c :: unescapeQuotes cs := by
  rw [unescapeQuotes, if_pos h]

theorem unescapeQuotes_backslash {cs : List Char}
    (h : forall c, cs.head? = some c -> ¬ (c = '"' ∨ c = '\'')) :
    unescapeQuotes ('\\' :: cs) = '\\' :: unescapeQuotes cs := by
  cases cs with
  | nil => rfl
  | cons c cs => rw [unescapeQuotes, if_neg (h c rfl)]

theorem isQuote_iff (style : QuoteStyle) {c : Char} :
    (c = '"' ∨ c = '\'') <-> (c = style.quote ∨ c = style.other) := by
  cases style with
  | double => rfl
  | single => exact or_comm

/-- Only a quote of the other style stands at the head of escaped text as it is. -/
theorem head_escaped {cs : List Char} {c : Char} (h : (escaped style cs).head? = some c)
    (hquote : c = '"' ∨ c = '\'') : cs.head? = some style.other := by
  cases cs with
  | nil => cases h
  | cons d cs =>
      unfold escaped at h
      split at h
      · cases h
        exact absurd hquote (by decide)
      · rename_i hplain
        cases h
        rcases (isQuote_iff style).mp hquote with heq | heq
        · exact absurd (.inr heq) hplain
        · rw [heq]
          rfl

/-- Undoing the escapes takes no character away. -/
theorem length_unescape_escaped (cs : List Char) :
    cs.length ≤ (unescapeQuotes (escaped style cs)).length ∧
      cs.length ≤ (unescapeQuotes ('\\' :: escaped style cs)).length := by
  induction cs with
  | nil => exact ⟨Nat.le_refl 0, Nat.zero_le _⟩
  | cons c cs ih =>
      unfold escaped
      split
      · rename_i hescaped
        rcases hescaped with heq | heq
        · have hplain : forall d, ('\\' :: escaped style cs).head? = some d ->
              ¬ (d = '"' ∨ d = '\'') := by
            intro d hd
            cases hd
            decide
          have htwice : forall d, ('\\' :: '\\' :: escaped style cs).head? = some d ->
              ¬ (d = '"' ∨ d = '\'') := by
            intro d hd
            cases hd
            decide
          rw [heq, unescapeQuotes_backslash htwice, unescapeQuotes_backslash hplain]
          simp only [List.length_cons]
          omega
        · have hbefore : forall d, ('\\' :: c :: escaped style cs).head? = some d ->
              ¬ (d = '"' ∨ d = '\'') := by
            intro d hd
            cases hd
            decide
          rw [unescapeQuotes_backslash hbefore,
            unescapeQuotes_escape ((isQuote_iff style).mpr (.inl heq))]
          simp only [List.length_cons]
          omega
      · rename_i hplain
        have hne : c ≠ '\\' := fun heq => hplain (.inl heq)
        rw [unescapeQuotes_cons hne]
        rcases Classical.em (c = '"' ∨ c = '\'') with hquote | hother
        · rw [unescapeQuotes_escape hquote]
          simp only [List.length_cons]
          omega
        · have hhead : forall d, (c :: escaped style cs).head? = some d ->
              ¬ (d = '"' ∨ d = '\'') := by
            intro d hd
            cases hd
            exact hother
          rw [unescapeQuotes_backslash hhead, unescapeQuotes_cons hne]
          simp only [List.length_cons]
          omega

theorem unescape_backslash_escaped {cs : List Char} (h : cs.head? = some style.other) :
    unescapeQuotes ('\\' :: escaped style cs) = unescapeQuotes (escaped style cs) := by
  cases cs with
  | nil => cases h
  | cons c cs =>
      have hc : c = style.other := Option.some.inj h
      have hquote : c = '"' ∨ c = '\'' := (isQuote_iff style).mpr (.inr hc)
      have hplain : ¬ (c = '\\' ∨ c = style.quote) := by
        rw [hc]
        cases style with
        | double => decide
        | single => decide
      rw [escaped, if_neg hplain, unescapeQuotes_escape hquote,
        unescapeQuotes_cons fun heq => hplain (.inl heq)]

/-- The escapes are undone exactly where each backslash stands before a quote of the other
style. -/
theorem unescape_escaped_iff {cs : List Char} :
    unescapeQuotes (escaped style cs) = cs <-> EachBackslashBefore style.other cs := by
  induction cs with
  | nil => exact iff_of_true rfl trivial
  | cons c cs ih =>
      rcases Classical.em (c = '\\') with heq | hne
      · have hescaped : escaped style (c :: cs) = '\\' :: '\\' :: escaped style cs := by
          rw [escaped, if_pos (.inl heq), heq]
        have hbackslash : forall d, ('\\' :: escaped style cs).head? = some d ->
            ¬ (d = '"' ∨ d = '\'') := by
          intro d hd
          cases hd
          decide
        rw [hescaped, unescapeQuotes_backslash hbackslash, heq]
        rcases Classical.em (cs.head? = some style.other) with hother | hother
        · rw [unescape_backslash_escaped hother, List.cons.injEq, ih]
          exact ⟨fun h => ⟨fun _ => hother, h.2⟩, fun h => ⟨rfl, h.2⟩⟩
        · -- two backslashes are left of one
          have hhead : forall d, (escaped style cs).head? = some d ->
              ¬ (d = '"' ∨ d = '\'') :=
            fun d hd hquote => hother (head_escaped hd hquote)
          rw [unescapeQuotes_backslash hhead]
          refine iff_of_false ?_ fun h => hother (h.1 rfl)
          intro h
          have hlength := congrArg List.length h
          have hshort := (@length_unescape_escaped style cs).1
          simp only [List.length_cons] at hlength
          omega
      · have hkeep : EachBackslashBefore style.other (c :: cs) <->
            EachBackslashBefore style.other cs :=
          ⟨fun h => h.2, fun h => ⟨fun heq => absurd heq hne, h⟩⟩
        rw [hkeep, ← ih, escaped]
        split
        · rename_i hescaped
          have hquote : c = style.quote := hescaped.resolve_left hne
          rw [unescapeQuotes_escape ((isQuote_iff style).mpr (.inl hquote)), List.cons.injEq]
          exact and_iff_right rfl
        · rw [unescapeQuotes_cons hne, List.cons.injEq]
          exact and_iff_right rfl

end Escapes

/-!
## Dates
-/

section Dates

variable {rt : Runtime} {x : Char}

theorem mem_dropWhile {p : Char -> Bool} {cs : List Char} (hx : p x = false) (h : x ∈ cs) :
    x ∈ cs.dropWhile p := by
  rw [← @List.takeWhile_append_dropWhile _ p cs] at h
  rcases List.mem_append.mp h with htaken | hrest
  · rw [List.all_eq_true.mp List.all_takeWhile x htaken] at hx
    cases hx
  · exact hrest

theorem takeDigits_mem (hx : isDecimal rt x = false) {n : Nat} {cs rest : List Char}
    (htake : takeDigits rt n cs = some rest) (h : x ∈ cs) : x ∈ rest := by
  induction n generalizing cs with
  | zero =>
      cases htake
      exact h
  | succ n ih =>
      cases cs with
      | nil => cases htake
      | cons c cs =>
          unfold takeDigits at htake
          split at htake
          · rename_i hdigit
            rcases List.mem_cons.mp h with heq | hmem
            · rw [← heq, hx] at hdigit
              cases hdigit
            · exact ih htake hmem
          · cases htake

theorem takeChar_mem {expected : Char} (hx : x ≠ expected) {cs rest : List Char}
    (htake : takeChar expected cs = some rest) (h : x ∈ cs) : x ∈ rest := by
  cases cs with
  | nil => cases htake
  | cons c cs =>
      rw [takeChar] at htake
      split at htake
      · rename_i heq
        cases htake
        rcases List.mem_cons.mp h with hc | hmem
        · exact absurd (hc.trans heq) hx
        · exact hmem
      · cases htake

/-- Two digits, a separator, two digits, a separator and two digits. -/
theorem takeThree_mem (hx : isDecimal rt x = false) {n : Nat} {separator : Char}
    (hseparator : x ≠ separator) {cs rest : List Char}
    (htake : (do
      let cs <- takeDigits rt n cs
      let cs <- takeChar separator cs
      let cs <- takeDigits rt 2 cs
      let cs <- takeChar separator cs
      takeDigits rt 2 cs) = some rest) (h : x ∈ cs) : x ∈ rest := by
  rcases Option.bind_eq_some_iff.mp htake with ⟨a, ha, htake⟩
  rcases Option.bind_eq_some_iff.mp htake with ⟨b, hb, htake⟩
  rcases Option.bind_eq_some_iff.mp htake with ⟨c, hc, htake⟩
  rcases Option.bind_eq_some_iff.mp htake with ⟨d, hd, htake⟩
  have hmem := takeChar_mem hseparator hb (takeDigits_mem hx ha h)
  exact takeDigits_mem hx htake (takeChar_mem hseparator hd (takeDigits_mem hx hc hmem))

theorem takeFraction_mem (hx : isDecimal rt x = false) (hdot : x ≠ '.') {cs : List Char}
    (h : x ∈ cs) : x ∈ takeFraction rt cs := by
  unfold takeFraction
  split
  · rename_i c rest
    split
    · rename_i hdigit
      rcases List.mem_cons.mp h with heq | hmem
      · exact absurd heq hdot
      · rcases List.mem_cons.mp hmem with heq | hmem
        · rw [← heq, hx] at hdigit
          cases hdigit
        · exact mem_dropWhile hx hmem
    · exact h
  · exact h

theorem takeZone_mem (hx : isDecimal rt x = false) (hz : x ∉ ['Z', '+', '-', ':'])
    {cs : List Char} (h : x ∈ cs) : x ∈ takeZone rt cs := by
  simp only [List.mem_cons, List.not_mem_nil, or_false, not_or] at hz
  cases cs with
  | nil => exact h
  | cons c cs =>
      rw [takeZone]
      split
      · rename_i heq
        rcases List.mem_cons.mp h with hc | hmem
        · exact absurd (hc.trans heq) hz.1
        · exact hmem
      · split
        · rename_i hsign
          have hmem : x ∈ cs := by
            rcases List.mem_cons.mp h with hc | hmem
            · rcases hsign with heq | heq
              · exact absurd (hc.trans heq) hz.2.1
              · exact absurd (hc.trans heq) hz.2.2.1
            · exact hmem
          cases hzone : (do
              let rest <- takeDigits rt 2 cs
              let rest <- takeChar ':' rest
              takeDigits rt 2 rest) with
          | none => exact h
          | some rest =>
              rcases Option.bind_eq_some_iff.mp hzone with ⟨a, ha, hzone⟩
              rcases Option.bind_eq_some_iff.mp hzone with ⟨b, hb, hzone⟩
              have hafter := takeChar_mem hz.2.2.2 hb (takeDigits_mem hx ha hmem)
              exact takeDigits_mem hx hzone hafter
        · exact h

theorem takeSpacedTime_mem (hx : isDecimal rt x = false) (hspace : rt.isSpace x = false)
    (hcolon : x ≠ ':') {cs : List Char} (h : x ∈ cs) : x ∈ takeSpacedTime rt cs := by
  cases cs with
  | nil => exact h
  | cons c cs =>
      rw [takeSpacedTime]
      split
      · rename_i hc
        rcases List.mem_cons.mp h with heq | hmem
        · rw [← heq, hspace] at hc
          cases hc
        · cases htime : takeTime rt cs with
          | none => exact h
          | some rest => exact takeThree_mem hx hcolon htime hmem
      · exact h

theorem not_atEnd (hnewline : x ≠ '\n') {cs : List Char} (h : x ∈ cs) : atEnd cs = false := by
  cases hend : atEnd cs with
  | false => rfl
  | true =>
      rcases Bool.or_eq_true_iff.mp hend with heq | heq
      · rw [beq_iff_eq.mp heq] at h
        cases h
      · rw [beq_iff_eq.mp heq] at h
        exact absurd (List.mem_singleton.mp h) hnewline

/-- A date has no backslash and no quote. -/
theorem isDate_of_mem (hrt : rt.Unicode) (hx : x ∈ escapable) {s : String} (h : x ∈ s.toList) :
    isDate rt s = false := by
  have hdigit : isDecimal rt x = false := by
    unfold isDecimal
    rw [hrt.decimal x hx]
    rfl
  have hother : x ∉ ['-', 'T', ':', '.', 'Z', '+', '\n'] := by
    simp only [escapable, List.mem_cons, List.not_mem_nil, or_false] at hx
    rcases hx with heq | heq | heq
    · rw [heq]
      decide
    · rw [heq]
      decide
    · rw [heq]
      decide
  simp only [List.mem_cons, List.not_mem_nil, or_false, not_or] at hother
  rcases hother with ⟨hdash, ht, hcolon, hdot, hz, hplus, hnewline⟩
  have hzone : x ∉ ['Z', '+', '-', ':'] := by
    simp only [List.mem_cons, List.not_mem_nil, or_false, not_or]
    exact ⟨hz, hplus, hdash, hcolon⟩
  refine Bool.or_eq_false_iff.mpr ⟨?_, ?_⟩
  · unfold isoRegex
    cases htake : (takeDate rt s.toList).bind (takeChar 'T') |>.bind (takeTime rt) with
    | none => rfl
    | some rest =>
        rcases Option.bind_eq_some_iff.mp htake with ⟨b, hb, htime⟩
        rcases Option.bind_eq_some_iff.mp hb with ⟨a, ha, hseparator⟩
        have hafter := takeChar_mem ht hseparator (takeThree_mem hdigit hdash ha h)
        have hrest := takeThree_mem hdigit hcolon htime hafter
        exact not_atEnd hnewline (takeZone_mem hdigit hzone (takeFraction_mem hdigit hdot hrest))
  · unfold datetimeRegex
    cases htake : takeDate rt s.toList with
    | none => rfl
    | some rest =>
        have hrest := takeThree_mem hdigit hdash htake h
        exact not_atEnd hnewline (takeSpacedTime_mem hdigit (hrt.isSpace x hx) hcolon hrest)

end Dates

/-!
## Constants
-/

section Constants

variable {rt : Runtime} {style : QuoteStyle} {s : String}

theorem trimEnds_between (c : Char) (cs : List Char) : trimEnds (c :: (cs ++ [c])) = cs :=
  List.dropLast_concat

theorem isQuotedBy_quoted (c : Char) (cs : List Char) : isQuotedBy c (c :: (cs ++ [c])) = true := by
  unfold isQuotedBy
  have hlast : (c :: (cs ++ [c])).getLast? = some c := by
    rw [← List.cons_append, List.getLast?_concat]
  rw [hlast, List.head?_cons]
  simp

/-- The text between the quotes. -/
def bodyOf (style : QuoteStyle) (s : String) : String := String.ofList (escaped style s.toList)

/-- What is read as a date. -/
def isRead (rt : Runtime) (s : String) : Bool := !isNumber rt s && isDate rt s

theorem toConstantNode_celLiteral :
    toConstantNode rt (celLiteral style s) =
      if isRead rt (bodyOf style s) = true then
        match rt.parse (bodyOf style s) with
        | some d => .ok (.datetime d)
        | none => .error (.valueError "ParserError")
      else .ok (.str (String.ofList (unescapeQuotes (escaped style s.toList)))) := by
  have hlist : (celLiteral style s).toList =
      style.quote :: (escaped style s.toList ++ [style.quote]) := String.toList_ofList
  have hne : forall text : String, text.toList.head? ≠ some style.quote ->
      celLiteral style s ≠ text := by
    intro text htext heq
    rw [heq] at hlist
    rw [hlist] at htext
    exact htext rfl
  have hnull : ¬ (celLiteral style s = "null" ∨ celLiteral style s = "NULL") := by
    intro h
    rcases h with heq | heq
    · refine hne "null" ?_ heq
      cases style with
      | double => decide
      | single => decide
    · refine hne "NULL" ?_ heq
      cases style with
      | double => decide
      | single => decide
  have hquoted : (isQuotedBy '"' (celLiteral style s).toList ||
      isQuotedBy '\'' (celLiteral style s).toList) = true := by
    rw [hlist, Bool.or_eq_true_iff]
    cases style with
    | double => exact .inl (isQuotedBy_quoted _ _)
    | single => exact .inr (isQuotedBy_quoted _ _)
  unfold toConstantNode
  rw [if_neg hnull, if_pos hquoted, hlist, trimEnds_between]
  simp only [String.toList_ofList]
  rfl

theorem escaped_of_plain {cs : List Char} (h : forall c, c ∈ cs -> c ∉ escapable) :
    escaped style cs = cs ∧ EachBackslashBefore style.other cs := by
  induction cs with
  | nil => exact ⟨rfl, trivial⟩
  | cons c cs ih =>
      rcases List.forall_mem_cons.mp h with ⟨hc, hcs⟩
      rcases ih hcs with ⟨hescaped, hbefore⟩
      simp only [escapable, List.mem_cons, List.not_mem_nil, or_false, not_or] at hc
      have hplain : ¬ (c = '\\' ∨ c = style.quote) := by
        intro hor
        rcases hor with heq | heq
        · exact hc.1 heq
        · cases style with
          | double => exact hc.2.1 heq
          | single => exact hc.2.2 heq
      rw [escaped, if_neg hplain, hescaped]
      exact ⟨rfl, fun heq => absurd heq hc.1, hbefore⟩

theorem mem_escaped {c : Char} {cs : List Char} (h : c ∈ cs) : c ∈ escaped style cs := by
  induction cs with
  | nil => cases h
  | cons d cs ih =>
      rw [escaped]
      rcases List.mem_cons.mp h with heq | hmem
      · split
        · exact List.mem_cons_of_mem _ (heq ▸ List.mem_cons_self)
        · exact heq ▸ List.mem_cons_self
      · split
        · exact List.mem_cons_of_mem _ (List.mem_cons_of_mem _ (ih hmem))
        · exact List.mem_cons_of_mem _ (ih hmem)

/-- A string that is read as a date is its own body; no other body is read as one. -/
theorem isRead_bodyOf (hrt : rt.Unicode) :
    isRead rt (bodyOf style s) = isRead rt s ∧
      (isRead rt s = true ->
        bodyOf style s = s ∧ EachBackslashBefore style.other s.toList) := by
  rcases Classical.em (forall c, c ∈ s.toList -> c ∉ escapable) with hplain | hspecial
  · rcases @escaped_of_plain style s.toList hplain with ⟨hescaped, hbefore⟩
    have hbody : bodyOf style s = s := by
      unfold bodyOf
      rw [hescaped, String.ofList_toList]
    rw [hbody]
    exact ⟨rfl, fun _ => ⟨rfl, hbefore⟩⟩
  · rw [not_forall] at hspecial
    rcases hspecial with ⟨c, hc⟩
    rw [Classical.not_imp, not_not] at hc
    have hbody : c ∈ (bodyOf style s).toList := by
      unfold bodyOf
      rw [String.toList_ofList]
      exact mem_escaped hc.1
    unfold isRead
    rw [isDate_of_mem hrt hc.2 hbody, isDate_of_mem hrt hc.2 hc.1, Bool.and_false, Bool.and_false]
    exact ⟨rfl, fun h => by cases h⟩

/-- The index of a field by a literal. -/
theorem visit_memberIndex {t : Tree .member} {before : State} {path : List String}
    {dataType : Option DataType} {stack : List Node} {access : List (List String)}
    (ht : visit rt t before = .ok (.propertyAccess (.simple path dataType) :: stack, access))
    (literal : String) :
    visit rt (.memberIndex t (.ofLiteral literal)) before =
      (toConstantNode rt literal).map fun value =>
        (simpleNode (path ++ [value.text]) :: stack, (path ++ [value.text]) :: access) := by
  show (visit rt t before >>= fun s => Cel.literal rt literal s >>= memberIndex rt) = _
  rw [ht]
  show (toConstantNode rt literal >>= fun value => _) >>= memberIndex rt = _
  cases toConstantNode rt literal with
  | error e => rfl
  | ok value => rfl

theorem visit_ident (name : String) (before : State) :
    visit rt (.memberPrimary (.ident name)) before =
      .ok (.propertyAccess (.simple [name] none) :: before.1, [[name]]) := rfl

/-- Every field is indexed by the text of the constant. -/
theorem index_iff {literal : String} :
    (forall (t : Tree .member) (before : State) (path : List String)
        (dataType : Option DataType) (stack : List Node) (access : List (List String)),
      visit rt t before = .ok (.propertyAccess (.simple path dataType) :: stack, access) ->
        visit rt (.memberIndex t (.ofLiteral literal)) before =
          .ok (simpleNode (path ++ [s]) :: stack, (path ++ [s]) :: access)) <->
      exists value, toConstantNode rt literal = .ok value ∧ value.text = s := by
  constructor
  · intro h
    have hindex := h _ _ _ _ _ _ (visit_ident "labels" ([], []))
    rw [visit_memberIndex (visit_ident "labels" ([], []))] at hindex
    rcases map_eq_ok.mp hindex with ⟨value, hvalue, hpaths⟩
    refine ⟨value, hvalue, ?_⟩
    have hpath := (List.cons.inj (Prod.mk.inj hpaths).2).1
    exact (List.cons.inj (List.cons.inj hpath).2).1
  · intro h t before path dataType stack access ht
    rcases h with ⟨value, hvalue, htext⟩
    rw [visit_memberIndex ht, hvalue, ← htext]
    rfl

/-- A literal denotes its string exactly where its escapes are undone, and a date is printed as
it is. -/
theorem denotesItself_iff (hrt : rt.Unicode) (style : QuoteStyle) (s : String) :
    DenotesItself rt style s <-> ReadsBack rt style s := by
  rcases @isRead_bodyOf rt style s hrt with ⟨hsame, hdate⟩
  have hconstant := @toConstantNode_celLiteral rt style s
  rw [hsame] at hconstant
  cases hread : isRead rt s with
  | true =>
      rcases hdate hread with ⟨hbody, hbefore⟩
      rcases Bool.and_eq_true_iff.mp hread with ⟨hnumber, hshape⟩
      rw [Bool.not_eq_true'] at hnumber
      rw [hread, if_pos rfl, hbody] at hconstant
      constructor
      · intro h
        refine ⟨hbefore, fun _ _ => ?_⟩
        rcases index_iff.mp h.index with ⟨value, hvalue, htext⟩
        rw [hconstant] at hvalue
        cases hparse : rt.parse s with
        | none =>
            rw [hparse] at hvalue
            cases hvalue
        | some d =>
            rw [hparse] at hvalue
            cases hvalue
            exact ⟨d, rfl, htext⟩
      · intro h
        rcases h.date hnumber hshape with ⟨d, hparse, hstr⟩
        rw [hparse] at hconstant
        constructor
        · intro hnot
          rw [hshape] at hnot
          cases hnot
        · exact index_iff.mpr ⟨.datetime d, hconstant, hstr⟩
  | false =>
      rw [hread, if_neg Bool.false_ne_true] at hconstant
      constructor
      · intro h
        constructor
        · rcases index_iff.mp h.index with ⟨value, hvalue, htext⟩
          rw [hconstant] at hvalue
          cases hvalue
          refine unescape_escaped_iff.mp ?_
          exact String.toList_ofList.symm.trans (congrArg String.toList htext)
        · intro hnumber hshape
          unfold isRead at hread
          rw [hnumber, hshape] at hread
          cases hread
      · intro h
        rw [unescape_escaped_iff.mpr h.backslashes, String.ofList_toList] at hconstant
        exact ⟨fun _ => hconstant, index_iff.mpr ⟨.str s, hconstant, rfl⟩⟩

theorem asciiRuntime_unicode : asciiRuntime.Unicode where
  decimal := by
    intro c hc
    have hrange : ¬ ('0' ≤ c ∧ c ≤ '9') := by
      simp only [escapable, List.mem_cons, List.not_mem_nil, or_false] at hc
      rcases hc with heq | heq | heq
      all_goals
        rw [heq]
        decide
    exact if_neg hrange
  isSpace := by
    intro c hc
    simp only [escapable, List.mem_cons, List.not_mem_nil, or_false] at hc
    rcases hc with heq | heq | heq
    all_goals
      rw [heq]
      rfl

theorem apostrophe_denotesItself : DenotesItself asciiRuntime .single "It's" :=
  (denotesItself_iff asciiRuntime_unicode .single "It's").mpr
    ⟨by simp [EachBackslashBefore], fun _ hdate => by cases hdate⟩

/-- A single backslash comes back as two. -/
theorem backslash_not_denotesItself :
    ¬ forall (rt : Runtime) (style : QuoteStyle) (s : String), rt.Unicode ->
      DenotesItself rt style s := by
  intro h
  have hvalue := (h asciiRuntime .double "\\" asciiRuntime_unicode).value rfl
  have hstr : Value.str "\\\\" = Value.str "\\" := Except.ok.inj hvalue
  exact absurd hstr (by decide)

end Constants

end Cel
end KeepGateway
