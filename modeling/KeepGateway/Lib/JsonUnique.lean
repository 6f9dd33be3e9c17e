import KeepGateway.Lib.JsonText
import KeepGateway.Lib.Spans
import Mathlib.Data.String.Basic
import Mathlib.Order.Basic

/-!
# One value for each JSON text

Two values whose numbers are written as Python writes them have the same text only if they are
the same value.
-/

namespace KeepGateway
namespace JsonText

open Spans

/-- The text is none of a literal: `NaN` and `Infinity` have a capital. -/
def Number.Readable (number : Number) : Prop :=
  exists c rest, number.text = c :: rest ∧ c ≠ 'n' ∧ c ≠ 't' ∧ c ≠ 'f'

mutual

def Value.Readable : Value -> Prop
  | .number value => value.Readable
  | .array items => ReadableItems items
  | .object members => ReadableMembers members
  | _ => True

def ReadableItems : List Value -> Prop
  | [] => True
  | item :: rest => item.Readable ∧ ReadableItems rest

def ReadableMembers : List (String × Value) -> Prop
  | [] => True
  | (_, value) :: rest => value.Readable ∧ ReadableMembers rest

end

/-!
## Strings
-/

/-- The value of a lower-case hexadecimal digit. -/
def hexValue (c : Char) : Nat := if c.isDigit then c.toNat - '0'.toNat else c.toNat - 'a'.toNat + 10

def readHex4 : List Char -> Option (Nat × List Char)
  | a :: b :: c :: d :: rest =>
      some (hexValue a * 4096 + hexValue b * 256 + hexValue c * 16 + hexValue d, rest)
  | _ => none

/-- A character written as its code, or as the codes of two surrogates. -/
def readUnicode (text : List Char) : Option (Char × List Char) :=
  (readHex4 text).bind fun high =>
    if 0xd800 ≤ high.1 ∧ high.1 < 0xdc00 then
      (readHex4 (high.2.drop 2)).map fun low =>
        (Char.ofNat (0x10000 + (high.1 - 0xd800) * 0x400 + (low.1 - 0xdc00)), low.2)
    else some (Char.ofNat high.1, high.2)

/-- What follows a backslash. -/
def readEscape : List Char -> Option (Char × List Char)
  | [] => none
  | c :: rest =>
      if c = 'b' then some ('\x08', rest)
      else if c = 'f' then some ('\x0c', rest)
      else if c = 'n' then some ('\n', rest)
      else if c = 'r' then some ('\r', rest)
      else if c = 't' then some ('\t', rest)
      else if c = 'u' then readUnicode rest
      else some (c, rest)

/-- The first character of what `escapeChar` writes, and what follows it. -/
def readChar : List Char -> Option (Char × List Char)
  | [] => none
  | c :: rest =>
      if c = '"' then none
      else if c = '\\' then readEscape rest
      else some (c, rest)

theorem hexValue_digitChar : forall d, d < 16 -> hexValue (Nat.digitChar d) = d := by decide

theorem readHex4_hex4 {n : Nat} (h : n < 0x10000) (rest : List Char) :
    readHex4 (hex4 n ++ rest) = some (n, rest) := by
  show some (_, rest) = _
  rw [hexValue_digitChar _ (by omega), hexValue_digitChar _ (by omega),
    hexValue_digitChar _ (by omega), hexValue_digitChar _ (by omega)]
  congr 2
  omega

theorem readUnicode_hex4 {n : Nat} (h : n < 0x10000) (hplain : ¬ (0xd800 ≤ n ∧ n < 0xdc00))
    (rest : List Char) : readUnicode (hex4 n ++ rest) = some (Char.ofNat n, rest) := by
  unfold readUnicode
  rw [readHex4_hex4 h, Option.bind_some, if_neg hplain]

theorem readUnicode_pair {high low : Nat} (hhigh : 0xd800 ≤ high ∧ high < 0xdc00)
    (hlow : low < 0x10000) (rest : List Char) :
    readUnicode (hex4 high ++ (['\\', 'u'] ++ (hex4 low ++ rest))) =
      some (Char.ofNat (0x10000 + (high - 0xd800) * 0x400 + (low - 0xdc00)), rest) := by
  unfold readUnicode
  rw [readHex4_hex4 (by omega), Option.bind_some, if_pos hhigh]
  show (readHex4 (hex4 low ++ rest)).map _ = _
  rw [readHex4_hex4 hlow]
  rfl

theorem readChar_escapeChar (c : Char) (rest : List Char) :
    readChar (escapeChar c ++ rest) = some (c, rest) := by
  have hvalid : c.toNat < 0xd800 ∨ 0xdfff < c.toNat ∧ c.toNat < 0x110000 := c.valid
  unfold escapeChar
  split
  · subst_vars; rfl
  split
  · subst_vars; rfl
  split
  · subst_vars; rfl
  split
  · subst_vars; rfl
  split
  · subst_vars; rfl
  split
  · subst_vars; rfl
  split
  · subst_vars; rfl
  split
  · rename_i hslash hquote _ _ _ _ _ _
    show (if c = '"' then none else if c = '\\' then readEscape rest else some (c, rest)) = _
    rw [if_neg hquote, if_neg hslash]
  split
  · rename_i hsmall
    show readUnicode (hex4 c.toNat ++ rest) = _
    rw [readUnicode_hex4 hsmall (by omega), Char.ofNat_toNat]
  · rename_i hlarge
    rw [List.append_assoc, List.append_assoc, List.append_assoc]
    show readUnicode (hex4 _ ++ (['\\', 'u'] ++ (hex4 _ ++ rest))) = _
    rw [readUnicode_pair (by omega) (by omega)]
    have hcode : 0x10000 + (0xd800 + (c.toNat - 0x10000) / 0x400 % 0x400 - 0xd800) * 0x400 +
        (0xdc00 + (c.toNat - 0x10000) % 0x400 - 0xdc00) = c.toNat := by omega
    rw [hcode, Char.ofNat_toNat]

theorem flatMap_escapeChar_inj {s t : List Char} {u v : List Char}
    (h : s.flatMap escapeChar ++ '"' :: u = t.flatMap escapeChar ++ '"' :: v) : s = t ∧ u = v := by
  induction s generalizing t with
  | nil =>
      cases t with
      | nil => exact ⟨rfl, (List.cons.inj h).2⟩
      | cons d t =>
          rw [List.flatMap_cons, List.append_assoc] at h
          have hread := congrArg readChar h
          rw [readChar_escapeChar] at hread
          cases hread
  | cons c s ih =>
      rw [List.flatMap_cons, List.append_assoc] at h
      have hread := congrArg readChar h
      rw [readChar_escapeChar] at hread
      cases t with
      | nil => cases hread
      | cons d t =>
          rw [List.flatMap_cons, List.append_assoc, readChar_escapeChar] at hread
          rcases Prod.mk.inj (Option.some.inj hread) with ⟨hchar, hrest⟩
          rcases ih hrest with ⟨htail, hafter⟩
          exact ⟨by rw [hchar, htail], hafter⟩

theorem encodeString_inj {s t : String} {u v : List Char}
    (h : encodeString s ++ u = encodeString t ++ v) : s = t ∧ u = v := by
  unfold encodeString at h
  rw [List.append_assoc, List.append_assoc, List.append_assoc, List.append_assoc] at h
  rcases flatMap_escapeChar_inj (List.cons.inj h).2 with ⟨htext, hafter⟩
  exact ⟨String.toList_inj.mp htext, hafter⟩

/-!
## Values
-/

/-- A number that comes before does not go on here. -/
def Stops (s : List Char) : Prop := forall c rest, s = c :: rest -> isNumberChar c = false

theorem stops_cons {c : Char} (h : isNumberChar c = false) (rest : List Char) :
    Stops (c :: rest) :=
  stopsAt_cons.mpr h

theorem number_inj {a b : Number} {s t : List Char} (hs : Stops s) (ht : Stops t)
    (h : a.text ++ s = b.text ++ t) : a = b ∧ s = t := by
  have htext : a.text = b.text := by
    rw [← takeWhile_append_stop a.wellFormed hs, ← takeWhile_append_stop b.wellFormed ht, h]
  rw [htext] at h
  rcases a with ⟨text, _⟩
  subst htext
  exact ⟨rfl, List.append_cancel_left h⟩

def Value.kind : Value -> Nat
  | .null => 0
  | .bool true => 1
  | .bool false => 2
  | .number _ => 3
  | .string _ => 4
  | .array _ => 5
  | .object _ => 6

/-- The kind of value that a text with this first character is of. -/
def kindOf (c : Char) : Option Nat :=
  if c = 'n' then some 0
  else if c = 't' then some 1
  else if c = 'f' then some 2
  else if c = '"' then some 4
  else if c = '[' then some 5
  else if c = '\x7b' then some 6
  else if isNumberChar c then some 3
  else none

theorem head_encode {v : Value} (h : v.Readable) :
    exists c rest, encode v = c :: rest ∧ kindOf c = some v.kind := by
  cases v with
  | null => exact ⟨_, _, rfl, rfl⟩
  | bool value => cases value <;> exact ⟨_, _, rfl, rfl⟩
  | number value =>
      rcases h with ⟨c, rest, htext, hn, ht, hf⟩
      have hnumber : isNumberChar c = true := by
        apply List.all_eq_true.mp value.wellFormed
        rw [htext]
        exact List.mem_cons_self
      have hother : forall d, isNumberChar d = false -> c ≠ d := by
        intro d hd heq
        rw [← heq, hnumber] at hd
        cases hd
      have hkind : kindOf c = some 3 := by
        unfold kindOf
        rw [if_neg hn, if_neg ht, if_neg hf, if_neg (hother _ rfl), if_neg (hother _ rfl),
          if_neg (hother _ rfl), if_pos hnumber]
      exact ⟨c, rest, htext, hkind⟩
  | string value => exact ⟨_, _, rfl, rfl⟩
  | array items => exact ⟨_, _, rfl, rfl⟩
  | object members => exact ⟨_, _, rfl, rfl⟩

theorem kind_eq {v w : Value} (hv : v.Readable) (hw : w.Readable) {s t : List Char}
    (h : encode v ++ s = encode w ++ t) : v.kind = w.kind := by
  rcases head_encode hv with ⟨c, rest, hencode, hc⟩
  rcases head_encode hw with ⟨d, more, hencode', hd⟩
  rw [hencode, hencode'] at h
  rw [(List.cons.inj h).1, hd] at hc
  exact (Option.some.inj hc).symm

/-- What `joined` writes of the parts that are not the first. -/
def followed : List (List Char) -> List Char
  | [] => []
  | part :: rest => [',', ' '] ++ part ++ followed rest

theorem joined_cons (part : List Char) (rest : List (List Char)) :
    joined (part :: rest) = part ++ followed rest := by
  induction rest generalizing part with
  | nil => rw [joined, followed, List.append_nil]
  | cons next rest ih =>
      rw [joined, ih next, followed, List.append_assoc, List.append_assoc]
      exact List.cons_ne_nil next rest

theorem stops_followed {close : Char} (hclose : isNumberChar close = false)
    (parts : List (List Char)) (s : List Char) : Stops (followed parts ++ close :: s) := by
  cases parts with
  | nil => exact stops_cons hclose s
  | cons part rest => exact stops_cons rfl _

/-- No value begins with what closes an array or an object. -/
theorem encode_ne_close {v : Value} (h : v.Readable) {close : Char} (hclose : kindOf close = none)
    (s t : List Char) : close :: s ≠ encode v ++ t := by
  rcases head_encode h with ⟨c, rest, hencode, hc⟩
  intro heq
  rw [hencode] at heq
  rw [(List.cons.inj heq).1, hc] at hclose
  cases hclose

mutual

theorem encode_inj : (v w : Value) -> v.Readable -> w.Readable -> {s t : List Char} ->
    Stops s -> Stops t -> encode v ++ s = encode w ++ t -> v = w ∧ s = t
  | .null, w, hv, hw, s, t, _, _, h => by
      have hkind := kind_eq hv hw h
      cases w with
      | null => exact ⟨rfl, List.append_cancel_left h⟩
      | bool value => cases value <;> cases hkind
      | _ => cases hkind
  | .bool a, w, hv, hw, s, t, _, _, h => by
      have hkind := kind_eq hv hw h
      cases w with
      | bool b =>
          have hab : a = b := by
            cases a <;> cases b <;> first | rfl | cases hkind
          subst hab
          exact ⟨rfl, List.append_cancel_left h⟩
      | _ => cases a <;> cases hkind
  | .number a, w, hv, hw, s, t, hs, ht, h => by
      have hkind := kind_eq hv hw h
      cases w with
      | number b =>
          rcases number_inj hs ht h with ⟨hab, hrest⟩
          exact ⟨congrArg Value.number hab, hrest⟩
      | bool value => cases value <;> cases hkind
      | _ => cases hkind
  | .string a, w, hv, hw, s, t, _, _, h => by
      have hkind := kind_eq hv hw h
      cases w with
      | string b =>
          rcases encodeString_inj h with ⟨hab, hrest⟩
          exact ⟨congrArg Value.string hab, hrest⟩
      | bool value => cases value <;> cases hkind
      | _ => cases hkind
  | .array items, w, hv, hw, s, t, _, _, h => by
      have hkind := kind_eq hv hw h
      cases w with
      | array others =>
          rw [encode, encode, List.append_assoc, List.append_assoc, List.append_assoc,
            List.append_assoc] at h
          rcases items_inj items others hv hw (List.cons.inj h).2 with ⟨hitems, hrest⟩
          exact ⟨congrArg Value.array hitems, hrest⟩
      | bool value => cases value <;> cases hkind
      | _ => cases hkind
  | .object members, w, hv, hw, s, t, _, _, h => by
      have hkind := kind_eq hv hw h
      cases w with
      | object others =>
          rw [encode, encode, List.append_assoc, List.append_assoc, List.append_assoc,
            List.append_assoc] at h
          rcases members_inj members others hv hw (List.cons.inj h).2 with ⟨hmembers, hrest⟩
          exact ⟨congrArg Value.object hmembers, hrest⟩
      | bool value => cases value <;> cases hkind
      | _ => cases hkind

theorem items_inj : (items others : List Value) -> ReadableItems items -> ReadableItems others ->
    {s t : List Char} ->
    joined (encodeItems items) ++ ']' :: s = joined (encodeItems others) ++ ']' :: t ->
    items = others ∧ s = t
  | [], [], _, _, s, t, h => ⟨rfl, (List.cons.inj h).2⟩
  | [], other :: others, _, hothers, s, t, h => by
      rw [encodeItems, encodeItems, joined_cons, List.append_assoc] at h
      exact absurd h (encode_ne_close hothers.1 rfl s _)
  | item :: items, [], hitems, _, s, t, h => by
      rw [encodeItems, encodeItems, joined_cons, List.append_assoc] at h
      exact absurd h.symm (encode_ne_close hitems.1 rfl t _)
  | item :: items, other :: others, hitems, hothers, s, t, h => by
      rw [encodeItems, encodeItems, joined_cons, joined_cons, List.append_assoc,
        List.append_assoc] at h
      rcases encode_inj item other hitems.1 hothers.1 (stops_followed rfl _ _)
        (stops_followed rfl _ _) h with ⟨hitem, hrest⟩
      rcases followedItems_inj items others hitems.2 hothers.2 hrest with ⟨htail, hafter⟩
      exact ⟨by rw [hitem, htail], hafter⟩

theorem followedItems_inj : (items others : List Value) -> ReadableItems items ->
    ReadableItems others -> {s t : List Char} ->
    followed (encodeItems items) ++ ']' :: s = followed (encodeItems others) ++ ']' :: t ->
    items = others ∧ s = t
  | [], [], _, _, s, t, h => ⟨rfl, (List.cons.inj h).2⟩
  | [], other :: others, _, _, s, t, h => by cases (List.cons.inj h).1
  | item :: items, [], _, _, s, t, h => by cases (List.cons.inj h).1
  | item :: items, other :: others, hitems, hothers, s, t, h => by
      rw [encodeItems, encodeItems, followed, followed, List.append_assoc, List.append_assoc,
        List.append_assoc, List.append_assoc] at h
      have hitem := (List.cons.inj (List.cons.inj h).2).2
      rcases encode_inj item other hitems.1 hothers.1 (stops_followed rfl _ _)
        (stops_followed rfl _ _) hitem with ⟨hitem, hrest⟩
      rcases followedItems_inj items others hitems.2 hothers.2 hrest with ⟨htail, hafter⟩
      exact ⟨by rw [hitem, htail], hafter⟩

theorem members_inj : (members others : List (String × Value)) -> ReadableMembers members ->
    ReadableMembers others -> {s t : List Char} ->
    joined (encodeMembers members) ++ '\x7d' :: s = joined (encodeMembers others) ++ '\x7d' :: t ->
    members = others ∧ s = t
  | [], [], _, _, s, t, h => ⟨rfl, (List.cons.inj h).2⟩
  | [], (key, value) :: others, _, _, s, t, h => by
      rw [encodeMembers, encodeMembers, joined_cons] at h
      cases (List.cons.inj h).1
  | (key, value) :: members, [], _, _, s, t, h => by
      rw [encodeMembers, encodeMembers, joined_cons] at h
      cases (List.cons.inj h).1
  | (key, value) :: members, (key', value') :: others, hmembers, hothers, s, t, h => by
      rw [encodeMembers, encodeMembers, joined_cons, joined_cons] at h
      simp only [List.append_assoc] at h
      rcases encodeString_inj h with ⟨hkey, hvalue⟩
      rcases encode_inj value value' hmembers.1 hothers.1 (stops_followed rfl _ _)
        (stops_followed rfl _ _) (List.append_cancel_left hvalue) with ⟨hvalue, hrest⟩
      rcases followedMembers_inj members others hmembers.2 hothers.2 hrest with ⟨htail, hafter⟩
      exact ⟨by rw [hkey, hvalue, htail], hafter⟩

theorem followedMembers_inj : (members others : List (String × Value)) ->
    ReadableMembers members -> ReadableMembers others -> {s t : List Char} ->
    followed (encodeMembers members) ++ '\x7d' :: s =
      followed (encodeMembers others) ++ '\x7d' :: t ->
    members = others ∧ s = t
  | [], [], _, _, s, t, h => ⟨rfl, (List.cons.inj h).2⟩
  | [], (key, value) :: others, _, _, s, t, h => by cases (List.cons.inj h).1
  | (key, value) :: members, [], _, _, s, t, h => by cases (List.cons.inj h).1
  | (key, value) :: members, (key', value') :: others, hmembers, hothers, s, t, h => by
      rw [encodeMembers, encodeMembers, followed, followed] at h
      simp only [List.append_assoc] at h
      rcases encodeString_inj (List.append_cancel_left h) with ⟨hkey, hvalue⟩
      rcases encode_inj value value' hmembers.1 hothers.1 (stops_followed rfl _ _)
        (stops_followed rfl _ _) (List.append_cancel_left hvalue) with ⟨hvalue, hrest⟩
      rcases followedMembers_inj members others hmembers.2 hothers.2 hrest with ⟨htail, hafter⟩
      exact ⟨by rw [hkey, hvalue, htail], hafter⟩

end

/-- A text is that of one value. -/
theorem dumps_inj {v w : Value} (hv : v.Readable) (hw : w.Readable) :
    dumps v = dumps w <-> v = w := by
  constructor
  · intro h
    have htext : encode v ++ [] = encode w ++ [] := by
      rw [List.append_nil, List.append_nil]
      exact String.ofList_injective h
    exact (encode_inj v w hv hw stopsAt_nil stopsAt_nil htext).1
  · exact congrArg dumps

end JsonText
end KeepGateway
