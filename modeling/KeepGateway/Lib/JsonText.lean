import KeepGateway.Lib.EventStream

/-!
# JSON texts

`json.dumps` with its defaults: separators with a space, and strings escaped to ASCII.
-/

namespace KeepGateway
namespace JsonText

open EventStream (Plain plain_nil plain_append plain_cons)

def isNumberChar (c : Char) : Bool :=
  c.isAlphanum || c == '+' || c == '-' || c == '.'

/-- An `int` or a `float` as its `repr`, with the names of the special floats. -/
structure Number where
  text : List Char
  wellFormed : text.all isNumberChar = true

inductive Value where
  | null
  | bool (value : Bool)
  | number (value : Number)
  | string (value : String)
  | array (items : List Value)
  | object (members : List (String × Value))

/-- `\x7bn:04x\x7d` -/
def hex4 (n : Nat) : List Char :=
  [Nat.digitChar (n / 4096 % 16), Nat.digitChar (n / 256 % 16), Nat.digitChar (n / 16 % 16),
    Nat.digitChar (n % 16)]

/-- `py_encode_basestring_ascii`, for one character. -/
def escapeChar (c : Char) : List Char :=
  if c = '\\' then ['\\', '\\']
  else if c = '"' then ['\\', '"']
  else if c = '\x08' then ['\\', 'b']
  else if c = '\x0c' then ['\\', 'f']
  else if c = '\n' then ['\\', 'n']
  else if c = '\r' then ['\\', 'r']
  else if c = '\t' then ['\\', 't']
  else if ' '.toNat <= c.toNat ∧ c.toNat <= '~'.toNat then [c]
  else if c.toNat < 0x10000 then ['\\', 'u'] ++ hex4 c.toNat
  else
    -- a surrogate pair
    ['\\', 'u'] ++ hex4 (0xd800 + (c.toNat - 0x10000) / 0x400 % 0x400) ++
      ['\\', 'u'] ++ hex4 (0xdc00 + (c.toNat - 0x10000) % 0x400)

def encodeString (s : String) : List Char := ['"'] ++ s.toList.flatMap escapeChar ++ ['"']

/-- `", ".join(parts)` -/
def joined : List (List Char) -> List Char
  | [] => []
  | [part] => part
  | part :: rest => part ++ [',', ' '] ++ joined rest

mutual

def encode : Value -> List Char
  | .null => ['n', 'u', 'l', 'l']
  | .bool true => ['t', 'r', 'u', 'e']
  | .bool false => ['f', 'a', 'l', 's', 'e']
  | .number value => value.text
  | .string value => encodeString value
  | .array items => ['['] ++ joined (encodeItems items) ++ [']']
  | .object members => ['\x7b'] ++ joined (encodeMembers members) ++ ['\x7d']

def encodeItems : List Value -> List (List Char)
  | [] => []
  | item :: rest => encode item :: encodeItems rest

def encodeMembers : List (String × Value) -> List (List Char)
  | [] => []
  | (key, value) :: rest => (encodeString key ++ [':', ' '] ++ encode value) :: encodeMembers rest

end

/-- `json.dumps` -/
def dumps (value : Value) : String := String.ofList (encode value)

/-!
## A JSON text is one line
-/

theorem plain_hex4 (n : Nat) : Plain (hex4 n) := by
  have hdigit : forall d, d < 16 -> Plain [Nat.digitChar d] := by decide
  have hsplit : hex4 n = [Nat.digitChar (n / 4096 % 16)] ++ ([Nat.digitChar (n / 256 % 16)] ++
      ([Nat.digitChar (n / 16 % 16)] ++ [Nat.digitChar (n % 16)])) := rfl
  rw [hsplit]
  refine (hdigit _ ?_).append ((hdigit _ ?_).append ((hdigit _ ?_).append (hdigit _ ?_))) <;> omega

theorem plain_escapeChar (c : Char) : Plain (escapeChar c) := by
  have hu : Plain ['\\', 'u'] := by decide
  unfold escapeChar
  repeat' split
  any_goals decide
  · rename_i hfeed hreturn _ _
    exact plain_cons.mpr ⟨⟨hfeed, hreturn⟩, plain_nil⟩
  · exact hu.append (plain_hex4 _)
  · exact ((hu.append (plain_hex4 _)).append hu).append (plain_hex4 _)

theorem plain_flatMap {α : Type} {f : α -> List Char} (h : forall a, Plain (f a))
    (items : List α) : Plain (items.flatMap f) := by
  induction items with
  | nil => exact plain_nil
  | cons a rest ih =>
      rw [List.flatMap_cons]
      exact (h a).append ih

theorem plain_encodeString (s : String) : Plain (encodeString s) := by
  have hquote : Plain ['"'] := by decide
  exact (hquote.append (plain_flatMap plain_escapeChar _)).append hquote

theorem plain_joined {parts : List (List Char)} (h : forall part, part ∈ parts -> Plain part) :
    Plain (joined parts) := by
  induction parts with
  | nil => exact plain_nil
  | cons part rest ih =>
      have hpart := h part List.mem_cons_self
      have hrest := ih fun q hq => h q (List.mem_cons_of_mem _ hq)
      cases rest with
      | nil => exact hpart
      | cons next rest =>
          have hcomma : Plain [',', ' '] := by decide
          exact (hpart.append hcomma).append hrest

theorem plain_number (value : Number) : Plain value.text := by
  have hall := List.all_eq_true.mp value.wellFormed
  constructor
  · intro hmem
    exact absurd (hall _ hmem) (by decide)
  · intro hmem
    exact absurd (hall _ hmem) (by decide)

mutual

theorem plain_encode : (value : Value) -> Plain (encode value)
  | .null => by decide
  | .bool true => by decide
  | .bool false => by decide
  | .number value => plain_number value
  | .string value => plain_encodeString value
  | .array items => by
      have hopen : Plain ['['] := by decide
      exact (hopen.append (plain_joined (plain_encodeItems items))).append (by decide)
  | .object members => by
      have hopen : Plain ['\x7b'] := by decide
      exact (hopen.append (plain_joined (plain_encodeMembers members))).append (by decide)

theorem plain_encodeItems : (items : List Value) ->
    forall part, part ∈ encodeItems items -> Plain part
  | [], _, h => absurd h List.not_mem_nil
  | item :: rest, part, h => by
      rcases List.mem_cons.mp h with h | h
      · rw [h]
        exact plain_encode item
      · exact plain_encodeItems rest part h

theorem plain_encodeMembers : (members : List (String × Value)) ->
    forall part, part ∈ encodeMembers members -> Plain part
  | [], _, h => absurd h List.not_mem_nil
  | (key, value) :: rest, part, h => by
      have hcolon : Plain [':', ' '] := by decide
      rcases List.mem_cons.mp h with h | h
      · rw [h]
        exact ((plain_encodeString key).append hcolon).append (plain_encode value)
      · exact plain_encodeMembers rest part h

end

/-- The text of a value has no line break. -/
theorem plain_dumps (value : Value) : Plain (dumps value).toList := by
  rw [dumps, String.toList_ofList]
  exact plain_encode value

end JsonText
end KeepGateway
