import KeepGateway.Deduplication.AlertDeduplicator
import KeepGateway.Lib.Concatenations

/-!
# Fingerprints of a deduplication rule

`BaseProvider.get_alert_fingerprint`, which feeds the values of the listed fields to one digest,
one after the other.
-/

namespace KeepGateway
namespace Deduplication

open Concatenations (RunsOver)
open JsonText (Value Number dumps encode ReadableMembers Stops)

/-- An `AlertDto` as a provider formats it: `attributes` is its `dict()`. -/
structure FormattedAlert where
  name : String
  attributes : Attributes
  name_eq : attributes.lookup "name" = some (.string name)
  readable : ReadableMembers attributes

/-- One turn of the loop over the keys; what is `None` stays so. -/
def getKey (value : Value) (key : String) : Value :=
  match value with
  | .object members => (members.lookup key).getD .null
  | _ => .null

/-- `fingerprint_field_value` after the loop over its keys. -/
def FormattedAlert.valueAt (alert : FormattedAlert) (field : String) : Value :=
  (fieldParts field).foldl getKey (.object alert.attributes)

/-- `str` of a number: the special floats have other names in a JSON text. -/
def strNumber (number : Number) : List Char :=
  if number.text = ['N', 'a', 'N'] then ['n', 'a', 'n']
  else if number.text = ['I', 'n', 'f', 'i', 'n', 'i', 't', 'y'] then ['i', 'n', 'f']
  else if number.text = ['-', 'I', 'n', 'f', 'i', 'n', 'i', 't', 'y'] then ['-', 'i', 'n', 'f']
  else number.text

/-- The text of a value that is fed to the digest, if it is not `None`. -/
def fieldText : Value -> Option String
  | .null => none
  | .bool true => some "True"
  | .bool false => some "False"
  | .number number => some (String.ofList (strNumber number))
  | .string text => some text
  | .array items => some (dumps (Value.array items).sorted)
  | .object members => some (dumps (Value.object members).sorted)

/-- `fingerprint.update`, on what the digest was fed so far. -/
def feed (bytes : ByteArray) (value : Value) : ByteArray :=
  match fieldText value with
  | some text => bytes ++ text.toUTF8
  | none => bytes

/-- `get_alert_fingerprint`; `sha256` is the digest of all that was fed. -/
def getAlertFingerprint (sha256 : ByteArray -> String) (alert : FormattedAlert)
    (fingerprintFields : List String) : String :=
  if fingerprintFields = [] then alert.name
  else sha256 ((fingerprintFields.map alert.valueAt).foldl feed ByteArray.empty)

/-- The alerts have the same values at the paths; what is missing is null. -/
def AgreeOn (fields : List String) (a b : FormattedAlert) : Prop :=
  forall field, field ∈ fields -> (a.valueAt field).sorted = (b.valueAt field).sorted

/-- Both alerts have one fingerprint exactly if they agree on the fields. -/
def IdentifiesOn (sha256 : ByteArray -> String) (fields : List String)
    (a b : FormattedAlert) : Prop :=
  getAlertFingerprint sha256 a fields = getAlertFingerprint sha256 b fields <-> AgreeOn fields a b

/-- The number as Python writes it. -/
def IsPythonNumber (number : Number) : Prop :=
  number.text = ['N', 'a', 'N'] ∨ number.text = ['I', 'n', 'f', 'i', 'n', 'i', 't', 'y'] ∨
    number.text = ['-', 'I', 'n', 'f', 'i', 'n', 'i', 't', 'y'] ∨
    exists c rest, c.isDigit = true ∧ (number.text = c :: rest ∨ number.text = '-' :: c :: rest)

/-- The value is missing, a string, a number, a list or an object. -/
def IsFieldValue : Value -> Prop
  | .bool _ => False
  | .number number => IsPythonNumber number
  | _ => True

/-- The text of the value; a missing one adds as much as the empty string. -/
def textOf (value : Value) : String := (fieldText value).getD ""

/-- One of the values is a string and the other is not, but has that text. -/
def Disguised (v w : Value) : Prop :=
  (v = .string (textOf w) ∧ forall text, w ≠ .string text) ∨
    (w = .string (textOf v) ∧ forall text, v ≠ .string text)

/-- The alerts differ on some of the fields, but only by strings that are the texts of other
values. -/
def DisguisedOn (fields : List String) (a b : FormattedAlert) : Prop :=
  (forall field, field ∈ fields -> (a.valueAt field).sorted = (b.valueAt field).sorted ∨
      Disguised (a.valueAt field) (b.valueAt field)) ∧
    exists field, field ∈ fields ∧ Disguised (a.valueAt field) (b.valueAt field)

/-- The texts that are fed to the digest. -/
def FormattedAlert.texts (alert : FormattedAlert) (fields : List String) : List (List Char) :=
  fields.map fun field => (textOf (alert.valueAt field)).toList

/-!
## Numbers
-/

/-- The name of a number in a JSON text. -/
def jsonName (text : List Char) : List Char :=
  if text = ['n', 'a', 'n'] then ['N', 'a', 'N']
  else if text = ['i', 'n', 'f'] then ['I', 'n', 'f', 'i', 'n', 'i', 't', 'y']
  else if text = ['-', 'i', 'n', 'f'] then ['-', 'I', 'n', 'f', 'i', 'n', 'i', 't', 'y']
  else text

theorem isDigit_ne {c d : Char} (hc : c.isDigit = true) (hd : d.isDigit = false) : c ≠ d := by
  intro h
  rw [h, hd] at hc
  cases hc

theorem jsonName_strNumber {number : Number} (h : IsPythonNumber number) :
    jsonName (strNumber number) = number.text := by
  unfold strNumber
  rcases h with h | h | h | ⟨c, rest, hdigit, h⟩
  · rw [h]
    rfl
  · rw [h]
    rfl
  · rw [h]
    rfl
  · have hN := isDigit_ne hdigit (show 'N'.isDigit = false by decide)
    have hI := isDigit_ne hdigit (show 'I'.isDigit = false by decide)
    have hn := isDigit_ne hdigit (show 'n'.isDigit = false by decide)
    have hi := isDigit_ne hdigit (show 'i'.isDigit = false by decide)
    have hminus := isDigit_ne hdigit (show '-'.isDigit = false by decide)
    rcases h with h | h <;> simp [h, jsonName, hN, hI, hn, hi, hminus]

theorem strNumber_inj {a b : Number} (ha : IsPythonNumber a) (hb : IsPythonNumber b)
    (h : strNumber a = strNumber b) : a = b := by
  have htext : a.text = b.text := by
    rw [← jsonName_strNumber ha, h, jsonName_strNumber hb]
  cases a
  cases b
  cases htext
  rfl

theorem all_strNumber (number : Number) :
    (strNumber number).all JsonText.isNumberChar = true := by
  unfold strNumber
  repeat' split
  · decide
  · decide
  · decide
  · exact number.wellFormed

theorem strNumber_ne_nil {number : Number} (h : IsPythonNumber number) : strNumber number ≠ [] := by
  intro hnil
  have htext := jsonName_strNumber h
  rw [hnil] at htext
  have hempty : number.text = [] := htext.symm
  rcases h with h | h | h | ⟨c, rest, _, h | h⟩
  all_goals
    rw [hempty] at h
    cases h

/-!
## Values and their texts
-/

/-- The text of a value whose keys are in order. -/
def sortedText : Value -> Option String
  | .null => none
  | .bool true => some "True"
  | .bool false => some "False"
  | .number number => some (String.ofList (strNumber number))
  | .string text => some text
  | value => some (dumps value)

theorem fieldText_eq_sortedText (value : Value) : fieldText value = sortedText value.sorted := by
  cases value with
  | bool value => cases value <;> rfl
  | _ => rfl

theorem textOf_eq_of_sorted {v w : Value} (h : v.sorted = w.sorted) : textOf v = textOf w := by
  unfold textOf
  rw [fieldText_eq_sortedText, fieldText_eq_sortedText, h]

/-- The bracket that the text of a value opens with. -/
def bracket : Value -> Option Char
  | .array _ => some '['
  | .object _ => some '\x7b'
  | _ => none

theorem head_textOf {v : Value} (hv : IsFieldValue v) (hstring : forall text, v ≠ .string text) :
    (textOf v).toList.head?.filter (fun c => !JsonText.isNumberChar c) = bracket v := by
  cases v with
  | null => rfl
  | bool _ => exact hv.elim
  | number number =>
      have hall := all_strNumber number
      show (String.ofList (strNumber number)).toList.head?.filter _ = none
      rw [String.toList_ofList]
      cases hchars : strNumber number with
      | nil => rfl
      | cons c rest =>
          rw [hchars, List.all_cons, Bool.and_eq_true] at hall
          rw [List.head?_cons, Option.filter_some, hall.1]
          rfl
  | string text => exact absurd rfl (hstring text)
  | array items =>
      show (String.ofList (encode (Value.array items).sorted)).toList.head?.filter _ = some '['
      rw [String.toList_ofList]
      rfl
  | object members =>
      show (String.ofList (encode (Value.object members).sorted)).toList.head?.filter _ =
        some '\x7b'
      rw [String.toList_ofList]
      rfl

theorem sorted_eq_of_textOf {v w : Value} (hv : IsFieldValue v) (hw : IsFieldValue w)
    (hvreadable : v.Readable) (hwreadable : w.Readable) (hvstring : forall text, v ≠ .string text)
    (hwstring : forall text, w ≠ .string text) (h : textOf v = textOf w) :
    v.sorted = w.sorted := by
  have hbracket : bracket v = bracket w := by
    rw [← head_textOf hv hvstring, ← head_textOf hw hwstring, h]
  have hdumps : fieldText v = some (dumps v.sorted) -> fieldText w = some (dumps w.sorted) ->
      v.sorted = w.sorted := by
    intro hvtext hwtext
    unfold textOf at h
    rw [hvtext, hwtext] at h
    exact (JsonText.dumps_sorted_inj hvreadable hwreadable).mp h
  cases v with
  | bool _ => exact hv.elim
  | string text => exact absurd rfl (hvstring text)
  | null =>
      cases w with
      | null => rfl
      | number number => exact absurd (String.ofList_injective h.symm) (strNumber_ne_nil hw)
      | bool _ => exact hw.elim
      | string text => exact absurd rfl (hwstring text)
      | array _ => cases hbracket
      | object _ => cases hbracket
  | number number =>
      cases w with
      | null => exact absurd (String.ofList_injective h) (strNumber_ne_nil hv)
      | number other => rw [strNumber_inj hv hw (String.ofList_injective h)]
      | bool _ => exact hw.elim
      | string text => exact absurd rfl (hwstring text)
      | array _ => cases hbracket
      | object _ => cases hbracket
  | array items =>
      cases w with
      | array others => exact hdumps rfl rfl
      | bool _ => exact hw.elim
      | string text => exact absurd rfl (hwstring text)
      | null => cases hbracket
      | number _ => cases hbracket
      | object _ => cases hbracket
  | object members =>
      cases w with
      | object others => exact hdumps rfl rfl
      | bool _ => exact hw.elim
      | string text => exact absurd rfl (hwstring text)
      | null => cases hbracket
      | number _ => cases hbracket
      | array _ => cases hbracket

theorem textOf_string (text : String) : textOf (.string text) = text := rfl

theorem textOf_eq_iff {v w : Value} (hv : IsFieldValue v) (hw : IsFieldValue w)
    (hvreadable : v.Readable) (hwreadable : w.Readable) :
    textOf v = textOf w <-> v.sorted = w.sorted ∨ Disguised v w := by
  constructor
  · intro h
    rcases Classical.em (exists text, v = .string text) with ⟨text, hvtext⟩ | hvstring
    · rcases Classical.em (exists other, w = .string other) with ⟨other, hwtext⟩ | hwstring
      · rw [hvtext, hwtext, textOf_string, textOf_string] at h
        exact Or.inl (by rw [hvtext, hwtext, h])
      · refine Or.inr (Or.inl ⟨?_, not_exists.mp hwstring⟩)
        rw [← h, hvtext, textOf_string]
    · rcases Classical.em (exists other, w = .string other) with ⟨other, hwtext⟩ | hwstring
      · refine Or.inr (Or.inr ⟨?_, not_exists.mp hvstring⟩)
        rw [h, hwtext, textOf_string]
      · exact Or.inl (sorted_eq_of_textOf hv hw hvreadable hwreadable (not_exists.mp hvstring)
          (not_exists.mp hwstring) h)
  · rintro (h | ⟨h, _⟩ | ⟨h, _⟩)
    · exact textOf_eq_of_sorted h
    · rw [h, textOf_string]
    · rw [h, textOf_string]

theorem sorted_ne_string {v : Value} (h : forall text, v ≠ .string text) (text : String) :
    v.sorted ≠ .string text := by
  cases v with
  | string other => exact absurd rfl (h other)
  | _ =>
      intro heq
      cases heq

theorem Disguised.sorted_ne {v w : Value} (h : Disguised v w) : v.sorted ≠ w.sorted := by
  rcases h with ⟨h, hstring⟩ | ⟨h, hstring⟩
  · rw [h]
    exact (sorted_ne_string hstring _).symm
  · rw [h]
    exact sorted_ne_string hstring _

/-!
## The values of an alert
-/

theorem readable_getKey {value : Value} (h : value.Readable) (key : String) :
    (getKey value key).Readable := by
  cases value with
  | object members =>
      show ((members.lookup key).getD .null).Readable
      cases hlookup : members.lookup key with
      | none => exact trivial
      | some inner => exact readable_of_lookup h hlookup
  | _ => exact trivial

theorem FormattedAlert.readable_valueAt (alert : FormattedAlert) (field : String) :
    (alert.valueAt field).Readable := by
  have hkeys : forall (keys : List String) (value : Value), value.Readable ->
      (keys.foldl getKey value).Readable := by
    intro keys
    induction keys with
    | nil => exact fun _ h => h
    | cons key rest ih => exact fun value h => ih _ (readable_getKey h key)
  exact hkeys _ _ alert.readable

/-!
## The digest
-/

theorem feed_eq (text : List Char) (value : Value) :
    feed (String.ofList text).toByteArray value =
      (String.ofList (text ++ (textOf value).toList)).toByteArray := by
  rw [String.ofList_append, String.toByteArray_append, String.ofList_toList]
  unfold feed textOf
  cases fieldText value with
  | none => simp
  | some other => rfl

theorem foldl_feed (values : List Value) (text : List Char) :
    values.foldl feed (String.ofList text).toByteArray =
      (String.ofList
        (text ++ (values.map fun value => (textOf value).toList).flatten)).toByteArray := by
  induction values generalizing text with
  | nil => rw [List.map_nil, List.flatten_nil, List.append_nil, List.foldl_nil]
  | cons value rest ih =>
      rw [List.foldl_cons, feed_eq, ih, List.map_cons, List.flatten_cons, List.append_assoc]

theorem getAlertFingerprint_eq_iff {sha256 : ByteArray -> String}
    (hsha : Function.Injective sha256) {fields : List String} (hfields : fields ≠ [])
    (a b : FormattedAlert) :
    getAlertFingerprint sha256 a fields = getAlertFingerprint sha256 b fields <->
      (a.texts fields).flatten = (b.texts fields).flatten := by
  have hbytes : forall alert : FormattedAlert, getAlertFingerprint sha256 alert fields =
      sha256 (String.ofList (alert.texts fields).flatten).toByteArray := by
    intro alert
    unfold getAlertFingerprint
    rw [if_neg hfields]
    have hfold := foldl_feed (fields.map alert.valueAt) []
    rw [List.map_map, List.nil_append] at hfold
    exact congrArg sha256 hfold
  rw [hbytes, hbytes, hsha.eq_iff, String.toByteArray_inj]
  exact ⟨fun h => String.ofList_injective h, congrArg _⟩

/-- Exactly the fields are told apart unless some alerts differ only by strings that look like
other values, or by where the text of one field stops and that of the next one starts. -/
theorem identifiesOn_iff {sha256 : ByteArray -> String} (hsha : Function.Injective sha256)
    {fields : List String} (hfields : fields ≠ []) {a b : FormattedAlert}
    (ha : forall field, field ∈ fields -> IsFieldValue (a.valueAt field))
    (hb : forall field, field ∈ fields -> IsFieldValue (b.valueAt field)) :
    IdentifiesOn sha256 fields a b <->
      ¬ DisguisedOn fields a b ∧ ¬ RunsOver (a.texts fields) (b.texts fields) := by
  have htext : forall field, field ∈ fields ->
      (textOf (a.valueAt field) = textOf (b.valueAt field) <->
        (a.valueAt field).sorted = (b.valueAt field).sorted ∨
          Disguised (a.valueAt field) (b.valueAt field)) := fun field hmem =>
    textOf_eq_iff (ha field hmem) (hb field hmem) (a.readable_valueAt field)
      (b.readable_valueAt field)
  have htexts : a.texts fields = b.texts fields <-> forall field, field ∈ fields ->
      (a.valueAt field).sorted = (b.valueAt field).sorted ∨
        Disguised (a.valueAt field) (b.valueAt field) := by
    unfold FormattedAlert.texts
    rw [List.map_inj_left]
    constructor
    · exact fun h field hmem => (htext field hmem).mp (String.toList_injective (h field hmem))
    · exact fun h field hmem => congrArg String.toList ((htext field hmem).mpr (h field hmem))
  have hlength : (a.texts fields).length = (b.texts fields).length := by
    unfold FormattedAlert.texts
    rw [List.length_map, List.length_map]
  unfold IdentifiesOn
  rw [getAlertFingerprint_eq_iff hsha hfields, Concatenations.flatten_eq_iff hlength]
  constructor
  · intro h
    constructor
    · rintro ⟨hall, field, hmem, hdisguised⟩
      exact hdisguised.sorted_ne (h.mp (Or.inl (htexts.mpr hall)) field hmem)
    · intro hover
      have hagree := h.mp (Or.inr hover)
      exact hover.ne (htexts.mpr fun field hmem => Or.inl (hagree field hmem))
  · rintro ⟨hdisguised, hover⟩
    constructor
    · rintro (hsame | hruns)
      · intro field hmem
        have hall := htexts.mp hsame
        rcases hall field hmem with h | h
        · exact h
        · exact absurd ⟨hall, field, hmem, h⟩ hdisguised
      · exact absurd hruns hover
    · exact fun hagree => Or.inl (htexts.mpr fun field hmem => Or.inl (hagree field hmem))

/-!
## A text between two fields
-/

/-- The digests of two texts, and another injective function for the rest. -/
def sampleSha256 (bytes : ByteArray) : String :=
  if bytes.data.toList = "abc".toUTF8.data.toList then
    "ba7816bf8f01cfea414140de5dae2223b00361a396177a9cb410ff61f20015ad"
  else if bytes.data.toList = "abd".toUTF8.data.toList then
    "a52d159f262b2c6ddb724a61840befc36eb30c88877a4030b65cbe86298449c9"
  else String.ofList ('#' :: bytes.data.toList.map Char.ofUInt8)

theorem injective_ofUInt8 : Function.Injective Char.ofUInt8 := by
  intro x y h
  exact UInt8.toUInt32_inj.mp (congrArg Char.val h)

theorem sampleSha256_injective : Function.Injective sampleSha256 := by
  have hsame : forall {x y : ByteArray}, x.data.toList = y.data.toList -> x = y :=
    fun hdata => ByteArray.ext (Array.toList_inj.mp hdata)
  have hspelled : Function.Injective fun bytes : ByteArray =>
      String.ofList ('#' :: bytes.data.toList.map Char.ofUInt8) := by
    intro x y h
    have hbytes := (List.cons.inj (String.ofList_injective h)).2
    have hdata := (List.map_injective_iff.mpr injective_ofUInt8) hbytes
    exact hsame hdata
  have hhash : forall (bytes : ByteArray) (digest : String), digest.toList.head? ≠ some '#' ->
      digest ≠ String.ofList ('#' :: bytes.data.toList.map Char.ofUInt8) := by
    intro bytes digest hdigest heq
    rw [heq, String.toList_ofList] at hdigest
    exact hdigest rfl
  intro x y h
  unfold sampleSha256 at h
  split at h
  · rename_i hx
    split at h
    · rename_i hy
      exact hsame (hx.trans hy.symm)
    · split at h
      · exact absurd h (by decide)
      · exact absurd h (hhash y _ (by decide))
  · split at h
    · rename_i hx
      split at h
      · exact absurd h (by decide)
      · split at h
        · rename_i hy
          exact hsame (hx.trans hy.symm)
        · exact absurd h (hhash y _ (by decide))
    · split at h
      · exact absurd h.symm (hhash x _ (by decide))
      · split at h
        · exact absurd h.symm (hhash x _ (by decide))
        · exact hspelled h

def sampleAlert (a b : String) : FormattedAlert where
  name := "cpu"
  attributes := [("name", .string "cpu"), ("a", .string a), ("b", .string b)]
  name_eq := rfl
  readable := ⟨trivial, trivial, trivial, trivial⟩

theorem valueAt_sampleAlert (a b : String) {field : String} (h : field ∈ ["a", "b"]) :
    (sampleAlert a b).valueAt field = .string (if field = "a" then a else b) := by
  rcases List.mem_pair.mp h with h | h
  · rw [h]
    rfl
  · rw [h]
    rfl

theorem identifiesOn_sample :
    IdentifiesOn sampleSha256 ["a", "b"] (sampleAlert "ab" "c") (sampleAlert "ab" "d") := by
  refine (identifiesOn_iff sampleSha256_injective (List.cons_ne_nil _ _) ?_ ?_).mpr ⟨?_, ?_⟩
  · intro field hmem
    rw [valueAt_sampleAlert _ _ hmem]
    trivial
  · intro field hmem
    rw [valueAt_sampleAlert _ _ hmem]
    trivial
  · rintro ⟨_, field, hmem, ⟨_, hstring⟩ | ⟨_, hstring⟩⟩
    · exact hstring _ (valueAt_sampleAlert _ _ hmem)
    · exact hstring _ (valueAt_sampleAlert _ _ hmem)
  · intro hover
    exact absurd hover.flatten_eq (by decide)

/-- Two alerts that agree on neither field have one fingerprint. -/
theorem shifted_not_identifiesOn :
    ¬ IdentifiesOn sampleSha256 ["a", "b"] (sampleAlert "ab" "c") (sampleAlert "a" "bc") := by
  intro h
  have hagree := h.mp rfl "a" List.mem_cons_self
  exact absurd (Value.string.inj hagree) (by decide)

end Deduplication
end KeepGateway
