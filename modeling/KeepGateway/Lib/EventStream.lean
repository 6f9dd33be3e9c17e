import Mathlib.Data.List.Basic

/-!
# Event streams

The field grammar of an event stream, read character by character: lines that end with a
line feed, a carriage return or both, `event` and `data` fields, comments, and the blank
line that dispatches an event.
-/

namespace KeepGateway
namespace EventStream

/-- The name and the data of an event. -/
abbrev Dispatched := List Char × List Char

structure Decoder where
  line : List Char
  afterReturn : Bool
  eventType : List Char
  data : List Char
  dispatched : List Dispatched
  deriving DecidableEq, Repr

namespace Decoder

/-- Nothing is pending. -/
def idle (dispatched : List Dispatched) : Decoder where
  line := []
  afterReturn := false
  eventType := []
  data := []
  dispatched := dispatched

/-- The name of a field, and its value without one leading space. -/
def field (line : List Char) : List Char × List Char :=
  let name := line.takeWhile fun c => c ≠ ':'
  match line.dropWhile fun c => c ≠ ':' with
  | _ :: ' ' :: value => (name, value)
  | _ :: value => (name, value)
  | [] => (name, [])

/-- Other fields do not show in the events. -/
def processField (p : Decoder) (name value : List Char) : Decoder :=
  if name = ['e', 'v', 'e', 'n', 't'] then { p with eventType := value }
  else if name = ['d', 'a', 't', 'a'] then { p with data := p.data ++ value ++ ['\n'] }
  else p

/-- An event without data is dropped; one without a name is a `message`. -/
def dispatch (p : Decoder) : Decoder :=
  if p.data = [] then { p with eventType := [] }
  else
    { p with
      eventType := []
      data := []
      dispatched := p.dispatched ++
        [(if p.eventType = [] then ['m', 'e', 's', 's', 'a', 'g', 'e'] else p.eventType,
          p.data.dropLast)] }

def endLine (p : Decoder) : Decoder :=
  match p.line with
  | [] => p.dispatch
  | ':' :: _ => { p with line := [] }
  | line => { p.processField (field line).1 (field line).2 with line := [] }

def feed (p : Decoder) (c : Char) : Decoder :=
  if c = '\n' then
    if p.afterReturn then { p with afterReturn := false } else p.endLine
  else if c = '\r' then { p.endLine with afterReturn := true }
  else { p with line := p.line ++ [c], afterReturn := false }

end Decoder

open Decoder

/-- The events of a text; what the end of the text leaves pending is discarded. -/
def decode (text : List Char) : List Dispatched := (text.foldl feed (idle [])).dispatched

/-- Without a line break. -/
def Plain (text : List Char) : Prop := '\n' ∉ text ∧ '\r' ∉ text

instance : DecidablePred Plain := fun _ => inferInstanceAs (Decidable (_ ∧ _))

theorem plain_nil : Plain [] := ⟨List.not_mem_nil, List.not_mem_nil⟩

theorem plain_append {a b : List Char} : Plain (a ++ b) <-> Plain a ∧ Plain b := by
  unfold Plain
  simp only [List.mem_append, not_or]
  tauto

theorem Plain.append {a b : List Char} (ha : Plain a) (hb : Plain b) : Plain (a ++ b) :=
  plain_append.mpr ⟨ha, hb⟩

theorem plain_cons {c : Char} {text : List Char} :
    Plain (c :: text) <-> (c ≠ '\n' ∧ c ≠ '\r') ∧ Plain text := by
  unfold Plain
  simp only [List.mem_cons, not_or]
  tauto

theorem Plain.of_subset {a b : List Char} (hb : Plain b) (h : a ⊆ b) : Plain a :=
  ⟨fun ha => hb.1 (h ha), fun ha => hb.2 (h ha)⟩

/-!
## What one line does
-/

theorem feed_plain {text : List Char} (htext : Plain text) (p : Decoder)
    (hp : p.afterReturn = false) :
    text.foldl feed p = { p with line := p.line ++ text } := by
  induction text generalizing p with
  | nil => simp
  | cons c rest ih =>
      rcases plain_cons.mp htext with ⟨⟨hfeed, hreturn⟩, hrest⟩
      have hc : feed p c = { p with line := p.line ++ [c] } := by
        unfold feed
        rw [if_neg hfeed, if_neg hreturn, ← hp]
      rw [List.foldl_cons, hc, ih hrest { p with line := p.line ++ [c] } hp]
      simp

/-- A terminated line, read where a line starts. -/
theorem feed_line {line : List Char} (hline : Plain line) (p : Decoder) (hp : p.line = [])
    (hreturn : p.afterReturn = false) :
    (line ++ ['\n']).foldl feed p = { p with line := line }.endLine := by
  rw [List.foldl_append, feed_plain hline p hreturn, hp]
  simp [feed, hreturn]

/-- A comment that a blank line ends leaves nothing behind. -/
theorem feed_comment {comment : List Char} (hcomment : Plain comment)
    (found : List Dispatched) :
    (':' :: comment ++ ['\n', '\n']).foldl feed (idle found) = idle found := by
  have hsplit : ':' :: comment ++ ['\n', '\n'] = (':' :: comment ++ ['\n']) ++ ['\n'] := by simp
  have hplain : Plain (':' :: comment) := plain_cons.mpr ⟨by decide, hcomment⟩
  rw [hsplit, List.foldl_append, feed_line hplain (idle found) rfl rfl]
  simp [endLine, feed, dispatch, idle]

/-- An `event` and a `data` field that a blank line ends are one event. -/
theorem feed_event {name data : List Char} (hname : Plain name) (hne : name ≠ [])
    (hdata : Plain data) (found : List Dispatched) :
    ((['e', 'v', 'e', 'n', 't', ':', ' '] ++ name ++ ['\n']) ++
        ((['d', 'a', 't', 'a', ':', ' '] ++ data ++ ['\n']) ++ ['\n'])).foldl feed (idle found) =
      idle (found ++ [(name, data)]) := by
  have hevent : Plain (['e', 'v', 'e', 'n', 't', ':', ' '] ++ name) :=
    Plain.append (by decide) hname
  have hfield : Plain (['d', 'a', 't', 'a', ':', ' '] ++ data) := Plain.append (by decide) hdata
  have hfirst : (['e', 'v', 'e', 'n', 't', ':', ' '] ++ name ++ ['\n']).foldl feed (idle found) =
      { idle found with eventType := name } := by
    rw [feed_line hevent (idle found) rfl rfl]
    simp [endLine, field, processField, idle]
  have hsecond : (['d', 'a', 't', 'a', ':', ' '] ++ data ++ ['\n']).foldl feed
      { idle found with eventType := name } =
      { idle found with eventType := name, data := data ++ ['\n'] } := by
    rw [feed_line hfield { idle found with eventType := name } rfl rfl]
    simp [endLine, field, processField, idle]
  rw [List.foldl_append, hfirst, List.foldl_append, hsecond]
  simp [feed, endLine, dispatch, idle, hne]

/-!
## What the events look like
-/

/-- A name that an event can have. -/
def IsName (name : List Char) : Prop := name ≠ [] ∧ Plain name

instance : DecidablePred IsName := fun _ => inferInstanceAs (Decidable (_ ∧ _))

/-- Nothing that was read off lines has a line break. -/
structure WellFormed (p : Decoder) : Prop where
  line : Plain p.line
  eventType : Plain p.eventType
  dispatched : forall e, e ∈ p.dispatched -> IsName e.1

theorem plain_field {line : List Char} (h : Plain line) : Plain (field line).2 := by
  have hrest : Plain (line.dropWhile fun c => c ≠ ':') :=
    h.of_subset (List.dropWhile_sublist _).subset
  unfold field
  simp only
  split
  · rename_i heq
    rw [heq] at hrest
    exact (plain_cons.mp (plain_cons.mp hrest).2).2
  · rename_i heq
    rw [heq] at hrest
    exact (plain_cons.mp hrest).2
  · exact plain_nil

theorem WellFormed.dispatch {p : Decoder} (h : WellFormed p) : WellFormed p.dispatch := by
  unfold Decoder.dispatch
  rcases Classical.em (p.data = []) with hdata | hdata
  · rw [if_pos hdata]
    exact ⟨h.line, plain_nil, h.dispatched⟩
  · rw [if_neg hdata]
    refine ⟨h.line, plain_nil, ?_⟩
    intro e he
    rcases List.mem_append.mp he with he | he
    · exact h.dispatched e he
    · rw [List.mem_singleton.mp he]
      rcases Classical.em (p.eventType = []) with htype | htype
      · simp only [if_pos htype]
        decide
      · simp only [if_neg htype]
        exact ⟨htype, h.eventType⟩

theorem WellFormed.processField {p : Decoder} (h : WellFormed p) (name : List Char)
    {value : List Char} (hvalue : Plain value) : WellFormed (p.processField name value) := by
  unfold Decoder.processField
  split
  · exact ⟨h.line, hvalue, h.dispatched⟩
  · split
    · exact ⟨h.line, h.eventType, h.dispatched⟩
    · exact h

theorem WellFormed.endLine {p : Decoder} (h : WellFormed p) : WellFormed p.endLine := by
  unfold Decoder.endLine
  split
  · exact h.dispatch
  · exact ⟨plain_nil, h.eventType, h.dispatched⟩
  · have hfield := h.processField (field p.line).1 (plain_field h.line)
    exact ⟨plain_nil, hfield.eventType, hfield.dispatched⟩

theorem WellFormed.feed {p : Decoder} (h : WellFormed p) (c : Char) : WellFormed (p.feed c) := by
  unfold Decoder.feed
  split
  · split
    · exact ⟨h.line, h.eventType, h.dispatched⟩
    · exact h.endLine
  · rename_i hfeed
    split
    · have hend := h.endLine
      exact ⟨hend.line, hend.eventType, hend.dispatched⟩
    · rename_i hreturn
      exact ⟨h.line.append (plain_cons.mpr ⟨⟨hfeed, hreturn⟩, plain_nil⟩), h.eventType,
        h.dispatched⟩

theorem WellFormed.foldl {p : Decoder} (h : WellFormed p) (text : List Char) :
    WellFormed (text.foldl Decoder.feed p) := by
  induction text generalizing p with
  | nil => exact h
  | cons c rest ih => exact ih (h.feed c)

/-- Every event that any text decodes to has a name without line breaks. -/
theorem isName_of_mem_decode {text : List Char} {e : Dispatched} (he : e ∈ decode text) :
    IsName e.1 := by
  have hinit : WellFormed (idle []) :=
    ⟨plain_nil, plain_nil, fun e he => absurd he List.not_mem_nil⟩
  exact (hinit.foldl text).dispatched e he

end EventStream
end KeepGateway
