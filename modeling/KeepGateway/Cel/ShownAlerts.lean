import KeepGateway.Cel.Equalities
import KeepGateway.Enrichments.Conversion

/-!
# Selected alerts and shown alerts

Whether the filter `field == value` selects the alerts whose DTO shows the value: the SQL reads
the columns, and `convert_db_alerts_to_dto_alerts` corrects what it reads from them.
-/

namespace KeepGateway
namespace Cel
namespace ShownAlerts

open Sql
open Enrichments (LastAlert AlertStatus Formats ofText)
open Enrichments.Conversion (AlertRow QueriedAlert AlertSeverity shownStatus counter dtoOf
  convertDbAlertsToDtoAlerts)

/-!
## Comparisons
-/

inductive TextField where
  | status
  | severity
  | assignee
  | note
  | dismissMode
  deriving DecidableEq, Repr

inductive CounterField where
  | firing
  | unresolved
  deriving DecidableEq, Repr

/-- A field and a literal of its type. -/
inductive Comparison where
  | text (field : TextField) (style : QuoteStyle) (value : String)
  | deleted (value : Bool)
  | counter (field : CounterField) (value : Int)
  deriving DecidableEq, Repr

def TextField.configuration : TextField -> FieldMappingConfiguration
  | status => ⟨"status", ["lastalert.status", "alert.status"], some .string, alertStatusValues⟩
  | severity => ⟨"severity", ["alert.severity"], some .string, alertSeverityValues⟩
  | assignee => .column "assignee" "lastalert.assignee" .string
  | note => .column "note" "lastalert.note" .string
  | dismissMode => .column "dismiss_mode" "lastalert.dismiss_mode" .string

def CounterField.column : CounterField -> String
  | firing => "firing_counter"
  | unresolved => "unresolved_counter"

def CounterField.configuration : CounterField -> FieldMappingConfiguration
  | firing => .column "firing_counter" "lastalert.firing_counter" .integer
  | unresolved => .column "unresolved_counter" "lastalert.unresolved_counter" .integer

namespace Comparison

def configuration : Comparison -> FieldMappingConfiguration
  | text field _ _ => field.configuration
  | deleted _ => .column "deleted" "lastalert.deleted" .boolean
  | counter field _ => field.configuration

def name (comparison : Comparison) : String := comparison.configuration.mapFromPattern

def literal : Comparison -> String
  | text _ style value => celLiteral style value
  | deleted value => boolLiteral value
  | counter _ value => toString value

def cel (comparison : Comparison) : String := comparison.name ++ " == " ++ comparison.literal

def tree (comparison : Comparison) : Tree .expr := equalityTree comparison.name comparison.literal

end Comparison

/-!
## Alerts
-/

/-- An alert with its last alert; the provider sends a status and a severity that there are. -/
structure ListedAlert (τ : Type) where
  alert : AlertRow
  row : LastAlert τ
  startedAt : Option String
  attached : Bool
  status : AlertStatus
  severity : AlertSeverity
  hasStatus : alert.status = some status.value
  hasSeverity : alert.severity = some severity.value

/-- The values of the columns. -/
inductive Datum where
  | text (s : String)
  | flag (b : Bool)
  | number (n : Int)
  deriving DecidableEq, Repr

namespace ListedAlert

variable {τ : Type}

def columns (listed : ListedAlert τ) : List (String × Option Datum) :=
  [("alert.status", listed.alert.status.map .text),
    ("alert.severity", listed.alert.severity.map .text),
    ("lastalert.status", listed.row.status.map .text),
    ("lastalert.assignee", listed.row.assignee.map .text),
    ("lastalert.note", listed.row.note.map .text),
    ("lastalert.dismiss_mode", listed.row.dismissMode.map .text),
    ("lastalert.deleted", some (.flag listed.row.deleted)),
    ("lastalert.firing_counter", some (.number (counter listed.row "firing_counter"))),
    ("lastalert.unresolved_counter", some (.number (counter listed.row "unresolved_counter")))]

/-- The override of a user, otherwise the status of the provider. -/
def effectiveStatus (listed : ListedAlert τ) : String :=
  listed.row.status.getD listed.status.value

/-- The query attaches the last alert, or the conversion fetches it. -/
def queried (listed : ListedAlert τ) : QueriedAlert τ where
  alert := listed.alert
  lastAlert := if listed.attached = true then some listed.row else none
  startedAt := listed.startedAt

def dtos (fm : Formats τ) (now : τ) (listed : ListedAlert τ) :
    List (Enrichments.Conversion.AlertDto τ) :=
  convertDbAlertsToDtoAlerts fm now [(listed.alert.key, listed.row)] [listed.queried]

end ListedAlert

/-- The DTO has the value in the field; enumerated values are compared without their case. -/
def Comparison.Holds {τ : Type} (rt : Runtime) (dto : Enrichments.Conversion.AlertDto τ) :
    Comparison -> Prop
  | text .status _ value => rt.lower dto.status = rt.lower value
  | text .severity _ value => rt.lower dto.severity = rt.lower value
  | text .assignee _ value => dto.assignee = .text value
  | text .note _ value => dto.note = .text value
  | text .dismissMode _ value => dto.dismissMode = .text value
  | deleted value => dto.deleted = value
  | counter .firing value => dto.firingCounter = value
  | counter .unresolved value => dto.unresolvedCounter = value

def ListedAlert.Shows {τ : Type} (rt : Runtime) (fm : Formats τ) (now : τ)
    (listed : ListedAlert τ) (comparison : Comparison) : Prop :=
  exists dto, listed.dtos fm now = [dto] ∧ comparison.Holds rt dto

/-!
## Databases
-/

/-- Python reads the digits of ASCII and lowers its letters, and them alone. -/
structure Python (rt : Runtime) : Prop extends Runtime.Unicode rt, Runtime.Digits rt where
  lower_status : forall status : AlertStatus, rt.lower status.value = status.value
  lower_severity : forall severity : AlertSeverity, rt.lower severity.value = severity.value
  lower_keeps : forall (s : String) (c : Char), c = '\\' ∨ c = '-' -> c ∈ s.toList ->
    c ∈ (rt.lower s).toList

section Agreement

variable (rt : Runtime) (sameInstant : DateTime -> String -> Prop)

/-- The database takes a text for the date that a literal is read as. -/
def TakenFor (value w : String) : Prop := exists d, rt.parse value = some d ∧ sameInstant d w

/-- The text of a constant whose literal is no date. -/
def unescaped (style : QuoteStyle) (value : String) : String :=
  String.ofList (unescapeQuotes (escaped style value.toList))

/-- What the literal of a text stands for in the database. -/
def StandsFor (style : QuoteStyle) (value w : String) : Prop :=
  if isRead rt value = true then TakenFor rt sameInstant value w else w = unescaped style value

/-- The column is NULL; or the text is no date and its escapes are undone; or the column holds
neither the text nor what its literal stands for. -/
def ColumnAgrees (style : QuoteStyle) (value : String) (column : Option String) : Prop :=
  forall w, column = some w ->
    (isRead rt value = true -> (w = value <-> TakenFor rt sameInstant value w)) ∧
      (isRead rt value = false ->
        EachBackslashBefore style.other value.toList ∨ (w ≠ value ∧ w ≠ unescaped style value))

/-- The status is one of the statuses; or it is none, is not asked for as one, and is not asked
for as FIRING, which is shown in its place. -/
def StatusAgrees (style : QuoteStyle) (value status : String) : Prop :=
  status ∈ alertStatusValues ∨
    (rt.lower value ≠ AlertStatus.firing.value ∧
      (StandsFor rt sameInstant style value status -> rt.lower value ∈ alertStatusValues))

/-- The status does not correct the counter; or the counter is 0, or the comparison asks neither
for it nor for 0. -/
def CounterAgrees (corrected : Prop) (value counter : Int) : Prop :=
  corrected -> counter = 0 ∨ (value ≠ 0 ∧ value ≠ counter)

/-- Where the SQL selects what is shown. -/
def Agrees {τ : Type} (listed : ListedAlert τ) : Comparison -> Prop
  | .text .status style value =>
      StatusAgrees rt sameInstant style value listed.effectiveStatus
  | .text .severity _ _ => True
  | .text .assignee style value => ColumnAgrees rt sameInstant style value listed.row.assignee
  | .text .note style value => ColumnAgrees rt sameInstant style value listed.row.note
  | .text .dismissMode style value =>
      ColumnAgrees rt sameInstant style value listed.row.dismissMode
  | .deleted _ => True
  | .counter .firing value =>
      CounterAgrees (listed.effectiveStatus = AlertStatus.acknowledged.value) value
        (counter listed.row "firing_counter")
  | .counter .unresolved value =>
      CounterAgrees (listed.effectiveStatus = AlertStatus.resolved.value) value
        (counter listed.row "unresolved_counter")

end Agreement

/-!
## Columns
-/

section Columns

def Comparison.dataType : Comparison -> DataType
  | text _ _ _ => .string
  | deleted _ => .boolean
  | counter _ _ => .integer

/-- What the columns of a field hold. -/
def Comparison.column {τ : Type} (listed : ListedAlert τ) : Comparison -> Option Datum
  | text .status _ _ => some (.text listed.effectiveStatus)
  | text .severity _ _ => some (.text listed.severity.value)
  | text .assignee _ _ => listed.row.assignee.map .text
  | text .note _ _ => listed.row.note.map .text
  | text .dismissMode _ _ => listed.row.dismissMode.map .text
  | deleted _ => some (.flag listed.row.deleted)
  | counter .firing _ => some (.number (Enrichments.Conversion.counter listed.row "firing_counter"))
  | counter .unresolved _ =>
      some (.number (Enrichments.Conversion.counter listed.row "unresolved_counter"))

end Columns

/-!
## Literals of texts
-/

section Literals

variable {rt : Runtime} {style : QuoteStyle} {value : String}

end Literals

/-!
## Enumerated values
-/

/-- Values in lower case, of letters. -/
structure Enumerated (rt : Runtime) (values : List String) : Prop where
  lower : forall e, e ∈ values -> rt.lower e = e
  letters : forall e, e ∈ values -> forall c, c ∈ e.toList ->
    c.isDigit = false ∧ c ≠ '\\' ∧ c ≠ '-'

section Values

variable {rt : Runtime} {values : List String}

theorem enumerated_nil : Enumerated rt [] where
  lower := fun _ h => (List.not_mem_nil h).elim
  letters := fun _ h => (List.not_mem_nil h).elim

theorem letters_of_all
    (h : (values.all fun e => e.toList.all fun c =>
      !c.isDigit && c != '\\' && c != '-') = true) :
    forall e, e ∈ values -> forall c, c ∈ e.toList -> c.isDigit = false ∧ c ≠ '\\' ∧ c ≠ '-' := by
  intro e he c hc
  have htest := List.all_eq_true.mp (List.all_eq_true.mp h e he) c hc
  rw [Bool.and_eq_true, Bool.and_eq_true, Bool.not_eq_true', bne_iff_ne, bne_iff_ne, and_assoc]
    at htest
  exact htest

theorem mem_alertStatusValues {text : String} :
    text ∈ alertStatusValues <-> exists status : AlertStatus, text = status.value := by
  constructor
  · intro h
    simp only [alertStatusValues, List.mem_cons, List.not_mem_nil, or_false] at h
    rcases h with h | h | h | h | h | h
    · exact ⟨.maintenance, h⟩
    · exact ⟨.pending, h⟩
    · exact ⟨.suppressed, h⟩
    · exact ⟨.acknowledged, h⟩
    · exact ⟨.resolved, h⟩
    · exact ⟨.firing, h⟩
  · intro h
    rcases h with ⟨status, hstatus⟩
    rw [hstatus]
    cases status with
    | _ => decide

theorem mem_alertSeverityValues {text : String} :
    text ∈ alertSeverityValues <-> exists severity : AlertSeverity, text = severity.value := by
  constructor
  · intro h
    simp only [alertSeverityValues, List.mem_cons, List.not_mem_nil, or_false] at h
    rcases h with h | h | h | h | h
    · exact ⟨.low, h⟩
    · exact ⟨.info, h⟩
    · exact ⟨.warning, h⟩
    · exact ⟨.high, h⟩
    · exact ⟨.critical, h⟩
  · intro h
    rcases h with ⟨severity, hseverity⟩
    rw [hseverity]
    cases severity with
    | _ => decide

theorem enumerated_status (hrt : Python rt) : Enumerated rt alertStatusValues where
  lower := by
    intro e he
    rcases mem_alertStatusValues.mp he with ⟨status, hstatus⟩
    rw [hstatus]
    exact hrt.lower_status status
  letters := letters_of_all (by decide +kernel)

theorem enumerated_severity (hrt : Python rt) : Enumerated rt alertSeverityValues where
  lower := by
    intro e he
    rcases mem_alertSeverityValues.mp he with ⟨severity, hseverity⟩
    rw [hseverity]
    exact hrt.lower_severity severity
  letters := letters_of_all (by decide +kernel)

theorem TextField.enumerated (hrt : Python rt) (field : TextField) :
    Enumerated rt field.configuration.enumValues := by
  cases field with
  | status => exact enumerated_status hrt
  | severity => exact enumerated_severity hrt
  | _ => exact enumerated_nil

/-- What the SQL of an equality finds a text to be. -/
def Finds (rt : Runtime) (sameInstant : DateTime -> String -> Prop) (values : List String)
    (style : QuoteStyle) (value w : String) : Prop :=
  if rt.lower value ∈ values then w = rt.lower value
  else StandsFor rt sameInstant style value w

end Values

/-!
## Selections
-/

section Selections

variable {τ : Type} {p : Provider} {celpy : Celpy} {db : Database Datum}
  {sameInstant : DateTime -> String -> Prop} {listed : ListedAlert τ} {comparison : Comparison}

end Selections

/-!
## Shown values
-/

section Shown

variable {τ : Type} {rt : Runtime} {fm : Formats τ} {now : τ} {listed : ListedAlert τ}
  {sameInstant : DateTime -> String -> Prop}

end Shown

/-!
## Fields
-/

section Fields

variable {τ : Type} {p : Provider} {celpy : Celpy} {db : Database Datum}
  {sameInstant : DateTime -> String -> Prop} {fm : Formats τ} {now : τ} {listed : ListedAlert τ}
  {style : QuoteStyle}

end Fields

/-!
## Agreement of the filter and the list
-/

namespace AcknowledgedSample

def provider : Provider := ⟨asciiRuntime, .postgresql, id, alertMetadata⟩

def rendered : Datum -> String
  | .text s => provider.literalProc (.str s)
  | .flag b => provider.boolExp b
  | .number n => toString n

/-- A database that finds a value equal to its rendering. -/
def db : Database Datum where
  literal := .text
  ofBool := .flag
  apply := fun _ v => v
  test := fun frame v => frame.after == " = " ++ rendered v
  finds := fun _ _ => false

/-- `firing_counter == 3` -/
def comparison : Comparison := .counter .firing 3

def celpy : Celpy where
  parse := fun _ => .ok comparison.tree
  str := fun _ => ""

/-- An alert that fired three times before it was acknowledged. -/
def listed : ListedAlert Unit where
  alert := ⟨"tenant", "a", "1", "grafana", none, some "disk full", some "firing", some "high",
    "production"⟩
  row := { Enrichments.newLastAlert ⟨1, 1, none, some "firing"⟩ with
    status := some "acknowledged"
    tracking := [("firing_counter", .number 3)] }
  startedAt := none
  attached := true
  status := .firing
  severity := .high
  hasStatus := rfl
  hasSeverity := rfl

def fm : Formats Unit := ⟨fun _ => "", fun _ => "", some, rfl, fun _ => rfl⟩

end AcknowledgedSample

end ShownAlerts
end Cel
end KeepGateway
