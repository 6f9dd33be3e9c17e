import Mathlib.Algebra.GroupWithZero.Nat

/-!
# The calendar

The days of the proleptic Gregorian calendar by their numbers, points in time of the years 1 to
9999 in microseconds, and the text of a point in time in UTC, to the millisecond.
-/

namespace KeepGateway
namespace Calendar

/-!
## Days
-/

structure Date where
  year : Nat
  month : Nat
  day : Nat
  deriving DecidableEq, Repr

def isLeap (year : Nat) : Bool :=
  decide (year % 4 = 0 ∧ (year % 100 ≠ 0 ∨ year % 400 = 0))

def daysBeforeYear (year : Nat) : Nat :=
  (year - 1) * 365 + (year - 1) / 4 - (year - 1) / 100 + (year - 1) / 400

/-- The first days of the months, from zero, in a year that is not a leap year. -/
def monthStarts : List Nat := [0, 31, 59, 90, 120, 151, 181, 212, 243, 273, 304, 334]

def daysBeforeMonth (leap : Bool) (month : Nat) : Nat :=
  monthStarts.getD (month - 1) 0 + if leap = true ∧ 2 < month then 1 else 0

/-- The last month that does not begin after a day of the year. -/
def monthOf (leap : Bool) (day : Nat) : Nat :=
  (((List.range' 1 12).filter fun month => decide (daysBeforeMonth leap month ≤ day)).getLast?).getD 1

/-- `date.toordinal` -/
def Date.toOrdinal (date : Date) : Nat :=
  daysBeforeYear date.year + daysBeforeMonth (isLeap date.year) date.month + date.day

/-- A day by its year and its number in it, from zero. -/
def Date.ofYearDay (year day : Nat) : Date where
  year := year
  month := monthOf (isLeap year) day
  day := day - daysBeforeMonth (isLeap year) (monthOf (isLeap year) day) + 1

/-- `date.fromordinal`, with the last day of four years and that of four centuries apart. -/
def Date.fromOrdinal (ordinal : Nat) : Date :=
  let n := ordinal - 1
  let n400 := n / 146097
  let n := n % 146097
  let n100 := n / 36524
  let n := n % 36524
  let n4 := n / 1461
  let n := n % 1461
  let n1 := n / 365
  let year := 400 * n400 + 100 * n100 + 4 * n4 + n1
  if n1 = 4 ∨ n100 = 4 then ofYearDay year 365 else ofYearDay (year + 1) (n % 365)

theorem daysBeforeMonth_monthOf_le (leap : Bool) (day : Nat) :
    daysBeforeMonth leap (monthOf leap day) ≤ day := by
  unfold monthOf
  cases hlast : ((List.range' 1 12).filter fun month =>
    decide (daysBeforeMonth leap month ≤ day)).getLast? with
  | none =>
      cases leap with
      | false => exact Nat.zero_le day
      | true => exact Nat.zero_le day
  | some month =>
      have hmem := List.mem_filter.mp (List.mem_of_getLast? hlast)
      exact of_decide_eq_true hmem.2

theorem toOrdinal_ofYearDay (year day : Nat) :
    (Date.ofYearDay year day).toOrdinal = daysBeforeYear year + day + 1 := by
  have hle := daysBeforeMonth_monthOf_le (isLeap year) day
  show daysBeforeYear year + daysBeforeMonth (isLeap year) (monthOf (isLeap year) day) +
    (day - daysBeforeMonth (isLeap year) (monthOf (isLeap year) day) + 1) = _
  omega

section Cycles

variable {n400 n100 n4 n1 : Nat}

theorem daysBeforeYear_cycles (h100 : n100 < 4) (h4 : n4 < 25) (h1 : n1 < 4) :
    daysBeforeYear (400 * n400 + 100 * n100 + 4 * n4 + n1 + 1) =
      146097 * n400 + 36524 * n100 + 1461 * n4 + 365 * n1 := by
  unfold daysBeforeYear
  omega

/-- The last day of four years. -/
theorem daysBeforeYear_fourYears (h100 : n100 < 4) (h4 : n4 < 24) :
    daysBeforeYear (400 * n400 + 100 * n100 + 4 * n4 + 4) + 365 =
      146097 * n400 + 36524 * n100 + 1461 * n4 + 1460 := by
  unfold daysBeforeYear
  omega

/-- The last day of four centuries. -/
theorem daysBeforeYear_fourCenturies :
    daysBeforeYear (400 * n400 + 400) + 365 = 146097 * n400 + 146096 := by
  unfold daysBeforeYear
  omega

end Cycles

/-- Every day is the one that its number leads to. -/
theorem toOrdinal_fromOrdinal {ordinal : Nat} (h : 0 < ordinal) :
    (Date.fromOrdinal ordinal).toOrdinal = ordinal := by
  unfold Date.fromOrdinal
  dsimp only
  generalize hn : ordinal - 1 = n
  generalize h400 : n / 146097 = n400
  generalize hrest : n % 146097 = rest400
  generalize h100 : rest400 / 36524 = n100
  generalize hrest100 : rest400 % 36524 = rest100
  generalize h4 : rest100 / 1461 = n4
  generalize hrest4 : rest100 % 1461 = rest4
  generalize h1 : rest4 / 365 = n1
  have hday : n = 146097 * n400 + 36524 * n100 + 1461 * n4 + 365 * n1 + rest4 % 365 := by omega
  split
  · rename_i hlast
    rw [toOrdinal_ofYearDay]
    rcases Nat.lt_or_ge n100 4 with hcentury | hcentury
    · have hyears : n1 = 4 ∧ n4 < 24 ∧ rest4 % 365 = 0 := by omega
      rw [hyears.1, daysBeforeYear_fourYears hcentury hyears.2.1]
      omega
    · have hcenturies : n100 = 4 ∧ n4 = 0 ∧ n1 = 0 ∧ rest4 % 365 = 0 := by omega
      rw [hcenturies.1, hcenturies.2.1, hcenturies.2.2.1]
      have hlastDay := @daysBeforeYear_fourCenturies n400
      show daysBeforeYear (400 * n400 + 400) + 365 + 1 = ordinal
      omega
  · rename_i hlast
    rw [toOrdinal_ofYearDay, daysBeforeYear_cycles]
    all_goals omega

/-!
## Digits
-/

def valueOf (digits : List Char) : Nat := Nat.ofDigitChars 10 digits 0

/-- A number with zeros in front, up to the width. -/
def pad (width n : Nat) : List Char :=
  List.replicate (width - (Nat.toDigits 10 n).length) '0' ++ Nat.toDigits 10 n

theorem valueOf_toDigits (n : Nat) : valueOf (Nat.toDigits 10 n) = n :=
  Nat.ofDigitChars_ten_toDigits

theorem valueOf_pad (width n : Nat) : valueOf (pad width n) = n := by
  unfold valueOf pad
  rw [Nat.ofDigitChars_append, Nat.ofDigitChars_replicate_zero, Nat.mul_zero]
  exact Nat.ofDigitChars_ten_toDigits

/-- A digit or more. -/
def IsNumber (digits : List Char) : Prop :=
  digits ≠ [] ∧ forall c, c ∈ digits -> c.isDigit = true

theorem isNumber_toDigits (n : Nat) : IsNumber (Nat.toDigits 10 n) :=
  ⟨Nat.toDigits_ne_nil, fun _ hc =>
    Nat.isDigit_of_mem_toDigits (Nat.zero_lt_succ 9) (Nat.le_refl 10) hc⟩

theorem isNumber_pad (width n : Nat) : IsNumber (pad width n) := by
  constructor
  · exact List.append_ne_nil_of_right_ne_nil _ Nat.toDigits_ne_nil
  · intro c hc
    rcases List.mem_append.mp hc with hzero | hdigit
    · rw [List.eq_of_mem_replicate hzero]
      rfl
    · exact (isNumber_toDigits n).2 c hdigit

theorem length_pad {width n : Nat} (hwidth : 0 < width) (h : n < 10 ^ width) :
    (pad width n).length = width := by
  have hle : (Nat.toDigits 10 n).length ≤ width :=
    (Nat.length_toDigits_le_iff (Nat.lt_of_sub_ne_zero (by decide)) hwidth).mpr h
  unfold pad
  rw [List.length_append, List.length_replicate]
  exact Nat.sub_add_cancel hle

/-!
## Separated numbers
-/

/-- Numbers with a separator after each of them. -/
def separated (fields : List (List Char × Char)) : List Char :=
  fields.flatMap fun field => field.1 ++ [field.2]

/-- The digits before each of the separators, up to the end of the text. -/
def takeFields : List Char -> List Char -> Option (List (List Char))
  | [], [] => some []
  | [], _ :: _ => none
  | separator :: separators, cs =>
      match cs.dropWhile Char.isDigit with
      | [] => none
      | c :: rest =>
          if c = separator ∧ cs.takeWhile Char.isDigit ≠ [] then
            (takeFields separators rest).map (cs.takeWhile Char.isDigit :: ·)
          else none

theorem takeFields_separated {fields : List (List Char × Char)}
    (h : forall field, field ∈ fields -> IsNumber field.1 ∧ field.2.isDigit = false) :
    takeFields (fields.map Prod.snd) (separated fields) = some (fields.map Prod.fst) := by
  induction fields with
  | nil => rfl
  | cons field fields ih =>
      rcases List.forall_mem_cons.mp h with ⟨⟨⟨hne, hdigits⟩, hseparator⟩, hrest⟩
      have hstop : Char.isDigit field.2 ≠ true := ne_true_of_eq_false hseparator
      have hall : field.1.all Char.isDigit = true := List.all_eq_true.mpr hdigits
      have htext : separated (field :: fields) = field.1 ++ field.2 :: separated fields := by
        show (field.1 ++ [field.2]) ++ separated fields = _
        rw [List.append_assoc]
        rfl
      have hdrop : (separated (field :: fields)).dropWhile Char.isDigit =
          field.2 :: separated fields := by
        rw [htext, List.dropWhile_append_of_pos hdigits, List.dropWhile_cons_of_neg hstop]
      have htake : (separated (field :: fields)).takeWhile Char.isDigit = field.1 := by
        rw [htext, List.takeWhile_append_of_pos hdigits, List.takeWhile_cons_of_neg hstop,
          List.append_nil]
      rw [List.map_cons, takeFields, hdrop, htake]
      show (if _ then _ else _) = _
      rw [if_pos ⟨rfl, hne⟩, ih hrest]
      rfl

/-!
## Points in time
-/

/-- The microseconds of a day. -/
def day : Nat := 86400000000

/-- The last day of the year 9999. -/
def maxOrdinal : Nat := 3652059

/-- A point in time of the years 1 to 9999 in UTC, in microseconds from the start. -/
structure Instant where
  microseconds : Nat
  bounded : microseconds < maxOrdinal * day
  deriving DecidableEq, Repr

/-- The microseconds at a date and a time of day. -/
def atTime (date : Date) (hour minute second microsecond : Nat) : Nat :=
  (date.toOrdinal - 1) * day + hour * 3600000000 + minute * 60000000 + second * 1000000 +
    microsecond

namespace Instant

variable (t : Instant)

def date : Date := .fromOrdinal (t.microseconds / day + 1)

def hour : Nat := t.microseconds / 3600000000 % 24

def minute : Nat := t.microseconds / 60000000 % 60

def second : Nat := t.microseconds / 1000000 % 60

def millisecond : Nat := t.microseconds / 1000 % 1000

/-- The numbers of the format `%Y-%m-%dT%H:%M:%S.%f`, the last one without its last three digits,
and with `Z` after it.  The year is not padded. -/
def fields : List (List Char × Char) :=
  [(Nat.toDigits 10 t.date.year, '-'), (pad 2 t.date.month, '-'), (pad 2 t.date.day, 'T'),
    (pad 2 t.hour, ':'), (pad 2 t.minute, ':'), (pad 2 t.second, '.'), (pad 3 t.millisecond, 'Z')]

/-- `astimezone(timezone.utc).strftime("%Y-%m-%dT%H:%M:%S.%f")[:-3] + "Z"` -/
def utcText : String := String.ofList (separated t.fields)

end Instant

/-- The microseconds that the digits of a fraction of a second stand for. -/
def fractionOf (digits : List Char) : Nat :=
  valueOf digits * 10 ^ (6 - digits.length)

/-- The point in time that a text in UTC denotes. -/
def readUtc (text : String) : Option Nat :=
  match takeFields ['-', '-', 'T', ':', ':', '.', 'Z'] text.toList with
  | some [year, month, day, hour, minute, second, fraction] =>
      some (atTime ⟨valueOf year, valueOf month, valueOf day⟩ (valueOf hour) (valueOf minute)
        (valueOf second) (fractionOf fraction))
  | _ => none

namespace Instant

variable (t : Instant)

theorem atTime_self :
    atTime t.date t.hour t.minute t.second (t.millisecond * 1000) =
      t.microseconds / 1000 * 1000 := by
  have hordinal : t.date.toOrdinal = t.microseconds / day + 1 :=
    toOrdinal_fromOrdinal (Nat.succ_pos _)
  unfold atTime
  rw [hordinal]
  unfold hour minute second millisecond day
  omega

theorem isNumber_of_mem_fields {field : List Char × Char} (h : field ∈ t.fields) :
    IsNumber field.1 ∧ field.2.isDigit = false := by
  simp only [fields, List.mem_cons, List.not_mem_nil, or_false] at h
  rcases h with heq | heq | heq | heq | heq | heq | heq
  all_goals rw [heq]
  · exact ⟨isNumber_toDigits _, rfl⟩
  all_goals exact ⟨isNumber_pad _ _, rfl⟩

theorem millisecond_lt : t.millisecond < 10 ^ 3 := Nat.mod_lt _ (Nat.zero_lt_succ 999)

/-- The text denotes the point in time, to the millisecond. -/
theorem readUtc_utcText : readUtc t.utcText = some (t.microseconds / 1000 * 1000) := by
  have htake : takeFields ['-', '-', 'T', ':', ':', '.', 'Z'] (separated t.fields) =
      some (t.fields.map Prod.fst) :=
    takeFields_separated fun _ hfield => t.isNumber_of_mem_fields hfield
  have hfraction : fractionOf (pad 3 t.millisecond) = t.millisecond * 1000 := by
    unfold fractionOf
    rw [valueOf_pad, length_pad (Nat.zero_lt_succ 2) t.millisecond_lt]
    rfl
  unfold readUtc utcText
  rw [String.toList_ofList, htake]
  show some (atTime ⟨valueOf (Nat.toDigits 10 t.date.year), valueOf (pad 2 t.date.month),
    valueOf (pad 2 t.date.day)⟩ (valueOf (pad 2 t.hour)) (valueOf (pad 2 t.minute))
    (valueOf (pad 2 t.second)) (fractionOf (pad 3 t.millisecond))) = _
  rw [valueOf_toDigits, hfraction]
  simp only [valueOf_pad]
  rw [← t.atTime_self]

end Instant

end Calendar

/-!
## Texts of hours

The day and the hour of a point in time as text, with or without the minute, and when two such
texts are the same.
-/

namespace Calendar
namespace Instant

/-- The numbers of the text, with what stands after each of them.  The hour is given. -/
def timeFields (minute : Bool) (hour : Nat) (t : Instant) : List (List Char × Char) :=
  [(pad 4 t.date.year, '-'), (pad 2 t.date.month, '-'), (pad 2 t.date.day, ' '),
    (pad 2 hour, ':')] ++ if minute then [(pad 2 t.minute, ':')] else []

/-- `%Y-%m-%d %H` or `%Y-%m-%d %H:%M`, which end before the separator. -/
def timeText (minute : Bool) (hour : Nat) (t : Instant) : String :=
  String.ofList (separated (t.timeFields minute hour)).dropLast

/-- The microseconds of what a text stands for. -/
def unit (minute : Bool) : Nat := if minute then 60000000 else 3600000000

theorem isNumber_of_mem_timeFields {minute : Bool} {hour : Nat} {t : Instant}
    {field : List Char × Char} (h : field ∈ t.timeFields minute hour) :
    IsNumber field.1 ∧ field.2.isDigit = false := by
  rcases List.mem_append.mp h with hfirst | hminute
  · simp only [List.mem_cons, List.not_mem_nil, or_false] at hfirst
    rcases hfirst with heq | heq | heq | heq
    all_goals
      rw [heq]
      exact ⟨isNumber_pad _ _, rfl⟩
  · cases minute with
    | true =>
        rw [List.mem_singleton.mp hminute]
        exact ⟨isNumber_pad _ _, rfl⟩
    | false => cases hminute

theorem separated_concat (fields : List (List Char × Char)) (digits : List Char) (c : Char) :
    separated (fields ++ [(digits, c)]) = separated fields ++ digits ++ [c] := by
  unfold separated
  rw [List.flatMap_append, List.flatMap_singleton, List.append_assoc]

/-- What stands after the last number of the text. -/
theorem separated_timeFields (minute : Bool) (hour : Nat) (t : Instant) :
    (separated (t.timeFields minute hour)).dropLast ++ [':'] =
      separated (t.timeFields minute hour) := by
  have hlast : exists fields digits, t.timeFields minute hour = fields ++ [(digits, ':')] := by
    cases minute with
    | true => exact ⟨_, _, rfl⟩
    | false =>
        exact ⟨[(pad 4 t.date.year, '-'), (pad 2 t.date.month, '-'), (pad 2 t.date.day, ' ')],
          pad 2 hour, rfl⟩
  rcases hlast with ⟨fields, digits, heq⟩
  rw [heq, separated_concat, List.dropLast_concat]

theorem date_eq {a b : Date} (hyear : a.year = b.year) (hmonth : a.month = b.month)
    (hday : a.day = b.day) : a = b := by
  cases a with
  | mk year month day =>
      cases b with
      | mk year' month' day' =>
          rw [Date.mk.injEq]
          exact ⟨hyear, hmonth, hday⟩

theorem pad_inj {width a b : Nat} (h : pad width a = pad width b) : a = b := by
  rw [← valueOf_pad width a, h, valueOf_pad]

theorem timeFields_inj {minute : Bool} {hour hour' : Nat} {t t' : Instant}
    (h : t.timeText minute hour = t'.timeText minute hour') :
    (t.timeFields minute hour).map Prod.fst = (t'.timeFields minute hour').map Prod.fst := by
  have htext := String.ofList_injective h
  have hseparated : separated (t.timeFields minute hour) =
      separated (t'.timeFields minute hour') := by
    rw [← separated_timeFields, htext, separated_timeFields]
  have hread := takeFields_separated fun field hfield =>
    @isNumber_of_mem_timeFields minute hour t field hfield
  have hread' := takeFields_separated fun field hfield =>
    @isNumber_of_mem_timeFields minute hour' t' field hfield
  have hseparators : (t'.timeFields minute hour').map Prod.snd =
      (t.timeFields minute hour).map Prod.snd := by
    cases minute with
    | true => rfl
    | false => rfl
  rw [hseparators, ← hseparated, hread] at hread'
  exact Option.some.inj hread'

/-- A text has the day, the hour and, where it is there, the minute. -/
theorem timeText_eq_iff {minute : Bool} {hour hour' : Nat} {t t' : Instant} :
    t.timeText minute hour = t'.timeText minute hour' <->
      t.microseconds / day = t'.microseconds / day ∧ hour = hour' ∧
        (minute = true -> t.minute = t'.minute) := by
  constructor
  · intro h
    have hfields := timeFields_inj h
    unfold timeFields at hfields
    rw [List.map_append, List.map_append] at hfields
    rcases List.append_inj hfields rfl with ⟨hfirst, hminute⟩
    injection hfirst with hyear hfirst
    injection hfirst with hmonth hfirst
    injection hfirst with hday hfirst
    injection hfirst with hhour _
    refine ⟨?_, pad_inj hhour, ?_⟩
    · have hdate : t.date = t'.date :=
        date_eq (pad_inj hyear) (pad_inj hmonth) (pad_inj hday)
      have hordinal := congrArg Date.toOrdinal hdate
      unfold date at hordinal
      rw [toOrdinal_fromOrdinal (Nat.succ_pos _), toOrdinal_fromOrdinal (Nat.succ_pos _)]
        at hordinal
      exact Nat.succ.inj hordinal
    · intro hasked
      rw [hasked] at hminute
      injection hminute with hminute _
      exact pad_inj hminute
  · rintro ⟨hday, hhour, hminute⟩
    have hdate : t.date = t'.date := by
      unfold date
      rw [hday]
    unfold timeText timeFields
    rw [hdate, hhour]
    cases minute with
    | true => rw [hminute rfl]
    | false => rfl

/-- With the hour of the day, a text stands for one hour or one minute. -/
theorem timeText_hour_eq_iff {minute : Bool} {t t' : Instant} :
    t.timeText minute t.hour = t'.timeText minute t'.hour <->
      t.microseconds / unit minute = t'.microseconds / unit minute := by
  rw [timeText_eq_iff]
  unfold hour Instant.minute unit day
  cases minute with
  | true =>
      rw [if_pos rfl]
      constructor
      · rintro ⟨hday, hhour, hminute⟩
        have hminute := hminute rfl
        omega
      · intro h
        refine ⟨?_, ?_, fun _ => ?_⟩
        all_goals omega
  | false =>
      rw [if_neg Bool.false_ne_true]
      constructor
      · rintro ⟨hday, hhour, _⟩
        omega
      · intro h
        refine ⟨?_, ?_, fun hfalse => absurd hfalse Bool.false_ne_true⟩
        all_goals omega

end Instant
end Calendar

end KeepGateway
