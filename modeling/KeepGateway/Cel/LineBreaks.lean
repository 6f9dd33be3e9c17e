import KeepGateway.Cel.CelToSql

/-!
# Line breaks

`splitlines` ends a line at every line boundary and leaves out an empty line at the end;
`split("\n")` ends a line at a newline only and keeps it.
-/

namespace KeepGateway
namespace Cel

/-- The line boundaries that are no newline, where `\r\n` is a newline. -/
def otherBreaks : List Char -> Nat
  | [] => 0
  | '\r' :: '\n' :: cs => otherBreaks cs
  | c :: cs => (if isLineBoundary c && c != '\n' then 1 else 0) + otherBreaks cs

def endsInBreak (cs : List Char) : Bool := cs.getLast?.any isLineBoundary

/-- Whether the last line of a text is empty and ends in a newline; `fresh` says that a line
starts here. -/
def endsInEmptyLine (fresh : Bool) : List Char -> Bool
  | [] => false
  | ['\n'] => fresh
  | ['\r', '\n'] => fresh
  | '\r' :: '\n' :: cs => endsInEmptyLine true cs
  | c :: cs => endsInEmptyLine (isLineBoundary c) cs

/-- Where both rules end the last line at the same place: every line boundary is a newline
and the text does not end in one, or one boundary is no newline and an empty line after it
makes up for it. -/
def EndsAlike (cs : List Char) : Prop :=
  (otherBreaks cs = 0 ∧ endsInBreak cs = false) ∨
    (otherBreaks cs = 1 ∧ endsInEmptyLine true cs = true)

/-!
## One character
-/

/-- Whether the lines end in a line that no boundary ends. -/
def isOpen (line cs : List Char) : Bool := if cs = [] then line != [] else !endsInBreak cs

theorem isOpen_cons (line : List Char) (c : Char) (cs : List Char) :
    isOpen line (c :: cs) = if isLineBoundary c then isOpen [] cs else isOpen (line ++ [c]) cs := by
  cases cs with
  | nil => cases h : isLineBoundary c <;> simp [isOpen, endsInBreak, h]
  | cons d cs => simp [isOpen, endsInBreak]

theorem isOpen_crlf (line cs : List Char) : isOpen line ('\r' :: '\n' :: cs) = isOpen [] cs := by
  have hcr : isLineBoundary '\r' = true := rfl
  have hnewline : isLineBoundary '\n' = true := rfl
  rw [isOpen_cons, if_pos hcr, isOpen_cons, if_pos hnewline]

theorem otherBreaks_boundary {c : Char} {cs : List Char}
    (hcr : forall rest, c = '\r' -> cs = '\n' :: rest -> False) (h : isLineBoundary c = true) :
    otherBreaks (c :: cs) = (if c = '\n' then 0 else 1) + otherBreaks cs := by
  rw [otherBreaks]
  · rcases Classical.em (c = '\n') with hc | hc <;> simp [h, hc]
  · exact hcr

theorem otherBreaks_char {c : Char} {cs : List Char} (h : isLineBoundary c = false) :
    otherBreaks (c :: cs) = otherBreaks cs := by
  rw [otherBreaks]
  · simp [h]
  · intro rest hc _
    rw [hc] at h
    cases h

theorem ne_newline_of_char {c : Char} (h : isLineBoundary c = false) : c ≠ '\n' := by
  rintro rfl
  cases h

/-!
## The number of lines
-/

theorem length_splitLines (line cs : List Char) :
    (splitLines line cs).length =
      cs.count '\n' + otherBreaks cs + (isOpen line cs).toNat := by
  induction line, cs using splitLines.induct with
  | case1 => rfl
  | case2 line hline =>
      have hopen : isOpen line [] = true := bne_iff_ne.mpr hline
      rw [splitLines, if_neg hline, hopen]
      rfl
  | case3 line cs ih =>
      rw [splitLines, List.length_cons, ih, otherBreaks, isOpen_crlf]
      simp only [List.count_cons_self, List.count_cons_of_ne (by decide : '\r' ≠ '\n')]
      omega
  | case4 line c cs hcr hboundary ih =>
      rw [splitLines_boundary hcr hboundary, List.length_cons, ih,
        otherBreaks_boundary hcr hboundary, isOpen_cons, if_pos hboundary, List.count_cons]
      simp only [beq_iff_eq]
      split <;> omega
  | case5 line c cs hcr hboundary ih =>
      have hchar := Bool.eq_false_iff.mpr hboundary
      rw [splitLines_char hchar, ih, otherBreaks_char hchar, isOpen_cons, if_neg hboundary,
        List.count_cons_of_ne (ne_newline_of_char hchar)]

theorem length_splitOn (cs : List Char) : (cs.splitOn '\n').length = cs.count '\n' + 1 := by
  induction cs with
  | nil => rfl
  | cons c cs ih =>
      rw [List.splitOn_cons_eq_if_modifyHead, List.count_cons]
      split
      · rw [List.length_cons, ih]
      · rw [List.length_modifyHead, ih]

/-!
## The last line
-/

theorem getLastD_newline {line : List Char} {cs : List Char} (hlast : cs.getLast? = some '\n')
    (d : List Char) : (List.splitOnPPrepend (· == '\n') cs line).getLastD d = [] := by
  induction cs generalizing line d with
  | nil => cases hlast
  | cons c cs ih =>
      rw [List.splitOnPPrepend_cons_eq_if]
      cases cs with
      | nil =>
          rw [List.getLast?_singleton] at hlast
          rw [Option.some.inj hlast]
          rfl
      | cons c' cs =>
          rw [List.getLast?_cons_cons] at hlast
          split
          · rw [List.getLastD_cons]
            exact ih hlast line.reverse
          · exact ih hlast d

/-- Without other line breaks the lines that stay open are of one length. -/
theorem length_last_open {line line' cs : List Char} (hopen : isOpen line cs = true)
    (hnone : otherBreaks cs = 0) (hlength : line'.length = line.length) (d d' : List Char) :
    ((List.splitOnPPrepend (· == '\n') cs line').getLastD d').length =
      ((splitLines line cs).getLastD d).length := by
  induction line, cs using splitLines.induct generalizing line' d d' with
  | case1 => cases hopen
  | case2 line hline =>
      rw [splitLines, if_neg hline]
      simpa using hlength
  | case3 line cs ih =>
      rw [isOpen_crlf] at hopen
      rw [otherBreaks] at hnone
      rw [splitLines, List.getLastD_cons, List.splitOnPPrepend_cons_neg rfl,
        List.splitOnPPrepend_cons_pos rfl, List.getLastD_cons]
      exact ih hopen hnone rfl line _
  | case4 line c cs hcr hboundary ih =>
      rw [isOpen_cons, if_pos hboundary] at hopen
      rw [otherBreaks_boundary hcr hboundary] at hnone
      rw [splitLines_boundary hcr hboundary, List.getLastD_cons, List.splitOnPPrepend_cons_eq_if]
      rcases Classical.em (c = '\n') with hc | hc
      · rw [if_pos hc, Nat.zero_add] at hnone
        rw [if_pos (beq_iff_eq.mpr hc), List.getLastD_cons]
        exact ih hopen hnone rfl line _
      · rw [if_neg hc] at hnone
        omega
  | case5 line c cs hcr hboundary ih =>
      have hchar := Bool.eq_false_iff.mpr hboundary
      rw [isOpen_cons, if_neg hboundary] at hopen
      rw [otherBreaks_char hchar] at hnone
      rw [splitLines_char hchar, List.splitOnPPrepend_cons_eq_if,
        if_neg (mt beq_iff_eq.mp (ne_newline_of_char hchar))]
      exact ih hopen hnone (by simp [hlength]) d d'

/-- A line break other than a newline is counted. -/
theorem otherBreaks_pos {cs : List Char} {c : Char} (hlast : cs.getLast? = some c)
    (hboundary : isLineBoundary c = true) (hc : c ≠ '\n') : 0 < otherBreaks cs := by
  induction cs using otherBreaks.induct with
  | case1 => cases hlast
  | case2 cs ih =>
      rw [otherBreaks]
      cases cs with
      | nil => exact (hc (Option.some.inj hlast).symm).elim
      | cons d cs => exact ih hlast
  | case3 d cs hcr ih =>
      cases cs with
      | nil =>
          have hd : d = c := Option.some.inj hlast
          rw [hd, otherBreaks_boundary (by simp) hboundary, if_neg hc]
          exact Nat.lt_add_right _ Nat.one_pos
      | cons d' cs =>
          rw [otherBreaks]
          · exact Nat.lt_of_lt_of_le (ih hlast) (Nat.le_add_left _ _)
          · exact hcr

/-- A line break other than a newline at the end is the last character of one line, and left
out of the other. -/
theorem length_last_other {line line' cs : List Char} {c : Char} (hlast : cs.getLast? = some c)
    (hlastBoundary : isLineBoundary c = true) (hlastNewline : c ≠ '\n')
    (hone : otherBreaks cs = 1) (hlength : line'.length = line.length) (d d' : List Char) :
    ((List.splitOnPPrepend (· == '\n') cs line').getLastD d').length =
      ((splitLines line cs).getLastD d).length + 1 := by
  induction line, cs using splitLines.induct generalizing line' d d' with
  | case1 => cases hlast
  | case2 line hline => cases hlast
  | case3 line cs ih =>
      cases cs with
      | nil => exact (hlastNewline (Option.some.inj hlast).symm).elim
      | cons e cs =>
          rw [otherBreaks] at hone
          rw [splitLines, List.getLastD_cons, List.splitOnPPrepend_cons_neg rfl,
            List.splitOnPPrepend_cons_pos rfl, List.getLastD_cons]
          exact ih hlast hone rfl line _
  | case4 line e cs hcr hboundary ih =>
      rw [otherBreaks_boundary hcr hboundary] at hone
      rw [splitLines_boundary hcr hboundary, List.getLastD_cons, List.splitOnPPrepend_cons_eq_if]
      rcases Classical.em (e = '\n') with he | he
      · cases cs with
        | nil => exact (hlastNewline ((Option.some.inj hlast).symm.trans he)).elim
        | cons e' cs =>
            rw [if_pos he, Nat.zero_add] at hone
            rw [if_pos (beq_iff_eq.mpr he), List.getLastD_cons]
            exact ih hlast hone rfl line _
      · rw [if_neg he] at hone
        rw [if_neg (mt beq_iff_eq.mp he)]
        cases cs with
        | nil => simp [splitLines, hlength]
        | cons e' cs =>
            have hpos : 0 < otherBreaks (e' :: cs) :=
              otherBreaks_pos hlast hlastBoundary hlastNewline
            omega
  | case5 line e cs hcr hboundary ih =>
      have hchar := Bool.eq_false_iff.mpr hboundary
      cases cs with
      | nil =>
          rw [← Option.some.inj hlast] at hlastBoundary
          exact (hboundary hlastBoundary).elim
      | cons e' cs =>
          rw [otherBreaks_char hchar] at hone
          rw [splitLines_char hchar, List.splitOnPPrepend_cons_eq_if,
            if_neg (mt beq_iff_eq.mp (ne_newline_of_char hchar))]
          exact ih hlast hone (by simp [hlength]) d d'

theorem endsInEmptyLine_cons {fresh : Bool} {c : Char} {cs : List Char} (hcs : cs ≠ [])
    (hcr : forall rest, c = '\r' -> cs = '\n' :: rest -> False) :
    endsInEmptyLine fresh (c :: cs) = endsInEmptyLine (isLineBoundary c) cs := by
  rw [endsInEmptyLine]
  · intro _ h
    exact hcs h
  · intro hc h
    exact hcr [] hc h
  · exact hcr

theorem getLast_of_endsInEmptyLine {fresh : Bool} {cs : List Char}
    (h : endsInEmptyLine fresh cs = true) : cs.getLast? = some '\n' := by
  induction fresh, cs using endsInEmptyLine.induct with
  | case1 => cases h
  | case2 => rfl
  | case3 => rfl
  | case4 fresh cs hcs ih =>
      have hne : cs ≠ [] := fun heq => hcs heq
      rw [endsInEmptyLine] at h
      · rw [List.getLast?_cons_cons, List.getLast?_cons_of_ne_nil hne]
        exact ih h
      · exact hcs
  | case5 fresh c cs hnewline hcrlf hcr ih =>
      rw [endsInEmptyLine] at h
      · cases cs with
        | nil => cases h
        | cons e cs => exact ih h
      all_goals assumption

/-- The last line is empty where a newline at the end starts a line. -/
theorem getLastD_splitLines_eq_nil_iff {line cs : List Char} (hlast : cs.getLast? = some '\n')
    (d : List Char) :
    (splitLines line cs).getLastD d = [] <-> endsInEmptyLine (line == []) cs = true := by
  induction line, cs using splitLines.induct generalizing d with
  | case1 => cases hlast
  | case2 line hline => cases hlast
  | case3 line cs ih =>
      rw [splitLines, List.getLastD_cons]
      cases cs with
      | nil => simp [splitLines, endsInEmptyLine]
      | cons e cs =>
          rw [endsInEmptyLine]
          · exact ih hlast line
          · simp
  | case4 line c cs hcr hboundary ih =>
      rw [splitLines_boundary hcr hboundary, List.getLastD_cons]
      cases cs with
      | nil =>
          rw [List.getLast?_singleton] at hlast
          rw [Option.some.inj hlast]
          simp [splitLines, endsInEmptyLine]
      | cons e cs =>
          rw [endsInEmptyLine_cons (by simp) hcr, hboundary]
          exact ih hlast line
  | case5 line c cs hcr hboundary ih =>
      have hchar := Bool.eq_false_iff.mpr hboundary
      rw [splitLines_char hchar]
      cases cs with
      | nil => exact (ne_newline_of_char hchar (Option.some.inj hlast)).elim
      | cons e cs =>
          have hline : (line ++ [c] == []) = false := beq_eq_false_iff_ne.mpr (by simp)
          rw [endsInEmptyLine_cons (by simp) hcr, hchar, ih hlast, hline]

theorem endsAlike_iff {cs : List Char} (hcs : cs ≠ []) :
    ((cs.splitOn '\n').length = (splitLines [] cs).length ∧
        ((cs.splitOn '\n').getLastD []).length = ((splitLines [] cs).getLastD []).length) <->
      EndsAlike cs := by
  have hlines := length_splitLines [] cs
  have hisOpen : isOpen [] cs = !endsInBreak cs := if_neg hcs
  rw [hisOpen] at hlines
  rw [length_splitOn, hlines]
  show _ ∧ ((List.splitOnPPrepend (· == '\n') cs []).getLastD []).length = _ <-> _
  unfold EndsAlike
  cases hends : endsInBreak cs with
  | false =>
      have hopen : isOpen [] cs = true := by rw [hisOpen, hends]; rfl
      have hnotEmpty : endsInEmptyLine true cs ≠ true := by
        intro hempty
        rw [endsInBreak, getLast_of_endsInEmptyLine hempty] at hends
        cases hends
      constructor
      · rintro ⟨hlength, _⟩
        simp only [Bool.not_false, Bool.toNat_true] at hlength
        exact Or.inl ⟨by omega, rfl⟩
      · rintro (⟨hnone, _⟩ | ⟨_, hempty⟩)
        · exact ⟨by rw [hnone]; rfl, length_last_open hopen hnone rfl [] []⟩
        · exact (hnotEmpty hempty).elim
  | true =>
      rcases (Option.any_eq_true _ _).mp hends with ⟨c, hlast, hboundary⟩
      constructor
      · rintro ⟨hlength, hcolumn⟩
        have hone : otherBreaks cs = 1 := by simpa [eq_comm] using hlength
        rcases Classical.em (c = '\n') with hnewline | hnewline
        · rw [hnewline] at hlast
          rw [getLastD_newline hlast] at hcolumn
          have hempty := List.length_eq_zero_iff.mp hcolumn.symm
          exact Or.inr ⟨hone, (getLastD_splitLines_eq_nil_iff hlast []).mp hempty⟩
        · rw [length_last_other hlast hboundary hnewline hone rfl [] []] at hcolumn
          exact (Nat.succ_ne_self _ hcolumn).elim
      · rintro (⟨_, hopen⟩ | ⟨hone, hempty⟩)
        · cases hopen
        · have hnewline := getLast_of_endsInEmptyLine hempty
          have hline : (splitLines [] cs).getLastD [] = [] :=
            (getLastD_splitLines_eq_nil_iff hnewline []).mpr hempty
          rw [getLastD_newline hnewline, hline, hone]
          exact ⟨rfl, rfl⟩

end Cel
end KeepGateway
