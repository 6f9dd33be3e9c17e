import KeepGateway.Lib.Separated

/-!
# Templates

Lists with numbered slots in them.  The slots are written as names, and filled by replacing one
name after another in the text, the last one first.
-/

namespace KeepGateway
namespace Templates

open Replace

inductive Piece (α : Type) where
  | element (a : α)
  | slot (k : Nat)
  deriving DecidableEq, Repr

variable {α : Type}

/-- The text of a template with something in each slot. -/
def fill (f : Nat -> List α) : List (Piece α) -> List α
  | [] => []
  | .element a :: pieces => a :: fill f pieces
  | .slot k :: pieces => f k ++ fill f pieces

/-- The values of the slots after the `k`-th are in place, and the names of the others. -/
def stage (names values : Nat -> List α) (k j : Nat) : List α :=
  if k < j then values j else names j

/-- The template with the elements of a value in place of a slot. -/
def expand (k : Nat) (value : List α) : List (Piece α) -> List (Piece α)
  | [] => []
  | .element a :: pieces => .element a :: expand k value pieces
  | .slot j :: pieces =>
      if j = k then value.map .element ++ expand k value pieces
      else .slot j :: expand k value pieces

/-!
## Filling
-/

section Fill

variable {f g : Nat -> List α} {k : Nat} {value : List α}

theorem fill_append (f : Nat -> List α) (pieces others : List (Piece α)) :
    fill f (pieces ++ others) = fill f pieces ++ fill f others := by
  induction pieces with
  | nil => rfl
  | cons piece pieces ih =>
      cases piece with
      | element a => exact congrArg (a :: ·) ih
      | slot j => rw [List.cons_append, fill, fill, ih, List.append_assoc]

theorem fill_elements (f : Nat -> List α) (text : List α) :
    fill f (text.map .element) = text := by
  induction text with
  | nil => rfl
  | cons a text ih => exact congrArg (a :: ·) ih

theorem fill_congr {pieces : List (Piece α)} (h : forall j, .slot j ∈ pieces -> f j = g j) :
    fill f pieces = fill g pieces := by
  induction pieces with
  | nil => rfl
  | cons piece pieces ih =>
      have hrest := ih fun j hj => h j (List.mem_cons_of_mem _ hj)
      cases piece with
      | element a => exact congrArg (a :: ·) hrest
      | slot j => rw [fill, fill, hrest, h j List.mem_cons_self]

theorem fill_expand (h : f k = value) (pieces : List (Piece α)) :
    fill f (expand k value pieces) = fill f pieces := by
  induction pieces with
  | nil => rfl
  | cons piece pieces ih =>
      cases piece with
      | element a => exact congrArg (a :: ·) ih
      | slot j =>
          rw [expand]
          split
          · next heq => rw [fill_append, fill_elements, ih, fill, heq, h]
          · rw [fill, fill, ih]

theorem expand_append (pieces others : List (Piece α)) :
    expand k value (pieces ++ others) = expand k value pieces ++ expand k value others := by
  induction pieces with
  | nil => rfl
  | cons piece pieces ih =>
      cases piece with
      | element a => exact congrArg (Piece.element a :: ·) ih
      | slot j =>
          rw [List.cons_append, expand, expand, ih]
          split
          · rw [List.append_assoc]
          · rfl

theorem slot_mem_expand {j : Nat} {pieces : List (Piece α)}
    (h : .slot j ∈ expand k value pieces) : .slot j ∈ pieces ∧ j ≠ k := by
  induction pieces with
  | nil => cases h
  | cons piece pieces ih =>
      cases piece with
      | element a =>
          rcases List.mem_cons.mp h with heq | hmem
          · cases heq
          · exact ⟨List.mem_cons_of_mem _ (ih hmem).1, (ih hmem).2⟩
      | slot i =>
          rw [expand] at h
          split at h
          · rcases List.mem_append.mp h with hvalue | hmem
            · rcases List.mem_map.mp hvalue with ⟨a, _, heq⟩
              cases heq
            · exact ⟨List.mem_cons_of_mem _ (ih hmem).1, (ih hmem).2⟩
          · next hne =>
              rcases List.mem_cons.mp h with heq | hmem
              · cases heq
                exact ⟨List.mem_cons_self, hne⟩
              · exact ⟨List.mem_cons_of_mem _ (ih hmem).1, (ih hmem).2⟩

end Fill

variable [DecidableEq α]

theorem count_expand {j k : Nat} (hne : j ≠ k) (value : List α) (pieces : List (Piece α)) :
    (expand k value pieces).count (.slot j) = pieces.count (.slot j) := by
  induction pieces with
  | nil => rfl
  | cons piece pieces ih =>
      cases piece with
      | element a => rw [expand, List.count_cons, List.count_cons, ih]
      | slot i =>
          rw [expand]
          split
          · next heq =>
              have hvalue : (value.map Piece.element).count (.slot j) = 0 := by
                rw [List.count_eq_zero]
                intro hmem
                rcases List.mem_map.mp hmem with ⟨a, _, ha⟩
                cases ha
              have hother : (Piece.slot i : Piece α) ≠ .slot j := by
                intro hslot
                exact hne ((Piece.slot.inj hslot).symm.trans heq)
              rw [List.count_append, hvalue, ih, Nat.zero_add, List.count_cons_of_ne hother]
          · rw [List.count_cons, List.count_cons, ih]

/-!
## One name at a time
-/

/-- Every name begins with the mark and a second element, with no other mark.  A name goes on
after an earlier one only with a digit. -/
structure Named (mark second : α) (isDigit : α -> Bool) (names : Nat -> List α) : Prop where
  name : forall k, exists body, names k = mark :: second :: body
  unmarked : forall k, mark ∉ (names k).tail
  longer : forall j k, j < k -> forall rest, names k <+: names j ++ rest ->
    exists a more, rest = a :: more ∧ isDigit a = true

/-- In the text with the later values in place, the name occurs in the slots and nowhere else. -/
def Alone (names values : Nat -> List α) (pieces : List (Piece α)) (k : Nat) : Prop :=
  occurrences (names k) (fill (stage names values k) pieces) = pieces.count (.slot k)

/-- The names are replaced by their values, the `n`-th first. -/
def replaceDown (names values : Nat -> List α) : Nat -> List α -> List α
  | 0, text => text
  | n + 1, text =>
      replaceDown names values n (replaceAll (names (n + 1)) (values (n + 1)) 0 text)

section Named

variable {mark second : α} {isDigit : α -> Bool} {names values : Nat -> List α}

omit [DecidableEq α] in
/-- What stands in a slot has one mark, its first element. -/
theorem Named.split (h : Named mark second isDigit names) (k : Nat) :
    exists body, names k = mark :: body ∧ mark ∉ body := by
  rcases h.name k with ⟨body, heq⟩
  have hunmarked := h.unmarked k
  rw [heq] at hunmarked
  exact ⟨_, heq, hunmarked⟩

theorem Named.occurrences_slot (h : Named mark second isDigit names) (j k : Nat)
    (rest : List α) :
    occurrences (names k) (names j ++ rest) =
      (if names k <+: names j ++ rest then 1 else 0) + occurrences (names k) rest := by
  rcases h.split j with ⟨body, hj, hbody⟩
  rcases h.split k with ⟨other, hk, _⟩
  rw [hj, hk, List.cons_append, occurrences, occurrences_append hbody]

theorem Named.replaceAll_slot (h : Named mark second isDigit names) {j k : Nat} {rest : List α}
    (hother : ¬ names k <+: names j ++ rest) (value : List α) :
    replaceAll (names k) value 0 (names j ++ rest) =
      names j ++ replaceAll (names k) value 0 rest := by
  rcases h.split j with ⟨body, hj, hbody⟩
  rcases h.split k with ⟨other, hk, _⟩
  rw [hj, hk, List.cons_append] at hother
  rw [hj, hk, List.cons_append, replaceAll_cons hother, replaceAll_append hbody,
    List.cons_append]

theorem Named.replaceAll_self (h : Named mark second isDigit names) (k : Nat)
    (value rest : List α) :
    replaceAll (names k) value 0 (names k ++ rest) =
      value ++ replaceAll (names k) value 0 rest := by
  rcases h.split k with ⟨body, hk, _⟩
  rw [hk]
  exact replaceAll_occurrence rest

/-- The name occurs in its own slots. -/
theorem Named.count_le_occurrences (h : Named mark second isDigit names) (k : Nat)
    (pieces : List (Piece α)) :
    pieces.count (.slot k) ≤ occurrences (names k) (fill names pieces) := by
  induction pieces with
  | nil => exact Nat.le_refl 0
  | cons piece pieces ih =>
      cases piece with
      | element a =>
          rw [List.count_cons_of_ne (by intro heq; cases heq), fill, occurrences]
          omega
      | slot j =>
          rw [fill, h.occurrences_slot]
          rcases Classical.em (j = k) with heq | hne
          · rw [heq, List.count_cons_self, if_pos (List.prefix_append _ _)]
            omega
          · have hslot : (Piece.slot j : Piece α) ≠ .slot k := fun heq => hne (Piece.slot.inj heq)
            rw [List.count_cons_of_ne hslot]
            omega

/-- Where the name occurs nowhere but in its slots, only these are filled. -/
theorem Named.replaceAll_fill (h : Named mark second isDigit names) {k : Nat} (value : List α)
    {pieces : List (Piece α)}
    (halone : occurrences (names k) (fill names pieces) = pieces.count (.slot k)) :
    replaceAll (names k) value 0 (fill names pieces) = fill names (expand k value pieces) := by
  induction pieces with
  | nil => rfl
  | cons piece pieces ih =>
      have hcount := h.count_le_occurrences k pieces
      cases piece with
      | element a =>
          rw [List.count_cons_of_ne (by intro heq; cases heq), fill, occurrences] at halone
          have hnot : ¬ names k <+: a :: fill names pieces := by
            intro hprefix
            rw [if_pos hprefix] at halone
            omega
          rw [if_neg hnot, Nat.zero_add] at halone
          rw [fill, replaceAll_cons hnot, ih halone, expand, fill]
      | slot j =>
          rw [fill, h.occurrences_slot] at halone
          rcases Classical.em (j = k) with heq | hne
          · rw [heq, List.count_cons_self, if_pos (List.prefix_append _ _)] at halone
            rw [heq, fill, h.replaceAll_self, ih (by omega), expand, if_pos rfl, fill_append,
              fill_elements]
          · have hslot : (Piece.slot j : Piece α) ≠ .slot k := fun heq => hne (Piece.slot.inj heq)
            rw [List.count_cons_of_ne hslot] at halone
            have hnot : ¬ names k <+: names j ++ fill names pieces := by
              intro hprefix
              rw [if_pos hprefix] at halone
              omega
            rw [if_neg hnot, Nat.zero_add] at halone
            rw [fill, h.replaceAll_slot hnot, ih halone, expand, if_neg hne, fill]

/-!
## All names
-/

omit [DecidableEq α] in
/-- At a stage that no slot comes after, the slots have their names. -/
theorem fill_stage {n : Nat} {pieces : List (Piece α)}
    (hslots : forall j, .slot j ∈ pieces -> 0 < j ∧ j ≤ n) :
    fill (stage names values n) pieces = fill names pieces := by
  apply fill_congr
  intro j hj
  exact if_neg (Nat.not_lt.mpr (hslots j hj).2)

omit [DecidableEq α] in
theorem slots_expand {n : Nat} {pieces : List (Piece α)} {value : List α}
    (hslots : forall j, .slot j ∈ pieces -> 0 < j ∧ j ≤ n + 1) :
    forall j, .slot j ∈ expand (n + 1) value pieces -> 0 < j ∧ j ≤ n := by
  intro j hj
  rcases slot_mem_expand hj with ⟨hmem, hne⟩
  have hbounds := hslots j hmem
  omega

omit [DecidableEq α] in
theorem fill_stage_expand {k n : Nat} (hk : k < n) (pieces : List (Piece α)) :
    fill (stage names values k) (expand n (values n) pieces) =
      fill (stage names values k) pieces :=
  fill_expand (if_pos hk) pieces

theorem alone_expand {k n : Nat} (hk : k < n) (pieces : List (Piece α)) :
    Alone names values (expand n (values n) pieces) k <-> Alone names values pieces k := by
  rw [Alone, Alone, fill_stage_expand hk, count_expand (Nat.ne_of_lt hk)]

/-- If every name is alone when its turn comes, every slot gets its own value. -/
theorem Named.replaceDown_eq (h : Named mark second isDigit names) {n : Nat}
    {pieces : List (Piece α)} (hslots : forall j, .slot j ∈ pieces -> 0 < j ∧ j ≤ n)
    (halone : forall k, 0 < k -> k ≤ n -> Alone names values pieces k) :
    replaceDown names values n (fill names pieces) = fill (stage names values 0) pieces := by
  induction n generalizing pieces with
  | zero =>
      rw [replaceDown]
      apply fill_congr
      intro j hj
      have hbounds := hslots j hj
      omega
  | succ n ih =>
      have hlast := halone (n + 1) n.succ_pos (Nat.le_refl _)
      rw [Alone, fill_stage hslots] at hlast
      rw [replaceDown, h.replaceAll_fill _ hlast, ih (slots_expand hslots)]
      · exact fill_stage_expand n.succ_pos pieces
      · intro k hpos hk
        exact (alone_expand (Nat.lt_succ_of_le hk) pieces).mpr (halone k hpos (by omega))

/-!
## Names that occur elsewhere
-/

/-- What follows a slot: no digit, no other slot, and nothing that begins like a name. -/
def Follows (mark second : α) (isDigit : α -> Bool) : List (Piece α) -> Prop
  | [] => True
  | .slot _ :: _ => False
  | .element a :: pieces =>
      isDigit a = false ∧ (a = mark -> forall more, pieces ≠ .element second :: more)

def Apart (mark second : α) (isDigit : α -> Bool) : List (Piece α) -> Prop
  | [] => True
  | .element _ :: pieces => Apart mark second isDigit pieces
  | .slot _ :: pieces => Follows mark second isDigit pieces ∧ Apart mark second isDigit pieces

/-- The text is that of the template up to a mark where a name begins, and has another element
there. -/
def Departs (mark second : α) (names : Nat -> List α) (pieces : List (Piece α)) (text : List α) :
    Prop :=
  exists before after a more, pieces = before ++ .element mark :: .element second :: after ∧
    text = fill names before ++ a :: more ∧ a ≠ mark ∧ a ≠ second

/-- A value is not empty, and does not begin like a name. -/
def Begins (mark second : α) (value : List α) : Prop :=
  exists a more, value = a :: more ∧ a ≠ mark ∧ a ≠ second

omit [DecidableEq α] in
theorem apart_append {pieces others : List (Piece α)}
    (h : Apart mark second isDigit (pieces ++ others)) : Apart mark second isDigit others := by
  induction pieces with
  | nil => exact h
  | cons piece pieces ih =>
      cases piece with
      | element a => exact ih h
      | slot j => exact ih h.2

omit [DecidableEq α] in
theorem apart_front {pieces others : List (Piece α)}
    (h : Apart mark second isDigit (pieces ++ .element mark :: .element second :: others)) :
    Apart mark second isDigit pieces := by
  induction pieces with
  | nil => trivial
  | cons piece pieces ih =>
      cases piece with
      | element a => exact ih h
      | slot j =>
          refine ⟨?_, ih h.2⟩
          cases pieces with
          | nil => trivial
          | cons next pieces =>
              cases next with
              | slot i => exact h.1
              | element b =>
                  refine ⟨h.1.1, ?_⟩
                  intro hb more heq
                  exact h.1.2 hb _ (by rw [heq]; rfl)

omit [DecidableEq α] in
theorem Named.second_ne (h : Named mark second isDigit names) : second ≠ mark := by
  rcases h.name 0 with ⟨body, heq⟩
  have hunmarked := h.unmarked 0
  rw [heq, List.tail_cons, List.mem_cons, not_or] at hunmarked
  exact Ne.symm hunmarked.1

omit [DecidableEq α] in
theorem follows_expand {k : Nat} {value : List α} (hvalue : Begins mark second value)
    {pieces : List (Piece α)} (h : Follows mark second isDigit pieces) :
    Follows mark second isDigit (expand k value pieces) := by
  cases pieces with
  | nil => trivial
  | cons piece pieces =>
      cases piece with
      | slot j => exact absurd h id
      | element a =>
          refine ⟨h.1, ?_⟩
          intro ha more heq
          cases pieces with
          | nil => cases heq
          | cons next pieces =>
              cases next with
              | element b =>
                  rw [expand] at heq
                  exact h.2 ha pieces (by rw [(List.cons.inj heq).1])
              | slot j =>
                  rcases hvalue with ⟨c, rest, hc, _, hne⟩
                  rw [expand] at heq
                  split at heq
                  · rw [hc] at heq
                    exact hne (Piece.element.inj (List.cons.inj heq).1)
                  · cases heq

omit [DecidableEq α] in
theorem apart_expand {k : Nat} {value : List α} (hvalue : Begins mark second value)
    {pieces : List (Piece α)} (h : Apart mark second isDigit pieces) :
    Apart mark second isDigit (expand k value pieces) := by
  have hvalues : forall (text : List α) (others : List (Piece α)),
      Apart mark second isDigit others ->
        Apart mark second isDigit (text.map .element ++ others) := by
    intro text others hothers
    induction text with
    | nil => exact hothers
    | cons a text ih => exact ih
  induction pieces with
  | nil => trivial
  | cons piece pieces ih =>
      cases piece with
      | element a => exact ih h
      | slot j =>
          rw [expand]
          split
          · exact hvalues value _ (ih h.2)
          · exact ⟨follows_expand hvalue h.1, ih h.2⟩

theorem Named.replaceAll_prefix (h : Named mark second isDigit names) {k : Nat} (value : List α)
    {text : List α} (hoccurs : names k <+: text) :
    exists rest, replaceAll (names k) value 0 text = value ++ rest := by
  rcases hoccurs with ⟨rest, heq⟩
  exact ⟨_, by rw [← heq, h.replaceAll_self]⟩

omit [DecidableEq α] in
/-- A name that begins at an element begins with the first two elements of names. -/
theorem Named.occurs_element (h : Named mark second isDigit names) {k : Nat} {a : α}
    {pieces : List (Piece α)} {text : List α} (htext : text = [] ∨ Begins mark second text)
    (hoccurs : names k <+: a :: (fill names pieces ++ text)) :
    a = mark ∧ exists after, pieces = .element second :: after := by
  rcases h.name k with ⟨body, hname⟩
  rcases hoccurs with ⟨rest, hrest⟩
  rw [hname, List.cons_append, List.cons_append] at hrest
  rcases List.cons.inj hrest with ⟨hmark, hnext⟩
  refine ⟨hmark.symm, ?_⟩
  cases pieces with
  | nil =>
      rcases htext with hnil | ⟨d, others, hd, _, hdsecond⟩
      · rw [hnil] at hnext
        cases hnext
      · rw [fill, List.nil_append, hd] at hnext
        exact absurd (List.cons.inj hnext).1.symm hdsecond
  | cons next pieces =>
      cases next with
      | element b =>
          rw [fill, List.cons_append] at hnext
          exact ⟨pieces, by rw [(List.cons.inj hnext).1]⟩
      | slot j =>
          rcases h.name j with ⟨other, hj⟩
          rw [fill, hj, List.cons_append, List.cons_append] at hnext
          exact absurd (List.cons.inj hnext).1 h.second_ne

/-- A step either fills the slots and nothing else, or makes the text depart where the name occurs
elsewhere. -/
theorem Named.replaceAll_cases (h : Named mark second isDigit names) {k : Nat} {value : List α}
    (hvalue : Begins mark second value) {pieces : List (Piece α)}
    (hapart : Apart mark second isDigit pieces) (hslots : forall j, .slot j ∈ pieces -> j ≤ k)
    {text : List α} (htext : text = [] ∨ Begins mark second text)
    (hends : forall front j, pieces = front ++ [.slot j] -> text = []) :
    (occurrences (names k) (fill names pieces ++ text) =
        pieces.count (.slot k) + occurrences (names k) text ∧
      replaceAll (names k) value 0 (fill names pieces ++ text) =
        fill names (expand k value pieces) ++ replaceAll (names k) value 0 text) ∨
    exists before after a more, pieces = before ++ .element mark :: .element second :: after ∧
      replaceAll (names k) value 0 (fill names pieces ++ text) =
        fill names (expand k value before) ++ a :: more ∧ a ≠ mark ∧ a ≠ second := by
  induction pieces with
  | nil => exact Or.inl ⟨(Nat.zero_add _).symm, rfl⟩
  | cons piece pieces ih =>
      have hslots' : forall j, .slot j ∈ pieces -> j ≤ k :=
        fun j hj => hslots j (List.mem_cons_of_mem _ hj)
      have hends' : forall front j, pieces = front ++ [.slot j] -> text = [] :=
        fun front j heq => hends (piece :: front) j (by rw [heq, List.cons_append])
      cases piece with
      | element a =>
          rw [fill, List.cons_append]
          rcases Classical.em (names k <+: a :: (fill names pieces ++ text)) with hoccurs | hnot
          · right
            rcases h.occurs_element htext hoccurs with ⟨hmark, after, hpieces⟩
            rcases h.replaceAll_prefix value hoccurs with ⟨rest, hreplaced⟩
            rcases hvalue with ⟨c, more, hc, hcmark, hcsecond⟩
            refine ⟨[], after, c, more ++ rest, ?_, ?_, hcmark, hcsecond⟩
            · rw [hmark, hpieces, List.nil_append]
            · rw [hreplaced]
              exact congrArg (· ++ rest) hc
          · rw [replaceAll_cons hnot, occurrences, if_neg hnot, Nat.zero_add]
            rcases ih hapart hslots' hends' with hfills | ⟨before, after, c, more, hsplit, hdeparts⟩
            · left
              rw [hfills.1, hfills.2, List.count_cons_of_ne (by intro heq; cases heq)]
              exact ⟨rfl, rfl⟩
            · right
              refine ⟨.element a :: before, after, c, more, ?_, ?_, hdeparts.2⟩
              · rw [hsplit, List.cons_append]
              · rw [hdeparts.1]
                rfl
      | slot j =>
          rw [fill, List.append_assoc]
          rcases Classical.em (j = k) with heq | hne
          · rw [heq, h.replaceAll_self, h.occurrences_slot, if_pos (List.prefix_append _ _)]
            rcases ih hapart.2 hslots' hends' with hfills | ⟨before, after, c, more, hsplit, hdeparts⟩
            · left
              rw [hfills.1, hfills.2, List.count_cons_self, expand, if_pos rfl, fill_append,
                fill_elements, List.append_assoc]
              exact ⟨by omega, rfl⟩
            · right
              refine ⟨.slot k :: before, after, c, more, ?_, ?_, hdeparts.2⟩
              · rw [hsplit, List.cons_append]
              · rw [hdeparts.1, expand, if_pos rfl, fill_append, fill_elements, List.append_assoc]
          · have hless : j < k := Nat.lt_of_le_of_ne (hslots j List.mem_cons_self) hne
            have hnot : ¬ names k <+: names j ++ (fill names pieces ++ text) := by
              intro hoccurs
              rcases h.longer j k hless _ hoccurs with ⟨d, more, hd, hdigit⟩
              cases pieces with
              | nil =>
                  rw [hends [] j rfl] at hd
                  cases hd
              | cons next pieces =>
                  cases next with
                  | slot i => exact hapart.1
                  | element b =>
                      rw [fill, List.cons_append] at hd
                      rw [← (List.cons.inj hd).1, hapart.1.1] at hdigit
                      cases hdigit
            have hslot : (Piece.slot j : Piece α) ≠ .slot k := fun heq => hne (Piece.slot.inj heq)
            rw [h.replaceAll_slot hnot, h.occurrences_slot, if_neg hnot, Nat.zero_add]
            rcases ih hapart.2 hslots' hends' with hfills | ⟨before, after, c, more, hsplit, hdeparts⟩
            · left
              rw [hfills.1, hfills.2, List.count_cons_of_ne hslot, expand, if_neg hne, fill,
                List.append_assoc]
              exact ⟨rfl, rfl⟩
            · right
              refine ⟨.slot j :: before, after, c, more, ?_, ?_, hdeparts.2⟩
              · rw [hsplit, List.cons_append]
              · rw [hdeparts.1, expand, if_neg hne, fill, List.append_assoc]

/-- Once the text has departed, it departs after each step. -/
theorem Named.departs_step (h : Named mark second isDigit names) {k : Nat} {value : List α}
    (hvalue : Begins mark second value) {pieces : List (Piece α)} {text : List α}
    (hapart : Apart mark second isDigit pieces) (hslots : forall j, .slot j ∈ pieces -> j ≤ k)
    (hdeparts : Departs mark second names pieces text) :
    Departs mark second names (expand k value pieces) (replaceAll (names k) value 0 text) := by
  rcases hdeparts with ⟨before, after, a, more, hpieces, htext, ha, hasecond⟩
  have hexpand : expand k value pieces =
      expand k value before ++ .element mark :: .element second :: expand k value after := by
    rw [hpieces, expand_append]
    rfl
  have hslots' : forall j, .slot j ∈ before -> j ≤ k := by
    intro j hj
    apply hslots
    rw [hpieces]
    exact List.mem_append_left _ hj
  have hends : forall front j, before = front ++ [.slot j] -> a :: more = [] := by
    intro front j hfront
    rw [hpieces, hfront, List.append_assoc] at hapart
    exact absurd rfl ((apart_append hapart).1.2 rfl _)
  rw [htext, hexpand]
  rcases h.replaceAll_cases hvalue (apart_front (hpieces ▸ hapart)) hslots'
    (Or.inr ⟨a, more, rfl, ha, hasecond⟩) hends with
    ⟨_, hfills⟩ | ⟨before', after', c, rest, hbefore, hdeparts, hc⟩
  · rcases h.split k with ⟨body, hname, _⟩
    refine ⟨_, _, a, replaceAll (names k) value 0 more, rfl, ?_, ha, hasecond⟩
    rw [hfills, hname, replaceAll_cons (not_prefix_of_ne ha _)]
  · refine ⟨expand k value before', expand k value after' ++ .element mark :: .element second ::
      expand k value after, c, rest, ?_, hdeparts, hc⟩
    rw [hbefore, expand_append, List.append_assoc]
    rfl

/-- What has departed does not come back. -/
theorem Named.replaceDown_ne (h : Named mark second isDigit names) {n : Nat}
    (hvalues : forall k, 0 < k -> k ≤ n -> Begins mark second (values k))
    {pieces : List (Piece α)} {text : List α} (hapart : Apart mark second isDigit pieces)
    (hslots : forall j, .slot j ∈ pieces -> 0 < j ∧ j ≤ n)
    (hdeparts : Departs mark second names pieces text) :
    replaceDown names values n text ≠ fill (stage names values 0) pieces := by
  induction n generalizing pieces text with
  | zero =>
      rcases hdeparts with ⟨before, after, a, more, hpieces, htext, ha, _⟩
      have hbefore : fill (stage names values 0) before = fill names before := by
        apply fill_congr
        intro j hj
        have hbounds := hslots j (by rw [hpieces]; exact List.mem_append_left _ hj)
        omega
      rw [replaceDown, htext, hpieces, fill_append, hbefore]
      intro heq
      exact ha (List.cons.inj (List.append_cancel_left heq)).1
  | succ n ih =>
      have hlast := hvalues (n + 1) n.succ_pos (Nat.le_refl _)
      rw [replaceDown, ← fill_stage_expand n.succ_pos pieces]
      exact ih (fun k hpos hk => hvalues k hpos (by omega)) (apart_expand hlast hapart)
        (slots_expand hslots)
        (h.departs_step hlast hapart (fun j hj => (hslots j hj).2) hdeparts)

/-- If nothing follows a slot that its name may go on with, every slot gets its own value only if
every name is alone when its turn comes. -/
theorem Named.alone_of_replaceDown (h : Named mark second isDigit names) {n : Nat}
    (hvalues : forall k, 0 < k -> k ≤ n -> Begins mark second (values k))
    {pieces : List (Piece α)} (hapart : Apart mark second isDigit pieces)
    (hslots : forall j, .slot j ∈ pieces -> 0 < j ∧ j ≤ n)
    (hfilled : replaceDown names values n (fill names pieces) =
      fill (stage names values 0) pieces) :
    forall k, 0 < k -> k ≤ n -> Alone names values pieces k := by
  induction n generalizing pieces with
  | zero =>
      intro k hpos hk
      omega
  | succ n ih =>
      have hlast := hvalues (n + 1) n.succ_pos (Nat.le_refl _)
      have hbound : forall j, .slot j ∈ pieces -> j ≤ n + 1 := fun j hj => (hslots j hj).2
      have hbefore : forall k, 0 < k -> k ≤ n -> Begins mark second (values k) :=
        fun k hpos hk => hvalues k hpos (by omega)
      have hcases := h.replaceAll_cases hlast hapart hbound (Or.inl rfl) fun _ _ _ => rfl
      rw [List.append_nil] at hcases
      rw [replaceDown, ← fill_stage_expand n.succ_pos pieces] at hfilled
      rcases hcases with ⟨hcount, hfills⟩ | ⟨before, after, a, more, hpieces, htext, ha⟩
      · rw [replaceAll, List.append_nil] at hfills
        rw [hfills] at hfilled
        have hrest := ih hbefore (apart_expand hlast hapart) (slots_expand hslots) hfilled
        intro k hpos hk
        rcases Nat.lt_or_eq_of_le hk with hless | heq
        · exact (alone_expand hless pieces).mp (hrest k hpos (by omega))
        · rw [heq, Alone, fill_stage hslots]
          exact hcount
      · have hdeparts : Departs mark second names (expand (n + 1) (values (n + 1)) pieces)
            (replaceAll (names (n + 1)) (values (n + 1)) 0 (fill names pieces)) := by
          refine ⟨_, expand (n + 1) (values (n + 1)) after, a, more, ?_, htext, ha⟩
          rw [hpieces, expand_append]
          rfl
        exact absurd hfilled (h.replaceDown_ne hbefore (apart_expand hlast hapart)
          (slots_expand hslots) hdeparts)

end Named

end Templates
end KeepGateway
