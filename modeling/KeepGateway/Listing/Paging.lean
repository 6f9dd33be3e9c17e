import KeepGateway.Cel.SqlProviders
import KeepGateway.Lib.Except

/-!
# Pages of alerts

`query_last_alerts` of `repositories/alerts.py`, with the rows that match as a list in the order
of the query.
-/

namespace KeepGateway
namespace Listing
namespace Paging

open Cel (Dialect)

/-!
## The query
-/

structure SortOptionsDto where
  sortBy : Option String
  sortDir : Option String
  deriving DecidableEq, Repr

structure QueryDto where
  cel : Option String
  limit : Option Int
  offset : Option Int
  sortBy : Option String
  sortDir : Option String
  sortOptions : Option (List SortOptionsDto)
  deriving DecidableEq, Repr

inductive PageFailure where
  /-- an addition with `None` -/
  | typeError
  /-- a query that the database refuses -/
  | databaseError
  deriving DecidableEq, Repr

/-- The sort options of a query, by the time where there are none. -/
def QueryDto.withSortOptions (query : QueryDto) : QueryDto :=
  let query :=
    match query.sortBy with
    | none => query
    | some sortBy => { query with sortOptions := some [⟨some sortBy, query.sortDir⟩] }
  match query.sortOptions with
  | none => { query with sortOptions := some [⟨some "timestamp", some "desc"⟩] }
  | some [] => { query with sortOptions := some [⟨some "timestamp", some "desc"⟩] }
  | some (_ :: _) => query

/-- The clamp to `ALERTS_HARD_LIMIT`. -/
def QueryDto.clamp (hardLimit : Int) (query : QueryDto) : Except PageFailure QueryDto :=
  match query.offset, query.limit with
  | some offset, some limit =>
      if hardLimit < offset + limit then .ok { query with limit := some (hardLimit - offset) }
      else .ok query
  | _, _ => .error .typeError

/-- The query as it is sent. -/
def QueryDto.sent (hardLimit : Int) (query : QueryDto) : Except PageFailure QueryDto :=
  query.withSortOptions.clamp hardLimit

/-!
## Pages
-/

section

variable {α : Type} (dialect : Dialect) (hardLimit : Int)

/-- `OFFSET`; SQLite takes a negative one as zero. -/
def skip (offset : Option Int) (rows : List α) : Except PageFailure (List α) :=
  match offset with
  | none => .ok rows
  | some offset =>
      if offset < 0 ∧ dialect ≠ .sqlite then .error .databaseError
      else .ok (rows.drop offset.toNat)

/-- `LIMIT`; SQLite takes a negative one as none. -/
def takeLimit (limit : Option Int) (rows : List α) : Except PageFailure (List α) :=
  match limit with
  | none => .ok rows
  | some limit =>
      if 0 ≤ limit then .ok (rows.take limit.toNat)
      else if dialect = .sqlite then .ok rows
      else .error .databaseError

/-- `query_last_alerts`; `matching` are the rows of the query, in its order, without a limit. -/
def queryLastAlerts (matching : Option String -> Option (List SortOptionsDto) -> List α)
    (query : QueryDto) : Except PageFailure (List α) := do
  let query <- query.sent hardLimit
  let rows <- skip dialect query.offset (matching query.cel query.sortOptions)
  takeLimit dialect query.limit rows

end

/-- The query for a page. -/
def QueryDto.page (query : QueryDto) (size page : Nat) : QueryDto :=
  { query with limit := some size, offset := some (page * size) }

/-!
## Runs over pages
-/

section

variable {α : Type} (dialect : Dialect) (hardLimit : Int)
  (matching : Option String -> Option (List SortOptionsDto) -> List α) (query : QueryDto)

/-- The rows that match, in the order of the query. -/
def QueryDto.matched : List α :=
  matching query.withSortOptions.cel query.withSortOptions.sortOptions

/-- A number of pages from the first one on, one after the other. -/
structure PagesLossless (size count : Nat) : Prop where
  bounded : forall page, page < count -> exists sent limit,
    (query.page size page).sent hardLimit = .ok sent ∧ sent.limit = some limit ∧ 0 ≤ limit
  concatenated : exists pages : Nat -> List α,
    (forall page, page < count ->
      queryLastAlerts dialect hardLimit matching (query.page size page) = .ok (pages page)) ∧
    (List.range count).flatMap pages =
      ((query.matched matching).take hardLimit.toNat).take (count * size)
  past : forall page, page < count ->
    ((query.matched matching).take hardLimit.toNat).length ≤ page * size ->
      queryLastAlerts dialect hardLimit matching (query.page size page) = .ok []

end

section

variable {α : Type} {dialect : Dialect} {hardLimit : Int}
  {matching : Option String -> Option (List SortOptionsDto) -> List α} {query : QueryDto}

theorem QueryDto.page_withSortOptions (size page : Nat) :
    (query.page size page).withSortOptions = query.withSortOptions.page size page := by
  unfold withSortOptions
  cases hby : query.sortBy with
  | none =>
      cases hoptions : query.sortOptions with
      | none => simp only [QueryDto.page, hby, hoptions]
      | some options =>
          cases options with
          | nil => simp only [QueryDto.page, hby, hoptions]
          | cons option rest => simp only [QueryDto.page, hby, hoptions]
  | some sortBy => simp only [QueryDto.page, hby]

/-- The limit of a page is its size, or what is left up to the hard limit. -/
theorem QueryDto.sent_page (size page : Nat) :
    (query.page size page).sent hardLimit =
      .ok { query.withSortOptions.page size page with
        limit := some (min (size : Int) (hardLimit - page * size)) } := by
  unfold sent
  rw [page_withSortOptions]
  show (if hardLimit < (page * size : Int) + size then _ else _) = _
  split
  case isTrue hover =>
    rw [Int.min_eq_right (by omega)]
  case isFalse hunder =>
    rw [Int.min_eq_left (by omega)]
    rfl

/-- The page of an offset within the hard limit. -/
theorem queryLastAlerts_page {size page : Nat} (h : (page * size : Int) ≤ hardLimit) :
    queryLastAlerts dialect hardLimit matching (query.page size page) =
      .ok ((((query.matched matching).take hardLimit.toNat).drop (page * size)).take size) := by
  have hskip : skip dialect (some (page * size : Int)) (query.matched matching) =
      .ok ((query.matched matching).drop (page * size)) := by
    unfold skip
    have hnonneg : ¬ ((page * size : Int) < 0 ∧ dialect ≠ .sqlite) := fun hneg =>
      Int.not_lt.mpr (Int.natCast_nonneg (page * size)) hneg.1
    show (if (page * size : Int) < 0 ∧ dialect ≠ .sqlite then _ else _) = _
    rw [if_neg hnonneg]
    rfl
  have hlimit : (0 : Int) ≤ min (size : Int) (hardLimit - page * size) :=
    Int.le_min.mpr ⟨Int.natCast_nonneg size, by omega⟩
  have hcount : (min (size : Int) (hardLimit - page * size)).toNat =
      min size (hardLimit.toNat - page * size) := by omega
  unfold queryLastAlerts
  rw [QueryDto.sent_page]
  show (skip dialect (some (page * size : Int)) (query.matched matching) >>=
    takeLimit dialect (some (min (size : Int) (hardLimit - page * size)))) = _
  rw [hskip]
  show (if 0 ≤ min (size : Int) (hardLimit - page * size) then _ else _) = _
  rw [if_pos hlimit, hcount, List.drop_take, List.take_take]

/-- The pages up to an offset are the rows up to it. -/
theorem flatMap_pages (rows : List α) (size count : Nat) :
    ((List.range count).flatMap fun page => (rows.drop (page * size)).take size) =
      rows.take (count * size) := by
  induction count with
  | zero => rw [Nat.zero_mul, List.take_zero]; rfl
  | succ count ih =>
      rw [List.range_succ, List.flatMap_append, ih, List.flatMap_singleton, Nat.succ_mul,
        List.take_add]

/-- A run over pages is lossless and bounded exactly if no offset is past the hard limit. -/
theorem pagesLossless_iff (dialect : Dialect) (hardLimit : Int)
    (matching : Option String -> Option (List SortOptionsDto) -> List α) (query : QueryDto)
    (size count : Nat) :
    PagesLossless dialect hardLimit matching query size count <->
      forall page : Nat, page < count -> (page * size : Int) ≤ hardLimit := by
  constructor
  · intro h page hpage
    rcases h.bounded page hpage with ⟨sent, limit, hsent, hlimit, hnonneg⟩
    rw [QueryDto.sent_page] at hsent
    rw [← Except.ok.inj hsent] at hlimit
    have hmin := Option.some.inj hlimit
    have hleft := Int.min_le_right (size : Int) (hardLimit - page * size)
    omega
  · intro h
    refine ⟨?_, ?_, ?_⟩
    · intro page hpage
      have hoffset := h page hpage
      exact ⟨_, _, QueryDto.sent_page size page, rfl,
        Int.le_min.mpr ⟨Int.natCast_nonneg size, by omega⟩⟩
    · exact ⟨_, fun page hpage => queryLastAlerts_page (h page hpage), flatMap_pages _ size count⟩
    · intro page hpage hpast
      rw [queryLastAlerts_page (h page hpage), List.drop_eq_nil_of_le hpast, List.take_nil]

end

/-!
## Beyond the hard limit
-/

namespace PageSample

/-- All alerts, with the latest first. -/
def query : QueryDto := ⟨none, none, none, none, none, none⟩

def noAlerts (_ : Option String) (_ : Option (List SortOptionsDto)) : List Nat := []

end PageSample

open PageSample in
/-- The page at 60000 of at most 50000 alerts is sent with a limit of -10000. -/
theorem fourthPage_not_pagesLossless :
    ¬ forall (dialect : Dialect) (hardLimit : Int)
        (matching : Option String -> Option (List SortOptionsDto) -> List Nat) (query : QueryDto)
        (size count : Nat), 0 ≤ hardLimit -> 1 ≤ size ->
          PagesLossless dialect hardLimit matching query size count := by
  intro h
  rcases (h .postgresql 50000 noAlerts query 20000 4 (by decide) (by decide)).bounded 3
    (by decide) with ⟨sent, limit, hsent, hlimit, hnonneg⟩
  have hclamped : (query.page 20000 3).sent 50000 = .ok { (query.page 20000 3) with
      limit := some (-10000)
      sortOptions := some [⟨some "timestamp", some "desc"⟩] } := rfl
  rw [hclamped] at hsent
  rw [← Except.ok.inj hsent] at hlimit
  rw [← Option.some.inj hlimit] at hnonneg
  exact absurd hnonneg (by decide)

end Paging
end Listing
end KeepGateway
