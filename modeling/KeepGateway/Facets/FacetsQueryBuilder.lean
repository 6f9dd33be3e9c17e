import KeepGateway.Cel.CelToSql
import KeepGateway.Lib.Dict
import KeepGateway.Lib.Except

/-!
# The facets query builder

`build_facets_data_query` builds one subquery for each facet and joins them by `UNION ALL`.
The filter of a facet is the text of the global filter and that of the facet with `&&`
between them.  The base query, the selected columns and the joins of array columns follow
from the fields that a subquery shows and are left out.
-/

namespace KeepGateway
namespace Facets

open Cel (Celpy CelToSqlResult DataType Dialect Failure PropertiesMetadata PropertyMetadataInfo Provider
  PyException)

structure FacetDto where
  id : String
  propertyPath : String
  deriving DecidableEq, Repr

structure FacetOptionsQueryDto where
  cel : Option String
  facetQueries : Option (List (String × String))

/-- `get_facet_key`; `sha1` is the hash of a text in hexadecimal digits. -/
def getFacetKey (sha1 : String -> String) (facetPropertyPath : String)
    (filterCel facetCel : Option String) : String :=
  facetPropertyPath ++ sha1 (filterCel.getD "" ++ facetCel.getD "")

/-- `" && ".join(filter(lambda cel: cel, cel_queries))` -/
def joinCel (celQueries : List (Option String)) : String :=
  " && ".intercalate ((celQueries.filterMap id).filter fun cel => cel != "")

namespace FacetOptionsQueryDto

variable (query : FacetOptionsQueryDto) (facet : FacetDto)

/-- `facet_queries.get(facet.id)` -/
def facetCel : Option String := (query.facetQueries.getD []).lookup facet.id

/-- The expression that is handed to the converter for a facet. -/
def finalCel : String := joinCel [query.cel, query.facetCel facet]

def facetKey (sha1 : String -> String) : String :=
  getFacetKey sha1 facet.propertyPath query.cel (query.facetCel facet)

end FacetOptionsQueryDto

structure FacetSubquery where
  facetKey : String
  facetPropertyPath : String
  metadata : PropertyMetadataInfo
  involvedFields : List PropertyMetadataInfo
  /-- The text of the WHERE clause, empty where there is none. -/
  sqlFilter : String
  /-- The values of an array are joined as rows of their own. -/
  joinsArray : Bool
  limit : Option Nat
  deriving DecidableEq, Repr

/-- `get_property_metadata_for_str` -/
def getPropertyMetadataForStr (metadata : PropertiesMetadata) (propPathStr : String) :
    Except Failure (Option PropertyMetadataInfo) :=
  match metadata.getPropertyMetadata (Cel.extractFields propPathStr) with
  | .ok info => .ok info
  | .error e => .error (.raised e)

/-- Options are limited in the subquery where the dialect can do so. -/
def optionsPerFacet : Dialect -> Option Nat
  | .postgresql => some 50
  | .mysql => some 50
  | .sqlite => none

section Builder

variable (p : Provider) (celpy : Celpy) (sha1 : String -> String)

/-- Without a filter nothing is converted. -/
def convertFacetCel (facetCel : String) : Except Failure CelToSqlResult :=
  if facetCel = "" then .ok ⟨"", []⟩ else p.convertToSqlStr celpy facetCel

def buildFacetSubquery (facetKey facetPropertyPath facetCel : String) :
    Except Failure FacetSubquery := do
  let metadata <- getPropertyMetadataForStr p.metadata facetPropertyPath
  let result <- convertFacetCel p celpy facetCel
  match metadata with
  | none => .error (.raised .attributeError)
  | some metadata =>
      .ok {
        facetKey := facetKey
        facetPropertyPath := facetPropertyPath
        metadata := metadata
        involvedFields := result.involvedFields
        sqlFilter := result.sql
        joinsArray := metadata.dataType == some DataType.array
        limit := optionsPerFacet p.dialect }

/-- One turn of the loop over the facets: the queries so far and the keys of `visited_facets`. -/
def visitFacet (query : FacetOptionsQueryDto) (s : List FacetSubquery × List String)
    (facet : FacetDto) : Except Failure (List FacetSubquery × List String) :=
  let facetKey := query.facetKey facet sha1
  if facetKey ∈ s.2 then .ok s
  else do
    let facetSubQuery <-
      buildFacetSubquery p celpy facetKey facet.propertyPath (query.finalCel facet)
    .ok (s.1 ++ [facetSubQuery], facetKey :: s.2)

/-- The operands of the `UNION ALL`. -/
def buildFacetsDataQuery (query : FacetOptionsQueryDto) (facets : List FacetDto) :
    Except Failure (List FacetSubquery) := do
  let s <- facets.foldlM (visitFacet p celpy sha1 query) ([], [])
  match s.1 with
  | [] => .error (.raised .indexError)
  | unionQueries => .ok unionQueries

end Builder

/-!
## The subqueries of a query
-/

section Subqueries

variable {p : Provider} {celpy : Celpy} {sha1 : String -> String} {query : FacetOptionsQueryDto}

theorem buildFacetSubquery_eq_ok {facetKey facetPropertyPath facetCel : String}
    {subquery : FacetSubquery}
    (h : buildFacetSubquery p celpy facetKey facetPropertyPath facetCel = .ok subquery) :
    subquery.facetKey = facetKey ∧ exists result, p.convertToSqlStr celpy facetCel = .ok result ∧
      subquery.sqlFilter = result.sql ∧ subquery.involvedFields = result.involvedFields := by
  rcases bind_eq_ok.mp h with ⟨metadata, _, h⟩
  rcases bind_eq_ok.mp h with ⟨result, hresult, h⟩
  have hconverted : p.convertToSqlStr celpy facetCel = .ok result := by
    unfold convertFacetCel at hresult
    split at hresult
    · rename_i hempty
      rw [hempty]
      exact hresult
    · exact hresult
  cases metadata with
  | none => cases h
  | some metadata =>
      cases h
      exact ⟨rfl, result, hconverted, rfl, rfl⟩

/-- The subquery is the one of a facet, built from the filters of the facet. -/
def BuiltFor (p : Provider) (celpy : Celpy) (sha1 : String -> String)
    (query : FacetOptionsQueryDto) (facet : FacetDto) (subquery : FacetSubquery) : Prop :=
  buildFacetSubquery p celpy (query.facetKey facet sha1) facet.propertyPath
    (query.finalCel facet) = .ok subquery

/-- Every subquery belongs to a facet, and every key that was visited to one subquery. -/
structure Covers (p : Provider) (celpy : Celpy) (sha1 : String -> String)
    (query : FacetOptionsQueryDto) (facets : List FacetDto)
    (s : List FacetSubquery × List String) : Prop where
  built : forall subquery, subquery ∈ s.1 ->
    exists facet, facet ∈ facets ∧ BuiltFor p celpy sha1 query facet subquery
  visited : forall facet, facet ∈ facets -> query.facetKey facet sha1 ∈ s.2
  keys : forall key, key ∈ s.2 <-> key ∈ s.1.map FacetSubquery.facetKey
  distinct : (s.1.map FacetSubquery.facetKey).Nodup

theorem covers_visitFacet {facets : List FacetDto} {facet : FacetDto}
    {s s' : List FacetSubquery × List String} (hs : Covers p celpy sha1 query facets s)
    (h : visitFacet p celpy sha1 query s facet = .ok s') :
    Covers p celpy sha1 query (facets ++ [facet]) s' := by
  unfold visitFacet at h
  simp only at h
  split at h
  · rename_i hvisited
    cases h
    constructor
    · intro subquery hmem
      rcases hs.built subquery hmem with ⟨other, hother, hbuilt⟩
      exact ⟨other, List.mem_append_left _ hother, hbuilt⟩
    · intro other hother
      rcases List.mem_append.mp hother with hother | hother
      · exact hs.visited other hother
      · rw [List.mem_singleton.mp hother]
        exact hvisited
    · exact hs.keys
    · exact hs.distinct
  · rename_i hnew
    rcases bind_eq_ok.mp h with ⟨subquery, hsubquery, h⟩
    have hkey := (buildFacetSubquery_eq_ok hsubquery).1
    cases h
    constructor
    · intro other hmem
      rcases List.mem_append.mp hmem with hmem | hmem
      · rcases hs.built other hmem with ⟨earlier, hearlier, hbuilt⟩
        exact ⟨earlier, List.mem_append_left _ hearlier, hbuilt⟩
      · rw [List.mem_singleton.mp hmem]
        exact ⟨facet, List.mem_append_right _ (List.mem_singleton_self _), hsubquery⟩
    · intro other hother
      rcases List.mem_append.mp hother with hother | hother
      · exact List.mem_cons_of_mem _ (hs.visited other hother)
      · rw [List.mem_singleton.mp hother]
        exact List.mem_cons_self
    · intro key
      rw [List.map_append, List.mem_append, List.mem_cons, hs.keys, List.map_singleton,
        List.mem_singleton, hkey, or_comm]
    · rw [List.map_append]
      apply hs.distinct.append (List.nodup_singleton _)
      intro key hmem hlast
      rw [List.mem_singleton.mp hlast, hkey] at hmem
      exact hnew ((hs.keys _).mpr hmem)

theorem covers_foldlM {visited facets : List FacetDto} {s s' : List FacetSubquery × List String}
    (hs : Covers p celpy sha1 query visited s)
    (h : facets.foldlM (visitFacet p celpy sha1 query) s = .ok s') :
    Covers p celpy sha1 query (visited ++ facets) s' := by
  induction facets generalizing visited s with
  | nil =>
      cases h
      rw [List.append_nil]
      exact hs
  | cons facet rest ih =>
      rw [List.foldlM_cons] at h
      rcases bind_eq_ok.mp h with ⟨s1, hvisit, h⟩
      have hcovers := ih (covers_visitFacet hs hvisit) h
      rw [List.append_assoc] at hcovers
      exact hcovers

/-- The subqueries are those of the facets, and every facet has one under its key, which no other
subquery has. -/
theorem buildFacetsDataQuery_spec {facets : List FacetDto} {subqueries : List FacetSubquery}
    (h : buildFacetsDataQuery p celpy sha1 query facets = .ok subqueries) :
    (forall subquery, subquery ∈ subqueries ->
        exists facet, facet ∈ facets ∧ BuiltFor p celpy sha1 query facet subquery) ∧
      (forall facet, facet ∈ facets ->
        query.facetKey facet sha1 ∈ subqueries.map FacetSubquery.facetKey) ∧
      (subqueries.map FacetSubquery.facetKey).Nodup := by
  rcases bind_eq_ok.mp h with ⟨⟨unionQueries, visited⟩, hrun, h⟩
  have hinit : Covers p celpy sha1 query [] ([], []) := by
    constructor
    · intro subquery hmem
      cases hmem
    · intro facet hmem
      cases hmem
    · intro key
      exact Iff.rfl
    · exact List.nodup_nil
  have hcovers := covers_foldlM hinit hrun
  rw [List.nil_append] at hcovers
  have heq : subqueries = unionQueries := by
    cases unionQueries with
    | nil => cases h
    | cons subquery rest =>
        cases h
        rfl
  rw [heq]
  exact ⟨hcovers.built, fun facet hmem => (hcovers.keys _).mp (hcovers.visited facet hmem),
    hcovers.distinct⟩

/-- The last of three facets without filters is the first once more. -/
theorem buildFacetsDataQuery_spec_severity :
    let p : Provider := ⟨Cel.asciiRuntime, .postgresql, id,
      .ofConfigurations [⟨"severity", ["alert.severity"], some .string, []⟩,
        ⟨"status", ["alert.status"], some .string, []⟩]⟩
    let celpy : Celpy := ⟨fun _ => .error ⟨"", none, none⟩, fun _ => ""⟩
    let facets : List FacetDto := [⟨"a", "severity"⟩, ⟨"b", "status"⟩, ⟨"c", "severity"⟩]
    exists subqueries, buildFacetsDataQuery p celpy id ⟨none, none⟩ facets = .ok subqueries ∧
      (forall facet, facet ∈ facets -> FacetOptionsQueryDto.facetKey ⟨none, none⟩ facet id ∈
        subqueries.map FacetSubquery.facetKey) ∧
      (subqueries.map FacetSubquery.facetKey).Nodup := by
  intro p celpy facets
  have hbuilt : buildFacetsDataQuery p celpy id ⟨none, none⟩ facets = .ok _ := rfl
  exact ⟨_, hbuilt, (buildFacetsDataQuery_spec hbuilt).2⟩

end Subqueries

end Facets
end KeepGateway
