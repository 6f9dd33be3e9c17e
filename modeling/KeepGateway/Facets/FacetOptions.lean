import KeepGateway.Facets.FacetsQueryBuilder
import Mathlib.Data.List.Sort

/-!
# Facet options

`get_facet_options` of `facets.py`, from the rows of its query on.
-/

namespace KeepGateway
namespace Facets

open Cel (DataType Dialect Failure PropertiesMetadata PropertyMetadataInfo PyException)

/-!
## Rows and options
-/

/-- A value in a row or an option; `F` are the floats. -/
inductive FacetValue (F : Type) where
  | null
  | text (text : String)
  | int (number : Int)
  | float (number : F)
  | bool (value : Bool)
  deriving DecidableEq, Repr

structure FacetRow (F : Type) where
  facetId : String
  facetValue : FacetValue F
  matchesCount : Option Nat
  deriving DecidableEq, Repr

structure FacetOptionDto (F : Type) where
  displayName : String
  value : FacetValue F
  matchesCount : Nat
  deriving DecidableEq, Repr

/-- `int`, `float` and the text of a float in Python. -/
structure Numbers (F : Type) where
  int : FacetValue F -> Except PyException Int
  float : FacetValue F -> Except PyException F
  floatText : F -> String

section

variable {F : Type} (numbers : Numbers F)

/-- `str(facet_value)` -/
def Numbers.str : FacetValue F -> String
  | .null => "None"
  | .text text => text
  | .int number => toString number
  | .float number => numbers.floatText number
  | .bool true => "True"
  | .bool false => "False"

/-- `except ValueError: return value` -/
def valueUnlessNumber (value : FacetValue F) (number : Except PyException (FacetValue F)) :
    Except PyException (FacetValue F) :=
  match number with
  | .ok number => .ok number
  | .error (.valueError _) => .ok value
  | .error e => .error e

/-- `map_facet_option_value` -/
def mapFacetOptionValue [DecidableEq F] (value : FacetValue F) (dataType : Option DataType) :
    Except PyException (FacetValue F) :=
  match dataType with
  | some .integer => valueUnlessNumber value ((numbers.int value).map .int)
  | some .float => valueUnlessNumber value ((numbers.float value).map .float)
  | some .boolean => .ok (.bool (value == .text "true" || value == .text "1"))
  | _ => .ok value

/-- The option of a row. -/
def facetOption [DecidableEq F] (mapping : PropertyMetadataInfo) (row : FacetRow F) :
    Except Failure (FacetOptionDto F) :=
  match mapFacetOptionValue numbers row.facetValue mapping.dataType with
  | .ok value => .ok ⟨numbers.str row.facetValue, value, row.matchesCount.getD 0⟩
  | .error e => .error (.raised e)

end

/-!
## Groups
-/

section

variable {F : Type} (dialect : Dialect)

/-- A turn of the loop over the rows, with `OPTIONS_PER_FACET`. -/
def addRow (grouped : List (String × List (FacetRow F))) (row : FacetRow F) :
    List (String × List (FacetRow F)) :=
  let group := (grouped.lookup row.facetId).getD []
  if dialect = .sqlite ∧ 50 ≤ group.length then grouped
  else Dict.set row.facetId (group ++ [row]) grouped

/-- `grouped_by_id_dict` -/
def groupedById (rows : List (FacetRow F)) : List (String × List (FacetRow F)) :=
  rows.foldl (addRow dialect) []

end

/-!
## Enumerated values
-/

section

variable {F : Type} [DecidableEq F]

/-- The key that the options are sorted by. -/
def enumRank (enumValues : List String) : FacetValue F -> Int
  | .text text => if text ∈ enumValues then enumValues.idxOf text else -100
  | _ => -100

/-- `values_with_zero_matches` -/
def valuesWithZeroMatches (enumValues : List String) (options : List (FacetOptionDto F)) :
    List String :=
  enumValues.filter fun enumValue => !options.any fun option => option.value == .text enumValue

def zeroMatches (enumValue : String) : FacetOptionDto F := ⟨enumValue, .text enumValue, 0⟩

/-- The options with the values that have no match, sorted in reverse. -/
def completeOptions (enumValues : List String) (options : List (FacetOptionDto F)) :
    List (FacetOptionDto F) :=
  (options ++ (valuesWithZeroMatches enumValues options).map zeroMatches).insertionSort
    fun a b => enumRank enumValues b.value ≤ enumRank enumValues a.value

end

/-!
## The options of all facets
-/

section

variable {F : Type} [DecidableEq F] (numbers : Numbers F) (dialect : Dialect)
  (metadata : PropertiesMetadata) (sha1 : String -> String) (query : FacetOptionsQueryDto)

abbrev FacetResult (F : Type) := List (String × List (FacetOptionDto F))

/-- The entry of a facet, from the one that it has. -/
def facetEntry (mapping : Option PropertyMetadataInfo) (group : Option (List (FacetRow F)))
    (entry : List (FacetOptionDto F)) : Except Failure (List (FacetOptionDto F)) := do
  let options <-
    match group, mapping with
    | none, _ => .ok entry
    | some _, none => .error (.raised .attributeError)
    | some rows, some mapping => rows.mapM (facetOption numbers mapping)
  match mapping with
  | none => .ok []
  | some mapping =>
      if mapping.enumValues = [] then .ok options
      else .ok (completeOptions mapping.enumValues options)

/-- A turn of the loop over the facets. -/
def addFacet (grouped : List (String × List (FacetRow F))) (result : FacetResult F)
    (facet : FacetDto) : Except Failure (FacetResult F) := do
  let mapping <- getPropertyMetadataForStr metadata facet.propertyPath
  let entry <- facetEntry numbers mapping (grouped.lookup (query.facetKey facet sha1))
    ((result.lookup facet.id).getD [])
  .ok (Dict.set facet.id entry result)

/-- The facets whose path has a mapping, and the others. -/
def splitFacets : List FacetDto -> Except Failure (List FacetDto × List FacetDto)
  | [] => .ok ([], [])
  | facet :: facets => do
      let mapping <- getPropertyMetadataForStr metadata facet.propertyPath
      let (valid, invalid) <- splitFacets facets
      match mapping with
      | some _ => .ok (facet :: valid, invalid)
      | none => .ok (valid, facet :: invalid)

/-- The entries of the facets, if one of them is valid. -/
def addFacets (valid facets : List FacetDto) (rows : List (FacetRow F)) :
    Except Failure (FacetResult F) :=
  if valid = [] then .ok []
  else facets.foldlM (addFacet numbers metadata sha1 query (groupedById dialect rows)) []

/-- `get_facet_options`; `rows` are those of the query for the valid facets. -/
def getFacetOptions (facets : List FacetDto) (rows : List (FacetRow F)) :
    Except Failure (FacetResult F) := do
  let split <- splitFacets metadata facets
  let result <- addFacets numbers dialect metadata sha1 query split.1 facets rows
  .ok (split.2.foldl (fun result facet => Dict.set facet.id [] result) result)

end

end Facets
end KeepGateway
