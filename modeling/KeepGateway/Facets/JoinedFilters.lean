import KeepGateway.Facets.FacetsQueryBuilder
import KeepGateway.Cel.Conjunction

/-!
# Filters joined as text

A facet counts the rows of the global filter and its own, and the incident report lists the
incidents of a filter that are not deleted.  Both join the filters as text, without
parentheses.
-/

namespace KeepGateway
namespace Facets

open Cel (Celpy Node Provider Tree isBooleanFilterNode convertToAst)
open Sql (Database Filter Row)

/-!
## The incident report
-/

/-- The arguments of `query_incidents` that the report gives. -/
structure IncidentsQuery where
  cel : String
  limit : Nat
  offset : Nat
  allowedIncidentIds : List String
  isCandidate : Bool
  deriving DecidableEq, Repr

def notDeletedCel : String := "status != 'deleted'"

/-- `__get_incidents` -/
def getIncidents (incidentsQueryCel : String) (allowedIncidentIds : List String) :
    IncidentsQuery where
  cel := "status != 'deleted' && " ++ incidentsQueryCel
  limit := 100
  offset := 0
  allowedIncidentIds := allowedIncidentIds
  isCandidate := false

theorem cel_getIncidents (incidentsQueryCel : String) (allowedIncidentIds : List String) :
    (getIncidents incidentsQueryCel allowedIncidentIds).cel =
      notDeletedCel ++ " && " ++ incidentsQueryCel := rfl

/-!
## The rows of an expression
-/

section Selection

variable (p : Provider) (celpy : Celpy)

def Accepts (cel : String) : Prop := exists result, p.convertToSqlStr celpy cel = .ok result

/-- The rows that an expression selects. -/
def CelSelects (cel : String) {V : Type} (db : Database V) (row : Row V) : Prop :=
  exists filter, p.whereClause celpy cel = some filter ∧ filter.Selects db row

/-- The AST of an expression that is not empty. -/
def queryOf (cel : String) : Option Node :=
  if cel = "" then none
  else
    match celpy.parse cel with
    | .ok tree => (convertToAst p.rt tree).toOption
    | .error _ => none

/-- The expression is accepted, and it selects the rows that both filters select. -/
def SelectsBoth (cel left right : String) {V : Type} (db : Database V) (row : Row V) : Prop :=
  exists filter, p.whereClause celpy cel = some filter ∧
    (filter.Selects db row <-> CelSelects p celpy left db row ∧ CelSelects p celpy right db row)

/-- The filter of a facet selects the rows of the global filter and of its own. -/
def FacetSelectsBoth (query : FacetOptionsQueryDto) (facet : FacetDto) {V : Type}
    (db : Database V) (row : Row V) : Prop :=
  SelectsBoth p celpy (query.finalCel facet) (query.cel.getD "") ((query.facetCel facet).getD "")
    db row

/-- The report lists the incidents of a filter that are not deleted. -/
def ReportSelectsBoth (incidentsQueryCel : String) (allowedIncidentIds : List String) {V : Type}
    (db : Database V) (row : Row V) : Prop :=
  SelectsBoth p celpy (getIncidents incidentsQueryCel allowedIncidentIds).cel notDeletedCel
    incidentsQueryCel db row

/-- The alternatives of two filters, where both have some. -/
def Agree (left right : String) {V : Type} (db : Database V) (row : Row V) : Prop :=
  forall E F, queryOf p celpy left = some E -> queryOf p celpy right = some F ->
    p.AlternativesAgree db row E F

end Selection

/-- celpy reads the joined text as `&&` between the two expressions; the grammar has it so
unless the left text ends inside a comment. -/
def ReadsAsAnd (celpy : Celpy) (left right : String) : Prop :=
  forall l r, celpy.parse left = .ok l -> celpy.parse right = .ok r ->
    celpy.parse (left ++ " && " ++ right) = .ok (l.andAlso r)

/-- The right filter does not read the member access stack before it clears it, or there is
nothing on it to read. -/
def NoLeftover (celpy : Celpy) (left right : String) : Prop :=
  forall l r, celpy.parse left = .ok l -> celpy.parse right = .ok r ->
    l.hasIdent = false ∨ r.access ≠ .read

section Joined

variable {p : Provider} {celpy : Celpy}

/-!
## Accepted expressions
-/

theorem whereClause_of_accepts {cel : String} (h : Accepts p celpy cel) :
    exists filter, p.whereClause celpy cel = some filter := by
  rcases h with ⟨result, hresult⟩
  have htext := Provider.whereClause_text (p := p) celpy cel
  rw [hresult] at htext
  rcases Option.map_eq_some_iff.mp htext with ⟨filter, hfilter, _⟩
  exact ⟨filter, hfilter⟩

theorem whereClause_of_query {cel : String} {tree : Tree .expr} {E : Node} (hcel : cel ≠ "")
    (hparse : celpy.parse cel = .ok tree) (hast : convertToAst p.rt tree = .ok E)
    (hboolean : isBooleanFilterNode E = true) :
    p.whereClause celpy cel = (p.clauseOf E).toOption := by
  unfold Provider.whereClause
  rw [if_neg hcel, hparse]
  simp only [hast]
  exact if_pos hboolean

theorem celSelects_of_query {cel : String} {tree : Tree .expr} {E : Node} (hcel : cel ≠ "")
    (hparse : celpy.parse cel = .ok tree) (hast : convertToAst p.rt tree = .ok E)
    (hboolean : isBooleanFilterNode E = true) {V : Type} (db : Database V) (row : Row V) :
    CelSelects p celpy cel db row <-> p.SelectsRow db row E := by
  unfold CelSelects Provider.SelectsRow
  rw [whereClause_of_query hcel hparse hast hboolean]
  cases p.clauseOf E <;> simp [Except.toOption]

/-- A filter that is accepted has a tree, an AST with a truth value, and a clause. -/
theorem query_of_accepts {cel : String} (hcel : cel ≠ "") (h : Accepts p celpy cel) :
    exists tree E, celpy.parse cel = .ok tree ∧ convertToAst p.rt tree = .ok E ∧
      isBooleanFilterNode E = true ∧ p.HasClause E := by
  rcases whereClause_of_accepts h with ⟨filter, hfilter⟩
  unfold Provider.whereClause at hfilter
  rw [if_neg hcel] at hfilter
  split at hfilter
  · cases hfilter
  · rename_i tree hparse
    split at hfilter
    · cases hfilter
    · rename_i E hast
      split at hfilter
      · rename_i hboolean
        refine ⟨tree, E, hparse, hast, hboolean, ?_⟩
        cases hclause : p.clauseOf E with
        | ok filter' => exact ⟨filter', hclause⟩
        | error e =>
            rw [hclause] at hfilter
            cases hfilter
      · cases hfilter

theorem celSelects_empty {V : Type} (db : Database V) (row : Row V) :
    CelSelects p celpy "" db row :=
  ⟨none, rfl, trivial⟩

theorem agree_of_query {left right : String} {l r : Tree .expr} {E F : Node} (hl : left ≠ "")
    (hr : right ≠ "") (hparse : celpy.parse left = .ok l) (hast : convertToAst p.rt l = .ok E)
    (hparse' : celpy.parse right = .ok r) (hast' : convertToAst p.rt r = .ok F) {V : Type}
    (db : Database V) (row : Row V) :
    Agree p celpy left right db row <-> p.AlternativesAgree db row E F := by
  have hE : queryOf p celpy left = some E := by
    unfold queryOf
    rw [if_neg hl, hparse]
    simp only [hast]
    rfl
  have hF : queryOf p celpy right = some F := by
    unfold queryOf
    rw [if_neg hr, hparse']
    simp only [hast']
    rfl
  unfold Agree
  rw [hE, hF]
  constructor
  · intro h
    exact h E F rfl rfl
  · intro h E' F' hE' hF'
    cases hE'
    cases hF'
    exact h

/-!
## Joined texts
-/

theorem joined_ne_empty (left right : String) : left ++ " && " ++ right ≠ "" := by
  intro h
  have hlength := congrArg String.length h
  simp [String.length_append] at hlength

/-- The joined text selects what both filters select exactly where their alternatives
agree. -/
theorem selectsBoth_joined {left right : String} (hl : left ≠ "") (hr : right ≠ "")
    (hleft : Accepts p celpy left) (hright : Accepts p celpy right)
    (hreads : ReadsAsAnd celpy left right) (hfresh : NoLeftover celpy left right) {V : Type}
    (db : Database V) (row : Row V) :
    SelectsBoth p celpy (left ++ " && " ++ right) left right db row <->
      Agree p celpy left right db row := by
  rcases query_of_accepts hl hleft with ⟨l, E, hparse, hast, hE, hclause⟩
  rcases query_of_accepts hr hright with ⟨r, F, hparse', hast', hF, hclause'⟩
  have hjoined := Cel.convertToAst_andAlso hast hast' hE hF (hfresh l r hparse hparse')
  have hboolean := Cel.isBooleanFilterNode_andAlso hE hF
  have hwhere := whereClause_of_query (joined_ne_empty left right) (hreads l r hparse hparse')
    hjoined hboolean
  rcases Provider.hasClause_andAlso hclause hclause' with ⟨filter, hfilter⟩
  rw [agree_of_query hl hr hparse hast hparse' hast',
    ← Provider.selectsRow_andAlso_iff hclause hclause']
  unfold SelectsBoth
  rw [hwhere, hfilter, celSelects_of_query hl hparse hast hE,
    celSelects_of_query hr hparse' hast' hF]
  unfold Provider.SelectsRow
  rw [hfilter]
  simp [Except.toOption]

theorem agree_empty_left (right : String) {V : Type} (db : Database V) (row : Row V) :
    Agree p celpy "" right db row := by
  intro E F hE
  cases hE

theorem agree_empty_right (left : String) {V : Type} (db : Database V) (row : Row V) :
    Agree p celpy left "" db row := by
  intro E F _ hF
  cases hF

/-!
## The expression of a facet
-/

theorem finalCel_eq (query : FacetOptionsQueryDto) (facet : FacetDto) :
    query.finalCel facet =
      joinCel [some (query.cel.getD ""), some ((query.facetCel facet).getD "")] := by
  unfold FacetOptionsQueryDto.finalCel
  cases query.cel <;> cases query.facetCel facet <;> rfl

theorem joinCel_pair (left right : String) :
    joinCel [some left, some right] =
      if left = "" then right else if right = "" then left else left ++ " && " ++ right := by
  unfold joinCel
  rcases Classical.em (left = "") with hl | hl
  · rcases Classical.em (right = "") with hr | hr
    · simp [hl, hr]
    · simp [hl, hr]
  · rcases Classical.em (right = "") with hr | hr
    · simp [hl, hr]
    · have hkept : ([some left, some right].filterMap id).filter (fun cel => cel != "") =
          [left, right] := by
        simp [hl, hr]
      rw [hkept, if_neg hl, if_neg hr]
      rfl

theorem selectsBoth_alone {cel left right : String} (h : Accepts p celpy cel)
    (hcel : left = "" ∧ right = cel ∨ right = "" ∧ left = cel) {V : Type} (db : Database V)
    (row : Row V) : SelectsBoth p celpy cel left right db row := by
  rcases whereClause_of_accepts h with ⟨filter, hfilter⟩
  have hselects : CelSelects p celpy cel db row <-> filter.Selects db row := by
    unfold CelSelects
    simp [hfilter]
  refine ⟨filter, hfilter, ?_⟩
  rcases hcel with ⟨hl, hr⟩ | ⟨hr, hl⟩
  · rw [hl, hr, hselects]
    exact ⟨fun h => ⟨celSelects_empty db row, h⟩, fun h => h.2⟩
  · rw [hl, hr, hselects]
    exact ⟨fun h => ⟨h, celSelects_empty db row⟩, fun h => h.1⟩

theorem facetSelectsBoth_iff (query : FacetOptionsQueryDto) (facet : FacetDto)
    (hglobal : Accepts p celpy (query.cel.getD ""))
    (hfacet : Accepts p celpy ((query.facetCel facet).getD ""))
    (hreads : ReadsAsAnd celpy (query.cel.getD "") ((query.facetCel facet).getD ""))
    (hfresh : NoLeftover celpy (query.cel.getD "") ((query.facetCel facet).getD "")) {V : Type}
    (db : Database V) (row : Row V) :
    FacetSelectsBoth p celpy query facet db row <->
      Agree p celpy (query.cel.getD "") ((query.facetCel facet).getD "") db row := by
  unfold FacetSelectsBoth
  rw [finalCel_eq, joinCel_pair]
  generalize query.cel.getD "" = left at *
  generalize (query.facetCel facet).getD "" = right at *
  rcases Classical.em (left = "") with hl | hl
  · rw [if_pos hl, hl]
    exact iff_of_true (selectsBoth_alone hfacet (.inl ⟨rfl, rfl⟩) db row)
      (agree_empty_left right db row)
  · rcases Classical.em (right = "") with hr | hr
    · rw [if_neg hl, if_pos hr, hr]
      exact iff_of_true (selectsBoth_alone hglobal (.inr ⟨rfl, rfl⟩) db row)
        (agree_empty_right left db row)
    · rw [if_neg hl, if_neg hr]
      exact selectsBoth_joined hl hr hglobal hfacet hreads hfresh db row

theorem reportSelectsBoth_iff {incidentsQueryCel : String} (allowedIncidentIds : List String)
    (hnotDeleted : Accepts p celpy notDeletedCel) (hquery : Accepts p celpy incidentsQueryCel)
    (hreads : ReadsAsAnd celpy notDeletedCel incidentsQueryCel)
    (hfresh : NoLeftover celpy notDeletedCel incidentsQueryCel)
    (hdangling : forall tree, celpy.parse (notDeletedCel ++ " && ") ≠ .ok tree) {V : Type}
    (db : Database V) (row : Row V) :
    ReportSelectsBoth p celpy incidentsQueryCel allowedIncidentIds db row <->
      incidentsQueryCel ≠ "" ∧ Agree p celpy notDeletedCel incidentsQueryCel db row := by
  unfold ReportSelectsBoth
  rw [cel_getIncidents]
  rcases Classical.em (incidentsQueryCel = "") with hempty | hne
  · -- Nothing follows `&&`, so that celpy rejects the text.
    have hrejected : p.whereClause celpy (notDeletedCel ++ " && " ++ "") = none := by
      unfold Provider.whereClause
      rw [if_neg (joined_ne_empty notDeletedCel ""), String.append_empty]
      cases hparse : celpy.parse (notDeletedCel ++ " && ") with
      | error e => rfl
      | ok tree => exact absurd hparse (hdangling tree)
    constructor
    · rintro ⟨filter, hfilter, _⟩
      rw [hempty, hrejected] at hfilter
      cases hfilter
    · rintro ⟨hne, _⟩
      exact absurd hempty hne
  · have hnonempty : notDeletedCel ≠ "" := by decide
    rw [selectsBoth_joined hnonempty hne hnotDeleted hquery hreads hfresh db row]
    exact ⟨fun h => ⟨hne, h⟩, fun h => h.2⟩

/-- The facet and the report apply both of their filters exactly where the alternatives of
these agree, the report only if its filter is not empty. -/
theorem joinsFilters_iff (query : FacetOptionsQueryDto) (facet : FacetDto)
    {incidentsQueryCel : String} (allowedIncidentIds : List String)
    (hglobal : Accepts p celpy (query.cel.getD ""))
    (hfacet : Accepts p celpy ((query.facetCel facet).getD ""))
    (hnotDeleted : Accepts p celpy notDeletedCel) (hquery : Accepts p celpy incidentsQueryCel)
    (hreads : ReadsAsAnd celpy (query.cel.getD "") ((query.facetCel facet).getD ""))
    (hfresh : NoLeftover celpy (query.cel.getD "") ((query.facetCel facet).getD ""))
    (hreadsReport : ReadsAsAnd celpy notDeletedCel incidentsQueryCel)
    (hfreshReport : NoLeftover celpy notDeletedCel incidentsQueryCel)
    (hdangling : forall tree, celpy.parse (notDeletedCel ++ " && ") ≠ .ok tree) {V : Type}
    (db : Database V) (row : Row V) :
    (FacetSelectsBoth p celpy query facet db row <->
        Agree p celpy (query.cel.getD "") ((query.facetCel facet).getD "") db row) ∧
      (ReportSelectsBoth p celpy incidentsQueryCel allowedIncidentIds db row <->
        incidentsQueryCel ≠ "" ∧ Agree p celpy notDeletedCel incidentsQueryCel db row) :=
  ⟨facetSelectsBoth_iff query facet hglobal hfacet hreads hfresh db row,
    reportSelectsBoth_iff allowedIncidentIds hnotDeleted hquery hreadsReport hfreshReport
      hdangling db row⟩

end Joined

namespace JoinedSample

open Cel (FieldMappingConfiguration PropertiesMetadata asciiRuntime simpleNode)

def metadata : PropertiesMetadata :=
  .ofConfigurations [⟨"severity", ["alert.severity"], some .string, []⟩,
    ⟨"status", ["alert.status"], some .string, []⟩]

def provider : Provider := ⟨asciiRuntime, .postgresql, id, metadata⟩

def compares (op : Cel.RelationOp) (name value : String) : Tree .conditionaland :=
  .andOne (.relation op
    (.relationOne (.additionOne (.multiplicationOne (.unaryOne (.memberPrimary (.ident name))))))
    (.additionOne (.multiplicationOne (.unaryOne (.memberPrimary (.literal value))))))

def eitherCel : String := "severity == 'high' || severity == 'critical'"

def either : Tree .expr :=
  .exprOne (.or (.orOne (compares .eq "severity" "'high'")) (compares .eq "severity" "'critical'"))

def firingCel : String := "status == 'firing'"

def firing : Tree .expr := .exprOne (.orOne (compares .eq "status" "'firing'"))

def notDeleted : Tree .expr := .exprOne (.orOne (compares .ne "status" "'deleted'"))

def celpy : Celpy where
  parse := fun cel =>
    if cel = eitherCel then .ok either
    else if cel = firingCel then .ok firing
    else if cel = notDeletedCel then .ok notDeleted
    else if cel = eitherCel ++ " && " ++ firingCel then .ok (either.andAlso firing)
    else if cel = notDeletedCel ++ " && " ++ eitherCel then .ok (notDeleted.andAlso either)
    else .error ⟨"", none, none⟩
  str := fun _ => ""

def query : FacetOptionsQueryDto := ⟨some eitherCel, some [("facet", firingCel)]⟩

def facet : FacetDto := ⟨"facet", "status"⟩

/-- A database that takes the truth value of a comparison from the row. -/
def db : Database Bool where
  literal := fun _ => false
  ofBool := id
  apply := fun _ v => v
  test := fun _ v => v
  finds := fun _ v => v

/-- A row with a high severity that is not firing. -/
def row : Row Bool := fun text => some (text == "alert.severity = 'high'")

def compared (name value : String) : Node :=
  .comparison (simpleNode [name]) .eq (.constant (.str value))

def eitherQuery : Node :=
  .logical (compared "severity" "high") .or (compared "severity" "critical")

theorem parse_either : celpy.parse eitherCel = .ok either := rfl

theorem parse_firing : celpy.parse firingCel = .ok firing := rfl

theorem parse_notDeleted : celpy.parse notDeletedCel = .ok notDeleted := rfl

theorem accepts_either : Accepts provider celpy eitherCel := ⟨_, rfl⟩

theorem accepts_firing : Accepts provider celpy firingCel := ⟨_, rfl⟩

theorem accepts_notDeleted : Accepts provider celpy notDeletedCel := ⟨_, rfl⟩

theorem readsAsAnd_facet : ReadsAsAnd celpy eitherCel firingCel := by
  intro l r hl hr
  cases parse_either.symm.trans hl
  cases parse_firing.symm.trans hr
  rfl

theorem readsAsAnd_report : ReadsAsAnd celpy notDeletedCel eitherCel := by
  intro l r hl hr
  cases parse_notDeleted.symm.trans hl
  cases parse_either.symm.trans hr
  rfl

theorem noLeftover_facet : NoLeftover celpy eitherCel firingCel := by
  intro l r hl hr
  cases parse_firing.symm.trans hr
  exact .inr (by decide)

theorem noLeftover_report : NoLeftover celpy notDeletedCel eitherCel := by
  intro l r hl hr
  cases parse_either.symm.trans hr
  exact .inr (by decide)

theorem parse_dangling (tree : Tree .expr) : celpy.parse (notDeletedCel ++ " && ") ≠ .ok tree := by
  intro h
  cases h

end JoinedSample

open JoinedSample in
theorem joinsFilters_iff_firing :
    (FacetSelectsBoth provider celpy query facet db row <->
        Agree provider celpy eitherCel firingCel db row) ∧
      (ReportSelectsBoth provider celpy eitherCel [] db row <->
        eitherCel ≠ "" ∧ Agree provider celpy notDeletedCel eitherCel db row) :=
  joinsFilters_iff (p := provider) query facet [] accepts_either accepts_firing
    accepts_notDeleted accepts_either readsAsAnd_facet noLeftover_facet readsAsAnd_report
    noLeftover_report parse_dangling db row

open JoinedSample in
/-- The count of a facet takes in a row that only the global filter selects. -/
theorem alternative_not_joined :
    ¬ forall (p : Provider) (celpy : Celpy) (query : FacetOptionsQueryDto) (facet : FacetDto),
      Accepts p celpy (query.cel.getD "") -> Accepts p celpy ((query.facetCel facet).getD "") ->
        ReadsAsAnd celpy (query.cel.getD "") ((query.facetCel facet).getD "") ->
          NoLeftover celpy (query.cel.getD "") ((query.facetCel facet).getD "") ->
            forall (V : Type) (db : Database V) (row : Row V),
              FacetSelectsBoth p celpy query facet db row := by
  intro h
  have hselects := h provider celpy query facet accepts_either accepts_firing readsAsAnd_facet
    noLeftover_facet Bool db row
  have hagree := (facetSelectsBoth_iff (p := provider) query facet accepts_either accepts_firing
    readsAsAnd_facet noLeftover_facet db row).mp hselects
  have hquery : queryOf provider celpy eitherCel = some eitherQuery := rfl
  have hfacet : queryOf provider celpy firingCel = some (compared "status" "firing") := rfl
  have hhigh : provider.Holds db row (compared "severity" "high") :=
    ⟨Cel.atom "alert.severity = 'high'", rfl, rfl⟩
  have hearlier : compared "severity" "high" ∈ eitherQuery.earlierAlternatives := by
    simp [eitherQuery, Node.earlierAlternatives, Node.alternatives, compared]
  rcases (hagree _ _ hquery hfacet).earlier _ hearlier hhigh with ⟨filter, hfilter, hfiring⟩
  have hclause : provider.clauseOf (compared "status" "firing") =
      .ok (some (Cel.atom "alert.status = 'firing'")) := rfl
  cases hclause.symm.trans hfilter
  cases hfiring

end Facets
end KeepGateway
