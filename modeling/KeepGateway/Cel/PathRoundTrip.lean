import KeepGateway.Cel.WildcardLookup
import KeepGateway.Facets.FacetsQueryBuilder

/-!
# Round trips of paths

A path that is rendered is read back, so that paths and their texts can stand for each other
wherever fields are looked up.
-/

namespace KeepGateway
namespace Cel
namespace PathRoundTrip

/-- A path of any number of segments, which are not empty and have no brackets. -/
structure SegmentPath where
  segments : List String
  isSegment : forall segment, segment ∈ segments -> IsSegment segment

namespace SegmentPath

def key (path : SegmentPath) : String := getPropertyPathStr path.segments

theorem extractFields_key (path : SegmentPath) : extractFields path.key = path.segments :=
  extractFields_rendered path.isSegment

theorem key_injective : Function.Injective key := by
  intro path other heq
  have hsegments : path.segments = other.segments := by
    rw [← extractFields_key path, heq, extractFields_key other]
  cases path with
  | mk segments isSegment =>
      cases other with
      | mk segments' isSegment' =>
          cases hsegments
          rfl

end SegmentPath

/-!
## Configured fields
-/

/-- A configuration for a path, given by its text and without a wildcard. -/
structure PathConfiguration where
  path : SegmentPath
  config : FieldMappingConfiguration
  pattern : config.mapFromPattern = path.key
  literal : '*' ∉ config.mapFromPattern.toList

/-- The constructor keeps such a configuration as it is, under its pattern. -/
theorem add_pathConfiguration (metadata : PropertiesMetadata) (entry : PathConfiguration) :
    metadata.add entry.config =
      { metadata with
        knownConfigurations :=
          Dict.set entry.path.key entry.config metadata.knownConfigurations } := by
  have hkey : getPropertyPathStr (extractFields entry.config.mapFromPattern) = entry.path.key := by
    rw [entry.pattern, entry.path.extractFields_key]
    rfl
  have hsame : { entry.config with mapFromPattern := entry.path.key } = entry.config := by
    rw [← entry.pattern]
  unfold PropertiesMetadata.add
  dsimp only
  rw [hkey, hsame, if_neg fun hstar => entry.literal (List.contains_iff_mem.mp hstar)]

/-- Configurations of other paths leave the one of a path where it is. -/
theorem lookup_foldl_of_not_mem {entries : List PathConfiguration} {path : SegmentPath}
    (h : forall entry, entry ∈ entries -> entry.path ≠ path) (metadata : PropertiesMetadata) :
    ((entries.map PathConfiguration.config).foldl PropertiesMetadata.add
        metadata).knownConfigurations.lookup path.key =
      metadata.knownConfigurations.lookup path.key := by
  induction entries generalizing metadata with
  | nil => rfl
  | cons entry entries ih =>
      rcases List.forall_mem_cons.mp h with ⟨hne, hrest⟩
      rw [List.map_cons, List.foldl_cons, ih hrest, add_pathConfiguration]
      exact Dict.lookup_set_ne (fun heq => hne (SegmentPath.key_injective heq)) _ _

theorem lookup_foldl_of_mem {entries : List PathConfiguration}
    (hdistinct : (entries.map PathConfiguration.path).Nodup) {entry : PathConfiguration}
    (hentry : entry ∈ entries) (metadata : PropertiesMetadata) :
    ((entries.map PathConfiguration.config).foldl PropertiesMetadata.add
        metadata).knownConfigurations.lookup entry.path.key = some entry.config := by
  induction entries generalizing metadata with
  | nil => cases hentry
  | cons first entries ih =>
      rcases List.nodup_cons.mp hdistinct with ⟨hnew, hrest⟩
      rw [List.map_cons, List.foldl_cons]
      rcases List.mem_cons.mp hentry with heq | hmem
      · rw [heq, lookup_foldl_of_not_mem, add_pathConfiguration]
        · exact Dict.lookup_set_self _ _ _
        · intro other hother hsame
          exact hnew (List.mem_map.mpr ⟨other, hother, hsame⟩)
      · exact ih hrest hmem _

/-- Configurations of different paths do not collide: each path finds its own. -/
theorem findMappingConfiguration_pathConfiguration {entries : List PathConfiguration}
    (hdistinct : (entries.map PathConfiguration.path).Nodup) {entry : PathConfiguration}
    (hentry : entry ∈ entries) :
    (PropertiesMetadata.ofConfigurations
        (entries.map PathConfiguration.config)).findMappingConfiguration entry.path.key =
      some (entry.config, entry.path.key) := by
  unfold PropertiesMetadata.findMappingConfiguration PropertiesMetadata.ofConfigurations
  rw [lookup_foldl_of_mem hdistinct hentry]

/-- A label whose name has a dot. -/
def dottedLabel : PathConfiguration where
  path := ⟨["labels", "host.name"], by unfold IsSegment; decide⟩
  config := ⟨"labels.[host.name]", ["alert.host_name"], some .string, []⟩
  pattern := rfl
  literal := by decide

def nestedLabel : PathConfiguration where
  path := ⟨["labels", "host", "name"], by unfold IsSegment; decide⟩
  config := ⟨"labels.host.name", ["alert.host"], some .string, []⟩
  pattern := rfl
  literal := by decide

theorem findMappingConfiguration_nestedLabel :
    (PropertiesMetadata.ofConfigurations
        ([dottedLabel, nestedLabel].map PathConfiguration.config)).findMappingConfiguration
      nestedLabel.path.key = some (nestedLabel.config, nestedLabel.path.key) := by
  apply findMappingConfiguration_pathConfiguration _ (List.mem_cons_of_mem _ List.mem_cons_self)
  apply List.Nodup.of_map SegmentPath.key
  decide

/-!
## The round trip
-/

/-- Rendering a path and reading it back is the identity, different paths have different keys, and
the text of a path finds what the path finds. -/
theorem roundTrip :
    (forall path : SegmentPath,
        extractFields (getPropertyPathStr path.segments) = path.segments) ∧
      (forall path other : SegmentPath, path ≠ other ->
        getPropertyPathStr path.segments ≠ getPropertyPathStr other.segments) ∧
      forall (metadata : PropertiesMetadata) (path : SegmentPath),
        Facets.getPropertyMetadataForStr metadata (getPropertyPathStr path.segments) =
          (metadata.getPropertyMetadata path.segments).mapError Failure.raised := by
  refine ⟨SegmentPath.extractFields_key, ?_, ?_⟩
  · intro path other hne heq
    exact hne (SegmentPath.key_injective heq)
  · intro metadata path
    unfold Facets.getPropertyMetadataForStr
    rw [extractFields_rendered path.isSegment]
    cases metadata.getPropertyMetadata path.segments with
    | ok info => rfl
    | error e => rfl

end PathRoundTrip
end Cel
end KeepGateway
