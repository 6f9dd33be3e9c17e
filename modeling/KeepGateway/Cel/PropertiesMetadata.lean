import KeepGateway.Cel.AstNodes
import KeepGateway.Lib.Dict
import Mathlib.Data.List.Basic

/-!
# Field mappings

`properties_metadata.py`: the configured fields, and the lookup of a property
path among them, first by its text and then by the wildcard patterns.
-/

namespace KeepGateway
namespace Cel

inductive FieldMapping where
  | simple (mapTo : String)
  | json (jsonProp : String) (propInJson : List String)
  deriving DecidableEq, Repr

/-- The list of enumerated values is empty where the source has `None`. -/
structure PropertyMetadataInfo where
  fieldName : String
  fieldMappings : List FieldMapping
  enumValues : List String
  dataType : Option DataType
  deriving DecidableEq, Repr

structure FieldMappingConfiguration where
  mapFromPattern : String
  mapTo : List String
  dataType : Option DataType
  enumValues : List String
  deriving DecidableEq, Repr

/-!
## Text of paths
-/

/-- `re.search(r"[^a-zA-Z0-9*]", item)` -/
def hasSpecialChar (item : String) : Bool :=
  item.toList.any fun c => !(c.isAlphanum || c == '*')

def getPropertyPathStr (propPath : List String) : String :=
  ".".intercalate (propPath.map fun item =>
    if hasSpecialChar item then "[" ++ item ++ "]" else item)

/-- The longest prefix of characters that meet `p`, and the rest. -/
def takeRun (p : Char -> Bool) (cs : List Char) : List Char × List Char :=
  (cs.takeWhile p, cs.dropWhile p)

/-- A match of `\[([^\[\]]+)\]` at the start: its group and the rest. -/
def takeBracketed : List Char -> Option (List Char × List Char)
  | '[' :: cs =>
      match takeRun (fun c => c != '[' && c != ']') cs with
      | ([], _) => none
      | (group, ']' :: rest) => some (group, rest)
      | (_, _) => none
  | _ => none

/-- The matches of `\[([^\[\]]+)\]|([^.]+)`.  Every match takes a character, so
the length of the text bounds the number of steps. -/
def findFields : Nat -> List Char -> List (List Char)
  | 0, _ => []
  | _ + 1, [] => []
  | n + 1, c :: cs =>
      match takeBracketed (c :: cs) with
      | some (group, rest) => group :: findFields n rest
      | none =>
          if c = '.' then findFields n cs
          else
            let (run, rest) := takeRun (fun c => c != '.') (c :: cs)
            run :: findFields n rest

def extractFields (propertyPathStr : String) : List String :=
  (findFields propertyPathStr.toList.length propertyPathStr.toList).map String.ofList

/-!
## Patterns

`fnmatch` and the regular expression that the source builds from a wildcard key.
-/

inductive Glob where
  | star
  | any
  | char (c : Char)
  | seq (negated : Bool) (ranges : List (Char × Char))

/-- The ranges of `[seq]`; a character alone is a range of its own. -/
def seqRanges : List Char -> List (Char × Char)
  | a :: '-' :: b :: rest => (a, b) :: seqRanges rest
  | a :: rest => (a, a) :: seqRanges rest
  | [] => []

/-- Reads `seq` up to the closing bracket, which may come first as a member. -/
def takeSeq (cs : List Char) : Option (List Char × List Char) :=
  let (first, cs) :=
    match cs with
    | ']' :: rest => ([']'], rest)
    | cs => ([], cs)
  match takeRun (fun c => c != ']') cs with
  | (run, ']' :: rest) => some (first ++ run, rest)
  | (_, _) => none

/-- The elements of a pattern; an unclosed bracket stands for itself. -/
def globElements : Nat -> List Char -> List Glob
  | 0, _ => []
  | _ + 1, [] => []
  | n + 1, '*' :: cs => .star :: globElements n cs
  | n + 1, '?' :: cs => .any :: globElements n cs
  | n + 1, '[' :: cs =>
      let (negated, body) :=
        match cs with
        | '!' :: rest => (true, rest)
        | cs => (false, cs)
      match takeSeq body with
      | some (seq, rest) => .seq negated (seqRanges seq) :: globElements n rest
      | none => .char '[' :: globElements n cs
  | n + 1, c :: cs => .char c :: globElements n cs

def inRanges (c : Char) (ranges : List (Char × Char)) : Bool :=
  ranges.any fun r => r.1 ≤ c && c ≤ r.2

def Glob.accepts : Glob -> Char -> Bool
  | star, _ => true
  | any, _ => true
  | char d, c => c == d
  | seq negated ranges, c => inRanges c ranges != negated

def globMatch : List Glob -> List Char -> Bool
  | [], cs => cs.isEmpty
  | .star :: gs, cs => cs.tails.any fun rest => globMatch gs rest
  | _ :: _, [] => false
  | g :: gs, c :: cs => g.accepts c && globMatch gs cs

def fnmatch (name pat : String) : Bool :=
  globMatch (globElements pat.toList.length pat.toList) name.toList

/-- `re.match` of the escaped key with `*` read as `(.*)`, up to the end of the
text or a final newline: the groups. -/
def matchKey : List Char -> List Char -> Option (List (List Char))
  | [], cs => if cs = [] ∨ cs = ['\n'] then some [] else none
  | k :: key, cs =>
      if k = '*' then
        let run := cs.takeWhile fun c => c != '\n'
        ((List.range (run.length + 1)).reverse).findSome? fun n =>
          (matchKey key (cs.drop n)).map fun groups => cs.take n :: groups
      else
        match cs with
        | [] => none
        | c :: cs => if c = k then matchKey key cs else none

/-!
## Configured fields
-/

structure PropertiesMetadata where
  wildcardConfigurations : List (String × FieldMappingConfiguration)
  knownConfigurations : List (String × FieldMappingConfiguration)

def PropertiesMetadata.empty : PropertiesMetadata := ⟨[], []⟩

def PropertiesMetadata.add (metadata : PropertiesMetadata)
    (fieldMapping : FieldMappingConfiguration) : PropertiesMetadata :=
  let pattern := getPropertyPathStr (extractFields fieldMapping.mapFromPattern)
  let config := { fieldMapping with mapFromPattern := pattern }
  if fieldMapping.mapFromPattern.toList.contains '*' then
    { metadata with
      wildcardConfigurations := Dict.set pattern config metadata.wildcardConfigurations }
  else
    { metadata with
      knownConfigurations := Dict.set pattern config metadata.knownConfigurations }

/-- `PropertiesMetadata(fields_mapping_configurations)` -/
def PropertiesMetadata.ofConfigurations
    (configurations : List FieldMappingConfiguration) : PropertiesMetadata :=
  configurations.foldl PropertiesMetadata.add .empty

def PropertiesMetadata.findMappingConfiguration (metadata : PropertiesMetadata)
    (propPathStr : String) : Option (FieldMappingConfiguration × String) :=
  match metadata.knownConfigurations.lookup propPathStr with
  | some config => some (config, propPathStr)
  | none =>
      (metadata.wildcardConfigurations.find? fun entry =>
        fnmatch propPathStr entry.1).map fun entry => (entry.2, entry.1)

/-- The prefix `JSON(column)` of a mapping: the column. -/
def jsonColumn (item : String) : Option String :=
  match item.toList with
  | 'J' :: 'S' :: 'O' :: 'N' :: '(' :: cs =>
      match takeRun (fun c => c != ')') cs with
      | ([], _) => none
      | (group, ')' :: _) => some (String.ofList group)
      | (_, _) => none
  | _ => none

/-- `item.replace(old, "")` -/
def removeAll (old : List Char) : Nat -> List Char -> List Char
  | 0, cs => cs
  | _ + 1, [] => []
  | n + 1, c :: cs =>
      if old.isPrefixOf (c :: cs) then removeAll old n ((c :: cs).drop old.length)
      else c :: removeAll old n cs

/-- Sets the first `*` to the template property, or adds it at the end. -/
def fillTemplate (templateProp : String) (splitted : List String) : List String :=
  if "*" ∈ splitted then
    splitted.set (splitted.idxOf "*") templateProp
  else splitted ++ [templateProp]

def splitDots (s : String) : List String :=
  (s.toList.splitOn '.').map String.ofList

def fieldMapping (templateProp item : String) : FieldMapping :=
  match jsonColumn item with
  | some jsonProp =>
      let column := ("JSON(" ++ jsonProp ++ ")").toList
      let rest := String.ofList (removeAll column item.toList.length item.toList)
      let propInJson := fillTemplate templateProp (splitDots rest)
      .json jsonProp (extractFields (".".intercalate (propInJson.drop 1)))
  | none => .simple item

/-- The text that a wildcard stands for, or the whole path. -/
def templateProp (mappingKey propPathStr : String) : Except PyException String :=
  if mappingKey.toList.contains '*' then
    match matchKey mappingKey.toList propPathStr.toList with
    | some (group :: _) => .ok (String.ofList group)
    | _ => .error .attributeError
  else .ok propPathStr

def PropertiesMetadata.getPropertyMetadata (metadata : PropertiesMetadata)
    (propPath : List String) : Except PyException (Option PropertyMetadataInfo) :=
  let propPathStr := getPropertyPathStr propPath
  match metadata.findMappingConfiguration propPathStr with
  | none => .ok none
  | some (config, mappingKey) => do
      let template <- templateProp mappingKey propPathStr
      .ok (some {
        fieldName := propPathStr
        fieldMappings := config.mapTo.map (fieldMapping template)
        enumValues := config.enumValues
        dataType := config.dataType })

end Cel
end KeepGateway
