import SendspinConformance.Harness.DeclaredFormats

set_option autoImplicit false

namespace Conformance.Harness

open Python

-- A bool is the number 0 or 1.
def numberOf : Json → Option FloatValue
  | .bool value => some (.finite (if value then 1 else 0))
  | .int value => some (.finite value)
  | .float number => some number.value
  | _ => none

-- No nan equals another,
def numbersEqual : FloatValue → FloatValue → Bool
  | .nan, _ => false
  | first, second => first == second

-- but json.loads makes one nan object of them all.
def isNan : Json → Bool
  | .float number => number.value == .nan
  | _ => false

-- value == other, where containers compare their items by `is` first.
mutual
def pyEqual : Json → Json → Bool
  | .null, other => other.isNull
  | .str text, other => other.eqStr text
  | .arr items, .arr others => itemsEqual items others
  | .obj fields, .obj others => fields.length == others.length && fieldsEqual fields others
  | .arr _, _ | .obj _, _ => false
  | value, other =>
      match numberOf value, numberOf other with
      | some first, some second => numbersEqual first second
      | _, _ => false
def itemsEqual : List Json → List Json → Bool
  | [], others => others.isEmpty
  | _ :: _, [] => false
  | item :: rest, other :: others => (isNan item && isNan other || pyEqual item other) && itemsEqual rest others
def fieldsEqual : Fields → Fields → Bool
  | [], _ => true
  | (key, value) :: rest, others =>
      (match others.lookup key with
        | some other => isNan value && isNan other || pyEqual value other
        | none => false) && fieldsEqual rest others
end

-- value is other or value == other, as `in` and sets compare.
def sameItem (value other : Json) : Bool := isNan value && isNan other || pyEqual value other

-- fields[key] = value
def assignKey (key : String) (value : Json) : Fields → Fields
  | [] => [(key, value)]
  | field :: rest => if field.1 = key then (key, value) :: rest else field :: assignKey key value rest

-- value.get(key)
def getField (value : Json) (key : String) : Py Json :=
  match value with
  | .obj fields => .ok (getKey fields key)
  | other => .error ⟨"AttributeError", "'" ++ other.typeName ++ "' object has no attribute 'get'"⟩

-- One input's data directory, as the merge finds it once it has emptied the output directory.
structure DataDir where
  -- what read_json makes of index.json
  index : Py Json
  -- what shutil.copytree makes of a name of the directory, where there is one
  copied : String → Option (Py Unit)
  hasResult : String → Bool
  buildReport : Option (Py Json)
  repositories : Option (Py Json)
  -- the files of builds/, as iterdir lists them
  buildLogs : List String

-- repository_index and merged_repositories, which hold the same dicts in the same order.
abbrev Repositories := List ((String × String) × Fields)

structure Merged where
  results : List Fields := []
  seenCases : List String := []
  -- the case directories whose result.json is written again
  rewritten : List (String × Fields) := []
  builds : List Fields := []
  repositories : Repositories := []
  buildLogs : List String := []

def duplicateCase (name : String) : PyError := ⟨"ValueError", "Duplicate case directory while merging: " ++ name⟩

def duplicateLog (name : String) : PyError := ⟨"ValueError", "Duplicate build log while merging: " ++ name⟩

def noInputs : PyError :=
  ⟨"FileNotFoundError", "No result directories with data/index.json were found to merge."⟩

-- Names the merged data directory has before a case is copied into it.
def takenNames : List String := ["builds", ".."]

variable [UnicodeData]

section

variable (dataDir : String)

def targetOf (name : String) : String := dataDir ++ "/" ++ name

-- shutil.copytree(source_case_dir, target_case_dir), where there is a source_case_dir.
def copyCase (source : DataDir) (name : String) : Py Unit :=
  match source.copied name with
  | none => .ok ()
  | some outcome =>
      if takenNames.contains name then .error ⟨"FileExistsError", "[Errno 17] File exists: '" ++ targetOf dataDir name ++ "'"⟩
      else outcome

def placedRow (row : Fields) : Fields := assignKey "case_dir" (.str (targetOf dataDir (caseNameOf row))) row

def copyRow (source : DataDir) (merged : Merged) (value : Json) : Py Merged :=
  match value.asObj with
  | none => .ok merged
  | some row =>
      let name := caseNameOf row
      if name = "" then .ok merged
      else if merged.seenCases.contains name then .error (duplicateCase name)
      else do
        copyCase dataDir source name
        let result := placedRow dataDir row
        return { merged with
          seenCases := merged.seenCases ++ [name]
          results := merged.results ++ [result]
          rewritten :=
            if (source.copied name).isSome && source.hasResult name then merged.rewritten ++ [(name, result)]
            else merged.rewritten }

end

-- str(repository.get("key") or ""), and what of its revision the repository names.
def indexKey (repository : Fields) : String × String :=
  let commit := getKey repository "commit_sha"
  let reason := getKey repository "reason"
  let path := getKey repository "repo_path"
  (textOf repository "key",
    pyStr (if commit.truthy then commit else if reason.truthy then reason else if path.truthy then path else .str "unknown"))

-- environment in existing_envs, for a dict
def environmentIn (existing : Json) (environment : Json) : Py Bool :=
  match existing with
  | .arr environments => .ok (environments.any fun other => pyEqual other environment)
  | .str _ => .error ⟨"TypeError", "'in <string>' requires string as left operand, not dict"⟩
  | .obj _ => .error ⟨"TypeError", "unhashable type: 'dict'"⟩
  | value => .error ⟨"TypeError", "argument of type '" ++ value.typeName ++ "' is not iterable"⟩

def addEnvironment (existing : Json) (environment : Json) : Py Json :=
  if environment.isObj then do
    let known ← environmentIn existing environment
    match existing with
    | .arr environments => return .arr (if known then environments else environments ++ [environment])
    | other => return other
  else .ok existing

-- What a repository seen again adds to its first entry.
def addEnvironments (entry repository : Fields) : Py Fields := do
  let defaulted := if hasKey entry "environments" then entry else assignKey "environments" (.arr []) entry
  match getKey repository "environments" with
  | .arr incoming =>
      let environments ← incoming.foldlM addEnvironment (getKey defaulted "environments")
      return assignKey "environments" environments defaulted
  | _ => return defaulted

def mergeRepository (repository : Fields) : Repositories → Py Repositories
  | [] => .ok [(indexKey repository, repository)]
  | entry :: rest =>
      if entry.1 = indexKey repository then do
        let joined ← addEnvironments entry.2 repository
        return (entry.1, joined) :: rest
      else do
        let others ← mergeRepository repository rest
        return entry :: others

def copyRepository (repositories : Repositories) (value : Json) : Py Repositories :=
  match value.asObj with
  | none => .ok repositories
  | some repository => mergeRepository repository repositories

-- The list a report names, none where it is no list or there is no report.
def listIn (report : Option (Py Json)) (key : String) : Py (Option (List Json)) :=
  match report with
  | none => .ok none
  | some payload => do
      match ← getField (← payload) key with
      | .arr items => return some items
      | _ => return none

-- _copy_build_logs
def copyBuildLog (logs : List String) (name : String) : Py (List String) :=
  if logs.contains name then .error (duplicateLog name) else .ok (logs ++ [name])

def mergeInput (dataDir : String) (merged : Merged) (source : DataDir) : Py Merged := do
  match ← listIn (some source.index) "results" with
  | none => return merged
  | some rows => do
      let copied ← rows.foldlM (copyRow dataDir source) merged
      let builds ← listIn source.buildReport "results"
      let reported ← listIn source.repositories "repositories"
      let repositories ← (reported.getD []).foldlM copyRepository copied.repositories
      let buildLogs ← source.buildLogs.foldlM copyBuildLog copied.buildLogs
      return { copied with
        builds := copied.builds ++ (builds.getD []).filterMap Json.asObj, repositories, buildLogs }

-- merge_results_dirs, for the data directories the input directories resolve to.
def mergeResultsDirs (dataDir : String) (inputs : List (Option DataDir)) : Py Merged :=
  match inputs.filterMap id with
  | [] => .error noInputs
  | sources => sources.foldlM (mergeInput dataDir) {}

end Conformance.Harness
