import Mathlib.Data.List.Nodup
import Mathlib.Data.List.ProdSigma
import SendspinConformance.Python.Text

set_option autoImplicit false

namespace Conformance.Matrix

open Python

inductive InitiatorRole where
  | server
  | client
deriving DecidableEq, Repr

inductive RoleName where
  | server
  | client
deriving DecidableEq, Repr

def RoleName.text : RoleName → String
  | .server => "server"
  | .client => "client"

inductive RoleFamily where
  | player
  | metadata
  | controller
  | artwork
deriving DecidableEq, Repr

def RoleFamily.text : RoleFamily → String
  | .player => "player"
  | .metadata => "metadata"
  | .controller => "controller"
  | .artwork => "artwork"

structure RoleSpec where
  supported : Bool
  supportsServerInitiated : Bool := false
  supportsClientInitiated : Bool := false
  supportsFlac : Bool := false
  supportsOpus : Bool := false
  supportsLegacyUnencrypted : Bool := false
  supportedRoleFamilies : List RoleFamily := []

structure ImplementationSpec where
  name : String
  client : RoleSpec
  server : RoleSpec

structure ScenarioSpec where
  id : String
  initiatorRole : InitiatorRole
  preferredCodec : String
  requiredRoleFamilies : List RoleFamily
  requiresLegacyUnencrypted : Bool := false

def RoleSpec.supportsInitiator (spec : RoleSpec) : InitiatorRole → Bool
  | .server => spec.supportsServerInitiated
  | .client => spec.supportsClientInitiated

def RoleSpec.supportsCodec (spec : RoleSpec) (preferredCodec : String) : Bool :=
  if preferredCodec == "flac" then spec.supportsFlac
  else if preferredCodec == "opus" then spec.supportsOpus
  else true

def RoleSpec.supportsRoleFamilies (spec : RoleSpec) (roleFamilies : List RoleFamily) : Bool :=
  roleFamilies.all fun roleFamily => spec.supportedRoleFamilies.contains roleFamily

def RoleSpec.unsupportedReason [UnicodeData] (spec : RoleSpec) (implementation : String) (role : RoleName)
    (scenario : ScenarioSpec) : Option String :=
  if spec.supportsInitiator scenario.initiatorRole && spec.supportsCodec scenario.preferredCodec &&
      spec.supportsRoleFamilies scenario.requiredRoleFamilies &&
      (spec.supportsLegacyUnencrypted || !scenario.requiresLegacyUnencrypted) then none
  else
    let action := match scenario.initiatorRole with
      | .server => "server-initiated incoming websocket flow"
      | .client => "client-initiated outbound websocket flow"
    let missing := scenario.requiredRoleFamilies.filter fun roleFamily =>
      !spec.supportedRoleFamilies.contains roleFamily
    some <|
      if !spec.supportsInitiator scenario.initiatorRole then
        implementation ++ " " ++ role.text ++ " adapter does not support the " ++ action ++
          " required by " ++ scenario.id ++ "."
      else if !spec.supportsRoleFamilies scenario.requiredRoleFamilies then
        implementation ++ " " ++ role.text ++ " adapter does not support role family/families " ++
          joinWith ", " (sorted (missing.map RoleFamily.text)) ++ " required by " ++ scenario.id ++ "."
      else if scenario.requiresLegacyUnencrypted && !spec.supportsLegacyUnencrypted then
        implementation ++ " " ++ role.text ++ " adapter does not support the legacy unencrypted " ++
          "transition mode required by " ++ scenario.id ++ "."
      else
        implementation ++ " " ++ role.text ++ " adapter does not support " ++ upper scenario.preferredCodec ++
          " transport required by " ++ scenario.id ++ "."

-- IMPLEMENTATIONS and SCENARIO_LIST. The names of one table are its keys, and none
-- holds the underscore that separates the parts of a case name.
structure Registry where
  implementations : List ImplementationSpec
  scenarios : List ScenarioSpec
  namesDistinct : (implementations.map ImplementationSpec.name).Nodup
  namesPlain : ∀ spec ∈ implementations, '_' ∉ spec.name.toList
  idsDistinct : (scenarios.map ScenarioSpec.id).Nodup

def everyRole : List RoleFamily := [.player, .metadata, .controller, .artwork]

def unsupportedRole : RoleSpec := { supported := false }

def IMPLEMENTATIONS : List ImplementationSpec :=
  [{ name := "aiosendspin",
     client := { supported := true, supportsServerInitiated := true, supportsClientInitiated := true,
                 supportsFlac := true, supportedRoleFamilies := everyRole },
     server := { supported := true, supportsServerInitiated := true, supportsClientInitiated := true,
                 supportsFlac := true, supportsOpus := true, supportsLegacyUnencrypted := true,
                 supportedRoleFamilies := everyRole } },
   { name := "sendspin-dotnet",
     client := { supported := true, supportsServerInitiated := true, supportsClientInitiated := true,
                 supportsFlac := true, supportsLegacyUnencrypted := true, supportedRoleFamilies := everyRole },
     server := unsupportedRole },
   { name := "SendspinKit",
     client := { supported := true, supportsServerInitiated := true, supportsClientInitiated := true,
                 supportsFlac := true, supportsOpus := true, supportsLegacyUnencrypted := true,
                 supportedRoleFamilies := everyRole },
     server := unsupportedRole },
   { name := "sendspin-js",
     client := { supported := true, supportsServerInitiated := true, supportsClientInitiated := true,
                 supportsLegacyUnencrypted := true, supportedRoleFamilies := [.player, .metadata, .controller] },
     server := unsupportedRole },
   { name := "sendspin-rs",
     client := { supported := true, supportsServerInitiated := true, supportsClientInitiated := true,
                 supportsFlac := true, supportsLegacyUnencrypted := true, supportedRoleFamilies := everyRole },
     server := unsupportedRole },
   { name := "sendspin-cpp",
     client := { supported := true, supportsServerInitiated := true, supportsClientInitiated := true,
                 supportsFlac := true, supportsOpus := true, supportsLegacyUnencrypted := true,
                 supportedRoleFamilies := everyRole },
     server := unsupportedRole },
   { name := "sendspin-server-cpp",
     client := unsupportedRole,
     server := { supported := true, supportsServerInitiated := true, supportsClientInitiated := true,
                 supportsFlac := true, supportsOpus := true, supportedRoleFamilies := everyRole } },
   { name := "sendspin-go", client := unsupportedRole, server := unsupportedRole }]

def SCENARIO_LIST : List ScenarioSpec :=
  [⟨"client-initiated-pcm", .client, "pcm", [.player], false⟩,
   ⟨"server-initiated-pcm", .server, "pcm", [.player], false⟩,
   ⟨"server-initiated-protocol-baseline-v1", .server, "pcm", [.player], false⟩,
   ⟨"server-initiated-metadata", .server, "none", [.metadata], false⟩,
   ⟨"server-initiated-artwork", .server, "none", [.artwork], false⟩,
   ⟨"server-initiated-controller", .server, "none", [.controller], false⟩,
   ⟨"server-initiated-flac", .server, "flac", [.player], false⟩,
   ⟨"server-initiated-opus", .server, "opus", [.player], false⟩,
   ⟨"server-initiated-pcm-24bit", .server, "pcm", [.player], false⟩,
   ⟨"client-initiated-state-format-pcm", .client, "pcm", [.player], false⟩,
   ⟨"client-initiated-state-format-flac", .client, "flac", [.player], false⟩,
   ⟨"client-initiated-metadata", .client, "none", [.metadata], false⟩,
   ⟨"client-initiated-artwork", .client, "none", [.artwork], false⟩,
   ⟨"client-initiated-controller", .client, "none", [.controller], false⟩,
   ⟨"server-initiated-legacy-unencrypted", .server, "pcm", [.player], true⟩,
   ⟨"server-initiated-audio-chunk-framing", .server, "pcm", [.player], false⟩]

def registry : Registry where
  implementations := IMPLEMENTATIONS
  scenarios := SCENARIO_LIST
  namesDistinct := by simp [IMPLEMENTATIONS]
  namesPlain := by simp [IMPLEMENTATIONS]
  idsDistinct := by simp [SCENARIO_LIST]

def Registry.find (registry : Registry) (name : String) : Option ImplementationSpec :=
  registry.implementations.find? fun spec => spec.name == name

def ImplementationSpec.role (spec : ImplementationSpec) : RoleName → RoleSpec
  | .server => spec.server
  | .client => spec.client

def implementationNames (registry : Registry) : List String :=
  sorted (registry.implementations.map ImplementationSpec.name)

inductive MatrixError where
  | valueError (message : String)
deriving DecidableEq, Repr

-- raw.split(",")
def splitCommas (raw : String) : List String := (raw.toList.splitOn ',').map String.ofList

def parseImplementationFilter (registry : Registry) (raw : Option String) : Except MatrixError (List String) :=
  let names := implementationNames registry
  match raw with
  | none => .ok names
  | some text =>
      if text.isEmpty then .ok names
      else
        let selected := ((splitCommas text).map strip).filter fun part => !part.isEmpty
        let unknown := selected.filter fun name => !names.contains name
        if unknown.isEmpty then .ok selected
        else .error (.valueError ("Unknown implementation filter(s): " ++ joinWith ", " (sorted unknown)))

def roleSupportsScenario [UnicodeData] (registry : Registry) (implementation : String) (role : RoleName)
    (scenario : ScenarioSpec) : Bool :=
  match registry.find implementation with
  | none => false
  | some specification =>
      let roleSpec := specification.role role
      roleSpec.supported && (roleSpec.unsupportedReason implementation role scenario).isNone

def hasRole (registry : Registry) (role : RoleName) (implementation : String) : Bool :=
  match registry.find implementation with
  | none => false
  | some specification => (specification.role role).supported

def implementationsWithRole (registry : Registry) (role : RoleName) (names : List String) : List String :=
  names.filter (hasRole registry role)

def implementationsForScenario [UnicodeData] (registry : Registry) (role : RoleName) (scenario : ScenarioSpec)
    (names : List String) : List String :=
  names.filter fun implementation => roleSupportsScenario registry implementation role scenario

def serverPortBase : Nat := 18927

def clientPortBase : Nat := 19927

-- resultsDir is a path as the list of its parts.
structure CaseContext where
  resultsDir : List String
  environmentId : String
  scenario : ScenarioSpec
  serverImpl : String
  clientImpl : String
  slotIndex : Nat

def CaseContext.caseName (context : CaseContext) : String :=
  context.environmentId ++ "__" ++ context.scenario.id ++ "__" ++ context.serverImpl ++ "__to__" ++ context.clientImpl

def CaseContext.caseDir (context : CaseContext) : List String := context.resultsDir ++ [context.caseName]

def CaseContext.serverPort (context : CaseContext) : Nat := serverPortBase + context.slotIndex

def CaseContext.clientPort (context : CaseContext) : Nat := clientPortBase + context.slotIndex

def requireScenario (registry : Registry) (scenarioId : String) : Except MatrixError ScenarioSpec :=
  match registry.scenarios.find? fun scenario => scenario.id == scenarioId with
  | some scenario => .ok scenario
  | none => .error (.valueError ("Unknown scenario: " ++ scenarioId))

-- A case run_matrix lists: its slot index, scenario id, server and client.
structure ListedCase where
  slotIndex : Nat
  scenarioId : String
  serverImpl : String
  clientImpl : String
deriving DecidableEq, Repr

-- One turn of the innermost loop; the state is `cases` and `slot_index`.
def addCase (scenarioId serverImpl : String) (state : List ListedCase × Nat) (clientImpl : String) :
    List ListedCase × Nat :=
  (state.1 ++ [⟨state.2, scenarioId, serverImpl, clientImpl⟩], state.2 + 1)

def addServer (clientImpls : List String) (scenarioId : String) (state : List ListedCase × Nat) (serverImpl : String) :
    List ListedCase × Nat :=
  clientImpls.foldl (addCase scenarioId serverImpl) state

def addScenario [UnicodeData] (registry : Registry) (serverImpls clientImpls : List String)
    (state : List ListedCase × Nat) (scenario : ScenarioSpec) : List ListedCase × Nat :=
  (implementationsForScenario registry .server scenario serverImpls).foldl (addServer clientImpls scenario.id) state

-- The context run_case builds for a listed case.
def caseContext (registry : Registry) (resultsDir : List String) (environmentId : String) (listed : ListedCase) :
    Except MatrixError CaseContext :=
  (requireScenario registry listed.scenarioId).map fun scenario =>
    { resultsDir, environmentId, scenario, serverImpl := listed.serverImpl, clientImpl := listed.clientImpl,
      slotIndex := listed.slotIndex }

def listedCases [UnicodeData] (registry : Registry) (fromFilter toFilter : Option String) :
    Except MatrixError (List ListedCase) := do
  let serverImpls ← parseImplementationFilter registry fromFilter
  let names ← parseImplementationFilter registry toFilter
  let clientImpls := implementationsWithRole registry .client names
  return (registry.scenarios.foldl (addScenario registry serverImpls clientImpls) ([], 0)).1

-- The cases run_matrix gathers, at most `jobs` of them running at one time.
def runMatrix [UnicodeData] (registry : Registry) (resultsDir : List String) (environmentId : String)
    (fromFilter toFilter : Option String) (jobs : Int) : Except MatrixError (List CaseContext) :=
  if jobs ≤ 0 then .error (.valueError ("jobs must be positive, got " ++ toString jobs))
  else do
    let cases ← listedCases registry fromFilter toFilter
    cases.mapM (caseContext registry (resultsDir ++ ["data"]) environmentId)

end Conformance.Matrix
