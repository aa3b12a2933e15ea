import SendspinConformance.Harness.AudioComparison
import SendspinConformance.Harness.CaseOutcome
import SendspinConformance.Harness.RoleComparison
import SendspinConformance.Harness.StreamFormats
import SendspinConformance.Protocol.Evidence
import SendspinConformance.Protocol.TimeExchange

set_option autoImplicit false

namespace Conformance.Comparison

open Python Harness Conformance.Matrix Protocol

variable [Host]

-- The verdict where a rule of the scenario is not broken
def unlessViolated (violation : Py (Option String)) (otherwise : Py (Bool × String)) : Py (Bool × String) := do
  match ← violation with
  | some reason => .ok (false, reason)
  | none => otherwise

def protocolVerdict (scenario : VerifiedScenario) (serverSummary clientSummary : Fields) : Py (Bool × String) :=
  afterStatuses serverSummary clientSummary <|
    match protocolEvidenceFailure serverSummary clientSummary scenario.protocolAssertions with
    | some failure => .ok (false, failure)
    | none => .ok (true, "Passed " ++ toString scenario.protocolAssertions.length ++ " protocol assertions")

def pcmVerdict (scenario : VerifiedScenario) (serverSummary clientSummary : Fields) : Py (Bool × String) := do
  let judged ← compareAudioSummaries serverSummary clientSummary
  match judged.1, scenario.verifiesStreamBitDepth with
  | true, some bitDepth => unlessViolated (streamBitDepthViolation serverSummary clientSummary bitDepth) (.ok judged)
  | _, _ => .ok judged

def encodedVerdict (scenario : VerifiedScenario) (serverSummary clientSummary : Fields) : Py (Bool × String) :=
  unlessViolated
    (if scenario.verifiesFormatPriority && (getKey serverSummary "status").eqStr "ok" then
      formatPriorityViolation serverSummary scenario.preferredCodec
    else .ok none)
    (compareEncodedAudioSummaries serverSummary clientSummary scenario.preferredCodec)

-- _dispatch_comparison
def dispatchComparison (scenario : VerifiedScenario) (serverSummary clientSummary : Fields) : Py (Bool × String) :=
  match scenario.verificationMode with
  | .protocol => protocolVerdict scenario serverSummary clientSummary
  | .audioPcm => pcmVerdict scenario serverSummary clientSummary
  | .audioEncodedBytes => encodedVerdict scenario serverSummary clientSummary
  | .metadata => compareMetadataSummaries serverSummary clientSummary
  | .controller => compareControllerSummaries serverSummary clientSummary
  | .artwork => compareArtworkSummaries serverSummary clientSummary
  | .formatPreference => compareFormatPreferenceSummaries scenario.id serverSummary clientSummary
  | .audioChunkFraming => chunkFramingVerdict serverSummary clientSummary

-- required_role_families holds one of _STREAMED_ROLE_FAMILIES.
def streams (scenario : VerifiedScenario) : Bool :=
  scenario.requiredRoleFamilies.any fun family => family = .player || family = .artwork

-- The verdicts every case is given beside that of its mode
def connectionViolations (scenario : VerifiedScenario) (serverSummary clientSummary : Fields) :
    List (Py (Option String)) :=
  [.ok (activationViolation serverSummary), .ok (groupUpdateViolation serverSummary),
    .ok (if streams scenario then streamStartGateViolation serverSummary else none),
    .ok (timeExchangeViolation serverSummary), undeclaredFormatViolation serverSummary clientSummary]

-- _compare_summaries, of two summaries that are objects
def compareFields (scenario : VerifiedScenario) (serverSummary clientSummary : Fields) : Py (Bool × String) :=
  match adapterReportedFailures [(.server, serverSummary), (.client, clientSummary)] with
  | some reported => .ok (false, reported)
  | none => do
      let judged ← dispatchComparison scenario serverSummary clientSummary
      if judged.1 then
        (connectionViolations scenario serverSummary clientSummary).foldr unlessViolated (.ok judged)
      else .ok judged

-- _compare_summaries
def compareSummaries (scenario : VerifiedScenario) (serverPayload clientPayload : Json) : Py (Bool × String) :=
  match serverPayload, clientPayload with
  | .obj serverSummary, .obj clientSummary => compareFields scenario serverSummary clientSummary
  | .obj _, other | other, _ => .error ⟨"AttributeError", "'" ++ other.typeName ++ "' object has no attribute 'get'"⟩

end Conformance.Comparison
