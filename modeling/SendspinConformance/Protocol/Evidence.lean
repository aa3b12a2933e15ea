import SendspinConformance.Protocol.Gate

set_option autoImplicit false

namespace Conformance.Protocol

open Python

def SPEC_REVISION : String := "8c9577ea8719ad082d051ec13cc73ef15ed68948"

def RC1_ACTIVITIES : List String := ["pairing", "playback"]

def RC1_PLAYBACK_STATES : List String := ["playing", "stopped"]

-- The keys of PROTOCOL_ASSERTIONS
def protocolAssertionIds : List String := ["CORE-001", "CORE-002", "CORE-003", "CORE-004", "PLAYER-001"]

-- role.capitalize() of "server" and "client"
def evidenceRoles (serverSummary clientSummary : Fields) : List (String × Fields) :=
  [("Server", serverSummary), ("Client", clientSummary)]

section

variable [UnicodeData]

def assertionDetail (result : Fields) : String :=
  match getKey result "detail" with
  | .str detail => if detail.isEmpty then "" else ": " ++ detail
  | _ => ""

def assertionFailure (role : String) (assertions : Fields) (assertionId : String) : Option String :=
  match getKey assertions assertionId with
  | .obj result =>
      if !(getKey result "status").eqStr "passed" then
        some (role ++ " did not pass " ++ assertionId ++ assertionDetail result)
      else
        match getKey result "events" with
        | .arr (_ :: _) => none
        | _ => some (role ++ " " ++ assertionId ++ " has no trace events")
  | _ => some (role ++ " protocol evidence is missing " ++ assertionId)

def roleEvidenceFailure (assertionIds : List String) (entry : String × Fields) : Option String :=
  match getKey entry.2 "protocol" with
  | .obj protocol =>
      if !(getKey protocol "spec_revision").eqStr SPEC_REVISION then
        some (entry.1 ++ " protocol evidence targets spec revision " ++ pyRepr (getKey protocol "spec_revision") ++
          ", expected " ++ Python.reprStr SPEC_REVISION)
      else
        match getKey protocol "assertions" with
        | .obj assertions => assertionIds.findSome? (assertionFailure entry.1 assertions)
        | _ => some (entry.1 ++ " protocol evidence is missing its assertions map")
  | _ => some (entry.1 ++ " summary is missing required protocol evidence")

def protocolEvidenceFailure (serverSummary clientSummary : Fields) (assertionIds : List String) : Option String :=
  let unknown := assertionIds.filter fun assertionId => !protocolAssertionIds.contains assertionId
  if !unknown.isEmpty then some ("Scenario references unknown protocol assertion(s): " ++ joinWith ", " unknown)
  else (evidenceRoles serverSummary clientSummary).findSome? (roleEvidenceFailure assertionIds)

end

-- _is_rc1_activity_set
def isRc1ActivitySet : Json → Bool
  | .arr activities =>
      activities.all (fun activity => RC1_ACTIVITIES.any activity.eqStr) && (activities.filterMap Json.asStr).Nodup
  | _ => false

def activationDefects (payload : Fields) : List String :=
  (if !hasKey payload "activities" then ["omitted activities, which RC1 requires"]
    else if !isRc1ActivitySet (getKey payload "activities") then
      ["declared activities " ++ dumps (getKey payload "activities") ++ ", where RC1 requires " ++
        "a list of unique values drawn from 'pairing' and 'playback'"]
    else []) ++
    if !hasKey payload "active_roles" then ["omitted active_roles, which RC1 requires on the first activation"] else []

def notActivated : String :=
  "Server sent no initial server/activate; RC1 requires the server to send one " ++
    "on every connection, as the last step of the initial sequence"

def activationViolation (serverSummary : Fields) : Option String :=
  if !hasKey serverSummary "activation" then none
  else
    match getKey serverSummary "activation" with
    | .null => some notActivated
    | .obj activation =>
        if !(getKey activation "type").eqStr "server/activate" then none
        else
          match getKey activation "payload" with
          | .obj payload =>
              let defects := activationDefects payload
              if defects.isEmpty then none
              else some ("Server's initial server/activate " ++ joinWith "; " defects)
          | _ => none
    | _ => none

def groupTextDefect (payload : Fields) (name : String) : Option String :=
  if !hasKey payload name then some ("omitted " ++ name ++ ", which RC1 requires")
  else if !(getKey payload name).isStr then
    some ("declared " ++ name ++ " " ++ dumps (getKey payload name) ++ ", where RC1 requires a string")
  else none

def playbackStateDefect (payload : Fields) : Option String :=
  if !hasKey payload "playback_state" then some "omitted playback_state, which RC1 requires"
  else if !RC1_PLAYBACK_STATES.any (getKey payload "playback_state").eqStr then
    some ("declared playback_state " ++ dumps (getKey payload "playback_state") ++ ", where RC1 " ++
      "requires 'playing' or 'stopped'")
  else none

def groupUpdateDefects : Json → List String
  | .obj payload =>
      (playbackStateDefect payload).toList ++ ["group_id", "group_name"].filterMap (groupTextDefect payload)
  | _ => ["carried no payload object, so none of the fields RC1 requires"]

def notGroupUpdate (groupUpdate : Json) : String :=
  harnessGap ++ "the server adapter recorded something other than a " ++ "group/update among those sent: " ++
    dumps groupUpdate

-- The loop over group_updates, from the index it gives the first of them.
def groupUpdateLoop (total : Nat) : Nat → List Json → Option String
  | _, [] => none
  | index, .obj groupUpdate :: rest =>
      if !(getKey groupUpdate "type").eqStr "group/update" then some (notGroupUpdate (.obj groupUpdate))
      else
        let defects := groupUpdateDefects (getKey groupUpdate "payload")
        if defects.isEmpty then groupUpdateLoop total (index + 1) rest
        else
          some ("Server's group/update " ++ toString index ++ " of " ++ toString total ++ " after " ++
            "server/activate " ++ joinWith "; " defects)
  | _, other :: _ => some (notGroupUpdate other)

def groupUpdateViolation (serverSummary : Fields) : Option String :=
  if hasKey serverSummary "activation" && (getKey serverSummary "activation").isNull then none
  else
    match getKey serverSummary "group_updates" with
    | .arr groupUpdates =>
        if groupUpdates.isEmpty then
          some ("Server sent no group/update after its first server/activate; RC1 requires " ++
            "the server to send one on every connection")
        else groupUpdateLoop groupUpdates.length 1 groupUpdates
    | _ =>
        some (harnessGap ++ "the server adapter does not record the group/update messages " ++
          "it sent after its first server/activate")

end Conformance.Protocol
