import SendspinConformance.Validator.Renumbering
import SendspinConformance.Validator.ChecksJudged

set_option autoImplicit false

namespace Conformance.Validator

open Python Base

theorem client_init_renumbered (f : Nat → Nat) (connection : ConnectionRecord) :
    clientInit (renumber f connection) = renumber f (clientInit connection) := by
  cases framesEq : connection.frames with
  | nil => simp [clientInit, framesEq]
  | cons first rest =>
      simp only [clientInit, renumber_frames, framesEq, List.map_cons, renumber_ok]
      by_cases isInit : isClientInit first = true
      · rw [if_pos isInit, if_pos (by simpa [isClientInit] using isInit)]
        rfl
      · rw [if_neg isInit, if_neg (by simpa [isClientInit] using isInit)]
        rfl

theorem judge_client_init_renumbered (checkId : String) (holds : Fields → Py Bool) (passed : String)
    (failed : Fields → String) :
    Unanchored fun connection : ConnectionRecord => judgeClientInit connection checkId holds passed failed := by
  intro f _ connection
  simp only [judgeClientInit, client_init_renumbered]
  cases clientInit connection with
  | error raised => rfl
  | ok opening =>
      cases opening with
      | none => rfl
      | some init =>
          simp only [renumber_ok, renumber_some, renumber_fields]
          cases holds init.fields with
          | error raised => rfl
          | ok answer => cases answer <;> rfl

theorem opens_with_client_init_renumbered : Unanchored checkOpensWithClientInit := by
  intro f _ connection
  simp only [checkOpensWithClientInit, renumber_frames]
  cases connection.frames with
  | nil => rfl
  | cons first rest =>
      simp only [List.map_cons]
      by_cases isInit : isClientInit first = true
      · rw [if_pos isInit, if_pos (by simpa [isClientInit] using isInit)]
        rfl
      · rw [if_neg isInit, if_neg (by simpa [isClientInit] using isInit)]
        rfl

theorem init_fields_renumbered : Unanchored checkInitFields := by
  intro f _ connection
  simp only [checkInitFields, client_init_renumbered]
  cases clientInit connection with
  | error raised => rfl
  | ok opening =>
      cases opening with
      | none => rfl
      | some init =>
          have same : initUndefined (renumber f init) = initUndefined init := rfl
          simp only [renumber_ok, renumber_some, same]
          split <;> rfl

theorem noise_message_2_renumbered : Unanchored checkNoiseMessage2 := by
  intro f _ connection
  have seen : noiseMessage2 (renumber f connection) = renumber f (noiseMessage2 connection) := by
    simp only [noiseMessage2, inbound_renumbered, List.head?_map]
    rfl
  have rejected : noiseRejection (renumber f connection) = renumber f (noiseRejection connection) := by
    simp only [noiseRejection, renumber_noncompliance, List.find?_map, Function.comp_def, renumber_reason]
    rfl
  have sent : ((renumber f connection).frames.any fun frame => frame.transported && !frame.inbound) =
      connection.frames.any fun frame => frame.transported && !frame.inbound := by
    simp only [renumber_frames, List.any_map, Function.comp_def, renumber_transported, renumber_inbound]
  simp only [checkNoiseMessage2, seen, rejected, sent, outbound_renumbered, List.isEmpty_map]
  cases noiseMessage2 connection with
  | none =>
      simp only [renumber_none]
      split <;> rfl
  | some message2 =>
      cases noiseRejection connection with
      | some rejection => rfl
      | none =>
          simp only [renumber_none, renumber_some]
          split <;> rfl

theorem before_activation_renumbered : Unanchored checkNothingBeforeActivation := by
  intro f _ connection
  have transport : (renumber f connection).frames.filter RecordedFrame.transported =
      (connection.frames.filter RecordedFrame.transported).map (renumber f) := by
    simp only [renumber_frames, List.filter_map, Function.comp_def, renumber_transported]
  have early : ∀ frames : List RecordedFrame,
      ((frames.map (renumber f)).takeWhile fun frame => !activates frame).filter sentEarly =
        ((frames.takeWhile fun frame => !activates frame).filter sentEarly).map (renumber f) := by
    intro frames
    simp only [List.takeWhile_map, List.filter_map, Function.comp_def]
    rfl
  simp only [checkNothingBeforeActivation, transport, early, List.isEmpty_map]
  split
  · rfl
  · split
    · rfl
    · simp only [renumber_ok, renumber_cons, renumber_nil, finding_renumbered, List.map_map]
      rfl

theorem client_hello_renumbered (f : Nat → Nat) (connection : ConnectionRecord) :
    clientHello (renumber f connection) = renumber f (clientHello connection) := by
  simp only [clientHello, inbound_renumbered, List.head?_map]
  rfl

theorem hello_sent_renumbered : Unanchored checkHelloSent := by
  intro f _ connection
  simp only [checkHelloSent, client_hello_renumbered, inbound_renumbered, outbound_renumbered, List.head?_map,
    renumber_rejected]
  cases clientHello connection with
  | some hello => rfl
  | none =>
      cases (connection.outbound "server/hello").head? with
      | none => rfl
      | some serverHello =>
          cases (connection.inbound "client/goodbye").head? with
          | some goodbye => rfl
          | none =>
              simp only [renumber_none, Option.map_none, Option.map_some]
              split <;> rfl

-- A check of the client/hello judges what the frame carries.
theorem judge_hello_renumbered (checkId : String) (judge : RecordedFrame → Verdict × String)
    (blind : ∀ (f : Nat → Nat) hello, judge (renumber f hello) = judge hello) :
    Unanchored (judgeHello checkId judge) := by
  intro f _ connection
  simp only [judgeHello, client_hello_renumbered]
  cases clientHello connection with
  | none => rfl
  | some hello =>
      simp only [renumber_some, blind]
      rfl

theorem initial_state_renumbered (f : Nat → Nat) (connection : ConnectionRecord) :
    initialState (renumber f connection) = renumber f (initialState connection) := by
  simp only [initialState, inbound_renumbered, List.head?_map]
  rfl

theorem active_roles_renumbered (f : Nat → Nat) (mono : StrictMono f) (connection : ConnectionRecord)
    (before : Option RecordedFrame) :
    activeRoles (renumber f connection) (renumber f before) = activeRoles connection before := by
  have read : readActivations (renumber f connection) (renumber f before) =
      (readActivations connection before).map (renumber f) := by
    cases before with
    | none => simp [readActivations, List.takeWhile_map, Function.comp_def]
    | some state => simp [readActivations, List.takeWhile_map, Function.comp_def, mono.le_iff_le]
  simp only [activeRoles, read, List.foldlM_map, renumber_fields]

theorem unsent_state_renumbered (f : Nat → Nat) (mono : StrictMono f) (connection : ConnectionRecord)
    (activation : RecordedFrame) (roles : List String) :
    unsentState (renumber f connection) (renumber f activation) roles =
      renumber f (unsentState connection activation roles) := by
  simp only [unsentState, inbound_renumbered, List.find?_map, Function.comp_def, renumber_id, mono.lt_iff_lt,
    renumber_rejected]
  cases (connection.inbound "client/goodbye").find? fun frame => decide (activation.id < frame.id) with
  | some goodbye => rfl
  | none =>
      simp only [Option.map_none]
      split <;> rfl

theorem initial_state_sent_renumbered : Unanchored checkInitialStateSent := by
  intro f mono connection
  simp only [checkInitialStateSent, outbound_renumbered, List.head?_map, initial_state_renumbered,
    active_roles_renumbered f mono]
  cases (connection.outbound "server/activate").head? with
  | none => rfl
  | some activation =>
      simp only [Option.map_some]
      cases activeRoles connection (initialState connection) with
      | error raised => rfl
      | ok roles =>
          cases roles with
          | nil => rfl
          | cons role others =>
              cases initialState connection with
              | some state => rfl
              | none =>
                  simp only [renumber_none, unsent_state_renumbered f mono]
                  rfl

theorem state_available_renumbered : Unanchored checkStateAvailable := by
  intro f _ connection
  simp only [checkStateAvailable, inbound_renumbered, List.filter_map, Function.comp_def, renumber_fields,
    List.isEmpty_map, List.length_map]
  split
  · rfl
  · split
    · simp only [renumber_ok, renumber_cons, renumber_nil, finding_renumbered, List.map_take]
    · simp only [renumber_ok, renumber_cons, renumber_nil, finding_renumbered]

theorem state_role_objects_renumbered : Unanchored checkStateRoleObjects := by
  intro f mono connection
  simp only [checkStateRoleObjects, initial_state_renumbered]
  cases initialState connection with
  | none => rfl
  | some state =>
      have roles : activeRoles (renumber f connection) (some (renumber f state)) = activeRoles connection (some state) :=
        active_roles_renumbered f mono connection (some state)
      simp only [renumber_some, roles]
      cases activeRoles connection (some state) with
      | error raised => rfl
      | ok roles =>
          have same : inactiveObjects roles (renumber f state) = inactiveObjects roles state := rfl
          simp only [same]
          split <;> rfl

theorem time_integer_renumbered : Unanchored checkTimeInteger := by
  intro f _ connection
  simp only [checkTimeInteger, inbound_renumbered, List.filter_map, Function.comp_def, renumber_fields,
    List.isEmpty_map, List.length_map]
  split
  · rfl
  · split
    · simp only [renumber_ok, renumber_cons, renumber_nil, finding_renumbered, List.map_take]
    · simp only [renumber_ok, renumber_cons, renumber_nil, finding_renumbered]

theorem name_matches_txt_renumbered [UnicodeData] (txtName : Option String) :
    Unanchored (checkHelloNameMatchesTxt txtName) := by
  cases txtName with
  | none => exact fun _ _ _ => rfl
  | some txt => exact judge_hello_renumbered _ _ fun _ _ => rfl

theorem core_checks_renumbered [UnicodeData] (txtName : Option String) :
    ∀ check ∈ checks txtName, Unanchored check.2 := by
  simp only [checks, List.forall_mem_cons]
  exact ⟨opens_with_client_init_renumbered, judge_client_init_renumbered _ _ _ _,
    judge_client_init_renumbered _ _ _ _, judge_client_init_renumbered _ _ _ _, init_fields_renumbered,
    noise_message_2_renumbered, before_activation_renumbered, hello_sent_renumbered,
    judge_hello_renumbered _ _ fun _ _ => rfl, judge_hello_renumbered _ _ fun _ _ => rfl,
    judge_hello_renumbered _ _ fun _ _ => rfl, judge_hello_renumbered _ _ fun _ _ => rfl,
    judge_hello_renumbered _ _ fun _ _ => rfl, name_matches_txt_renumbered txtName, initial_state_sent_renumbered,
    state_available_renumbered, state_role_objects_renumbered, time_integer_renumbered, by simp⟩

theorem run_checks_renumbered [UnicodeData] (txtName : Option String) :
    Unanchored fun connection => runChecks connection txtName := by
  intro f mono connection
  simp only [runChecks, renumber_list, List.map_flatMap]
  apply List.flatMap_congr
  intro check member
  simp only [runCheck, core_checks_renumbered txtName check member f mono connection]
  cases check.2 connection <;> rfl

end Conformance.Validator
