import SendspinConformance.Harness.CaseRun

set_option autoImplicit false

namespace Conformance.Matrix

open Python Base Comparison

-- Something was not waited for to its end, or could not be spawned.
def CaseAct.fails : CaseAct → Bool
  | .expire => true
  | .spawnFails _ => true
  | _ => false

def Uneventful (acts : List CaseAct) : Prop := ∀ act ∈ acts, act.fails = false

def Plan.isUnsupported : Plan → Bool
  | .failFast _ unsupported _ => unsupported
  | _ => false

def RoleName.other : RoleName → RoleName
  | .server => .client
  | .client => .server

variable [Host]

-- Both adapters were launched and waited for, exited with 0 and left summaries that compare well.
structure Passes (setting : Setting) (acts : List CaseAct) (state : CaseState) (reason : String) : Prop where
  launched : setting.plan = .launch
  uneventful : Uneventful acts
  exited : state.server.returncode = some 0 ∧ state.client.returncode = some 0
  compared : ∃ serverPayload clientPayload, state.server.summary = .payload serverPayload ∧
    state.client.summary = .payload clientPayload ∧ setting.compare serverPayload clientPayload = .ok (true, reason)

-- A case that has its result. No adapter of it runs, and the result is the one in its directory.
structure Concluded (setting : Setting) (acts : List CaseAct) (state : CaseState) (result : CaseResult) : Prop where
  written : state.resultFile = some result
  ended : state.server.isRunning = false ∧ state.client.isRunning = false
  recorded : result = { setting.case.caseResult result.status result.reason state.server.returncode
    state.client.returncode with unsupported := setting.plan.isUnsupported }
  judged : result.status = .passed ∨ result.status = .failed
  passed : ∀ reason, result.status = .passed ∧ result.reason = reason ↔ Passes setting acts state reason

-- What is known of a case where it stands.
def Known (setting : Setting) (acts : List CaseAct) (state : CaseState) : Phase → Prop
  | .begun => acts = [] ∧ state.server = .fresh ∧ state.client = .fresh
  | .failReady role unsupported | .failExit role unsupported | .failReaping role unsupported _ =>
      (∃ reason, setting.plan = .failFast role unsupported reason) ∧ (state.adapter role.other).process = .absent ∧
        (state.adapter role).process ≠ .absent
  | .serverReady => setting.plan = .launch ∧ Uneventful acts ∧ state.client.process = .absent
  | .clientReady | .serverExit => setting.plan = .launch ∧ Uneventful acts
  | .clientExit => setting.plan = .launch ∧ Uneventful acts ∧ state.server.returncode.isSome
  | .reaping _ => setting.plan = .launch ∧ ¬Uneventful acts
  | .ended result => Concluded setting acts state result
  | .escaped => .cancel ∈ acts ∨ state.server.isRunning = false ∧ state.client.isRunning = false

omit [Host] in
theorem uneventful_snoc (acts : List CaseAct) (act : CaseAct) :
    Uneventful (acts ++ [act]) ↔ Uneventful acts ∧ act.fails = false := by
  simp [Uneventful, or_imp, forall_and]

omit [Host] in
theorem absent_not_running (adapter : Adapter) (absent : adapter.process = .absent) : adapter.isRunning = false := by
  simp [Adapter.isRunning, absent]

omit [Host] in
theorem running_present (adapter : Adapter) (running : adapter.isRunning = true) : adapter.process ≠ .absent := by
  intro absent
  rw [absent_not_running _ absent] at running
  cases running

omit [Host] in
theorem absent_returncode (adapter : Adapter) (absent : adapter.process = .absent) : adapter.returncode = none := by
  simp [Adapter.returncode, absent]

omit [Host] in
theorem exited_not_running (adapter : Adapter) (exited : adapter.returncode.isSome) : adapter.isRunning = false := by
  rcases adapter with ⟨process, ready, summary⟩
  cases process with
  | exited code => rfl
  | absent => cases exited
  | running => cases exited

-- A case that fails without both adapters having been judged.
theorem concluded_failed (setting : Setting) (acts : List CaseAct) (state : CaseState) (reason : String)
    (ended : state.server.isRunning = false ∧ state.client.isRunning = false)
    (notPassed : setting.plan = .launch → ¬Uneventful acts) :
    Concluded setting acts (state.conclude { setting.case.caseResult .failed reason state.server.returncode
      state.client.returncode with unsupported := setting.plan.isUnsupported })
      { setting.case.caseResult .failed reason state.server.returncode state.client.returncode with
        unsupported := setting.plan.isUnsupported } := by
  refine ⟨rfl, ended, rfl, .inr rfl, fun other => ⟨?_, fun passes => ?_⟩⟩
  · rintro ⟨impossible, _⟩
    cases impossible
  · exact absurd passes.uneventful (notPassed passes.launched)

theorem fail_fast_concluded (setting : Setting) (acts : List CaseAct) (state : CaseState) (role : RoleName)
    (unsupported : Bool) (failureReason : Option String) (reason : String)
    (planned : setting.plan = .failFast role unsupported failureReason)
    (other : (state.adapter role.other).process = .absent) (exited : (state.adapter role).isRunning = false) :
    Concluded setting acts
      (state.conclude (setting.failFastResult role unsupported reason (state.adapter role).returncode))
      (setting.failFastResult role unsupported reason (state.adapter role).returncode) := by
  have same : setting.failFastResult role unsupported reason (state.adapter role).returncode =
      { setting.case.caseResult .failed reason state.server.returncode state.client.returncode with
        unsupported := setting.plan.isUnsupported } := by
    rw [planned]
    cases role <;> simp_all [Setting.failFastResult, CaseState.adapter, RoleName.other, absent_returncode,
      Plan.isUnsupported]
  rw [same]
  apply concluded_failed setting acts state reason
  · cases role with
    | server => exact ⟨exited, absent_not_running _ other⟩
    | client => exact ⟨absent_not_running _ other, exited⟩
  · rw [planned]
    exact fun impossible => by cases impossible

theorem verdict_passed (setting : Setting) (server client : Adapter) (serverPayload clientPayload : Json)
    (reason : String) : setting.verdict server client serverPayload clientPayload = (.passed, reason) ↔
      (server.returncode = some 0 ∧ client.returncode = some 0) ∧
        setting.compare serverPayload clientPayload = .ok (true, reason) := by
  rw [Setting.verdict]
  cases compared : setting.compare serverPayload clientPayload with
  | error raised => simp
  | ok answer =>
      obtain ⟨equal, found⟩ := answer
      cases equal with
      | false => simp
      | true =>
          by_cases exited : server.returncode = some 0 ∧ client.returncode = some 0
          · simp [exited]
          · simp [exited]

theorem judge_passed (setting : Setting) (server client : Adapter) (reason : String) :
    setting.judge server client = .ok (.passed, reason) ↔
      (server.returncode = some 0 ∧ client.returncode = some 0) ∧ ∃ serverPayload clientPayload,
        server.summary = .payload serverPayload ∧ client.summary = .payload clientPayload ∧
          setting.compare serverPayload clientPayload = .ok (true, reason) := by
  rw [Setting.judge]
  cases serverSummary : server.summary with
  | absent => simp
  | unreadable raised => cases client.summary <;> simp
  | payload serverPayload =>
      cases clientSummary : client.summary with
      | absent => simp
      | unreadable raised => simp
      | payload clientPayload =>
          simp only [Except.ok.injEq, verdict_passed, SummaryFile.payload.injEq]
          constructor
          · rintro ⟨exited, compared⟩
            exact ⟨exited, serverPayload, clientPayload, rfl, rfl, compared⟩
          · rintro ⟨exited, _, _, rfl, rfl, compared⟩
            exact ⟨exited, compared⟩

theorem judge_status (setting : Setting) (server client : Adapter) (status : CaseStatus) (reason : String)
    (judged : setting.judge server client = .ok (status, reason)) : status = .passed ∨ status = .failed := by
  rw [Setting.judge] at judged
  split at judged
  · cases judged
    exact .inr rfl
  · cases judged
    exact .inr rfl
  · cases judged
  · cases judged
  · rw [Setting.verdict] at judged
    split at judged
    · cases judged
      exact .inr rfl
    · cases judged
      exact .inr rfl
    · split at judged <;> cases judged
      · exact .inl rfl
      · exact .inr rfl

-- Both adapters exited and nothing was given up: the case passes where the verdict does.
theorem judged_concluded (setting : Setting) (acts : List CaseAct) (state : CaseState) (status : CaseStatus)
    (reason : String) (launched : setting.plan = .launch) (uneventful : Uneventful acts)
    (serverExited : state.server.returncode.isSome) (clientExited : state.client.returncode.isSome)
    (judged : setting.judge state.server state.client = .ok (status, reason)) :
    Concluded setting acts
      (state.conclude (setting.case.caseResult status reason state.server.returncode state.client.returncode))
      (setting.case.caseResult status reason state.server.returncode state.client.returncode) := by
  refine ⟨rfl, ⟨exited_not_running _ serverExited, exited_not_running _ clientExited⟩, ?_,
    judge_status setting _ _ status reason judged, fun other => ?_⟩
  · rw [launched]
    rfl
  · have passes := judge_passed setting state.server state.client other
    rw [judged] at passes
    simp only [Except.ok.injEq, Prod.mk.injEq] at passes
    constructor
    · intro passed
      obtain ⟨exited, compared⟩ := passes.mp passed
      exact ⟨launched, uneventful, exited, compared⟩
    · intro known
      exact passes.mpr ⟨known.exited, known.compared⟩

theorem begin_known (setting : Setting) (acts : List CaseAct) (uneventful : Uneventful acts) :
    Known setting acts (.begin setting) (CaseState.begin setting).phase := by
  rw [CaseState.begin]
  cases planned : setting.plan with
  | failFast role unsupported failureReason =>
      dsimp only
      split
      · refine ⟨⟨failureReason, planned⟩, ?_, ?_⟩
        · cases role <;> rfl
        · cases role <;> exact fun impossible => by cases impossible
      · have unstarted : (CaseState.adapter ⟨.begun, .fresh, .fresh, none⟩ role).returncode = none := by
          cases role <;> rfl
        rw [← unstarted]
        exact fail_fast_concluded setting acts ⟨.begun, .fresh, .fresh, none⟩ role unsupported failureReason _ planned
          (by cases role <;> rfl) (by cases role <;> rfl)
  | notLaunched reason =>
      have concluded := concluded_failed setting acts ⟨.begun, .fresh, .fresh, none⟩ reason ⟨rfl, rfl⟩
        (by rw [planned]; exact fun impossible => by cases impossible)
      rw [planned] at concluded
      exact concluded
  | launch => exact ⟨planned, uneventful, rfl⟩

theorem proceed_known (setting : Setting) (acts : List CaseAct) (before after : CaseState)
    (known : Known setting acts before before.phase) (stepped : before.proceed setting = some after) :
    Known setting (acts ++ [.proceed]) after after.phase := by
  have later (uneventful : Uneventful acts) : Uneventful (acts ++ [.proceed]) :=
    (uneventful_snoc acts .proceed).mpr ⟨uneventful, rfl⟩
  obtain ⟨phase, server, client, resultFile⟩ := before
  cases phase with
  | begun =>
      cases stepped
      obtain ⟨rfl, _, _⟩ := known
      exact begin_known setting _ (later fun _ member => (List.not_mem_nil member).elim)
  | failReady role unsupported =>
      simp only [CaseState.proceed] at stepped
      split at stepped <;> cases stepped
      exact known
  | failExit role unsupported =>
      obtain ⟨⟨failureReason, planned⟩, other, _⟩ := known
      simp only [CaseState.proceed, Option.bind_eq_bind, Option.bind_eq_some_iff] at stepped
      obtain ⟨returncode, exited, stepped⟩ := stepped
      split at stepped <;> cases stepped
      · rw [← exited]
        exact fail_fast_concluded setting _ ⟨.failExit role unsupported, server, client, resultFile⟩ role unsupported
          failureReason _ planned other (exited_not_running _ (by rw [exited]; rfl))
      · have ended := exited_not_running (CaseState.adapter ⟨.failExit role unsupported, server, client, resultFile⟩ role)
          (by rw [exited]; rfl)
        right
        cases role with
        | server => exact ⟨ended, absent_not_running _ other⟩
        | client => exact ⟨absent_not_running _ other, ended⟩
  | failReaping role unsupported raised =>
      obtain ⟨⟨failureReason, planned⟩, other, _⟩ := known
      simp only [CaseState.proceed, Option.bind_eq_bind, Option.bind_eq_some_iff] at stepped
      obtain ⟨returncode, exited, stepped⟩ := stepped
      cases stepped
      rw [← exited]
      exact fail_fast_concluded setting _ ⟨.failReaping role unsupported raised, server, client, resultFile⟩ role
        unsupported failureReason _ planned other (exited_not_running _ (by rw [exited]; rfl))
  | serverReady =>
      simp only [CaseState.proceed] at stepped
      split at stepped <;> cases stepped
      exact ⟨known.1, later known.2.1⟩
  | clientReady =>
      simp only [CaseState.proceed] at stepped
      split at stepped <;> cases stepped
      exact ⟨known.1, later known.2⟩
  | serverExit =>
      simp only [CaseState.proceed] at stepped
      split at stepped <;> cases stepped
      rename_i exited
      exact ⟨known.1, later known.2, exited⟩
  | clientExit =>
      obtain ⟨launched, uneventful, serverExited⟩ := known
      simp only [CaseState.proceed] at stepped
      split at stepped
      · rename_i clientExited
        split at stepped <;> cases stepped
        · rename_i status reason judged
          exact judged_concluded setting _ ⟨.clientExit, server, client, resultFile⟩ status reason launched
            (later uneventful) serverExited clientExited judged
        · exact .inr ⟨exited_not_running _ serverExited, exited_not_running _ clientExited⟩
      · cases stepped
  | reaping raised =>
      obtain ⟨launched, eventful⟩ := known
      simp only [CaseState.proceed] at stepped
      split at stepped
      · cases stepped
      · rename_i ended
        cases stepped
        rw [Bool.or_eq_true, not_or, Bool.not_eq_true, Bool.not_eq_true] at ended
        have concluded := concluded_failed setting (acts ++ [.proceed]) ⟨.reaping raised, server, client, resultFile⟩
          (incompleteCaseReason server client (if raised.text.isEmpty then raised.type else raised.text)) ended
          fun _ uneventful => eventful ((uneventful_snoc acts .proceed).mp uneventful).1
        rw [launched] at concluded
        exact concluded
  | ended result => cases stepped
  | escaped => cases stepped

-- An adapter that runs changed its files or exited.
theorem adapter_known (setting : Setting) (acts : List CaseAct) (act : CaseAct) (quiet : act.fails = false)
    (before : CaseState) (role : RoleName) (adapter : Adapter) (known : Known setting acts before before.phase)
    (running : (before.adapter role).isRunning = true) (present : adapter.process ≠ .absent) :
    Known setting (acts ++ [act]) (before.setAdapter role adapter) before.phase := by
  have same : Uneventful (acts ++ [act]) ↔ Uneventful acts := by
    rw [uneventful_snoc]
    exact and_iff_left quiet
  have notAbsent := running_present _ running
  obtain ⟨phase, server, client, resultFile⟩ := before
  cases phase with
  | begun =>
      obtain ⟨_, rfl, rfl⟩ := known
      cases role <;> cases running
  | failReady failing unsupported =>
      obtain ⟨planned, other, _⟩ := known
      cases failing <;> cases role <;> first | exact absurd other notAbsent | exact ⟨planned, other, present⟩
  | failExit failing unsupported =>
      obtain ⟨planned, other, _⟩ := known
      cases failing <;> cases role <;> first | exact absurd other notAbsent | exact ⟨planned, other, present⟩
  | failReaping failing unsupported raised =>
      obtain ⟨planned, other, _⟩ := known
      cases failing <;> cases role <;> first | exact absurd other notAbsent | exact ⟨planned, other, present⟩
  | serverReady =>
      obtain ⟨launched, uneventful, absent⟩ := known
      cases role with
      | server => exact ⟨launched, same.mpr uneventful, absent⟩
      | client => exact absurd absent notAbsent
  | clientReady => exact ⟨known.1, same.mpr known.2⟩
  | serverExit => exact ⟨known.1, same.mpr known.2⟩
  | clientExit =>
      obtain ⟨launched, uneventful, exited⟩ := known
      cases role with
      | server =>
          rw [CaseState.adapter, exited_not_running _ exited] at running
          cases running
      | client => exact ⟨launched, same.mpr uneventful, exited⟩
  | reaping raised => exact ⟨known.1, fun uneventful => known.2 (same.mp uneventful)⟩
  | ended result =>
      obtain ⟨serverEnded, clientEnded⟩ := known.ended
      cases role with
      | server => rw [CaseState.adapter, serverEnded] at running; cases running
      | client => rw [CaseState.adapter, clientEnded] at running; cases running
  | escaped =>
      rcases known with cancelled | ⟨serverEnded, clientEnded⟩
      · exact .inl (List.mem_append_left [act] cancelled)
      · cases role with
        | server => rw [CaseState.adapter, serverEnded] at running; cases running
        | client => rw [CaseState.adapter, clientEnded] at running; cases running

theorem expire_known (setting : Setting) (acts : List CaseAct) (state : CaseState) (raised : PyError)
    (known : Known setting acts state state.phase) (timed : setting.timeoutOf state.phase = some raised) :
    Known setting (acts ++ [.expire]) { state with phase := state.phase.raising raised }
      (state.phase.raising raised) := by
  have eventful : ¬Uneventful (acts ++ [.expire]) := by
    rw [uneventful_snoc]
    exact fun impossible => by cases impossible.2
  obtain ⟨phase, server, client, resultFile⟩ := state
  cases phase with
  | begun => cases timed
  | failReady role unsupported => exact known
  | failExit role unsupported => exact known
  | failReaping role unsupported raised => cases timed
  | serverReady => exact ⟨known.1, eventful⟩
  | clientReady => exact ⟨known.1, eventful⟩
  | serverExit => exact ⟨known.1, eventful⟩
  | clientExit => exact ⟨known.1, eventful⟩
  | reaping raised => cases timed
  | ended result => cases timed
  | escaped => cases timed

theorem step_known (setting : Setting) (acts : List CaseAct) (act : CaseAct) (before after : CaseState)
    (known : Known setting acts before before.phase) (stepped : before.step setting act = some after) :
    Known setting (acts ++ [act]) after after.phase := by
  cases act with
  | proceed => exact proceed_known setting acts before after known stepped
  | expire =>
      rw [CaseState.step, Option.map_eq_some_iff] at stepped
      obtain ⟨raised, timed, rfl⟩ := stepped
      exact expire_known setting acts before raised known timed
  | spawnFails raised =>
      rw [CaseState.step] at stepped
      split at stepped
      · split at stepped <;> cases stepped
        exact .inr ⟨rfl, rfl⟩
      · rename_i waits
        rw [waits] at known
        split at stepped <;> cases stepped
        refine ⟨known.1, ?_⟩
        rw [uneventful_snoc]
        exact fun impossible => by cases impossible.2
      · cases stepped
  | cancel =>
      rw [CaseState.step] at stepped
      split at stepped <;> cases stepped
      exact .inl (List.mem_append_right acts (List.mem_singleton_self _))
  | writes role ready summary =>
      rw [CaseState.step] at stepped
      split at stepped <;> cases stepped
      rename_i running
      have goesOn := adapter_known setting acts (.writes role ready summary) rfl before role
        { before.adapter role with ready, summary } known running (running_present _ running)
      cases role <;> exact goesOn
  | exits role code =>
      rw [CaseState.step] at stepped
      split at stepped <;> cases stepped
      rename_i running
      have goesOn := adapter_known setting acts (.exits role code) rfl before role
        ((before.adapter role).exitedWith code) known running fun impossible => by cases impossible
      cases role <;> exact goesOn

theorem case_known (setting : Setting) (leftover : Option CaseResult) (acts : List CaseAct) (state : CaseState)
    (ran : turns (CaseState.step setting) (.queued leftover) acts = some state) :
    Known setting acts state state.phase := by
  apply turns_invariant _ _ (fun acts state => Known setting acts state state.phase) _ _ acts state ran
  · exact ⟨rfl, rfl, rfl⟩
  · exact fun acts before act after _ known stepped => step_known setting acts act before after known stepped

-- Once a case has its result, nothing more happens in it.
theorem ended_still (setting : Setting) (acts : List CaseAct) (state : CaseState) (result : CaseResult)
    (concluded : Concluded setting acts state result) (ended : state.phase = .ended result) (act : CaseAct) :
    state.step setting act = none := by
  obtain ⟨serverEnded, clientEnded⟩ := concluded.ended
  cases act with
  | proceed => simp [CaseState.step, CaseState.proceed, ended]
  | expire => simp [CaseState.step, Setting.timeoutOf, ended]
  | spawnFails raised => simp [CaseState.step, ended]
  | cancel => simp [CaseState.step, ended]
  | writes role ready summary => cases role <;> simp [CaseState.step, CaseState.adapter, serverEnded, clientEnded]
  | exits role code => cases role <;> simp [CaseState.step, CaseState.adapter, serverEnded, clientEnded]

theorem ended_concluded (setting : Setting) (leftover : Option CaseResult) (acts : List CaseAct) (state : CaseState)
    (result : CaseResult) (ran : turns (CaseState.step setting) (.queued leftover) acts = some state)
    (ended : state.phase = .ended result) : Concluded setting acts state result := by
  have known := case_known setting leftover acts state ran
  rw [ended] at known
  exact known

-- A case that has its result is settled, whatever its adapters did.
theorem case_concluded (setting : Setting) (leftover : Option CaseResult) (acts : List CaseAct) (state : CaseState)
    (result : CaseResult) (ran : turns (CaseState.step setting) (.queued leftover) acts = some state)
    (ended : state.phase = .ended result) :
    Concluded setting acts state result ∧ ∀ act, state.step setting act = none := by
  have concluded := ended_concluded setting leftover acts state result ran ended
  exact ⟨concluded, ended_still setting acts state result concluded ended⟩

-- A case of two adapters that play the metadata scenario
def metadataCase : Setting :=
  let spec : RoleSpec := { supported := true, supportsServerInitiated := true, supportedRoleFamilies := [.metadata] }
  { case :=
      { resultsDir := ["results"], environmentId := "local", serverImpl := "one", clientImpl := "two", slotIndex := 0,
        environmentName := "Local", scenarioRevision := 1, resultsPath := "results", timeoutText := "30",
        scenario := ⟨"server-initiated-metadata", .server, "pcm", [.metadata], false⟩ }
    specs := fun _ => spec
    builds := fun _ => none
    commands := fun _ => true
    entrypoints := fun _ => true
    verification := { verificationMode := .metadata } }

def metadataSummary : RoleName → Json
  | .server => .obj [("status", .str "ok"), ("metadata", .obj [("expected", .str "song")]), ("time_exchange", .arr []),
      ("group_updates", .arr [.obj [("type", .str "group/update"), ("payload", .obj [("playback_state", .str "playing"),
        ("group_id", .str "g"), ("group_name", .str "G")])]])]
  | .client => .obj [("status", .str "ok"), ("metadata", .obj [("received", .str "song"), ("update_count", .int 1)])]

-- Both adapters come up, write their summaries and exit.
def metadataActs : List CaseAct :=
  [.proceed, .writes .server true .absent, .proceed, .writes .client true .absent, .proceed,
    .writes .server true (.payload (metadataSummary .server)), .exits .server 0, .proceed,
    .writes .client true (.payload (metadataSummary .client)), .exits .client 0, .proceed]

omit [Host] in
theorem metadata_case_passes :
    ∃ state, @turns _ _ (@CaseState.step plainHost metadataCase) (.queued none) metadataActs = some state ∧
      ∃ result, state.phase = .ended result ∧ result.status = .passed ∧
        @Concluded plainHost metadataCase metadataActs state result := by
  refine ⟨_, rfl, _, rfl, ?_, ?_⟩
  · rfl
  · exact (@case_concluded plainHost metadataCase none metadataActs _ _ rfl rfl).1

end Conformance.Matrix
