import SendspinConformance.Validator.Checks

set_option autoImplicit false

namespace Conformance.Validator

open Python

@[simp] theorem finding_id (checkId : String) (verdict : Verdict) (message : String) (frames : List RecordedFrame) :
    (finding checkId verdict message frames).id = checkId := rfl

@[simp] theorem finding_verdict (checkId : String) (verdict : Verdict) (message : String)
    (frames : List RecordedFrame) : (finding checkId verdict message frames).verdict = verdict := rfl

@[simp] theorem finding_message (checkId : String) (verdict : Verdict) (message : String)
    (frames : List RecordedFrame) : (finding checkId verdict message frames).message = message := rfl

-- The two findings by which CORE-NOISE-001 says the validator saw no message 2 payload.
def NoiseUnseen (answer : Finding) : Prop :=
  answer.id = "CORE-NOISE-001" ∧ (answer.message = noiseUnseen ∨ answer.message = noiseEnded)

-- A value `in SUITES` can look up.
def hashable : Json → Bool
  | .arr _ => false
  | .obj _ => false
  | _ => true

-- A value `for role in value or []` can go over.
def iterable : Json → Bool
  | .arr _ => true
  | .str _ => true
  | .obj _ => true
  | value => !value.truthy

def SuiteHashable (connection : ConnectionRecord) : Prop :=
  ∀ first ∈ connection.frames.head?, isClientInit first = true → hashable (getKey first.fields "suite") = true

def RolesIterable (connection : ConnectionRecord) : Prop :=
  ∀ activation ∈ readActivations connection (initialState connection),
    iterable (getKey activation.fields "active_roles") = true

-- What the checks of the opening exchange have to be able to read.
structure Readable (connection : ConnectionRecord) : Prop where
  opened : connection.frames ≠ []
  hashes : SuiteHashable connection
  iterates : RolesIterable connection

theorem in_suites_raises_iff (value : Json) : (inSuites value).raised = false ↔ hashable value = true := by
  cases value <;> simp [inSuites, hashable, Py.raised]

theorem iterated_raises_iff (value : Json) : (iterated value).raised = false ↔ iterable value = true := by
  cases value with
  | arr items => simp [iterated, iterable, Py.raised]
  | str text => simp [iterated, iterable, Py.raised]
  | obj fields => simp [iterated, iterable, Py.raised]
  | _ =>
      simp only [iterated, iterable]
      split <;> simp_all [Py.raised]

-- A check answers: one finding under its own id, a tool error only for an unseen payload.
def Answers (check : Check) (checkId : String) (connection : ConnectionRecord) : Prop :=
  ∃ answer, check connection = .ok [answer] ∧ answer.id = checkId ∧ (answer.verdict = .toolError → NoiseUnseen answer)

def Stumbles (check : Check) (connection : ConnectionRecord) : Prop :=
  ¬ Readable connection ∧ (check connection).raised = true

theorem active_roles_raises_iff (connection : ConnectionRecord) (before : Option RecordedFrame) :
    (activeRoles connection before).raised = false ↔
      ∀ activation ∈ readActivations connection before,
        iterable (getKey activation.fields "active_roles") = true := by
  rw [activeRoles]
  generalize ([] : List String) = roles
  induction readActivations connection before generalizing roles with
  | nil => simp [Py.raised, pure, Except.pure]
  | cons activation rest ih =>
      rw [List.forall_mem_cons, ← iterated_raises_iff, List.foldlM_cons]
      cases read : iterated (getKey activation.fields "active_roles") with
      | error raised => simp [Py.raised, Except.map, bind, Except.bind]
      | ok active => simpa [Py.raised, Except.map, bind, Except.bind] using ih _

theorem client_init_answers (connection : ConnectionRecord) (checkId : String) (holds : Fields → Py Bool)
    (passed : String) (failed : Fields → String)
    (reads : ∀ first ∈ connection.frames.head?, isClientInit first = true →
      (holds first.fields).raised = false ∨ ¬ Readable connection) :
    Answers (fun record => judgeClientInit record checkId holds passed failed) checkId connection ∨
      Stumbles (fun record => judgeClientInit record checkId holds passed failed) connection := by
  cases framesEq : connection.frames with
  | nil =>
      apply Or.inr
      exact ⟨fun readable => readable.opened framesEq, by simp [judgeClientInit, clientInit, framesEq, Py.raised]⟩
  | cons first rest =>
      simp only [Answers, Stumbles, judgeClientInit, clientInit, framesEq]
      by_cases isInit : isClientInit first = true
      · rw [if_pos isInit]
        dsimp only
        cases held : holds first.fields with
        | error raised =>
            cases reads first (by rw [framesEq]; rfl) isInit with
            | inl quiet => rw [held] at quiet; exact absurd quiet (by simp [Py.raised])
            | inr unreadable => exact Or.inr ⟨unreadable, rfl⟩
        | ok answer =>
            cases answer with
            | true => exact Or.inl ⟨_, rfl, rfl, by simp⟩
            | false => exact Or.inl ⟨_, rfl, rfl, by simp⟩
      · rw [if_neg isInit]
        exact Or.inl ⟨_, rfl, rfl, by simp [noClientInit]⟩

theorem hello_answers (checkId : String) (judge : RecordedFrame → Verdict × String) (connection : ConnectionRecord)
    (seen : ∀ hello, (judge hello).1 ≠ .toolError) : Answers (judgeHello checkId judge) checkId connection := by
  simp only [Answers, judgeHello]
  cases clientHello connection with
  | none => exact ⟨_, rfl, rfl, by simp [noClientHello]⟩
  | some hello => exact ⟨_, rfl, rfl, fun isTool => absurd isTool (seen hello)⟩

theorem opens_with_client_init_answers (connection : ConnectionRecord) :
    Answers checkOpensWithClientInit "CORE-INIT-001" connection ∨ Stumbles checkOpensWithClientInit connection := by
  cases framesEq : connection.frames with
  | nil =>
      apply Or.inr
      exact ⟨fun readable => readable.opened framesEq, by simp [checkOpensWithClientInit, framesEq, Py.raised]⟩
  | cons first rest =>
      apply Or.inl
      simp only [Answers, checkOpensWithClientInit, framesEq]
      split
      · exact ⟨_, rfl, rfl, by simp⟩
      · exact ⟨_, rfl, rfl, by simp⟩

theorem init_fields_answers (connection : ConnectionRecord) :
    Answers checkInitFields "CORE-INIT-005" connection ∨ Stumbles checkInitFields connection := by
  cases framesEq : connection.frames with
  | nil =>
      apply Or.inr
      exact ⟨fun readable => readable.opened framesEq, by simp [checkInitFields, clientInit, framesEq, Py.raised]⟩
  | cons first rest =>
      apply Or.inl
      simp only [Answers, checkInitFields, clientInit, framesEq]
      by_cases isInit : isClientInit first = true
      · rw [if_pos isInit]
        dsimp only
        split
        · exact ⟨_, rfl, rfl, by simp⟩
        · exact ⟨_, rfl, rfl, by simp⟩
      · rw [if_neg isInit]
        exact ⟨_, rfl, rfl, by simp [noClientInit]⟩

theorem noise_message_2_answers (connection : ConnectionRecord) :
    Answers checkNoiseMessage2 "CORE-NOISE-001" connection := by
  simp only [Answers, checkNoiseMessage2]
  cases noiseMessage2 connection with
  | none =>
      dsimp only
      split
      · exact ⟨_, rfl, rfl, fun _ => ⟨rfl, Or.inl rfl⟩⟩
      · exact ⟨_, rfl, rfl, by simp⟩
  | some message2 =>
      cases noiseRejection connection with
      | some rejection => exact ⟨_, rfl, rfl, by simp⟩
      | none =>
          dsimp only
          split
          · exact ⟨_, rfl, rfl, by simp⟩
          · exact ⟨_, rfl, rfl, fun _ => ⟨rfl, Or.inr rfl⟩⟩

theorem before_activation_answers (connection : ConnectionRecord) :
    Answers checkNothingBeforeActivation "CORE-ORDER-001" connection := by
  simp only [Answers, checkNothingBeforeActivation]
  split
  · exact ⟨_, rfl, rfl, by simp⟩
  · split
    · exact ⟨_, rfl, rfl, by simp⟩
    · exact ⟨_, rfl, rfl, by simp⟩

theorem hello_sent_answers (connection : ConnectionRecord) : Answers checkHelloSent "CORE-HELLO-001" connection := by
  simp only [Answers, checkHelloSent]
  split
  · exact ⟨_, rfl, rfl, by simp⟩
  · exact ⟨_, rfl, rfl, by simp⟩
  · exact ⟨_, rfl, rfl, by simp⟩
  · split
    · exact ⟨_, rfl, rfl, by simp [notReached]⟩
    · exact ⟨_, rfl, rfl, by simp⟩

theorem name_matches_txt_answers [UnicodeData] (connection : ConnectionRecord) (txtName : Option String) :
    Answers (checkHelloNameMatchesTxt txtName) "CORE-HELLO-007" connection := by
  cases txtName with
  | none => exact ⟨_, rfl, rfl, by simp⟩
  | some txt =>
      apply hello_answers
      intro hello
      simp only [judgeName]
      split <;> simp

theorem initial_state_answers (connection : ConnectionRecord) :
    Answers checkInitialStateSent "CORE-STATE-001" connection ∨ Stumbles checkInitialStateSent connection := by
  simp only [Answers, Stumbles, checkInitialStateSent]
  cases (connection.outbound "server/activate").head? with
  | none => exact Or.inl ⟨_, rfl, rfl, by simp⟩
  | some activation =>
      cases read : activeRoles connection (initialState connection) with
      | error raised =>
          apply Or.inr
          refine ⟨fun readable => ?_, rfl⟩
          have quiet := (active_roles_raises_iff connection _).mpr readable.iterates
          rw [read] at quiet
          exact absurd quiet (by simp [Py.raised])
      | ok roles =>
          apply Or.inl
          cases roles with
          | nil => exact ⟨_, rfl, rfl, by simp⟩
          | cons role others =>
              cases initialState connection with
              | some state => exact ⟨_, rfl, rfl, by simp⟩
              | none =>
                  refine ⟨_, rfl, ?_, ?_⟩
                  · simp only [unsentState]
                    split <;> [rfl; split <;> rfl]
                  · simp only [unsentState]
                    split <;> [simp; split <;> simp [notReached]]

theorem state_available_answers (connection : ConnectionRecord) :
    Answers checkStateAvailable "CORE-STATE-002" connection := by
  simp only [Answers, checkStateAvailable]
  split
  · exact ⟨_, rfl, rfl, by simp⟩
  · split
    · exact ⟨_, rfl, rfl, by simp⟩
    · exact ⟨_, rfl, rfl, by simp⟩

theorem state_role_objects_answers (connection : ConnectionRecord) :
    Answers checkStateRoleObjects "CORE-STATE-003" connection ∨ Stumbles checkStateRoleObjects connection := by
  simp only [Answers, Stumbles, checkStateRoleObjects]
  cases initial : initialState connection with
  | none => exact Or.inl ⟨_, rfl, rfl, by simp⟩
  | some state =>
      dsimp only
      cases read : activeRoles connection (some state) with
      | error raised =>
          apply Or.inr
          refine ⟨fun readable => ?_, rfl⟩
          have iterates := readable.iterates
          rw [RolesIterable, initial] at iterates
          have quiet := (active_roles_raises_iff connection _).mpr iterates
          rw [read] at quiet
          exact absurd quiet (by simp [Py.raised])
      | ok roles =>
          apply Or.inl
          dsimp only
          split
          · exact ⟨_, rfl, rfl, by simp⟩
          · exact ⟨_, rfl, rfl, by simp⟩

theorem time_integer_answers (connection : ConnectionRecord) :
    Answers checkTimeInteger "CORE-TIME-001" connection := by
  simp only [Answers, checkTimeInteger]
  split
  · exact ⟨_, rfl, rfl, by simp⟩
  · split
    · exact ⟨_, rfl, rfl, by simp⟩
    · exact ⟨_, rfl, rfl, by simp⟩

theorem core_check_answers [UnicodeData] (connection : ConnectionRecord) (txtName : Option String) :
    ∀ check ∈ checks txtName, Answers check.2 check.1 connection ∨ Stumbles check.2 connection := by
  simp only [checks, List.forall_mem_cons]
  refine ⟨opens_with_client_init_answers connection, ?_, ?_, ?_, init_fields_answers connection,
    Or.inl (noise_message_2_answers connection), Or.inl (before_activation_answers connection),
    Or.inl (hello_sent_answers connection), Or.inl ?_, Or.inl ?_, Or.inl ?_, Or.inl ?_, Or.inl ?_,
    Or.inl (name_matches_txt_answers connection txtName), initial_state_answers connection,
    Or.inl (state_available_answers connection), state_role_objects_answers connection,
    Or.inl (time_integer_answers connection), by simp⟩
  · exact client_init_answers connection _ _ _ _ fun _ _ _ => Or.inl rfl
  · exact client_init_answers connection _ _ _ _ fun _ _ _ => Or.inl rfl
  · apply client_init_answers connection
    intro first opening isInit
    cases quiet : (inSuites (getKey first.fields "suite")).raised with
    | false => exact Or.inl rfl
    | true =>
        apply Or.inr
        intro readable
        rw [(in_suites_raises_iff _).mpr (readable.hashes first opening isInit)] at quiet
        exact Bool.false_ne_true quiet
  all_goals
    apply hello_answers
    intro hello
    repeat' split
    all_goals simp

-- One finding for each check, under its id, whether it answers or raises.
theorem run_check_named (connection : ConnectionRecord) (check : String × Check)
    (known : Answers check.2 check.1 connection ∨ Stumbles check.2 connection) :
    ∃ answer, runCheck connection check = [answer] ∧ answer.id = check.1 := by
  cases known with
  | inl answers =>
      obtain ⟨answer, ran, named, _⟩ := answers
      exact ⟨answer, by rw [runCheck, ran], named⟩
  | inr stumbles =>
      cases ran : check.2 connection with
      | ok findings => rw [Stumbles, ran] at stumbles; exact absurd stumbles.2 (by simp [Py.raised])
      | error raised => exact ⟨failedCheck check.1 raised, by rw [runCheck, ran], rfl⟩

theorem run_checks_ids (connection : ConnectionRecord) (table : List (String × Check))
    (known : ∀ check ∈ table, Answers check.2 check.1 connection ∨ Stumbles check.2 connection) :
    (table.flatMap (runCheck connection)).map Finding.id = table.map Prod.fst := by
  induction table with
  | nil => rfl
  | cons check rest ih =>
      rw [List.forall_mem_cons] at known
      obtain ⟨answer, ran, named⟩ := run_check_named connection check known.1
      rw [List.flatMap_cons, ran, List.map_append, ih known.2, List.map_cons, List.map_cons, named]
      rfl

theorem suite_read_hashable [UnicodeData] (connection : ConnectionRecord)
    (quiet : (checkInitSuite connection).raised = false) : SuiteHashable connection := by
  intro first opening isInit
  rw [← in_suites_raises_iff]
  cases framesEq : connection.frames with
  | nil => rw [framesEq] at opening; exact absurd opening (by simp)
  | cons head rest =>
      have same : head = first := by simpa [framesEq] using opening
      simp only [checkInitSuite, judgeClientInit, clientInit, framesEq, same, if_pos isInit] at quiet
      cases read : inSuites (getKey first.fields "suite") with
      | ok answer => rfl
      | error raised => simp [read, Py.raised] at quiet

theorem roles_read_iterable (connection : ConnectionRecord)
    (quiet : (checkInitialStateSent connection).raised = false) : RolesIterable connection := by
  intro activation read
  cases activations : connection.outbound "server/activate" with
  | nil => rw [readActivations, activations] at read; exact absurd read (by simp)
  | cons first rest =>
      have readable : (activeRoles connection (initialState connection)).raised = false := by
        simp only [checkInitialStateSent, activations, List.head?_cons] at quiet
        cases roles : activeRoles connection (initialState connection) with
        | ok found => rfl
        | error raised => simp [roles, Py.raised] at quiet
      exact (active_roles_raises_iff connection _).mp readable activation read

theorem core_checks_judged [UnicodeData] (connection : ConnectionRecord) (txtName : Option String)
    (opened : connection.frames ≠ []) :
    ((∀ check ∈ checks txtName, (check.2 connection).raised = false) ∧
        (runChecks connection txtName).map Finding.id = (checks txtName).map Prod.fst ∧
        ∀ answer ∈ runChecks connection txtName, answer.verdict = .toolError → NoiseUnseen answer) ↔
      SuiteHashable connection ∧ RolesIterable connection := by
  apply Iff.intro
  · intro judged
    obtain ⟨quiet, _, _⟩ := judged
    exact ⟨suite_read_hashable connection (quiet ("CORE-INIT-004", checkInitSuite) (by simp [checks])),
      roles_read_iterable connection (quiet ("CORE-STATE-001", checkInitialStateSent) (by simp [checks]))⟩
  · intro reads
    have readable : Readable connection := ⟨opened, reads.1, reads.2⟩
    have known := core_check_answers connection txtName
    have answered : ∀ check ∈ checks txtName, Answers check.2 check.1 connection :=
      fun check member => (known check member).resolve_right fun stumbles => stumbles.1 readable
    refine ⟨?_, run_checks_ids connection _ known, ?_⟩
    · intro check member
      obtain ⟨answer, ran, _, _⟩ := answered check member
      rw [ran]
      rfl
    · intro answer found isTool
      obtain ⟨check, member, ran⟩ := List.mem_flatMap.mp found
      obtain ⟨one, only, _, honest⟩ := answered check member
      rw [runCheck, only, List.mem_singleton] at ran
      rw [ran] at isTool ⊢
      exact honest isTool

def openingFrame (suite : Json) : RecordedFrame :=
  { id := 1, connection := 1, clientId := none, direction := .inbound, phase := .cleartext, monotonicUs := 0
    size := 160
    message := some [("type", .str "client/init"),
      ("payload", .obj [("client_id", .str "AAAAAAAAAAAAAAAAAAAAAAAAAAAAAAAAAAAAAAAAAAA"), ("version", .int 1),
        ("suite", suite)])] }

def openingRecord (suite : Json) : ConnectionRecord := { number := 1, frames := [openingFrame suite] }

theorem defined_suite_judged :
    (∀ check ∈ @checks noUnicode none, (check.2 (openingRecord (.str "25519_AESGCM_SHA256"))).raised = false) ∧
      (@runChecks noUnicode (openingRecord (.str "25519_AESGCM_SHA256")) none).map Finding.id =
        (@checks noUnicode none).map Prod.fst ∧
      ∀ answer ∈ @runChecks noUnicode (openingRecord (.str "25519_AESGCM_SHA256")) none,
        answer.verdict = .toolError → NoiseUnseen answer := by
  apply (@core_checks_judged noUnicode (openingRecord (.str "25519_AESGCM_SHA256")) none
    (List.cons_ne_nil _ _)).mpr
  apply And.intro
  · intro first opening _
    have same : openingFrame (.str "25519_AESGCM_SHA256") = first := by simpa [openingRecord] using opening
    rw [← same]
    rfl
  · intro activation read
    have absent : (openingRecord (.str "25519_AESGCM_SHA256")).outbound "server/activate" = [] := rfl
    rw [readActivations, absent] at read
    exact absurd read (by simp)

def listSuiteRecord : ConnectionRecord := openingRecord (.arr [.str "25519_AESGCM_SHA256"])

-- A client/init whose suite is a list makes the suite check raise.
theorem list_suite_raises :
    listSuiteRecord.frames ≠ [] ∧
      @checkInitSuite noUnicode listSuiteRecord = .error ⟨"TypeError", "unhashable type: 'list'"⟩ ∧
      ∃ answer ∈ @runChecks noUnicode listSuiteRecord none,
        answer.verdict = .toolError ∧ ¬ NoiseUnseen answer := by
  refine ⟨List.cons_ne_nil _ _, rfl, failedCheck "CORE-INIT-004" ⟨"TypeError", "unhashable type: 'list'"⟩, ?_, rfl, ?_⟩
  · exact List.mem_flatMap.mpr ⟨("CORE-INIT-004", @checkInitSuite noUnicode), by simp [checks], List.mem_singleton.mpr rfl⟩
  · intro unseen
    exact absurd unseen.1 (by decide)

end Conformance.Validator
