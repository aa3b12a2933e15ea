import SendspinConformance.Validator.SuiteChecks

set_option autoImplicit false

namespace Conformance.Validator.Suite

open Python Protocol

def delayMinMs : Nat := 100

-- _player(frame.payload)
def player (frame : RecordedFrame) : Fields := fieldsOf (getKey frame.fields "player")

-- "set_output_delay" in (value or [])
def listsSetOutputDelay : Json → Py Bool
  | .arr commands => .ok (commands.any (Json.eqStr "set_output_delay"))
  | .str text => .ok (contains "set_output_delay" text)
  | .obj fields => .ok (hasKey fields "set_output_delay")
  | value =>
      if value.truthy then .error ⟨"TypeError", "argument of type '" ++ value.typeName ++ "' is not iterable"⟩
      else .ok false

def offersDelay (frame : RecordedFrame) : Py Bool := listsSetOutputDelay (getKey (player frame) "supported_commands")

-- player.output_delay_ms == delay
def echoes (delay : Int) (frame : RecordedFrame) : Bool := (getKey (player frame) "output_delay_ms").eqInt delay

def grow (record : ConnectionRecord) (frames : List RecordedFrame) : ConnectionRecord :=
  { record with frames := record.frames ++ frames }

-- Link.until: the condition is tested on the record as it grows, a last time when time runs out.
def waitUntil (holds : ConnectionRecord → Bool) : ConnectionRecord → List (List RecordedFrame) → Bool
  | record, [] => holds record
  | record, batch :: rest => holds record || waitUntil holds (grow record batch) rest

def echoed (delay : Int) (record : ConnectionRecord) : Bool := (record.inbound "client/state").any (echoes delay)

-- The frames recorded on the connection of the R5 step, as far as it reads them: those there
-- when the delay is set, those arriving while its echo is awaited, and those after.
structure RestartStep where
  start : ConnectionRecord
  -- Whether the server has the client, with a player role.
  hasPlayer : Bool
  -- secrets.randbelow(_DELAY_SPAN_MS)
  drawn : Nat
  awaited : List (List RecordedFrame)
  later : List RecordedFrame
  after : ConnectionRecord

namespace RestartStep

def delay (step : RestartStep) : Int := delayMinMs + step.drawn

def tested (step : RestartStep) : ConnectionRecord := step.awaited.foldl grow step.start

-- The connection's record when the step is judged.
def before (step : RestartStep) : ConnectionRecord := grow step.tested step.later

end RestartStep

-- SuiteRunner._set_output_delay
def setOutputDelay (step : RestartStep) : Py (Option Int) :=
  match Py.anyOf offersDelay (step.start.inbound "client/state") with
  | .error raised => .error raised
  | .ok false => .ok none
  | .ok true =>
      if step.hasPlayer && waitUntil (echoed step.delay) step.start step.awaited then .ok (some step.delay)
      else .ok none

-- A value `in (value or [])` can look into.
def searchable : Json → Bool
  | .arr _ => true
  | .str _ => true
  | .obj _ => true
  | value => !value.truthy

-- Up to the first client/state that offers set_output_delay, supported_commands can be looked into.
def CommandsSearchable (step : RestartStep) : Prop :=
  ∀ front frame back, step.start.inbound "client/state" = front ++ frame :: back →
    (∀ earlier ∈ front, offersDelay earlier ≠ .ok true) →
      searchable (getKey (player frame) "supported_commands") = true

def Offered (step : RestartStep) : Prop := ∃ frame ∈ step.start.inbound "client/state", offersDelay frame = .ok true

-- Where the delay comes back as a number that is no integer, the client reports the integer too.
def EchoTyped (step : RestartStep) : Prop :=
  Offered step → step.hasPlayer = true →
    ∀ frame ∈ step.tested.inbound "client/state",
      (getKey (player frame) "output_delay_ms").isInt = false → echoes step.delay frame = true →
        ∃ state ∈ step.before.inbound "client/state", getKey (player state) "output_delay_ms" = .int step.delay

theorem lists_raises_iff (value : Json) : (listsSetOutputDelay value).raised = false ↔ searchable value = true := by
  cases value with
  | arr commands => simp [listsSetOutputDelay, searchable, Py.raised]
  | str text => simp [listsSetOutputDelay, searchable, Py.raised]
  | obj fields => simp [listsSetOutputDelay, searchable, Py.raised]
  | _ =>
      simp only [listsSetOutputDelay, searchable]
      split <;> simp_all [Py.raised]

-- any() over what may raise: it raises exactly at the first item that does before one that holds.
theorem any_of_raises_iff {α : Type} (holds : α → Py Bool) (items : List α) :
    (Py.anyOf holds items).raised = false ↔
      ∀ front item back, items = front ++ item :: back → (∀ earlier ∈ front, holds earlier ≠ .ok true) →
        (holds item).raised = false := by
  induction items with
  | nil => simp [Py.anyOf, Py.raised]
  | cons head tail ih =>
      rw [Py.anyOf]
      cases read : holds head with
      | error raised =>
          apply Iff.intro
          · intro quiet
            exact absurd quiet (by simp [Py.raised])
          · intro readable
            have quiet := readable [] head tail rfl (by simp)
            rw [read] at quiet
            exact absurd quiet (by simp [Py.raised])
      | ok answer =>
          cases answer with
          | true =>
              apply Iff.intro
              · intro _ front item back split earlier
                cases front with
                | nil =>
                    have same : head = item := (List.cons.inj split).1
                    rw [← same, read]
                    rfl
                | cons first others =>
                    have same : head = first := (List.cons.inj split).1
                    exact absurd (same ▸ read) (earlier first List.mem_cons_self)
              · intro _
                rfl
          | false =>
              dsimp only
              rw [ih]
              apply Iff.intro
              · intro readable front item back split earlier
                cases front with
                | nil =>
                    have same : head = item := (List.cons.inj split).1
                    rw [← same, read]
                    rfl
                | cons first others =>
                    exact readable others item back (List.cons.inj split).2 fun other member =>
                      earlier other (List.mem_cons_of_mem first member)
              · intro readable front item back split earlier
                apply readable (head :: front) item back (by rw [split]; rfl)
                intro other member
                cases List.mem_cons.mp member with
                | inl isHead => rw [isHead, read]; simp
                | inr isLater => exact earlier other isLater

theorem any_of_true_iff {α : Type} (holds : α → Py Bool) (items : List α)
    (quiet : (Py.anyOf holds items).raised = false) :
    Py.anyOf holds items = .ok true ↔ ∃ item ∈ items, holds item = .ok true := by
  induction items with
  | nil => simp [Py.anyOf]
  | cons head tail ih =>
      rw [Py.anyOf] at quiet ⊢
      cases read : holds head with
      | error raised => rw [read] at quiet; exact absurd quiet (by simp [Py.raised])
      | ok answer =>
          cases answer with
          | true => simp [read]
          | false =>
              rw [read] at quiet
              simpa [read] using ih quiet

theorem grow_inbound (record : ConnectionRecord) (frames : List RecordedFrame) :
    ∃ more, (grow record frames).inbound "client/state" = record.inbound "client/state" ++ more := by
  refine ⟨({ record with frames := frames } : ConnectionRecord).inbound "client/state", ?_⟩
  simp only [grow, ConnectionRecord.inbound, List.filter_append]

theorem echoed_grows (delay : Int) (record : ConnectionRecord) (frames : List RecordedFrame)
    (seen : echoed delay record = true) : echoed delay (grow record frames) = true := by
  obtain ⟨more, grown⟩ := grow_inbound record frames
  rw [echoed, grown, List.any_append, ← echoed, seen]
  rfl

-- Waiting sees an echo exactly when one is there in the end: a record only grows.
theorem wait_until_iff (delay : Int) (batches : List (List RecordedFrame)) (record : ConnectionRecord) :
    waitUntil (echoed delay) record batches = true ↔ echoed delay (batches.foldl grow record) = true := by
  induction batches generalizing record with
  | nil => rfl
  | cons batch rest ih =>
      rw [waitUntil, Bool.or_eq_true, ih, List.foldl_cons]
      apply Iff.intro
      · intro seen
        cases seen with
        | inl now =>
            have grown := echoed_grows delay record batch now
            rw [← ih]
            cases rest with
            | nil => exact grown
            | cons next others => rw [waitUntil, grown]; rfl
        | inr later => exact later
      · intro later
        exact Or.inr later

theorem echo_found_iff (step : RestartStep) :
    (checkRestartKeepsOutputDelay step.before step.after (some step.delay)).raised = false ↔
      ∃ state ∈ step.before.inbound "client/state", getKey (player state) "output_delay_ms" = .int step.delay := by
  have reads : ∀ frame, (outputDelay frame == some step.delay) = true ↔
      getKey (player frame) "output_delay_ms" = .int step.delay := by
    intro frame
    rw [beq_iff_eq, ← Json.as_int_some]
    rfl
  simp only [checkRestartKeepsOutputDelay]
  cases found : (step.before.inbound "client/state").find? fun frame => outputDelay frame == some step.delay with
  | none =>
      apply Iff.intro
      · intro quiet
        exact absurd quiet (by simp [Py.raised])
      · intro present
        obtain ⟨state, member, isDelay⟩ := present
        exact absurd ((reads state).mpr isDelay) (List.find?_eq_none.mp found state member)
  | some echo =>
      apply Iff.intro
      · intro _
        have isDelay := @List.find?_some _ (fun frame => outputDelay frame == some step.delay) echo _ found
        exact ⟨echo, List.mem_of_find?_eq_some found, (reads echo).mp isDelay⟩
      · intro _
        dsimp only
        split <;> rfl

theorem commands_searchable_iff (step : RestartStep) :
    CommandsSearchable step ↔ (Py.anyOf offersDelay (step.start.inbound "client/state")).raised = false := by
  simp only [any_of_raises_iff, CommandsSearchable, offersDelay, lists_raises_iff]

theorem set_output_delay_quiet (step : RestartStep) :
    (setOutputDelay step).raised = false ↔ CommandsSearchable step := by
  rw [commands_searchable_iff, setOutputDelay]
  cases Py.anyOf offersDelay (step.start.inbound "client/state") with
  | error raised => rfl
  | ok answer =>
      cases answer with
      | false => rfl
      | true =>
          dsimp only
          split <;> simp [Py.raised]

theorem set_output_delay_some (step : RestartStep) (readable : CommandsSearchable step) :
    setOutputDelay step = .ok (some step.delay) ↔
      Offered step ∧ step.hasPlayer = true ∧ echoed step.delay step.tested = true := by
  have quiet := (commands_searchable_iff step).mp readable
  have offered := any_of_true_iff offersDelay _ quiet
  have seen := wait_until_iff step.delay step.awaited step.start
  rw [Offered, ← offered, RestartStep.tested, ← seen, setOutputDelay]
  cases answered : Py.anyOf offersDelay (step.start.inbound "client/state") with
  | error raised => simp
  | ok answer =>
      cases answer with
      | false => simp
      | true =>
          cases step.hasPlayer with
          | false => simp
          | true => cases waitUntil (echoed step.delay) step.start step.awaited <;> simp

theorem set_output_delay_answers (step : RestartStep) (delay : Int) (set : setOutputDelay step = .ok (some delay)) :
    delay = step.delay := by
  rw [setOutputDelay] at set
  split at set
  · exact absurd set (by simp)
  · exact absurd set (by simp)
  · split at set
    · simpa using set.symm
    · exact absurd set (by simp)

-- The R5 step raises nowhere: setting the delay, or judging what the restart kept of it.
def RestartJudged (step : RestartStep) : Prop :=
  (setOutputDelay step).raised = false ∧
    ∀ commanded, setOutputDelay step = .ok commanded →
      (checkRestartKeepsOutputDelay step.before step.after commanded).raised = false

theorem restart_step_judged (step : RestartStep) :
    RestartJudged step ↔ CommandsSearchable step ∧ EchoTyped step := by
  rw [RestartJudged, set_output_delay_quiet]
  apply and_congr_right
  intro readable
  have whenSet := set_output_delay_some step readable
  apply Iff.intro
  · intro judged offered hasPlayer frame member _ isEcho
    have set := whenSet.mpr ⟨offered, hasPlayer, List.any_eq_true.mpr ⟨frame, member, isEcho⟩⟩
    exact (echo_found_iff step).mp (judged _ set)
  · intro typed commanded set
    cases commanded with
    | none => rfl
    | some delay =>
        have isDelay := set_output_delay_answers step delay set
        rw [isDelay] at set ⊢
        obtain ⟨offered, hasPlayer, seen⟩ := whenSet.mp set
        obtain ⟨frame, member, isEcho⟩ := List.any_eq_true.mp seen
        rw [echo_found_iff]
        cases isInt : (getKey (player frame) "output_delay_ms").isInt with
        | false => exact typed offered hasPlayer frame member isInt isEcho
        | true =>
            obtain ⟨number, reported⟩ := (Json.is_int_iff _).mp isInt
            rw [echoes, reported, Json.eq_int_of_int] at isEcho
            obtain ⟨more, grown⟩ := grow_inbound step.tested step.later
            refine ⟨frame, ?_, by rw [reported, isEcho]⟩
            rw [RestartStep.before, grown]
            exact List.mem_append_left more member

def stateFrame (commands delay : Json) : RecordedFrame :=
  { id := 8, connection := 3, clientId := none, direction := .inbound, phase := .transport, monotonicUs := 0
    size := 120
    message := some [("type", .str "client/state"),
      ("payload", .obj [("available", .bool true),
        ("player", .obj [("supported_commands", commands), ("output_delay_ms", delay)])])] }

def restartWith (commands delay : Json) : RestartStep :=
  { start := { number := 3, frames := [stateFrame commands (.int 0)] }
    hasPlayer := true
    drawn := 150
    awaited := [[stateFrame commands delay]]
    later := []
    after := { number := 4, frames := [] } }

-- An echo of 250.0 passes for the delay when it is set and for none when it is judged;
-- supported_commands of true cannot be looked into at all.
theorem float_echo_raises :
    setOutputDelay (restartWith (.arr [.str "set_output_delay"]) (.float ⟨.finite 250, "250.0"⟩)) = .ok (some 250) ∧
      checkRestartKeepsOutputDelay
          (restartWith (.arr [.str "set_output_delay"]) (.float ⟨.finite 250, "250.0"⟩)).before
          { number := 4, frames := [] } (some 250) = .error ⟨"StopIteration", ""⟩ ∧
      setOutputDelay (restartWith (.bool true) (.int 0)) =
        .error ⟨"TypeError", "argument of type 'bool' is not iterable"⟩ := by
  refine ⟨?_, ?_, ?_⟩
  · rfl
  · rfl
  · rfl

end Conformance.Validator.Suite
