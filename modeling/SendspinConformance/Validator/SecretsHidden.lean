import SendspinConformance.Validator.HiddenParts
import SendspinConformance.Validator.RecordsNumbered

set_option autoImplicit false

namespace Conformance.Validator

open Python Base

variable (loads : List UInt8 → Loaded)

-- The object a frame carries, where it is recorded as a message.
def messageOf (frame : ObservedFrame) : Option Fields :=
  match frame.error, jsonText frame with
  | none, some text =>
      match loads text with
      | .value (.obj message) => some message
      | _ => none
  | _, _ => none

-- What is to be hidden in a frame: what was registered before it, and what its secret fields carry.
def ToHide (recorder : Recorder) (frame : ObservedFrame) (word : List Char) : Prop :=
  Registered recorder.secrets word ∨
    ∃ message, messageOf loads frame = some message ∧ ∃ value ∈ carriedFields message, value.toList = word

def clientPart : Option String → Part
  | some clientId => .logged clientId
  | none => .bare "null"

def number (value : Int) : Part := .bare (toString value)

-- What a line of the log holds of a frame beside its content.
def commonParts (recorder : Recorder) (frame : ObservedFrame) : List Part :=
  [.logged "client_id", clientPart frame.clientId, .logged "connection", number frame.connection,
    .logged "direction", .logged frame.direction.value, .logged "id", number (recorder.frames.length + 1 : Nat),
    .logged "monotonic_us", number frame.monotonicUs, .logged "phase", .logged frame.phase.value,
    .logged "size", number frame.data.length]

def contentParts (frame : ObservedFrame) : List Part :=
  match frame.error, jsonText frame with
  | some error, _ => [.logged "error", .redacted error]
  | none, none =>
      match frame.data.head? with
      | some binaryType => [.logged "binary_type", number binaryType.toNat]
      | none => []
  | none, some text =>
      match loads text with
      | .raised _ => []
      | .notJson reason => [.logged "error", .kept ("not a JSON message: " ++ reason)]
      | .value (.obj message) => .logged "message" :: partsFields message
      | .value _ => [.logged "error", .kept notObject]

-- The keys and strings of the recorded message, and the recorded error.
def recordedTexts (recorded : RecordedFrame) : List String :=
  (recorded.message.map textsFields).getD [] ++ recorded.error.toList

-- A call whose frame shows what is to be hidden at most in strings, where redaction finds it.
def Allowed (recorder : Recorder) : Call → Prop
  | .secret text => text = "" ∨ Spelled text.toList
  | .frame frame => ∀ word, ToHide loads recorder frame word → Spelled word ∧
      ∀ part ∈ commonParts recorder frame ++ contentParts loads frame, part.Unseen recorder.secrets word
  | _ => True

structure Hidden (run : List Call) : Prop where
  frames : ∀ recorded ∈ (calls loads run).frames, ∃ before frame after, run = before ++ .frame frame :: after ∧
    decode loads (calls loads before) frame = .ok recorded ∧
    ∀ word, ToHide loads (calls loads before) frame word →
      (∀ text ∈ recordedTexts recorded, ¬ word <:+: text.toList) ∧ ¬ word <:+: (logLine recorded).toList
  reasons : ∀ violation ∈ (calls loads run).noncompliance, ∃ before observation after,
    run = before ++ .noncompliance observation :: after ∧
    ∀ secret ∈ (calls loads before).secrets, ¬ secret.1.toList <:+: violation.reason.toList
  details : ∀ event ∈ (calls loads run).events, ∃ before connection clientId kind pskCategory detail after,
    run = before ++ .event connection clientId kind pskCategory detail :: after ∧
    ∀ secret ∈ (calls loads before).secrets, ∀ text, event.detail = some text → ¬ secret.1.toList <:+: text.toList

theorem client_lexemes (secrets : List Secret) (clientId : Option String) :
    lexemes (optionalText clientId) = [(clientPart clientId).lexeme secrets] := by
  cases clientId <;> rfl

theorem lexemes_fields_append (first second : Fields) :
    lexemesFields (first ++ second) = lexemesFields first ++ lexemesFields second := by
  induction first with
  | nil => rfl
  | cons field rest ih =>
      obtain ⟨key, value⟩ := field
      rw [List.cons_append, lexemesFields, lexemesFields, ih, List.append_assoc]

-- A line is its common part, then what the frame holds.
theorem line_lexemes (recorder : Recorder) (frame : ObservedFrame) (message : Option Fields) (binaryType : Option Nat)
    (error : Option String) :
    lexemes (toJson { common recorder frame with message, binaryType, error }) =
      (commonParts recorder frame).map (Part.lexeme recorder.secrets) ++
        lexemesFields ((message.map fun held => ("message", Json.obj held)).toList ++
          (binaryType.map fun held => ("binary_type", Json.int held)).toList ++
          (error.map fun held => ("error", Json.str held)).toList) := by
  rw [toJson, lexemes, List.append_assoc, List.append_assoc, lexemes_fields_append, ← List.append_assoc]
  congr 1
  rw [commonParts]
  simp only [lexemesFields, common, client_lexemes recorder.secrets]
  rfl

theorem recorded_parts (recorder : Recorder) (frame : ObservedFrame) (recorded : RecordedFrame)
    (decoded : decode loads recorder frame = .ok recorded) :
    recordedTexts recorded = (contentParts loads frame).flatMap (Part.texts recorder.secrets) ∧
      lexemes (toJson recorded) =
        (commonParts recorder frame ++ contentParts loads frame).map (Part.lexeme recorder.secrets) := by
  rw [decode] at decoded
  rw [contentParts, List.map_append]
  cases failed : frame.error with
  | some error =>
      rw [failed] at decoded
      cases decoded
      exact ⟨rfl, line_lexemes recorder frame none none _⟩
  | none =>
      rw [failed] at decoded
      cases carries : jsonText frame with
      | none =>
          rw [carries] at decoded
          cases decoded
          refine ⟨?_, (line_lexemes recorder frame none _ none).trans ?_⟩
          · cases frame.data.head? <;> rfl
          · cases frame.data.head? <;> rfl
      | some text =>
          rw [carries] at decoded
          dsimp only at decoded ⊢
          cases loaded : loads text with
          | raised error =>
              rw [loaded] at decoded
              cases decoded
          | notJson reason =>
              rw [loaded] at decoded
              cases decoded
              exact ⟨rfl, line_lexemes recorder frame none none _⟩
          | value json =>
              rw [loaded] at decoded
              cases json with
              | obj message =>
                  cases decoded
                  refine ⟨?_, (line_lexemes recorder frame _ none none).trans ?_⟩
                  · rw [recordedTexts, List.flatMap_cons]
                    exact (List.append_nil _).trans (redact_fields_texts recorder.secrets message)
                  · rw [List.map_cons, ← redact_fields_lexemes recorder.secrets message]
                    simp [lexemesFields, lexemes, Part.lexeme]
              | _ =>
                  cases decoded
                  exact ⟨rfl, line_lexemes recorder frame none none _⟩

theorem line_holds {word : List Char} (isWord : Word word) (recorded : RecordedFrame) :
    word <:+: (logLine recorded).toList ↔ Within word (lexemes (toJson recorded)) := by
  have line : (logLine recorded).toList = (dumpsSorted (toJson recorded)).toList ++ ['\n'] := by simp [logLine]
  rw [line, infix_closed isWord '\n' _ (by decide), dumps_sorted_holds isWord]

theorem frame_hidden (recorder : Recorder) (frame : ObservedFrame) (recorded : RecordedFrame) (word : List Char)
    (spelled : ∀ secret ∈ recorder.secrets, Spelled secret.1.toList) (allowed : Allowed loads recorder (.frame frame))
    (decoded : decode loads recorder frame = .ok recorded) (hides : ToHide loads recorder frame word) :
    (∀ text ∈ recordedTexts recorded, ¬ word <:+: text.toList) ∧ ¬ word <:+: (logLine recorded).toList := by
  obtain ⟨isSpelled, unseen⟩ := allowed word hides
  obtain ⟨texts, lexed⟩ := recorded_parts loads recorder frame recorded decoded
  refine ⟨?_, ?_⟩
  · intro text isText
    rw [texts] at isText
    obtain ⟨part, isPart, inPart⟩ := List.mem_flatMap.mp isText
    exact (part_hidden recorder.secrets spelled isSpelled part (unseen part (List.mem_append_right _ isPart))).1 text inPart
  · rw [line_holds isSpelled.toWord, lexed]
    rintro ⟨stretch, isStretch, inside⟩
    obtain ⟨part, isPart, rfl⟩ := List.mem_map.mp isStretch
    exact (part_hidden recorder.secrets spelled isSpelled part (unseen part isPart)).2 inside

def AllowedRun (run : List Call) : Prop :=
  ∀ before call after, run = before ++ call :: after → Allowed loads (calls loads before) call

theorem allowed_earlier (first second : List Call) (allowed : AllowedRun loads (first ++ second)) :
    AllowedRun loads first := by
  intro before call after split
  exact allowed before call (after ++ second) (by rw [split, List.append_assoc, List.cons_append])

theorem called_registered (recorder : Recorder) (call : Call) (secret : Secret)
    (registered : secret ∈ (called loads recorder call).secrets) :
    secret ∈ recorder.secrets ∨ call = .secret secret.1 := by
  cases call with
  | secret text =>
      rw [called, addSecret] at registered
      split at registered
      · rcases List.mem_insert_iff.mp registered with same | earlier
        · exact .inr (by rw [same])
        · exact .inl earlier
      · exact .inl registered
  | frame frame =>
      rw [called, observeFrame] at registered
      split at registered <;> exact .inl registered
  | noncompliance observation => exact .inl registered
  | event connection clientId kind pskCategory detail => exact .inl registered

theorem secrets_spelled (run : List Call) (allowed : AllowedRun loads run) :
    ∀ secret ∈ (calls loads run).secrets, Spelled secret.1.toList := by
  induction run using List.reverseRecOn with
  | nil =>
      intro secret registered
      cases registered
  | append_singleton earlier call ih =>
      intro secret registered
      rw [calls_snoc] at registered
      rcases called_registered loads _ call secret registered with before | rfl
      · exact ih (allowed_earlier loads earlier [call] allowed) secret before
      · rcases allowed earlier _ [] rfl with isEmpty | isSpelled
        · exact absurd isEmpty secret.2
        · exact isSpelled

-- A reason or a detail is only ever recorded redacted.
theorem registered_hidden (secrets : List Secret) (spelled : ∀ secret ∈ secrets, Spelled secret.1.toList) (text : String) :
    ∀ secret ∈ secrets, ¬ secret.1.toList <:+: (redactText secrets text).toList := by
  intro secret registered
  exact (redacted_unseen secrets spelled (spelled secret registered) text (.inl ⟨secret, registered, rfl⟩)).1

theorem secrets_hidden (run : List Call) (allowed : AllowedRun loads run) : Hidden loads run where
  frames := by
    intro recorded isRecorded
    obtain ⟨position, held⟩ := List.getElem?_of_mem isRecorded
    obtain ⟨before, call, after, split, _, adds⟩ :=
      log_position (called loads) Recorder.frames (addedFrame loads) (called_frames_added loads) run {} position recorded
        (Nat.zero_le position) held
    cases call with
    | frame frame =>
        rw [addedFrame, ← calls] at adds
        have decoded : decode loads (calls loads before) frame = .ok recorded := by
          cases made : decode loads (calls loads before) frame with
          | ok found =>
              rw [made] at adds
              cases adds
              rfl
          | error raised =>
              rw [made] at adds
              cases adds
        have spelled := secrets_spelled loads before (allowed_earlier loads before _ (split ▸ allowed))
        refine ⟨before, frame, after, split, decoded, fun word hides => ?_⟩
        exact frame_hidden loads _ frame recorded word spelled (allowed before _ after split) decoded hides
    | _ => cases adds
  reasons := by
    intro violation isRecorded
    obtain ⟨position, held⟩ := List.getElem?_of_mem isRecorded
    obtain ⟨before, call, after, split, _, adds⟩ :=
      log_position (called loads) Recorder.noncompliance addedNoncompliance (called_noncompliance_added loads) run {}
        position violation (Nat.zero_le position) held
    cases call with
    | noncompliance observation =>
        cases adds
        have spelled := secrets_spelled loads before (allowed_earlier loads before _ (split ▸ allowed))
        exact ⟨before, observation, after, split, registered_hidden _ spelled _⟩
    | _ => cases adds
  details := by
    intro event isRecorded
    obtain ⟨position, held⟩ := List.getElem?_of_mem isRecorded
    obtain ⟨before, call, after, split, _, adds⟩ :=
      log_position (called loads) Recorder.events addedEvent (called_events_added loads) run {}
        position event (Nat.zero_le position) held
    cases call with
    | event connection clientId kind pskCategory detail =>
        cases adds
        have spelled := secrets_spelled loads before (allowed_earlier loads before _ (split ▸ allowed))
        refine ⟨before, connection, clientId, kind, pskCategory, detail, after, split, ?_⟩
        intro secret registered text isText
        obtain ⟨given, _, rfl⟩ := Option.map_eq_some_iff.mp isText
        exact registered_hidden _ spelled given secret registered
    | _ => cases adds

-- What pairing tokens, keys and codes are written with.
def isTokenChar (char : Char) : Bool := char.isAlphanum || char == '-' || char == '_' || char == '='

theorem token_spelled (text : List Char) (nonempty : text ≠ []) (written : text.all isTokenChar = true)
    (apart : ¬ text <:+: redactedWord) : Spelled text := by
  have outside : ∀ char, isTokenChar char = false → char ∉ text := by
    intro char other member
    have isToken := List.all_eq_true.mp written char member
    rw [other] at isToken
    cases isToken
  have marks : punctuation.all (fun mark => !isTokenChar mark) = true := by decide
  have heads : ∀ char, isTokenChar char = false → text.head? ≠ some char := by
    intro char other first
    exact outside char other (List.mem_of_head? first)
  exact {
    nonempty := nonempty
    plain := by
      intro char member isMark
      have noToken := List.all_eq_true.mp marks char isMark
      rw [Bool.not_eq_true'] at noToken
      exact outside char noToken member
    starts := ⟨heads ' ' (by decide), heads ':' (by decide)⟩
    opens := outside '<' (by decide)
    closes := outside '>' (by decide)
    apart := apart }

section runs

-- The user's code is registered, and the app repeats it in a message that carries a confirmation key.
def enteredCode : String := "483920"

def confirmation : String := "Zm9vYmFy"

def confirmLoads (_ : List UInt8) : Loaded :=
  .value (.obj [("type", .str "client/pair-confirm"),
    ("payload", .obj [("client_kc", .str confirmation), ("message", .str ("code " ++ enteredCode ++ " bound"))])])

def confirmFrame : ObservedFrame := ⟨1, some "client", .inbound, .cleartext, [], 10, none⟩

def confirmRun : List Call :=
  [.secret enteredCode, .frame confirmFrame, .event 1 "client" .pairingFailed none (some ("bad " ++ enteredCode))]

-- The app sends the code as a key.
def keyLoads (_ : List UInt8) : Loaded := .value (.obj [(enteredCode, .int 1)])

def keyRun : List Call := [.secret enteredCode, .frame confirmFrame]

theorem confirm_frame_allowed : Allowed confirmLoads (calls confirmLoads [.secret enteredCode]) (.frame confirmFrame) := by
  intro word hides
  have isWord : word = enteredCode.toList ∨ word = confirmation.toList := by
    rcases hides with ⟨secret, registered, rfl⟩ | ⟨message, carries, value, inMessage, rfl⟩
    · rw [List.mem_singleton.mp registered]
      exact .inl rfl
    · cases carries
      rw [List.mem_singleton.mp inMessage]
      exact .inr rfl
  have clear : ∀ given, (commonParts (calls confirmLoads [.secret enteredCode]) confirmFrame ++
      contentParts confirmLoads confirmFrame).all
        (Part.isClear (calls confirmLoads [.secret enteredCode]).secrets given) = true → ∀ part ∈
      commonParts (calls confirmLoads [.secret enteredCode]) confirmFrame ++ contentParts confirmLoads confirmFrame,
        part.Unseen (calls confirmLoads [.secret enteredCode]).secrets given := by
    intro given all part isPart
    exact clear_unseen _ part (List.all_eq_true.mp all part isPart)
  rcases isWord with rfl | rfl
  · exact ⟨token_spelled _ (by decide) (by decide) (by decide), clear _ (by decide)⟩
  · exact ⟨token_spelled _ (by decide) (by decide) (by decide), clear _ (by decide)⟩

theorem confirm_run_hidden : Hidden confirmLoads confirmRun := by
  apply secrets_hidden confirmLoads confirmRun
  intro before call after split
  cases before with
  | nil =>
      cases split
      exact .inr (token_spelled _ (by decide) (by decide) (by decide))
  | cons first before =>
      obtain ⟨rfl, rest⟩ := List.cons.inj split
      cases before with
      | nil =>
          cases rest
          exact confirm_frame_allowed
      | cons second before =>
          obtain ⟨rfl, rest⟩ := List.cons.inj rest
          cases before with
          | nil =>
              cases rest
              trivial
          | cons third before =>
              cases before <;> cases rest

-- Keys are recorded, and written to the log, as they come.
theorem key_shows_code : ∃ secret recorded text, secret ∈ (calls keyLoads [.secret enteredCode]).secrets ∧
    recorded ∈ (calls keyLoads keyRun).frames ∧ text ∈ recordedTexts recorded ∧ secret.1.toList <:+: text.toList ∧
    secret.1.toList <:+: (logLine recorded).toList := by
  refine ⟨⟨enteredCode, by decide⟩, _, enteredCode, List.mem_singleton.mpr rfl, List.mem_singleton.mpr rfl, ?_, ?_, ?_⟩
  · exact List.mem_singleton.mpr rfl
  · exact List.infix_rfl
  · have isSpelled : Spelled enteredCode.toList := token_spelled _ (by decide) (by decide) (by decide)
    rw [line_holds isSpelled.toWord]
    refine ⟨enteredCode.toList.flatMap jsonEscape, ?_, by rw [plain_text _ (by decide)]⟩
    have line := line_lexemes (calls keyLoads [.secret enteredCode]) confirmFrame
      (some (redactFields (calls keyLoads [.secret enteredCode]).secrets [(enteredCode, .int 1)])) none none
    have inContent : ∀ common, enteredCode.toList.flatMap jsonEscape ∈ common ++ lexemesFields
        [("message", .obj (redactFields (calls keyLoads [.secret enteredCode]).secrets [(enteredCode, .int 1)]))] :=
      fun common => List.mem_append_right common (List.mem_cons_of_mem _ List.mem_cons_self)
    exact line.symm ▸ inContent _

end runs

end Conformance.Validator
