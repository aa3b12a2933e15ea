import SendspinConformance.Validator.Prompts
import SendspinConformance.Validator.RedactedText

set_option autoImplicit false

namespace Conformance.Validator

open Python

-- No name the protocol gives a type, a role, an activity, a method or a reason holds
-- the character a mark opens with.
def Named (text : String) : Prop := '<' ∉ text.toList

-- A name, or a list of names.
def Enumerated : Json → Prop
  | .str text => Named text
  | .arr items => ∀ item ∈ items, ∃ text, item = .str text ∧ Named text
  | _ => False

def names : Json → List String
  | .str text => [text]
  | .arr items => items.filterMap Json.asStr
  | _ => []

def pairingMethod (payload : Fields) : Json := getKey ((getKey payload "pairing").asObj.getD []) "method"

-- The payload values the checks compare with names.
def compared : List (Fields → Json) :=
  [(getKey · "reason"), (getKey · "activities"), pairingMethod, (getKey · "supported_roles"), (getKey · "active_roles")]

def payloadFields (message : Fields) : Fields := (getKey message "payload").asObj.getD []

-- The recorded frame is judged as the message that crossed the transport would be.
structure JudgedAs (recorded : RecordedFrame) (message : Fields) : Prop where
  type : recorded.type = (getKey message "type").asStr
  keys : recorded.payload.map dictKeys = (getKey message "payload").asObj.map dictKeys
  values : ∀ read ∈ compared, Enumerated (read (payloadFields message)) →
    read recorded.fields = read (payloadFields message)

-- No registered secret occurs in the text.
def Free (secrets : List Secret) (text : String) : Prop := ∀ secret ∈ secrets, ¬ secret.1.toList <:+: text.toList

-- No registered secret occurs in the message's type or in a name it is compared by.
structure Untouched (secrets : List Secret) (message : Fields) : Prop where
  type : ∀ name ∈ names (getKey message "type"), Free secrets name
  values : ∀ read ∈ compared, Enumerated (read (payloadFields message)) →
    ∀ name ∈ names (read (payloadFields message)), Free secrets name

variable (secrets : List Secret)

theorem redacted_keys (fields : Fields) : dictKeys (redactFields secrets fields) = dictKeys fields := by
  induction fields with
  | nil => rw [redactFields]
  | cons entry rest ih =>
      obtain ⟨key, item⟩ := entry
      simp only [redactFields, dictKeys, List.map_cons] at ih ⊢
      rw [ih]

theorem get_key_redacted (fields : Fields) (key : String) (plain : isSecretField key = false) :
    getKey (redactFields secrets fields) key = redact secrets (getKey fields key) := by
  induction fields with
  | nil => simp [redactFields, getKey, redact]
  | cons entry rest ih =>
      obtain ⟨other, item⟩ := entry
      rw [redactFields]
      by_cases same : key = other
      · subst same
        simp [getKey, plain]
      · have differs : (key == other) = false := by simpa using same
        simp only [getKey, List.lookup_cons, differs] at ih ⊢
        exact ih

theorem redacted_object (value : Json) : (redact secrets value).asObj = value.asObj.map (redactFields secrets) := by
  cases value <;> simp [redact, Json.asObj]

theorem compared_redacted (payload : Fields) (read : Fields → Json) (member : read ∈ compared) :
    read (redactFields secrets payload) = redact secrets (read payload) := by
  simp only [compared, List.mem_cons, List.not_mem_nil, or_false] at member
  obtain rfl | rfl | rfl | rfl | rfl := member
  · exact get_key_redacted secrets payload "reason" (by decide)
  · exact get_key_redacted secrets payload "activities" (by decide)
  · rw [pairingMethod, get_key_redacted secrets payload "pairing" (by decide), redacted_object, pairingMethod]
    cases (getKey payload "pairing").asObj with
    | none => simp [getKey, redact]
    | some pairing => exact get_key_redacted secrets pairing "method" (by decide)
  · exact get_key_redacted secrets payload "supported_roles" (by decide)
  · exact get_key_redacted secrets payload "active_roles" (by decide)

theorem redact_items_map (items : List Json) : redactItems secrets items = items.map (redact secrets) := by
  induction items with
  | nil => rw [redactItems, List.map_nil]
  | cons item rest ih => rw [redactItems, List.map_cons, ih]

theorem redact_name (text : String) (named : Named text) :
    redact secrets (.str text) = .str text ↔ Free secrets text := by
  rw [redact, Json.str.injEq]
  exact redact_text_kept secrets text named

-- Names are kept exactly when none holds a secret.
theorem redact_enumerated (value : Json) (enumerated : Enumerated value) :
    redact secrets value = value ↔ ∀ name ∈ names value, Free secrets name := by
  cases value with
  | str text => simpa [names] using redact_name secrets text enumerated
  | arr items =>
      have each : items.map (redact secrets) = items ↔ ∀ item ∈ items, redact secrets item = item := by
        have eachMap := @List.map_inj_left _ _ items (redact secrets) id
        rwa [List.map_id] at eachMap
      rw [redact, Json.arr.injEq, redact_items_map, each]
      apply Iff.intro
      · intro kept name member
        obtain ⟨item, inItems, isName⟩ := List.mem_filterMap.mp member
        obtain rfl := (Json.as_str_some item name).mp isName
        obtain ⟨text, same, named⟩ := enumerated _ inItems
        obtain rfl := Json.str.inj same
        exact (redact_name secrets _ named).mp (kept _ inItems)
      · intro absent item inItems
        obtain ⟨text, rfl, named⟩ := enumerated item inItems
        exact (redact_name secrets text named).mpr
          (absent text (List.mem_filterMap.mpr ⟨.str text, inItems, rfl⟩))
  | null => exact enumerated.elim
  | bool value => exact enumerated.elim
  | int value => exact enumerated.elim
  | float value => exact enumerated.elim
  | obj fields => exact enumerated.elim

theorem judged_as_redacted (recorded : RecordedFrame) (message : Fields) (type : String)
    (kept : recorded.message = some (redactFields secrets message)) (typed : getKey message "type" = .str type)
    (named : Named type) : JudgedAs recorded message ↔ Untouched secrets message := by
  have payload : recorded.payload = (getKey message "payload").asObj.map (redactFields secrets) := by
    rw [RecordedFrame.payload, kept, Option.bind_some, get_key_redacted secrets message "payload" (by decide),
      redacted_object]
  have fields : recorded.fields = redactFields secrets (payloadFields message) := by
    rw [RecordedFrame.fields, payload, payloadFields]
    cases (getKey message "payload").asObj with
    | none => rfl
    | some inside => rfl
  have recordedType : recorded.type = (redact secrets (.str type)).asStr := by
    rw [RecordedFrame.type, kept, Option.bind_some, get_key_redacted secrets message "type" (by decide), typed]
  have valuesKept (read : Fields → Json) (member : read ∈ compared)
      (enumerated : Enumerated (read (payloadFields message))) :
      read recorded.fields = read (payloadFields message) ↔
        ∀ name ∈ names (read (payloadFields message)), Free secrets name := by
    rw [fields, compared_redacted secrets _ read member]
    exact redact_enumerated secrets _ enumerated
  have typeKept : recorded.type = (getKey message "type").asStr ↔
      ∀ name ∈ names (getKey message "type"), Free secrets name := by
    rw [recordedType, typed, ← redact_enumerated secrets (.str type) named, redact]
    simp [Json.asStr]
  apply Iff.intro
  · intro judged
    exact ⟨typeKept.mp judged.type, fun read member enumerated =>
      (valuesKept read member enumerated).mp (judged.values read member enumerated)⟩
  · intro untouched
    refine ⟨typeKept.mpr untouched.type, ?_, fun read member enumerated =>
      (valuesKept read member enumerated).mpr (untouched.values read member enumerated)⟩
    rw [payload, Option.map_map]
    congr 1
    funext inside
    exact redacted_keys secrets inside

theorem decode_object (loads : List UInt8 → Loaded) (recorder : Recorder) (frame : ObservedFrame)
    (text : List UInt8) (message : Fields) (readable : frame.error = none) (isText : jsonText frame = some text)
    (decoded : loads text = .value (.obj message)) :
    decode loads recorder frame =
      .ok { common recorder frame with message := some (redactFields recorder.secrets message) } := by
  simp only [decode, readable, isText, decoded]

variable [UnicodeData]

-- Whatever the operator entered, a message is judged as it was exactly when no text the
-- prompts registered occurs in its type or its names.
theorem names_kept_judged (loads : List UInt8 → Loaded) (before : Recorder) (entries : List Entry)
    (frame : ObservedFrame) (text : List UInt8) (message : Fields) (type : String) (readable : frame.error = none)
    (isText : jsonText frame = some text) (decoded : loads text = .value (.obj message))
    (typed : getKey message "type" = .str type) (named : Named type) :
    ∃ recorded, (observeFrame loads (entered before entries) frame).frames =
        (entered before entries).frames ++ [recorded] ∧
      (JudgedAs recorded message ↔ Untouched (entered before entries).secrets message) := by
  refine ⟨{ common (entered before entries) frame with
    message := some (redactFields (entered before entries).secrets message) }, ?_,
    judged_as_redacted _ _ message type rfl typed named⟩
  rw [observeFrame, decode_object loads _ frame text message readable isText decoded]

def helloMessage : Fields := [("type", .str "client/hello"), ("payload", .obj [("name", .str "speaker")])]

def loadsHello (_ : List UInt8) : Loaded := .value (.obj helloMessage)

def helloFrame : ObservedFrame := ⟨1, some "speaker", .inbound, .transport, [0, 123, 125], 10, none⟩

omit [UnicodeData] in
theorem code_keeps_hello :
    let _ := noUnicode
    ∃ recorded, (observeFrame loadsHello (entered {} [.code 6 "123-456"]) helloFrame).frames = [recorded] ∧
      JudgedAs recorded helloMessage := by
  intro _
  obtain ⟨recorded, kept, judged⟩ := names_kept_judged loadsHello {} [.code 6 "123-456"] helloFrame [123, 125]
    helloMessage "client/hello" rfl rfl rfl rfl (by rw [Named]; decide)
  refine ⟨recorded, kept, judged.mpr ⟨?_, ?_⟩⟩
  · intro name member
    rw [List.mem_singleton.mp member, Free]
    decide +kernel
  · intro read member enumerated
    simp only [compared, List.mem_cons, List.not_mem_nil, or_false] at member
    obtain rfl | rfl | rfl | rfl | rfl := member <;> exact absurd enumerated id

omit [UnicodeData] in
-- At the code prompt the operator enters `client`, which is refused, and the client's
-- client/hello is recorded under another type.
theorem refused_word_rewrites_type :
    let _ := noUnicode
    ∃ recorded, (observeFrame loadsHello (entered {} [.code 6 "client"]) helloFrame).frames = [recorded] ∧
      recorded.type = some "<redacted>/hello" ∧ ¬ JudgedAs recorded helloMessage := by
  refine ⟨_, rfl, rfl, ?_⟩
  intro judged
  exact absurd judged.type (by decide)

end Conformance.Validator
