import Mathlib.Data.List.Forall2
import SendspinConformance.Validator.CodePairingChecks
import SendspinConformance.Validator.NamesKept
import SendspinConformance.Validator.RecordsNumbered

set_option autoImplicit false

namespace Conformance.Validator.CodePairing

open Python Protocol Suite

-- The message a frame carried before anything of it was redacted.
def rawMessage (loads : List UInt8 → Loaded) (frame : ObservedFrame) : Option Fields :=
  match frame.error, jsonText frame with
  | none, some text =>
      match loads text with
      | .value (.obj message) => some message
      | _ => none
  | _, _ => none

-- The frame a call records, with the message that crossed the transport.
def crossed (loads : List UInt8 → Loaded) (recorder : Recorder) : Call → Option RecordedFrame
  | .frame frame =>
      match decode loads recorder frame with
      | .ok recorded => some { recorded with message := rawMessage loads frame }
      | .error _ => none
  | _ => none

def observe (loads : List UInt8 → Loaded) (state : Recorder × List RecordedFrame) (call : Call) :
    Recorder × List RecordedFrame :=
  (called loads state.1 call, state.2 ++ (crossed loads state.1 call).toList)

-- A run's recorder, and the frames it recorded as they crossed.
def observed (loads : List UInt8 → Loaded) (run : List Call) : Recorder × List RecordedFrame :=
  run.foldl (observe loads) ({}, [])

def recordOf (recorder : Recorder) (number : Nat) : ConnectionRecord :=
  ConnectionRecord.ofSession number recorder.frames recorder.noncompliance recorder.events

def rawRecordOf (state : Recorder × List RecordedFrame) (number : Nat) : ConnectionRecord :=
  ConnectionRecord.ofSession number state.2 state.1.noncompliance state.1.events

-- The field is a string of exactly its fixed number of characters.
def isExact (sent : SentField) : Bool :=
  match getKey sent.frame.fields sent.field with
  | .str text => text.length == sent.length
  | _ => false

def sendsAuth (record : ConnectionRecord) (since : Nat) : Bool :=
  (sentSince record since).any fun sent => sent.frame.typed "client/pair-auth"

def lacksSince (record : ConnectionRecord) (since : Nat) : Bool :=
  record.frames.any fun frame => since < frame.id && lacksPakeMessage frame

-- The judgement made on raw payloads.
def lengthsVerdict (raw : ConnectionRecord) (since : Nat) : Verdict :=
  if !sendsAuth raw since then (if raw.rejected then .notApplicable else .fail)
  else if (sentSince raw since).all isExact && !lacksSince raw since then .pass
  else .fail

-- The message types whose fields have fixed lengths.
def judgedTypes : List String := ["client/pair-auth", "client/pair-confirm", "client/pair-finalize"]

-- Every field the check judges is one the recorder redacts with its length.
theorem judged_fields_secret :
    ∀ entry ∈ clientFieldLengths, isSecretField entry.2.1 = true ∧ entry.1 ∈ judgedTypes := by
  decide

section marks

theorem decimal_digits_ascii (chars : List Char) (nonempty : chars ≠ [])
    (digits : ∀ char ∈ chars, char.isDigit = true) [UnicodeData] :
    decimalDigits chars = some (Nat.ofDigitChars 10 chars 0) := by
  have read : ∀ chars : List Char, (∀ char ∈ chars, char.isDigit = true) →
      chars.mapM decimalOf = some (chars.map fun char => char.toNat - 48) := by
    intro chars allDigits
    induction chars with
    | nil => rfl
    | cons char rest ih =>
        have isDigit := allDigits char List.mem_cons_self
        have ascii : isAscii char = true := by
          simp only [Char.isDigit, Bool.and_eq_true, decide_eq_true_eq] at isDigit
          have upper : char.val.toNat ≤ 57 := isDigit.2
          simp only [isAscii, decide_eq_true_eq]
          exact Nat.lt_of_le_of_lt upper (by decide)
        have first : decimalOf char = some (char.toNat - 48) := by simp [decimalOf, ascii, isDigit]
        rw [List.mapM_cons, first, ih fun other member => allDigits other (List.mem_cons_of_mem char member)]
        rfl
  cases chars with
  | nil => exact absurd rfl nonempty
  | cons char rest =>
      rw [decimalDigits, read _ digits, Option.map_some, List.foldl_map, Nat.ofDigitChars_eq_foldl]
      · rfl
      · exact fun isEmpty => nomatch isEmpty

theorem mark_length (count : Nat) [UnicodeData] :
    redactedLength (.str ("<redacted:" ++ toString count ++ ">")) = some count := by
  have opens : hasPrefix "<redacted:" ("<redacted:" ++ toString count ++ ">") = true := by
    rw [String.append_assoc]
    exact has_prefix_append _ _
  have closes : hasSuffix ">" ("<redacted:" ++ toString count ++ ">") = true := by
    rw [hasSuffix, String.toList_append, List.isSuffixOf_iff_suffix]
    exact List.suffix_append _ _
  have inside : ((("<redacted:" ++ toString count ++ ">").toList).drop "<redacted:".length).dropLast =
      Nat.toDigits 10 count := by
    have mark : "<redacted:".length = "<redacted:".toList.length := rfl
    have close : ">".toList = ['>'] := rfl
    rw [String.toList_append, String.toList_append, List.append_assoc, mark, List.drop_left, close,
      List.dropLast_concat]
    exact Nat.toList_repr
  rw [redactedLength, opens, closes, inside]
  simp only [Bool.and_self, if_true]
  rw [decimal_digits_ascii _ Nat.toDigits_ne_nil fun char isDigit =>
    Nat.isDigit_of_mem_toDigits (by decide) (by decide) isDigit, Nat.ofDigitChars_ten_toDigits]

-- A redacted field is judged by its length, whatever the client put in it.
theorem redacted_field_length (value : Json) (length : Nat) [UnicodeData] :
    (redactedLength (redactField value) != some length) =
      !(match value with
        | .str text => text.length == length
        | _ => false) := by
  cases value with
  | str text =>
      rw [redactField, mark_length]
      by_cases same : text.length = length
      · simp [same]
      · have differs : (text.length == length) = false := beq_false_of_ne same
        simp only [differs]
        exact bne_iff_ne.mpr fun equal => same (Option.some.inj equal)
  | _ => rfl

end marks

section frames

-- A frame as recorded and as it crossed: no secret registered by then occurs in its type, where that is judged.
def Shown (recorded raw : RecordedFrame) : Prop :=
  ∃ before, recorded = { raw with message := raw.message.map (redactFields before) } ∧
    ∀ name ∈ judgedTypes, raw.type = some name → Free before name

theorem redacted_type (before : List Secret) (raw : RecordedFrame) :
    ({ raw with message := raw.message.map (redactFields before) } : RecordedFrame).type =
      raw.type.map (redactText before) := by
  rw [RecordedFrame.type, RecordedFrame.type]
  cases raw.message with
  | none => rfl
  | some message =>
      rw [Option.map_some, Option.bind_some, Option.bind_some, get_key_redacted before message "type" (by decide)]
      cases getKey message "type" <;> simp [redact, Json.asStr]

theorem redacted_fields (before : List Secret) (raw : RecordedFrame) :
    ({ raw with message := raw.message.map (redactFields before) } : RecordedFrame).fields =
      redactFields before raw.fields := by
  have payload : ({ raw with message := raw.message.map (redactFields before) } : RecordedFrame).payload =
      raw.payload.map (redactFields before) := by
    rw [RecordedFrame.payload, RecordedFrame.payload]
    cases raw.message with
    | none => rfl
    | some message =>
        rw [Option.map_some, Option.bind_some, Option.bind_some,
          get_key_redacted before message "payload" (by decide), redacted_object]
  rw [RecordedFrame.fields, payload, RecordedFrame.fields]
  cases raw.payload <;> rfl

-- A text redacts to a name exactly where it is that name and no secret occurs in it.
theorem redacts_to_name (before : List Secret) (text name : String) (named : Named name) :
    redactText before text = name ↔ text = name ∧ Free before name := by
  apply Iff.intro
  · intro same
    by_cases holds : ∃ secret ∈ before, secret.1.toList <:+: text.toList
    · have marked := replaced_marks (longestFirst before) text
        (by simpa only [longest_first_mem] using holds)
      exact absurd (same ▸ marked) named
    · have kept : redactText before text = text := by
        refine replaced_absent _ text fun secret member inside => holds ⟨secret, ?_, inside⟩
        exact (longest_first_mem before secret).mp member
      have isName : text = name := kept.symm.trans same
      exact ⟨isName, fun secret member inside => holds ⟨secret, member, isName ▸ inside⟩⟩
  · rintro ⟨rfl, free⟩
    exact (redact_text_kept before text named).mpr free

theorem judged_named : ∀ name ∈ judgedTypes, Named name := by
  simp only [judgedTypes, Named]
  decide

theorem shown_typed (recorded raw : RecordedFrame) (shown : Shown recorded raw) (name : String)
    (judged : name ∈ judgedTypes) : recorded.typed name = raw.typed name := by
  obtain ⟨before, rfl, free⟩ := shown
  rw [RecordedFrame.typed, RecordedFrame.typed, redacted_type]
  cases sent : raw.type with
  | none => rfl
  | some text =>
      have same : redactText before text = name ↔ text = name :=
        (redacts_to_name before text name (judged_named name judged)).trans
          (and_iff_left_of_imp fun isName => free name judged (sent.trans (congrArg some isName)))
      rw [Option.map_some, Bool.eq_iff_iff]
      simpa using same

theorem shown_has_key (recorded raw : RecordedFrame) (shown : Shown recorded raw) (key : String) :
    hasKey recorded.fields key = hasKey raw.fields key := by
  obtain ⟨before, rfl, _⟩ := shown
  rw [redacted_fields, hasKey, hasKey, redacted_keys]

theorem get_secret_redacted (before : List Secret) (fields : Fields) (key : String) (secret : isSecretField key = true)
    (present : hasKey fields key = true) :
    getKey (redactFields before fields) key = redactField (getKey fields key) := by
  induction fields with
  | nil => simp [hasKey, dictKeys] at present
  | cons entry rest ih =>
      obtain ⟨other, item⟩ := entry
      rw [redactFields]
      by_cases same : key = other
      · subst same
        simp [getKey, secret]
      · have differs : (key == other) = false := by simpa using same
        have later : hasKey rest key = true := by
          simpa [hasKey, dictKeys, same] using present
        simp only [getKey, List.lookup_cons, differs] at ih ⊢
        exact ih later

-- A judged field of a frame, as recorded and as it crossed.
structure SameField (recorded raw : SentField) : Prop where
  frame : Shown recorded.frame raw.frame
  field : recorded.field = raw.field
  length : recorded.length = raw.length
  present : hasKey raw.frame.fields raw.field = true
  secret : isSecretField raw.field = true

variable [UnicodeData]

theorem field_judged (recorded raw : SentField) (same : SameField recorded raw) :
    isWrongLength recorded = !isExact raw := by
  obtain ⟨before, isRecorded, _⟩ := same.frame
  rw [isWrongLength, isRecorded, redacted_fields, same.field, same.length,
    get_secret_redacted before _ _ same.secret same.present]
  exact redacted_field_length _ _

omit [UnicodeData] in
theorem frame_fields (recorded raw : RecordedFrame) (shown : Shown recorded raw) :
    List.Forall₂ SameField (sentFields recorded) (sentFields raw) := by
  have sameFilter :
      (clientFieldLengths.filter fun entry => recorded.typed entry.1 && hasKey recorded.fields entry.2.1) =
        clientFieldLengths.filter fun entry => raw.typed entry.1 && hasKey raw.fields entry.2.1 := by
    refine List.filter_congr fun entry member => ?_
    rw [shown_typed recorded raw shown entry.1 (judged_fields_secret entry member).2, shown_has_key recorded raw shown]
  rw [sentFields, sentFields, sameFilter]
  refine List.forall₂_map_left_iff.mpr (List.forall₂_map_right_iff.mpr (List.forall₂_same.mpr ?_))
  intro entry member
  obtain ⟨listed, sends⟩ := List.mem_filter.mp member
  rw [Bool.and_eq_true] at sends
  exact ⟨shown, rfl, rfl, sends.2, (judged_fields_secret entry listed).1⟩

omit [UnicodeData] in
theorem shown_same (recorded raw : RecordedFrame) (shown : Shown recorded raw) :
    recorded.id = raw.id ∧ recorded.inbound = raw.inbound ∧ recorded.transported = raw.transported := by
  obtain ⟨before, rfl, _⟩ := shown
  exact ⟨rfl, rfl, rfl⟩

omit [UnicodeData] in
theorem any_related {α β : Type} {related : α → β → Prop} (first : α → Bool) (second : β → Bool)
    (agree : ∀ left right, related left right → first left = second right) (lefts : List α) (rights : List β)
    (pairs : List.Forall₂ related lefts rights) : lefts.any first = rights.any second := by
  induction pairs with
  | nil => rfl
  | cons pair _ ih => rw [List.any_cons, List.any_cons, agree _ _ pair, ih]

-- Records whose frames differ by redaction are judged alike where no secret hides a judged type.
theorem lengths_judged (checkId : String) (recorded raw : ConnectionRecord) (since : Nat)
    (frames : List.Forall₂ Shown recorded.frames raw.frames) (sameRejected : recorded.rejected = raw.rejected) :
    ∃ finding, checkCpaceLengths checkId recorded since = .ok [finding] ∧
      finding.verdict = lengthsVerdict raw since := by
  have sent : List.Forall₂ SameField (sentSince recorded since) (sentSince raw since) := by
    have filtered : List.Forall₂ Shown
        (recorded.frames.filter fun frame => decide (since < frame.id) && frame.inbound)
        (raw.frames.filter fun frame => decide (since < frame.id) && frame.inbound) := by
      refine List.rel_filter ?_ frames
      intro left right shown
      obtain ⟨sameId, sameInbound, _⟩ := shown_same left right shown
      simp only [sameId, sameInbound]
    exact List.rel_flatMap filtered fun left right shown => frame_fields left right shown
  have auth : (sentSince recorded since).any (fun sent => sent.frame.typed "client/pair-auth") = sendsAuth raw since :=
    any_related _ _ (fun left right same => shown_typed left.frame right.frame same.frame "client/pair-auth"
      List.mem_cons_self) _ _ sent
  have wrong : (sentSince recorded since).any isWrongLength = !(sentSince raw since).all isExact := by
    rw [any_related isWrongLength (fun raw => !isExact raw)
      (fun left right same => field_judged left right same) _ _ sent, List.not_all_eq_any_not]
  have lacks : (recorded.frames.any fun frame => since < frame.id && lacksPakeMessage frame) =
      lacksSince raw since := by
    refine any_related _ _ ?_ _ _ frames
    intro left right shown
    obtain ⟨sameId, sameInbound, sameTransported⟩ := shown_same left right shown
    rw [lacksPakeMessage, lacksPakeMessage, isIn, isIn, sameId, sameInbound, sameTransported,
      shown_typed left right shown "client/pair-auth" List.mem_cons_self, shown_has_key left right shown]
  rw [checkCpaceLengths, lengthsVerdict]
  simp only [auth, lacks]
  cases sendsAuth raw since with
  | false =>
      refine ⟨_, rfl, ?_⟩
      rw [unanswered, sameRejected]
      cases raw.rejected <;> rfl
  | true =>
      cases found : (sentSince recorded since).find? isWrongLength with
      | some field =>
          have isWrong : (sentSince recorded since).any isWrongLength = true :=
            List.any_eq_true.mpr ⟨field, List.mem_of_find?_eq_some found, List.find?_some found⟩
          rw [wrong, Bool.not_eq_true'] at isWrong
          refine ⟨_, rfl, ?_⟩
          simp [isWrong, wrongLength, finding, cite]
      | none =>
          have isRight : (sentSince recorded since).any isWrongLength = false := by
            simpa using List.find?_eq_none.mp found
          rw [wrong, Bool.not_eq_false'] at isRight
          cases lacking : lacksSince raw since with
          | true => exact ⟨_, rfl, by simp [finding, cite]⟩
          | false => exact ⟨_, rfl, by simp [isRight, finding, cite]⟩

end frames

section runs

variable (loads : List UInt8 → Loaded)

theorem decoded_raw (recorder : Recorder) (frame : ObservedFrame) (recorded : RecordedFrame)
    (kept : decode loads recorder frame = .ok recorded) :
    recorded.message = (rawMessage loads frame).map (redactFields recorder.secrets) := by
  rw [decode] at kept
  rw [rawMessage]
  cases failed : frame.error with
  | some error =>
      rw [failed] at kept
      rw [← Except.ok.inj kept]
      rfl
  | none =>
      cases isText : jsonText frame with
      | none =>
          rw [failed, isText] at kept
          rw [← Except.ok.inj kept]
          rfl
      | some text =>
          rw [failed, isText] at kept
          cases loaded : loads text with
          | raised error => simp [loaded] at kept
          | notJson reason =>
              simp only [loaded, Except.ok.injEq] at kept
              simp [← kept, loaded, common]
          | value json =>
              cases json <;> simp only [loaded, Except.ok.injEq] at kept <;> simp [← kept, loaded, common]

theorem called_secrets (recorder : Recorder) (call : Call) :
    recorder.secrets ⊆ (called loads recorder call).secrets := by
  cases call with
  | secret text =>
      rw [called, addSecret]
      split
      · exact fun secret member => List.mem_insert_of_mem member
      · exact List.Subset.refl _
  | frame frame =>
      rw [called, observeFrame]
      split <;> exact List.Subset.refl _
  | noncompliance observation => exact List.Subset.refl _
  | event connection clientId kind pskCategory detail => exact List.Subset.refl _

theorem calls_secrets (earlier later : List Call) :
    (calls loads earlier).secrets ⊆ (calls loads (earlier ++ later)).secrets := by
  rw [calls, calls, List.foldl_append]
  generalize earlier.foldl (called loads) {} = recorder
  induction later generalizing recorder with
  | nil => exact List.Subset.refl _
  | cons call rest ih => exact List.Subset.trans (called_secrets loads recorder call) (ih _)

theorem observed_recorder (run : List Call) : (observed loads run).1 = calls loads run := by
  have folded : ∀ state, (run.foldl (observe loads) state).1 = run.foldl (called loads) state.1 := by
    induction run with
    | nil => exact fun _ => rfl
    | cons call rest ih => exact fun state => ih (observe loads state call)
  exact folded ({}, [])

-- No frame of the connection is recorded after a secret is registered that occurs in its type, where that is judged.
def TypesShown (run : List Call) (number : Nat) : Prop :=
  ∀ earlier frame later, run = earlier ++ .frame frame :: later → frame.connection = number →
    ∀ message name, rawMessage loads frame = some message → name ∈ judgedTypes → getKey message "type" = .str name →
      Free (calls loads earlier).secrets name

theorem types_shown_earlier (earlier later : List Call) (number : Nat)
    (shown : TypesShown loads (earlier ++ later) number) : TypesShown loads earlier number := by
  intro first frame rest split
  exact shown first frame (rest ++ later) (by rw [split, List.append_assoc, List.cons_append])

-- What a call records of the connection shows its type.
theorem called_shown (run : List Call) (call : Call) (number : Nat) (shown : TypesShown loads (run ++ [call]) number) :
    ∃ added, (called loads (calls loads run) call).frames = (calls loads run).frames ++ added ∧
      List.Forall₂ (fun recorded raw => recorded.connection = raw.connection ∧
        (recorded.connection = number → Shown recorded raw)) added (crossed loads (calls loads run) call).toList := by
  cases call with
  | secret text =>
      refine ⟨[], ?_, .nil⟩
      rw [called, addSecret]
      split <;> simp
  | noncompliance observation => exact ⟨[], (List.append_nil _).symm, .nil⟩
  | event connection clientId kind pskCategory detail => exact ⟨[], (List.append_nil _).symm, .nil⟩
  | frame frame =>
      cases kept : decode loads (calls loads run) frame with
      | error raised =>
          refine ⟨[], ?_, ?_⟩
          · rw [called, observeFrame, kept, List.append_nil]
          · rw [crossed, kept]
            exact .nil
      | ok recorded =>
          refine ⟨[recorded], ?_, ?_⟩
          · rw [called, observeFrame, kept]
          · rw [crossed, kept]
            refine .cons ⟨rfl, fun here => ⟨(calls loads run).secrets, ?_, ?_⟩⟩ .nil
            · rw [← decoded_raw loads _ frame recorded kept]
            · intro name judged named
              have connection : frame.connection = number :=
                (decoded_number loads _ frame recorded kept).2.symm.trans here
              rw [RecordedFrame.type, Option.bind_eq_some_iff] at named
              obtain ⟨message, sent, isText⟩ := named
              exact shown run frame [] rfl connection message name sent judged ((Json.as_str_some _ name).mp isText)

theorem observed_shown (run : List Call) (number : Nat) (shown : TypesShown loads run number) :
    List.Forall₂ (fun recorded raw => recorded.connection = raw.connection ∧
      (recorded.connection = number → Shown recorded raw)) (calls loads run).frames (observed loads run).2 := by
  induction run using List.reverseRecOn with
  | nil => exact .nil
  | append_singleton run call ih =>
      obtain ⟨added, grown, related⟩ := called_shown loads run call number shown
      have earlier := ih (types_shown_earlier loads run [call] number shown)
      have frames : (calls loads (run ++ [call])).frames = (calls loads run).frames ++ added := by
        rw [calls_snoc, grown]
      have crossing : (observed loads (run ++ [call])).2 =
          (observed loads run).2 ++ (crossed loads (calls loads run) call).toList := by
        rw [observed, List.foldl_append, ← observed, ← observed_recorder]
        rfl
      rw [frames, crossing]
      exact List.rel_append earlier related

end runs

section judgedRuns

variable [UnicodeData]

-- The verdict on a run's recorded frames is the one on the frames as they crossed.
def KeepsVerdict (loads : List UInt8 → Loaded) (run : List Call) (number since : Nat) (checkId : String) : Prop :=
  ∃ finding, checkCpaceLengths checkId (recordOf (calls loads run) number) since = .ok [finding] ∧
    finding.verdict = lengthsVerdict (rawRecordOf (observed loads run) number) since

theorem run_keeps_verdict (loads : List UInt8 → Loaded) (run : List Call) (number : Nat)
    (shown : TypesShown loads run number) (since : Nat) (checkId : String) :
    KeepsVerdict loads run number since checkId := by
  rw [KeepsVerdict]
  refine lengths_judged checkId _ _ since ?_ (by rw [rawRecordOf, observed_recorder]; rfl)
  have ofConnection : List.Forall₂ (fun recorded raw => recorded.connection = raw.connection ∧
      (recorded.connection = number → Shown recorded raw))
      ((calls loads run).frames.filter fun frame => frame.connection == number)
      ((observed loads run).2.filter fun frame => frame.connection == number) := by
    refine List.rel_filter ?_ (observed_shown loads run number shown)
    intro left right related
    simp only [related.1]
  have here : ∀ frame ∈ (calls loads run).frames.filter fun frame => frame.connection == number,
      frame.connection = number := fun frame member => beq_iff_eq.mp (List.mem_filter.mp member).2
  exact ((List.forall₂_and_left _ _).mpr ⟨here, ofConnection⟩).imp fun _ _ related => related.2.2 related.1

omit [UnicodeData] in
-- Secrets that occur in no judged type hide none.
theorem free_shown (loads : List UInt8 → Loaded) (run : List Call) (number : Nat)
    (free : ∀ name ∈ judgedTypes, Free (calls loads run).secrets name) : TypesShown loads run number := by
  intro earlier frame later split _ message name _ judged _ secret member
  exact free name judged secret (split ▸ calls_secrets loads earlier _ member)

-- A message with one field in its payload.
def pairingMessage (name field value : String) : Fields :=
  [("type", .str name), ("payload", .obj [(field, .str value)])]

-- The text the message is sent as.
def pairingText (name field value : String) : List UInt8 :=
  ("\x7b\"type\": \"" ++ name ++ "\", \"payload\": \x7b\"" ++ field ++ "\": \"" ++ value ++ "\"\x7d\x7d").toUTF8.toList

def fullShare : String := "AAAAAAAAAAAAAAAAAAAAAAAAAAAAAAAAAAAAAAAAAAA"

def authMessage : Fields := pairingMessage "client/pair-auth" "pake_msg_2" fullShare

def authText : List UInt8 := pairingText "client/pair-auth" "pake_msg_2" fullShare

-- The decoder reads a complete client/pair-auth, and messages whose field is empty.
structure ReadsPairing (loads : List UInt8 → Loaded) : Prop where
  auth : loads authText = .value (.obj authMessage)
  confirm : loads (pairingText "client/pair-confirm" "client_kc" "") =
    .value (.obj (pairingMessage "client/pair-confirm" "client_kc" ""))
  finalize : loads (pairingText "client/pair-finalize" "wrapped_psk" "") =
    .value (.obj (pairingMessage "client/pair-finalize" "wrapped_psk" ""))

def pairingFrame (text : List UInt8) : ObservedFrame := ⟨1, none, .inbound, .transport, 0 :: text, 0, none⟩

def recordedPairing (id : Nat) (text : List UInt8) (message : Fields) : RecordedFrame :=
  { id, connection := 1, clientId := none, direction := .inbound, phase := .transport, monotonicUs := 0,
    size := (0 :: text).length, message := some message }

-- The run registers these secrets, each entered once or more, and no others.
def Registers (loads : List UInt8 → Loaded) (run : List Call) (secrets : List Secret) : Prop :=
  ∀ secret, secret ∈ (calls loads run).secrets ↔ secret ∈ secrets

def registering (secrets : List Secret) : List Call := secrets.map fun secret => .secret secret.1

def registered (secrets : List Secret) : List Secret :=
  secrets.foldl (fun before secret => before.insert secret) []

def oneSent (secrets : List Secret) : List Call := registering secrets ++ [.frame (pairingFrame authText)]

def twoSent (secrets : List Secret) (second : List UInt8) : List Call :=
  oneSent secrets ++ [.frame (pairingFrame second)]

section sentPairing

omit [UnicodeData]

theorem registering_observed (loads : List UInt8 → Loaded) (secrets before : List Secret) :
    (registering secrets).foldl (observe loads) ({ secrets := before }, []) =
      ({ secrets := secrets.foldl (fun before secret => before.insert secret) before }, []) := by
  induction secrets generalizing before with
  | nil => rfl
  | cons secret rest ih =>
      have first : observe loads ({ secrets := before }, []) (.secret secret.1) =
          ({ secrets := before.insert secret }, []) := by
        rw [observe, called, addSecret, dif_pos secret.2]
        rfl
      rw [registering, List.map_cons, List.foldl_cons, first]
      exact ih (before.insert secret)

theorem registered_mem (secrets : List Secret) (secret : Secret) :
    secret ∈ registered secrets ↔ secret ∈ secrets := by
  have grown : ∀ before : List Secret, secret ∈ secrets.foldl (fun before secret => before.insert secret) before ↔
      secret ∈ secrets ∨ secret ∈ before := by
    induction secrets with
    | nil => simp
    | cons first rest ih =>
        intro before
        rw [List.foldl_cons, ih, List.mem_insert_iff, List.mem_cons]
        tauto
  exact (grown []).trans (by simp)

theorem free_registered (secrets : List Secret) (name : String) :
    Free (registered secrets) name ↔ Free secrets name := by
  simp only [Free, registered_mem]

theorem pairing_observed (loads : List UInt8 → Loaded) (recorder : Recorder) (text : List UInt8) (message : Fields)
    (decoded : loads text = .value (.obj message)) :
    called loads recorder (.frame (pairingFrame text)) =
        { recorder with frames := recorder.frames ++
          [recordedPairing (recorder.frames.length + 1) text (redactFields recorder.secrets message)] } ∧
      crossed loads recorder (.frame (pairingFrame text)) =
        some (recordedPairing (recorder.frames.length + 1) text message) := by
  have kept := decode_object loads recorder (pairingFrame text) text message rfl rfl decoded
  have raw : rawMessage loads (pairingFrame text) = some message := by
    rw [rawMessage]
    simp only [pairingFrame, jsonText, decoded]
  refine ⟨?_, ?_⟩
  · rw [called, observeFrame, kept]
    rfl
  · rw [crossed, kept, raw]
    rfl

theorem one_recorded (loads : List UInt8 → Loaded) (reads : ReadsPairing loads) (secrets : List Secret) :
    observed loads (oneSent secrets) =
      ({ frames := [recordedPairing 1 authText (redactFields (registered secrets) authMessage)],
         secrets := registered secrets }, [recordedPairing 1 authText authMessage]) := by
  obtain ⟨recorded, raw⟩ := pairing_observed loads { secrets := registered secrets } authText authMessage reads.auth
  rw [observed, oneSent, List.foldl_append, registering_observed loads secrets []]
  rw [List.foldl_cons, List.foldl_nil, observe, ← registered, recorded, raw]
  rfl

theorem two_recorded (loads : List UInt8 → Loaded) (reads : ReadsPairing loads) (secrets : List Secret)
    (text : List UInt8) (second : Fields) (decoded : loads text = .value (.obj second)) :
    observed loads (twoSent secrets text) =
      ({ frames := [recordedPairing 1 authText (redactFields (registered secrets) authMessage),
          recordedPairing 2 text (redactFields (registered secrets) second)], secrets := registered secrets },
        [recordedPairing 1 authText authMessage, recordedPairing 2 text second]) := by
  rw [observed, twoSent, List.foldl_append, ← observed, one_recorded loads reads secrets]
  simp only [List.foldl_cons, List.foldl_nil, observe]
  rw [(pairing_observed loads _ text second decoded).1, (pairing_observed loads _ text second decoded).2]
  rfl

-- A name one of the secrets occurs in.
def Hidden (secrets : List Secret) (name : String) : Prop := ∃ secret ∈ secrets, secret.1.toList <:+: name.toList

theorem hidden_registered (secrets : List Secret) (name : String) (occurs : ¬Free secrets name) :
    Hidden (registered secrets) name := by
  rw [← free_registered, Free] at occurs
  push Not at occurs
  exact occurs

theorem hidden_type (secrets : List Secret) (name : String) (hidden : Hidden secrets name) :
    ∀ judged ∈ judgedTypes, redactText secrets name ≠ judged := by
  intro judged isJudged same
  obtain ⟨secret, member, inside⟩ := hidden
  have marked := replaced_marks (longestFirst secrets) name
    ⟨secret, (longest_first_mem secrets secret).mpr member, inside⟩
  exact judged_named judged isJudged (same ▸ marked)

theorem recorded_type (id : Nat) (text : List UInt8) (secrets : List Secret) (name : String) (payload : Json) :
    (recordedPairing id text (redactFields secrets [("type", .str name), ("payload", payload)])).type =
      some (redactText secrets name) := rfl

-- A frame recorded under another type sends nothing the check looks at.
theorem hidden_fields (id : Nat) (text : List UInt8) (secrets : List Secret) (name : String) (payload : Json)
    (hidden : Hidden secrets name) :
    sentFields (recordedPairing id text (redactFields secrets [("type", .str name), ("payload", payload)])) = [] := by
  rw [sentFields, List.map_eq_nil_iff, List.filter_eq_nil_iff]
  intro entry listed
  have differs := hidden_type secrets name hidden entry.1 (judged_fields_secret entry listed).2
  simp [RecordedFrame.typed, recorded_type, differs]

-- A client/pair-auth is recorded with its type and its length where its type holds no secret.
theorem redacted_auth (secrets : List Secret) (free : Free secrets "client/pair-auth") :
    redactFields secrets authMessage = pairingMessage "client/pair-auth" "pake_msg_2" "<redacted:43>" := by
  have kept : redactText secrets "client/pair-auth" = "client/pair-auth" :=
    (redact_text_kept secrets _ (judged_named _ List.mem_cons_self)).mpr free
  change [("type", Json.str (redactText secrets "client/pair-auth")),
    ("payload", Json.obj [("pake_msg_2", Json.str "<redacted:43>")])] = _
  rw [kept]
  rfl

end sentPairing

theorem auth_hidden (loads : List UInt8 → Loaded) (reads : ReadsPairing loads) (secrets : List Secret)
    (hidden : Hidden (registered secrets) "client/pair-auth") (checkId : String) :
    ¬KeepsVerdict loads (oneSent secrets) 1 0 checkId := by
  have recorded := one_recorded loads reads secrets
  rintro ⟨finding, judged, kept⟩
  have silent : sentSince (recordOf (observed loads (oneSent secrets)).1 1) 0 = [] := by
    rw [recorded]
    change sentFields (recordedPairing 1 authText (redactFields (registered secrets) authMessage)) ++ [] = []
    rw [List.append_nil]
    exact hidden_fields 1 authText (registered secrets) _ _ hidden
  have rawPasses : lengthsVerdict (rawRecordOf (observed loads (oneSent secrets)) 1) 0 = .pass := by
    rw [recorded]
    rfl
  rw [← observed_recorder, checkCpaceLengths, silent] at judged
  have failed : finding.verdict = .fail := by
    rw [recorded] at judged
    cases judged
    rfl
  rw [rawPasses, failed] at kept
  cases kept

omit [UnicodeData] in
theorem hidden_not_auth (id : Nat) (text : List UInt8) (secrets : List Secret) (name : String) (payload : Json)
    (hidden : Hidden secrets name) :
    lacksPakeMessage (recordedPairing id text
      (redactFields secrets [("type", .str name), ("payload", payload)])) = false := by
  have differs := hidden_type secrets name hidden "client/pair-auth" List.mem_cons_self
  simp [lacksPakeMessage, isIn, RecordedFrame.typed, recorded_type, differs]

-- The first frame is complete and the second sends nothing the check looks at.
theorem complete_passes (checkId : String) (recorder : Recorder) (first second : RecordedFrame) (sent : SentField)
    (frames : recorder.frames = [first, second]) (ids : first.id = 1 ∧ second.id = 2)
    (connections : first.connection = 1 ∧ second.connection = 1) (inbound : first.inbound = true)
    (sends : sentFields first = [sent]) (auth : sent.frame.typed "client/pair-auth" = true)
    (right : isWrongLength sent = false) (silent : sentFields second = [])
    (lacks : lacksPakeMessage first = false ∧ lacksPakeMessage second = false) (finding : Finding)
    (judged : checkCpaceLengths checkId (recordOf recorder 1) 0 = .ok [finding]) : finding.verdict = .pass := by
  have ofConnection : (recordOf recorder 1).frames = [first, second] := by
    simp [recordOf, ConnectionRecord.ofSession, frames, connections]
  have sentAll : sentSince (recordOf recorder 1) 0 = [sent] := by
    rw [sentSince, ofConnection]
    cases isInbound : second.inbound <;> simp [ids, inbound, isInbound, sends, silent]
  rw [checkCpaceLengths, sentAll, ofConnection] at judged
  simp only [List.any_cons, List.any_nil, auth, right, List.find?_cons, List.find?_nil, lacks, Bool.and_false,
    Bool.or_false, Bool.not_true, Bool.false_eq_true, if_false] at judged
  cases judged
  rfl

-- A message recorded under another type is not judged, however short its field is.
theorem short_hidden (loads : List UInt8 → Loaded) (reads : ReadsPairing loads) (secrets : List Secret)
    (free : Free (registered secrets) "client/pair-auth") (name field : String)
    (hidden : Hidden (registered secrets) name)
    (decoded : loads (pairingText name field "") = .value (.obj (pairingMessage name field "")))
    (short : lengthsVerdict (ConnectionRecord.ofSession 1 [recordedPairing 1 authText authMessage,
      recordedPairing 2 (pairingText name field "") (pairingMessage name field "")] [] []) 0 = .fail)
    (checkId : String) : ¬KeepsVerdict loads (twoSent secrets (pairingText name field "")) 1 0 checkId := by
  have recorded := two_recorded loads reads secrets (pairingText name field "") (pairingMessage name field "") decoded
  rintro ⟨finding, judged, kept⟩
  have rawFails : lengthsVerdict (rawRecordOf (observed loads (twoSent secrets (pairingText name field ""))) 1) 0 =
      .fail := by
    rw [recorded]
    exact short
  rw [← observed_recorder, recorded, redacted_auth (registered secrets) free] at judged
  have passes : finding.verdict = .pass :=
    complete_passes checkId _ _ _ ⟨recordedPairing 1 authText (pairingMessage "client/pair-auth" "pake_msg_2"
      "<redacted:43>"), "pake_msg_2", 43⟩ rfl ⟨rfl, rfl⟩ ⟨rfl, rfl⟩ rfl rfl rfl
      (by rw [isWrongLength]; exact bne_eq_false_iff_eq.mpr (mark_length 43))
      (hidden_fields 2 _ _ name _ hidden) ⟨rfl, hidden_not_auth 2 _ _ name _ hidden⟩ finding judged
  rw [rawFails, passes] at kept
  cases kept

omit [UnicodeData] in
theorem one_registers (loads : List UInt8 → Loaded) (reads : ReadsPairing loads) (secrets : List Secret) :
    Registers loads (oneSent secrets) secrets := by
  intro secret
  rw [← observed_recorder, one_recorded loads reads secrets]
  exact registered_mem secrets secret

omit [UnicodeData] in
theorem two_registers (loads : List UInt8 → Loaded) (reads : ReadsPairing loads) (secrets : List Secret)
    (text : List UInt8) (second : Fields) (decoded : loads text = .value (.obj second)) :
    Registers loads (twoSent secrets text) secrets := by
  intro secret
  rw [← observed_recorder, two_recorded loads reads secrets text second decoded]
  exact registered_mem secrets secret

-- Every field the check judges is one the recorder redacts with its length. A run in which no secret hides a judged
-- type is judged as its frames crossed, and every run that registers these secrets is exactly when none of them
-- occurs in a type whose fields have fixed lengths.
theorem lengths_kept_iff (loads : List UInt8 → Loaded) (reads : ReadsPairing loads) (secrets : List Secret) :
    (∀ entry ∈ clientFieldLengths, isSecretField entry.2.1 = true ∧ entry.1 ∈ judgedTypes) ∧
    (∀ run number, TypesShown loads run number → ∀ since checkId, KeepsVerdict loads run number since checkId) ∧
    ((∀ run number since checkId, Registers loads run secrets → KeepsVerdict loads run number since checkId) ↔
      ∀ name ∈ judgedTypes, Free secrets name) := by
  refine ⟨judged_fields_secret, fun run number shown => run_keeps_verdict loads run number shown, ?_⟩
  apply Iff.intro
  · intro kept
    have auth : Free secrets "client/pair-auth" := by
      by_contra occurs
      exact auth_hidden loads reads secrets (hidden_registered secrets _ occurs) ""
        (kept _ 1 0 "" (one_registers loads reads secrets))
    have authFree := (free_registered secrets _).mpr auth
    have confirm : Free secrets "client/pair-confirm" := by
      by_contra occurs
      exact short_hidden loads reads secrets authFree _ _ (hidden_registered secrets _ occurs) reads.confirm rfl ""
        (kept _ 1 0 "" (two_registers loads reads secrets _ _ reads.confirm))
    have finalize : Free secrets "client/pair-finalize" := by
      by_contra occurs
      exact short_hidden loads reads secrets authFree _ _ (hidden_registered secrets _ occurs) reads.finalize rfl ""
        (kept _ 1 0 "" (two_registers loads reads secrets _ _ reads.finalize))
    intro name judged
    simp only [judgedTypes, List.mem_cons, List.not_mem_nil, or_false] at judged
    obtain rfl | rfl | rfl := judged
    · exact auth
    · exact confirm
    · exact finalize
  · intro free run number since checkId registers
    refine run_keeps_verdict loads run number (free_shown loads run number ?_) since checkId
    exact fun name judged secret member => free name judged secret ((registers secret).mp member)

omit [UnicodeData]

-- json.loads on the three texts, told apart by their lengths.
def pairingLoads (text : List UInt8) : Loaded :=
  if 90 < text.length then .value (.obj authMessage)
  else if text.length = 61 then .value (.obj (pairingMessage "client/pair-confirm" "client_kc" ""))
  else .value (.obj (pairingMessage "client/pair-finalize" "wrapped_psk" ""))

theorem pairing_loads_read : ReadsPairing pairingLoads where
  auth := if_pos (by decide +kernel)
  confirm := by
    rw [pairingLoads, if_neg (by decide +kernel), if_pos (by decide +kernel)]
  finalize := by
    rw [pairingLoads, if_neg (by decide +kernel), if_neg (by decide +kernel)]

-- One six-digit code is registered, and the verdict of every run is the one on what the client sent.
theorem code_keeps_lengths :
    let _ := noUnicode
    ∀ run, Registers pairingLoads run [⟨"123456", by decide⟩] →
      KeepsVerdict pairingLoads run 1 0 "PAIR-DYN-003" := by
  intro _ run registers
  have keeps := (lengths_kept_iff pairingLoads pairing_loads_read [⟨"123456", by decide⟩]).2.2.mpr (by
    intro name judged secret member
    rw [List.mem_singleton.mp member]
    simp only [judgedTypes, List.mem_cons, List.not_mem_nil, or_false] at judged
    obtain rfl | rfl | rfl := judged <;> decide +kernel)
  exact keeps run 1 0 "PAIR-DYN-003" registers

-- At the code prompt the operator enters `pair`, which is refused; the complete client/pair-auth
-- the client then sends is not found.
theorem refused_word_hides_auth :
    let _ := noUnicode
    ¬KeepsVerdict pairingLoads (oneSent (entered {} [.code 6 "pair"]).secrets) 1 0 "PAIR-DYN-003" := by
  intro _
  refine auth_hidden pairingLoads pairing_loads_read _ ⟨⟨"pair", by decide⟩, ?_, by decide +kernel⟩ _
  exact (registered_mem _ _).mpr (by decide +kernel)

end judgedRuns

end Conformance.Validator.CodePairing
