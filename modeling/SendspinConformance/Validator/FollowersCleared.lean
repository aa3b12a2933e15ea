import Mathlib.Data.List.Dedup
import Mathlib.Data.List.TakeWhile
import SendspinConformance.Validator.FramesCrossing

set_option autoImplicit false

namespace Conformance.Validator.Crossing

open Python CodePairing

def isState (frame : RecordedFrame) : Bool := frame.inbound && frame.typed "client/state"

-- What keeps recorded frames clear of both checks: a frame that opens no connection comes after
-- a server/activate, and each role object of the first client/state after one that names its role.
structure Clear (frames : List RecordedFrame) : Prop where
  ordered : ∀ before frame after, frames = before ++ frame :: after → sentEarly frame = true →
    ∃ activation ∈ before, activates activation = true
  active : ∀ state, frames.find? isState = some state → ∀ family ∈ stateObjectRoles,
    hasKey state.fields family = true →
    ∃ activation ∈ frames, activates activation = true ∧ activation.id ≤ state.id ∧ ActiveIn activation.fields family

theorem clear_snoc (frames : List RecordedFrame) (frame : RecordedFrame) (clear : Clear frames)
    (ordered : sentEarly frame = true → ∃ activation ∈ frames, activates activation = true)
    (active : isState frame = true → (∀ earlier ∈ frames, isState earlier = false) → ∀ family ∈ stateObjectRoles,
      hasKey frame.fields family = true → ∃ activation ∈ frames, activates activation = true ∧
        activation.id ≤ frame.id ∧ ActiveIn activation.fields family) : Clear (frames ++ [frame]) := by
  constructor
  · intro before other after split early
    rcases List.eq_nil_or_concat after with none | ⟨front, last, same⟩
    · subst none
      obtain ⟨sameFront, sameLast⟩ := List.append_inj' split rfl
      rw [← (List.cons.inj sameLast).1] at early
      rw [← sameFront]
      exact ordered early
    · rw [List.concat_eq_append] at same
      subst same
      have regrouped : frames ++ [frame] = (before ++ other :: front) ++ [last] := by simp [split]
      exact clear.ordered before other front (List.append_inj' regrouped rfl).1 early
  · intro state isFirst family listed carries
    rw [List.find?_append] at isFirst
    cases earlier : frames.find? isState with
    | some found =>
        rw [earlier, Option.some_or] at isFirst
        rw [← Option.some.inj isFirst] at carries ⊢
        obtain ⟨activation, member, named⟩ := clear.active found earlier family listed carries
        exact ⟨activation, List.mem_append_left _ member, named⟩
    | none =>
        rw [earlier, Option.none_or, List.find?_singleton] at isFirst
        cases isNew : isState frame with
        | false =>
            rw [isNew, if_neg Bool.false_ne_true] at isFirst
            cases isFirst
        | true =>
            rw [isNew, if_pos rfl] at isFirst
            rw [← Option.some.inj isFirst] at carries ⊢
            have absent : ∀ other ∈ frames, isState other = false := by
              intro other member
              simpa using List.find?_eq_none.mp earlier other member
            obtain ⟨activation, member, named⟩ := active isNew absent family listed carries
            exact ⟨activation, List.mem_append_left _ member, named⟩

theorem early_none (frames : List RecordedFrame) (clear : Clear frames) :
    (frames.takeWhile fun frame => !activates frame).filter sentEarly = [] := by
  apply List.filter_eq_nil_iff.mpr
  intro frame member early
  obtain ⟨front, back, split⟩ := List.append_of_mem member
  have whole : frames = front ++ frame :: (back ++ frames.dropWhile fun other => !activates other) := by
    have both := List.takeWhile_append_dropWhile (p := fun other => !activates other) (l := frames)
    rw [split, List.append_assoc, List.cons_append] at both
    exact both.symm
  obtain ⟨activation, inFront, isActivation⟩ := clear.ordered front frame _ whole early
  have kept : activation ∈ frames.takeWhile fun other => !activates other := by
    rw [split]
    exact List.mem_append_left _ inFront
  have inactive := List.mem_takeWhile_imp kept
  simp [isActivation] at inactive

-- Of frames in order, those up to a place are the first of them.
theorem mem_take_while (frames : List RecordedFrame) (place : Nat)
    (ordered : frames.Pairwise fun first second => first.id < second.id) (frame : RecordedFrame) (member : frame ∈ frames)
    (early : frame.id ≤ place) : frame ∈ frames.takeWhile fun other => decide (other.id ≤ place) := by
  induction frames with
  | nil => cases member
  | cons first rest ih =>
      obtain ⟨before, restOrdered⟩ := List.pairwise_cons.mp ordered
      cases List.mem_cons.mp member with
      | inl same =>
          rw [same] at early
          rw [same, List.takeWhile_cons_of_pos (by simpa using early)]
          exact List.mem_cons_self
      | inr later =>
          have earlier : first.id ≤ place := (before frame later).le.trans early
          rw [List.takeWhile_cons_of_pos (by simpa using earlier)]
          exact List.mem_cons_of_mem first (ih restOrdered later)

theorem dedup_fold_keeps (activations : List RecordedFrame) (start roles : List String)
    (read : activations.foldlM (fun roles activation =>
      (iterated (getKey activation.fields "active_roles")).map fun active =>
        (roles ++ active.filterMap Json.asStr).dedup) start = .ok roles) :
    (∀ role ∈ start, role ∈ roles) ∧ ∀ activation ∈ activations, ∀ items role,
      getKey activation.fields "active_roles" = .arr items → .str role ∈ items → role ∈ roles := by
  induction activations generalizing start with
  | nil =>
      have same : start = roles := by simpa [pure, Except.pure] using read
      rw [same]
      exact ⟨fun _ member => member, fun _ absent => by cases absent⟩
  | cons activation rest ih =>
      rw [List.foldlM_cons] at read
      cases active : iterated (getKey activation.fields "active_roles") with
      | error raised => simp [active, Except.map, bind, Except.bind] at read
      | ok found =>
          have later := ih (start ++ found.filterMap Json.asStr).dedup
            (by simpa [active, Except.map, bind, Except.bind] using read)
          refine ⟨fun role member => later.1 role (List.mem_dedup.mpr (List.mem_append_left _ member)), ?_⟩
          intro other inActivations items role isItems inItems
          cases List.mem_cons.mp inActivations with
          | inl same =>
              rw [same] at isItems
              rw [isItems, iterated] at active
              rw [← Except.ok.inj active] at later
              refine later.1 role (List.mem_dedup.mpr (List.mem_append_right _ ?_))
              exact List.mem_filterMap.mpr ⟨.str role, inItems, rfl⟩
          | inr inRest => exact later.2 other inRest items role isItems inItems

section checked

variable (loads : List UInt8 → Loaded) (number : Nat) (log : List Call)

theorem nothing_before_activation_clear (clear : Clear (transportOn loads number log)) :
    NeverFails checkNothingBeforeActivation (recordOf (calls loads log) number) := by
  intro findings checked finding member isFail
  have early := early_none _ clear
  have sameFrames : (recordOf (calls loads log) number).frames.filter RecordedFrame.transported =
      transportOn loads number log := rfl
  rw [checkNothingBeforeActivation, sameFrames, early] at checked
  split at checked
  · rw [← Except.ok.inj checked, List.mem_singleton] at member
    rw [member] at isFail
    cases isFail
  · rw [if_pos List.isEmpty_nil] at checked
    rw [← Except.ok.inj checked, List.mem_singleton] at member
    rw [member] at isFail
    cases isFail

theorem inactive_none (clear : Clear (transportOn loads number log)) (state : RecordedFrame)
    (isFirst : (transportOn loads number log).find? isState = some state) (roles : List String)
    (read : activeRoles (recordOf (calls loads log) number) (some state) = .ok roles) :
    inactiveObjects roles state = [] := by
  have none : stateObjectRoles.filter (fun family =>
      !(roles.map (beforeSeparator '@')).contains family && hasKey state.fields family) = [] := by
    apply List.filter_eq_nil_iff.mpr
    intro family listed inactive
    rw [Bool.and_eq_true, Bool.not_eq_true'] at inactive
    obtain ⟨notNamed, carries⟩ := inactive
    obtain ⟨activation, member, isActivation, early, items, role, isItems, inItems, isFamily⟩ :=
      clear.active state isFirst family listed carries
    have outbound : activation ∈ (recordOf (calls loads log) number).outbound "server/activate" := by
      rw [outbound_transport]
      exact List.mem_filter.mpr ⟨member, isActivation⟩
    have ordered : ((recordOf (calls loads log) number).outbound "server/activate").Pairwise
        fun first second => first.id < second.id := by
      rw [outbound_transport]
      exact (transport_ordered loads number log).sublist List.filter_sublist
    have inRead := mem_take_while _ state.id ordered activation outbound early
    have named := (dedup_fold_keeps _ [] roles read).2 activation inRead items role isItems inItems
    have contained : (roles.map (beforeSeparator '@')).contains family = true := by
      rw [List.contains_iff_mem, ← isFamily]
      exact List.mem_map_of_mem named
    rw [contained] at notNamed
    cases notNamed
  rw [inactiveObjects, none]
  rfl

theorem state_role_objects_clear (clear : Clear (transportOn loads number log)) :
    NeverFails checkStateRoleObjects (recordOf (calls loads log) number) := by
  intro findings checked finding member isFail
  have first : initialState (recordOf (calls loads log) number) = (transportOn loads number log).find? isState := by
    rw [initialState, inbound_transport, List.head?_filter]
    rfl
  rw [checkStateRoleObjects, first] at checked
  cases isFirst : (transportOn loads number log).find? isState with
  | none =>
      rw [isFirst] at checked
      rw [← Except.ok.inj checked, List.mem_singleton] at member
      rw [member] at isFail
      cases isFail
  | some state =>
      rw [isFirst] at checked
      dsimp only at checked
      cases read : activeRoles (recordOf (calls loads log) number) (some state) with
      | error raised =>
          rw [read] at checked
          cases checked
      | ok roles =>
          rw [read] at checked
          dsimp only at checked
          rw [if_neg (not_not.mpr (inactive_none loads number log clear state isFirst roles read))] at checked
          rw [← Except.ok.inj checked, List.mem_singleton] at member
          rw [member] at isFail
          cases isFail

end checked

section recorded

variable (loads : List UInt8 → Loaded) (number : Nat)

-- What the recorder keeps of a frame of the connection.
structure RecordOf (recorder : Recorder) (direction : FrameDirection) (frame : ObservedFrame)
    (recorded : RecordedFrame) : Prop where
  id : recorded.id = recorder.frames.length + 1
  connection : recorded.connection = number
  direction : recorded.direction = direction
  transported : recorded.transported = true
  message : recorded.message = (rawMessage loads frame).map (redactFields recorder.secrets)

theorem decoded_record (recorder : Recorder) (direction : FrameDirection) (frame : ObservedFrame)
    (onWire : OnWire number direction frame) (recorded : RecordedFrame)
    (decoded : decode loads recorder frame = .ok recorded) : RecordOf loads number recorder direction frame recorded := by
  obtain ⟨onConnection, isDirection, isTransport, _⟩ := onWire
  have header : recorded.direction = frame.direction ∧ recorded.phase = frame.phase := by
    rw [decode] at decoded
    split at decoded
    · cases decoded
      exact ⟨rfl, rfl⟩
    · cases decoded
      exact ⟨rfl, rfl⟩
    · split at decoded <;> cases decoded <;> exact ⟨rfl, rfl⟩
  obtain ⟨isId, isConnection⟩ := decoded_number loads recorder frame recorded decoded
  refine ⟨isId, isConnection.trans onConnection, header.1.trans isDirection, ?_,
    decoded_raw loads recorder frame recorded decoded⟩
  rw [RecordedFrame.transported, header.2, isTransport]
  rfl

variable (recorder : Recorder) (direction : FrameDirection) (frame : ObservedFrame) (recorded : RecordedFrame)
  (kept : RecordOf loads number recorder direction frame recorded)
include kept

theorem record_fields : recorded.fields = redactFields recorder.secrets (saidFields loads frame) := by
  have isRecord : recorded = { recorded with message := rawMessage loads frame |>.map (redactFields recorder.secrets) } := by
    rw [← kept.message]
  have same := redacted_fields recorder.secrets { recorded with message := rawMessage loads frame }
  rw [← isRecord] at same
  rw [same, saidFields, payloadFields, RecordedFrame.fields, RecordedFrame.payload]
  cases rawMessage loads frame <;> rfl

theorem record_type (plain : Plain loads recorder.secrets frame) : recorded.type = saidType loads frame := by
  rw [RecordedFrame.type, kept.message, saidType]
  cases isMessage : rawMessage loads frame with
  | none => rfl
  | some message =>
      rw [Option.map_some, Option.bind_some, Option.bind_some, get_key_redacted _ message "type" (by decide)]
      cases isType : getKey message "type" with
      | str type =>
          have free := plain.1 type (by rw [saidType, isMessage, Option.bind_some, isType]; rfl)
          rw [redact, redactText, replaced_absent]
          intro secret member
          exact free secret ((longest_first_mem recorder.secrets secret).mp member)
      | _ => simp [redact, Json.asStr]

theorem record_has_key (key : String) : hasKey recorded.fields key = hasKey (saidFields loads frame) key := by
  rw [record_fields loads number recorder direction frame recorded kept, hasKey, hasKey, redacted_keys]

theorem record_active (plain : Plain loads recorder.secrets frame) (family : String)
    (active : ActiveIn (saidFields loads frame) family) : ActiveIn recorded.fields family := by
  obtain ⟨items, role, isItems, inItems, isFamily⟩ := active
  have free := plain.2 role
    (by rw [isItems, names]; exact List.mem_filterMap.mpr ⟨.str role, inItems, rfl⟩)
  refine ⟨items.map (redact recorder.secrets), role, ?_, ?_, isFamily⟩
  · rw [record_fields loads number recorder direction frame recorded kept,
      get_key_redacted _ _ "active_roles" (by decide), isItems, redact, redact_items_map]
  · refine List.mem_map.mpr ⟨.str role, inItems, ?_⟩
    rw [redact, redactText, replaced_absent]
    intro secret member
    exact free secret ((longest_first_mem recorder.secrets secret).mp member)

end recorded

section runs

variable (loads : List UInt8 → Loaded) (number : Nat)

-- What every run of an honest client keeps while its moves are settled.
structure Sound (wire : Wire) : Prop where
  outgoing : ∀ frame ∈ wire.unwritten, OnWire number .outbound frame
  incoming : ∀ frame ∈ wire.arriving, OnWire number .inbound frame
  said : ∀ before frame after, wire.received ++ wire.arriving = before ++ frame :: after →
    Honest loads wire.heard before frame
  recorded : ∀ frame ∈ wire.written, Activation loads frame → ∃ activation ∈ transportOn loads number wire.log,
    activates activation = true ∧ ∀ family, ActiveIn (saidFields loads frame) family → ActiveIn activation.fields family
  stated : ∀ frame ∈ wire.received, States loads frame →
    ∃ recorded ∈ transportOn loads number wire.log, isState recorded = true
  clear : Clear (transportOn loads number wire.log)

theorem honest_later (heard more said : List ObservedFrame) (frame : ObservedFrame)
    (honest : Honest loads heard said frame) : Honest loads (heard ++ more) said frame := by
  constructor
  · cases honest.waits with
    | inl opening => exact .inl opening
    | inr activated =>
        obtain ⟨activation, member, isActivation⟩ := activated
        exact .inr ⟨activation, List.mem_append_left more member, isActivation⟩
  · intro states first family carries
    obtain ⟨activation, member, named⟩ := honest.active states first family carries
    exact ⟨activation, List.mem_append_left more member, named⟩

-- A call for another connection, or for no frame, leaves the connection's transport frames.
theorem transport_on_other (log : List Call) (call : Call)
    (other : ∀ frame, call = .frame frame → frame.connection ≠ number ∨ frame.phase = .cleartext) :
    transportOn loads number (log ++ [call]) = transportOn loads number log := by
  rw [transport_on_snoc]
  cases call with
  | frame frame =>
      cases decoded : decode loads (calls loads log) frame with
      | error raised => simp [addedFrame, decoded, Except.toOption]
      | ok recorded =>
          have header := decoded_number loads _ frame recorded decoded
          have phase : recorded.phase = frame.phase := by
            rw [decode] at decoded
            split at decoded
            · cases decoded
              rfl
            · cases decoded
              rfl
            · split at decoded <;> cases decoded <;> rfl
          cases other frame rfl with
          | inl elsewhere => simp [addedFrame, decoded, Except.toOption, header.2, elsewhere]
          | inr cleartext => simp [addedFrame, decoded, Except.toOption, RecordedFrame.transported, phase, cleartext]
  | _ => simp [addedFrame]

-- A frame of the connection is recorded, or raised and is not.
theorem transport_on_frame (log : List Call) (direction : FrameDirection) (frame : ObservedFrame)
    (onWire : OnWire number direction frame) :
    (transportOn loads number (log ++ [.frame frame]) = transportOn loads number log ∧ rawMessage loads frame = none) ∨
    ∃ recorded, transportOn loads number (log ++ [.frame frame]) = transportOn loads number log ++ [recorded] ∧
      RecordOf loads number (calls loads log) direction frame recorded := by
  rw [transport_on_snoc]
  cases decoded : decode loads (calls loads log) frame with
  | error raised =>
      refine .inl ⟨by simp [addedFrame, decoded, Except.toOption], ?_⟩
      cases isMessage : rawMessage loads frame with
      | none => rfl
      | some message =>
          rw [rawMessage, onWire.2.2.2] at isMessage
          cases isText : jsonText frame with
          | none => simp [isText] at isMessage
          | some text =>
              simp only [isText] at isMessage
              rw [decode, onWire.2.2.2, isText] at decoded
              cases loaded : loads text with
              | raised error => simp [loaded] at isMessage
              | notJson reason => simp [loaded] at isMessage
              | value json => cases json <;> simp [loaded] at decoded
  | ok recorded =>
      have record := decoded_record loads number (calls loads log) direction frame onWire recorded decoded
      refine .inr ⟨recorded, ?_, record⟩
      simp [addedFrame, decoded, Except.toOption, record.transported, record.connection]

theorem message_typed (frame : ObservedFrame) (type : String) (said : saidType loads frame = some type) :
    rawMessage loads frame ≠ none := by
  intro absent
  rw [saidType, absent] at said
  cases said

theorem send_sound (wire : Wire) (sound : Sound loads number wire) (frame : ObservedFrame)
    (onWire : OnWire number .outbound frame) : Sound loads number (moved wire (.send frame)) := by
  refine ⟨?_, sound.incoming, sound.said, sound.recorded, sound.stated, sound.clear⟩
  intro other member
  cases List.mem_append.mp member with
  | inl earlier => exact sound.outgoing other earlier
  | inr isLast => rw [List.mem_singleton.mp isLast]; exact onWire

theorem deliver_sound (wire : Wire) (sound : Sound loads number wire) : Sound loads number (moved wire .deliver) := by
  rw [moved]
  cases wire.undelivered with
  | nil => exact sound
  | cons frame rest =>
      refine ⟨sound.outgoing, sound.incoming, ?_, sound.recorded, sound.stated, sound.clear⟩
      intro before other after split
      exact honest_later loads wire.heard [frame] before other (sound.said before other after split)

theorem speak_sound (wire : Wire) (sound : Sound loads number wire) (frame : ObservedFrame)
    (onWire : OnWire number .inbound frame) (honest : Honest loads wire.heard (wire.received ++ wire.arriving) frame) :
    Sound loads number (moved wire (.speak frame)) := by
  refine ⟨sound.outgoing, ?_, ?_, sound.recorded, sound.stated, sound.clear⟩
  · intro other member
    cases List.mem_append.mp member with
    | inl earlier => exact sound.incoming other earlier
    | inr isLast => rw [List.mem_singleton.mp isLast]; exact onWire
  · intro before other after split
    change wire.received ++ (wire.arriving ++ [frame]) = before ++ other :: after at split
    rw [← List.append_assoc] at split
    rcases List.eq_nil_or_concat after with none | ⟨front, last, same⟩
    · subst none
      obtain ⟨sameFront, sameLast⟩ := List.append_inj' split rfl
      rw [← sameFront, ← (List.cons.inj sameLast).1]
      exact honest
    · rw [List.concat_eq_append] at same
      subst same
      rw [← List.cons_append, ← List.append_assoc] at split
      exact sound.said before other front (List.append_inj' split rfl).1

theorem other_sound (wire : Wire) (sound : Sound loads number wire) (call : Call)
    (other : ∀ frame, call = .frame frame → frame.connection ≠ number ∨ frame.phase = .cleartext) :
    Sound loads number (moved wire (.other call)) := by
  have same := transport_on_other loads number wire.log call other
  refine ⟨sound.outgoing, sound.incoming, sound.said, ?_, ?_, ?_⟩
  · rw [moved, same]
    exact sound.recorded
  · rw [moved, same]
    exact sound.stated
  · rw [moved, same]
    exact sound.clear

theorem complete_sound (wire : Wire) (sound : Sound loads number wire) (frame : ObservedFrame)
    (rest : List ObservedFrame) (unwritten : wire.unwritten = frame :: rest)
    (plain : Plain loads (calls loads wire.log).secrets frame) : Sound loads number (moved wire .complete) := by
  have onWire := sound.outgoing frame (by rw [unwritten]; exact List.mem_cons_self)
  have outgoing (other : ObservedFrame) (member : other ∈ rest) : OnWire number .outbound other :=
    sound.outgoing other (by rw [unwritten]; exact List.mem_cons_of_mem frame member)
  simp only [moved, unwritten]
  rcases transport_on_frame loads number wire.log .outbound frame onWire with ⟨same, noMessage⟩ | ⟨kept, grown, record⟩
  · refine ⟨outgoing, sound.incoming, sound.said, ?_, ?_, ?_⟩
    · rw [same]
      intro other member activation
      cases List.mem_append.mp member with
      | inl earlier => exact sound.recorded other earlier activation
      | inr isLast =>
          rw [List.mem_singleton.mp isLast] at activation
          exact absurd noMessage (message_typed loads frame _ activation)
    · rw [same]
      exact sound.stated
    · rw [same]
      exact sound.clear
  · have isOutbound : kept.inbound = false := by
      rw [RecordedFrame.inbound, record.direction]
      rfl
    refine ⟨outgoing, sound.incoming, sound.said, ?_, ?_, ?_⟩
    · rw [grown]
      intro other member activation
      cases List.mem_append.mp member with
      | inl earlier =>
          obtain ⟨recorded, inFrames, named⟩ := sound.recorded other earlier activation
          exact ⟨recorded, List.mem_append_left _ inFrames, named⟩
      | inr isLast =>
          rw [List.mem_singleton.mp isLast] at activation ⊢
          refine ⟨kept, List.mem_append_right _ (List.mem_singleton_self kept), ?_, ?_⟩
          · rw [activates, isOutbound, RecordedFrame.typed, record_type loads number _ _ frame kept record plain, activation]
            rfl
          · exact record_active loads number _ _ frame kept record plain
    · rw [grown]
      intro other member states
      obtain ⟨recorded, inFrames, isRecorded⟩ := sound.stated other member states
      exact ⟨recorded, List.mem_append_left _ inFrames, isRecorded⟩
    · rw [grown]
      refine clear_snoc _ kept sound.clear ?_ ?_
      · intro early
        rw [sentEarly, isOutbound] at early
        cases early
      · intro states
        rw [isState, isOutbound] at states
        cases states

theorem receive_sound (wire : Wire) (sound : Sound loads number wire) (frame : ObservedFrame)
    (rest : List ObservedFrame) (arriving : wire.arriving = frame :: rest)
    (plain : Plain loads (calls loads wire.log).secrets frame) (follows : Follows loads wire frame) :
    Sound loads number (moved wire .receive) := by
  have onWire := sound.incoming frame (by rw [arriving]; exact List.mem_cons_self)
  have incoming (other : ObservedFrame) (member : other ∈ rest) : OnWire number .inbound other :=
    sound.incoming other (by rw [arriving]; exact List.mem_cons_of_mem frame member)
  have honest := sound.said wire.received frame rest (by rw [arriving])
  have said (before : List ObservedFrame) (other : ObservedFrame) (after : List ObservedFrame)
      (split : wire.received ++ [frame] ++ rest = before ++ other :: after) : Honest loads wire.heard before other :=
    sound.said before other after (by rw [arriving, ← split, List.append_assoc]; rfl)
  simp only [moved, arriving]
  rcases transport_on_frame loads number wire.log .inbound frame onWire with ⟨same, noMessage⟩ | ⟨kept, grown, record⟩
  · refine ⟨sound.outgoing, incoming, said, ?_, ?_, ?_⟩
    · rw [same]
      exact sound.recorded
    · rw [same]
      intro other member states
      cases List.mem_append.mp member with
      | inl earlier => exact sound.stated other earlier states
      | inr isLast =>
          rw [List.mem_singleton.mp isLast] at states
          exact absurd noMessage (message_typed loads frame _ states)
    · rw [same]
      exact sound.clear
  · have isInbound : kept.inbound = true := by
      rw [RecordedFrame.inbound, record.direction]
      rfl
    have sameType := record_type loads number _ _ frame kept record plain
    refine ⟨sound.outgoing, incoming, said, ?_, ?_, ?_⟩
    · rw [grown]
      intro other member activation
      obtain ⟨recorded, inFrames, named⟩ := sound.recorded other member activation
      exact ⟨recorded, List.mem_append_left _ inFrames, named⟩
    · rw [grown]
      intro other member states
      cases List.mem_append.mp member with
      | inl earlier =>
          obtain ⟨recorded, inFrames, isRecorded⟩ := sound.stated other earlier states
          exact ⟨recorded, List.mem_append_left _ inFrames, isRecorded⟩
      | inr isLast =>
          rw [List.mem_singleton.mp isLast] at states
          refine ⟨kept, List.mem_append_right _ (List.mem_singleton_self kept), ?_⟩
          rw [isState, isInbound, RecordedFrame.typed, sameType, states]
          rfl
    · rw [grown]
      refine clear_snoc _ kept sound.clear ?_ ?_
      · intro early
        have notOpening : ¬ Opening loads frame := by
          intro opening
          rw [sentEarly, isInbound, RecordedFrame.typeIn, sameType] at early
          cases opening with
          | inl hello => simp [hello] at early
          | inr goodbye => simp [goodbye] at early
        obtain ⟨written, member, activation⟩ := follows.activation notOpening (honest.waits.resolve_left notOpening)
        obtain ⟨recorded, inFrames, isActivation, _⟩ := sound.recorded written member activation
        exact ⟨recorded, inFrames, isActivation⟩
      · intro isStateKept absent family listed carries
        have states : States loads frame := by
          rw [isState, isInbound, RecordedFrame.typed, sameType] at isStateKept
          simpa [States] using isStateKept
        have first : ∀ earlier ∈ wire.received, ¬ States loads earlier := by
          intro earlier member isEarlier
          obtain ⟨recorded, inFrames, isRecorded⟩ := sound.stated earlier member isEarlier
          rw [absent recorded inFrames] at isRecorded
          cases isRecorded
        have object : Carries loads family frame :=
          ⟨listed, by rw [← record_has_key loads number _ _ frame kept record family]; exact carries⟩
        obtain ⟨written, member, activation, named⟩ :=
          follows.active states first family object (honest.active states first family object)
        obtain ⟨recorded, inFrames, isActivation, active⟩ := sound.recorded written member activation
        refine ⟨recorded, inFrames, isActivation, ?_, active family named⟩
        have ordered := transport_ordered loads number (wire.log ++ [.frame frame])
        rw [grown] at ordered
        exact ((List.pairwise_append.mp ordered).2.2 recorded inFrames kept (List.mem_singleton_self kept)).le

theorem moved_sound (wire : Wire) (sound : Sound loads number wire) (move : Move)
    (allowed : Allowed loads number wire move) (settled : Settled loads wire move) :
    Sound loads number (moved wire move) := by
  cases move with
  | send frame => exact send_sound loads number wire sound frame allowed
  | deliver => exact deliver_sound loads number wire sound
  | complete =>
      cases unwritten : wire.unwritten with
      | nil =>
          simp only [moved, unwritten]
          exact sound
      | cons frame rest =>
          have plain : Plain loads (calls loads wire.log).secrets frame := settled frame (by rw [unwritten]; rfl)
          exact complete_sound loads number wire sound frame rest unwritten plain
  | speak frame => exact speak_sound loads number wire sound frame allowed.1 allowed.2
  | receive =>
      cases arriving : wire.arriving with
      | nil =>
          simp only [moved, arriving]
          exact sound
      | cons frame rest =>
          obtain ⟨plain, follows⟩ := settled frame (by rw [arriving]; rfl)
          exact receive_sound loads number wire sound frame rest arriving plain follows
  | other call => exact other_sound loads number wire sound call allowed

theorem run_sound (moves : List Move) (allowed : Throughout (Allowed loads number) moves)
    (settled : Throughout (Settled loads) moves) : Sound loads number (wireAfter moves) := by
  induction moves using List.reverseRecOn with
  | nil =>
      have empty : transportOn loads number [] = [] := rfl
      refine ⟨?_, ?_, ?_, ?_, ?_, ?_, ?_⟩
      · intro frame member
        cases member
      · intro frame member
        cases member
      · intro before frame after split
        exact absurd split.symm (by simp [wireAfter])
      · intro frame member
        cases member
      · intro frame member
        cases member
      · intro before frame after split
        exact absurd split.symm (by simp [wireAfter, empty])
      · intro state isFirst
        cases isFirst
  | append_singleton moves move ih =>
      obtain ⟨allowedBefore, allowedMove⟩ := throughout_snoc _ moves move allowed
      obtain ⟨settledBefore, settledMove⟩ := throughout_snoc _ moves move settled
      rw [wire_after_snoc]
      exact moved_sound loads number _ (ih allowedBefore settledBefore) move allowedMove settledMove

-- In every state of a run of an honest client whose moves are settled, neither check fails.
theorem honest_unblamed (moves : List Move) (allowed : Throughout (Allowed loads number) moves)
    (settled : Throughout (Settled loads) moves) :
    ∀ before after, moves = before ++ after →
      NeverFails checkNothingBeforeActivation (recordOf (calls loads (wireAfter before).log) number) ∧
        NeverFails checkStateRoleObjects (recordOf (calls loads (wireAfter before).log) number) := by
  intro before after split
  have prefixed {meets : Wire → Move → Prop} (all : Throughout meets moves) : Throughout meets before := by
    intro front move back same
    exact all front move (back ++ after) (by rw [split, same, List.append_assoc]; rfl)
  have clear := (run_sound loads number before (prefixed allowed) (prefixed settled)).clear
  exact ⟨nothing_before_activation_clear loads number _ clear, state_role_objects_clear loads number _ clear⟩

end runs

def textBytes (text : String) : List UInt8 := text.toList.map fun char => UInt8.ofNat char.toNat

def activateText : List UInt8 :=
  textBytes "\x7b\"type\":\"server/activate\",\"payload\":\x7b\"activities\":[\"playback\"],\"active_roles\":[\"player@v1\"]\x7d\x7d"

def stateText : List UInt8 :=
  textBytes "\x7b\"type\":\"client/state\",\"payload\":\x7b\"available\":true,\"player\":\x7b\x7d\x7d\x7d"

def activateMessage : Fields :=
  [("type", .str "server/activate"),
    ("payload", .obj [("activities", .arr [.str "playback"]), ("active_roles", .arr [.str "player@v1"])])]

def stateMessage : Fields :=
  [("type", .str "client/state"), ("payload", .obj [("available", .bool true), ("player", .obj [])])]

-- json.loads on two texts; any other is taken for no JSON.
def loadsTwo (text : List UInt8) : Loaded :=
  if text = activateText then .value (.obj activateMessage)
  else if text = stateText then .value (.obj stateMessage)
  else .notJson "Expecting value: line 1 column 1 (char 0)"

def activateFrame : ObservedFrame := ⟨1, some "speaker", .outbound, .transport, 0 :: activateText, 10, none⟩

def stateFrame : ObservedFrame := ⟨1, some "speaker", .inbound, .transport, 0 :: stateText, 20, none⟩

theorem activate_raw : rawMessage loadsTwo activateFrame = some activateMessage := by
  simp [rawMessage, jsonText, activateFrame, loadsTwo]

theorem state_raw : rawMessage loadsTwo stateFrame = some stateMessage := by
  have differs : stateText ≠ activateText := by decide +kernel
  simp [rawMessage, jsonText, stateFrame, loadsTwo, differs]

theorem activation_frame : Activation loadsTwo activateFrame := by
  rw [Activation, saidType, activate_raw]
  rfl

theorem player_active : Activates loadsTwo "player" activateFrame := by
  refine ⟨activation_frame, [.str "player@v1"], "player@v1", ?_, List.mem_singleton_self _, by decide⟩
  rw [saidFields, activate_raw]
  rfl

-- The client has the server/activate and answers it.
theorem state_honest (said : List ObservedFrame) : Honest loadsTwo [activateFrame] said stateFrame := by
  refine ⟨.inr ⟨activateFrame, List.mem_singleton_self _, activation_frame⟩, ?_⟩
  intro _ _ family carries
  have keys : hasKey [("available", .bool true), ("player", .obj [])] family = true := by
    have isCarried := carries.2
    rw [saidFields, state_raw] at isCarried
    exact isCarried
  have isPlayer : family = "player" := by
    have listed := carries.1
    simp only [stateObjectRoles, List.mem_cons, List.not_mem_nil, or_false] at listed
    obtain rfl | rfl | rfl | rfl := listed
    · rfl
    · exact absurd keys (by decide)
    · exact absurd keys (by decide)
    · exact absurd keys (by decide)
  rw [isPlayer]
  exact ⟨activateFrame, List.mem_singleton_self _, player_active⟩

theorem throughout_step (meets : Wire → Move → Prop) (moves : List Move) (move : Move) (all : Throughout meets moves)
    (last : meets (wireAfter moves) move) : Throughout meets (moves ++ [move]) := by
  intro before other after split
  rcases List.eq_nil_or_concat after with none | ⟨front, final, same⟩
  · subst none
    obtain ⟨sameFront, sameLast⟩ := List.append_inj' split rfl
    rw [← sameFront, ← (List.cons.inj sameLast).1]
    exact last
  · rw [List.concat_eq_append] at same
    subst same
    rw [← List.cons_append, ← List.append_assoc] at split
    exact all before other front (List.append_inj' split rfl).1

theorem throughout_nil (meets : Wire → Move → Prop) : Throughout meets [] := by
  intro before move after split
  exact absurd split.symm (by simp)

theorem plain_unregistered (frame : ObservedFrame) : Plain loadsTwo [] frame := by
  constructor
  · intro type _ secret absent
    cases absent
  · intro role _ secret absent
    cases absent

-- The reply waits for the write it answers.
def answeredInTime : List Move :=
  [.send activateFrame, .deliver, .complete, .speak stateFrame, .receive]

theorem answered_in_time_unblamed :
    NeverFails checkNothingBeforeActivation (recordOf (calls loadsTwo (wireAfter answeredInTime).log) 1) ∧
      NeverFails checkStateRoleObjects (recordOf (calls loadsTwo (wireAfter answeredInTime).log) 1) := by
  have onWire : OnWire 1 .outbound activateFrame := ⟨rfl, rfl, rfl, rfl⟩
  have secretsNone (log : List Call) (frames : ∀ call ∈ log, ∃ frame, call = .frame frame) :
      (calls loadsTwo log).secrets = [] := by
    induction log using List.reverseRecOn with
    | nil => rfl
    | append_singleton log call ih =>
        obtain ⟨frame, isFrame⟩ := frames call (List.mem_append_right log (List.mem_singleton_self call))
        rw [calls_snoc, isFrame, called, observeFrame]
        have before := ih fun other member => frames other (List.mem_append_left _ member)
        split <;> exact before
  have settledWrite : Settled loadsTwo (wireAfter [.send activateFrame, .deliver]) .complete := by
    rintro frame isFirst
    exact plain_unregistered frame
  have settledReceipt : Settled loadsTwo (wireAfter [.send activateFrame, .deliver, .complete, .speak stateFrame])
      .receive := by
    intro frame isFirst
    rw [← Option.some.inj isFirst]
    refine ⟨?_, fun _ _ => ⟨activateFrame, List.mem_singleton_self _, activation_frame⟩, ?_⟩
    · have none := secretsNone (wireAfter [.send activateFrame, .deliver, .complete, .speak stateFrame]).log
        fun call member => ⟨activateFrame, List.mem_singleton.mp member⟩
      rw [none]
      exact plain_unregistered stateFrame
    · intro _ _ family _ named
      obtain ⟨heard, member, active⟩ := named
      exact ⟨heard, member, active⟩
  have allowed : Throughout (Allowed loadsTwo 1) answeredInTime :=
    throughout_step _ [.send activateFrame, .deliver, .complete, .speak stateFrame] .receive
      (throughout_step _ [.send activateFrame, .deliver, .complete] (.speak stateFrame)
        (throughout_step _ [.send activateFrame, .deliver] .complete
          (throughout_step _ [.send activateFrame] .deliver
            (throughout_step _ [] (.send activateFrame) (throughout_nil _) onWire) trivial) trivial)
        ⟨⟨rfl, rfl, rfl, rfl⟩, state_honest []⟩) trivial
  have settled : Throughout (Settled loadsTwo) answeredInTime :=
    throughout_step _ [.send activateFrame, .deliver, .complete, .speak stateFrame] .receive
      (throughout_step _ [.send activateFrame, .deliver, .complete] (.speak stateFrame)
        (throughout_step _ [.send activateFrame, .deliver] .complete
          (throughout_step _ [.send activateFrame] .deliver
            (throughout_step _ [] (.send activateFrame) (throughout_nil _) trivial) trivial) settledWrite)
        trivial) settledReceipt
  exact honest_unblamed loadsTwo 1 answeredInTime allowed settled answeredInTime [] (List.append_nil _).symm

-- The reply is received while that write is still open.
def answeredEarly : List Move :=
  [.send activateFrame, .deliver, .speak stateFrame, .receive, .complete]

def failsOn (check : Check) (connection : ConnectionRecord) : Bool :=
  match check connection with
  | .ok findings => findings.any fun finding => finding.verdict == .fail
  | .error _ => false

theorem fails_on (check : Check) (connection : ConnectionRecord) (fails : failsOn check connection = true) :
    ¬ NeverFails check connection := by
  intro never
  rw [failsOn] at fails
  cases checked : check connection with
  | error raised =>
      rw [checked] at fails
      cases fails
  | ok findings =>
      rw [checked] at fails
      obtain ⟨finding, member, isFail⟩ := List.any_eq_true.mp fails
      exact never findings checked finding member (by simpa using isFail)

-- An honest client that answers before the write completion is recorded fails both checks.
theorem answered_early_blamed :
    Throughout (Allowed loadsTwo 1) answeredEarly ∧
      ¬ NeverFails checkNothingBeforeActivation (recordOf (calls loadsTwo (wireAfter answeredEarly).log) 1) ∧
      ¬ NeverFails checkStateRoleObjects (recordOf (calls loadsTwo (wireAfter answeredEarly).log) 1) := by
  refine ⟨?_, ?_, ?_⟩
  · exact throughout_step _ [.send activateFrame, .deliver, .speak stateFrame, .receive] .complete
      (throughout_step _ [.send activateFrame, .deliver, .speak stateFrame] .receive
        (throughout_step _ [.send activateFrame, .deliver] (.speak stateFrame)
          (throughout_step _ [.send activateFrame] .deliver
            (throughout_step _ [] (.send activateFrame) (throughout_nil _) ⟨rfl, rfl, rfl, rfl⟩) trivial)
          ⟨⟨rfl, rfl, rfl, rfl⟩, state_honest []⟩) trivial) trivial
  · exact fails_on _ _ (by decide +kernel)
  · exact fails_on _ _ (by decide +kernel)

end Conformance.Validator.Crossing
