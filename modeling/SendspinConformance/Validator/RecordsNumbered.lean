import SendspinConformance.Base.Runs
import SendspinConformance.Validator.Recorder

set_option autoImplicit false

namespace Conformance.Validator

open Python Base

-- The id of the last of the frames that is on the connection, none where no frame is.
def LastOn (frames : List RecordedFrame) (connection : Option Nat) : Option Nat → Prop
  | none => ∀ frame ∈ frames, some frame.connection ≠ connection
  | some id => ∃ earlier frame later, frames = earlier ++ frame :: later ∧ frame.id = id ∧
      some frame.connection = connection ∧ ∀ other ∈ later, some other.connection ≠ connection

variable (loads : List UInt8 → Loaded)

def addedFrame (recorder : Recorder) : Call → Option RecordedFrame
  | .frame frame => (decode loads recorder frame).toOption
  | _ => none

def addedNoncompliance (recorder : Recorder) : Call → Option RecordedNoncompliance
  | .noncompliance observation =>
      some ⟨observation.connection, observation.clientId, redactText recorder.secrets observation.reason,
        observation.monotonicUs, lastFrame recorder observation.connection⟩
  | _ => none

def addedEvent (recorder : Recorder) : Call → Option RecordedEvent
  | .event connection clientId kind pskCategory detail =>
      some ⟨connection, clientId, kind, lastFrame recorder (some connection), pskCategory,
        detail.map (redactText recorder.secrets)⟩
  | _ => none

-- What one call may add to each of the recorder's lists; it takes nothing away.
theorem called_frames_added (recorder : Recorder) (call : Call) :
    (called loads recorder call).frames = recorder.frames ++ (addedFrame loads recorder call).toList := by
  cases call with
  | secret text =>
      rw [called, addSecret]
      split <;> simp [addedFrame]
  | frame frame =>
      rw [called, observeFrame, addedFrame]
      cases decode loads recorder frame with
      | ok recorded => rfl
      | error raised => exact (List.append_nil _).symm
  | noncompliance observation => exact (List.append_nil _).symm
  | event connection clientId kind pskCategory detail => exact (List.append_nil _).symm

theorem called_noncompliance_added (recorder : Recorder) (call : Call) :
    (called loads recorder call).noncompliance = recorder.noncompliance ++ (addedNoncompliance recorder call).toList := by
  cases call with
  | secret text =>
      rw [called, addSecret]
      split <;> simp [addedNoncompliance]
  | frame frame =>
      rw [called, observeFrame]
      split <;> exact (List.append_nil _).symm
  | noncompliance observation => rfl
  | event connection clientId kind pskCategory detail => exact (List.append_nil _).symm

theorem called_events_added (recorder : Recorder) (call : Call) :
    (called loads recorder call).events = recorder.events ++ (addedEvent recorder call).toList := by
  cases call with
  | secret text =>
      rw [called, addSecret]
      split <;> simp [addedEvent]
  | frame frame =>
      rw [called, observeFrame]
      split <;> exact (List.append_nil _).symm
  | noncompliance observation => exact (List.append_nil _).symm
  | event connection clientId kind pskCategory detail => rfl

theorem last_frame_on (recorder : Recorder) (connection : Option Nat) :
    LastOn recorder.frames connection (lastFrame recorder connection) := by
  cases found : recorder.frames.reverse.find? fun frame => some frame.connection == connection with
  | none =>
      rw [lastFrame, found]
      intro frame member
      simpa using List.find?_eq_none.mp found frame (List.mem_reverse.mpr member)
  | some last =>
      obtain ⟨onIt, before, after, split, others⟩ := List.find?_eq_some_iff_append.mp found
      rw [lastFrame, found]
      refine ⟨after.reverse, last, before.reverse, ?_, rfl, by simpa using onIt, ?_⟩
      · rw [← List.reverse_reverse recorder.frames, split]
        simp
      · intro other member
        simpa using others other (List.mem_reverse.mp member)

-- A frame is numbered by how many were recorded before it, on whatever connection.
theorem decoded_number (recorder : Recorder) (frame : ObservedFrame) (recorded : RecordedFrame)
    (decoded : decode loads recorder frame = .ok recorded) :
    recorded.id = recorder.frames.length + 1 ∧ recorded.connection = frame.connection := by
  rw [decode] at decoded
  split at decoded
  · cases decoded
    exact ⟨rfl, rfl⟩
  · cases decoded
    exact ⟨rfl, rfl⟩
  · split at decoded <;> cases decoded <;> exact ⟨rfl, rfl⟩

theorem calls_snoc (run : List Call) (call : Call) :
    calls loads (run ++ [call]) = called loads (calls loads run) call := by
  rw [calls, calls, List.foldl_append]
  rfl

-- Nothing the one has recorded is missing in the other.
structure Extends (before after : Recorder) : Prop where
  frames : before.frames <+: after.frames
  noncompliance : before.noncompliance <+: after.noncompliance
  events : before.events <+: after.events
  toolErrors : before.toolErrors <+: after.toolErrors

theorem called_extends (recorder : Recorder) (call : Call) : Extends recorder (called loads recorder call) := by
  refine ⟨?_, ?_, ?_, ?_⟩
  · rw [called_frames_added]
    exact List.prefix_append _ _
  · rw [called_noncompliance_added]
    exact List.prefix_append _ _
  · rw [called_events_added]
    exact List.prefix_append _ _
  · cases call with
    | secret text =>
        rw [called, addSecret]
        split <;> exact List.prefix_refl _
    | frame frame =>
        rw [called, observeFrame]
        split
        · exact List.prefix_refl _
        · exact List.prefix_append _ _
    | _ => exact List.prefix_refl _

theorem calls_extend (before after : List Call) : Extends (calls loads before) (calls loads (before ++ after)) := by
  induction after using List.reverseRecOn with
  | nil =>
      rw [List.append_nil]
      exact ⟨List.prefix_refl _, List.prefix_refl _, List.prefix_refl _, List.prefix_refl _⟩
  | append_singleton after call ih =>
      have next := called_extends loads (calls loads (before ++ after)) call
      rw [← List.append_assoc, calls_snoc]
      exact ⟨ih.frames.trans next.frames, ih.noncompliance.trans next.noncompliance, ih.events.trans next.events,
        ih.toolErrors.trans next.toolErrors⟩

-- The frames a run records, by the connection they are on.
def framesOn (recorder : Recorder) (number : Nat) : List RecordedFrame :=
  (ConnectionRecord.ofSession number recorder.frames recorder.noncompliance recorder.events).frames

-- What a run's numbering promises the checks that read its records.
structure Numbered (run : List Call) : Prop where
  ids : ∀ position frame, (calls loads run).frames[position]? = some frame → frame.id = position + 1
  violations : ∀ position violation, (calls loads run).noncompliance[position]? = some violation →
    ∃ before observation after, run = before ++ .noncompliance observation :: after ∧
      (calls loads before).noncompliance.length = position ∧ violation.connection = observation.connection ∧
      LastOn (calls loads before).frames violation.connection violation.afterFrame
  events : ∀ position event, (calls loads run).events[position]? = some event →
    ∃ before connection clientId kind pskCategory detail after,
      run = before ++ .event connection clientId kind pskCategory detail :: after ∧
      (calls loads before).events.length = position ∧ event.connection = connection ∧ event.kind = kind ∧
      LastOn (calls loads before).frames (some event.connection) event.afterFrame
  failed : ∀ before frame after raised, run = before ++ .frame frame :: after →
    decode loads (calls loads before) frame = .error raised →
    ∃ text, calls loads (before ++ [.frame frame]) =
      { calls loads before with toolErrors := (calls loads before).toolErrors ++ [text] }
  decoded : ∀ before frame after recorded, run = before ++ .frame frame :: after →
    decode loads (calls loads before) frame = .ok recorded →
    calls loads (before ++ [.frame frame]) =
      { calls loads before with frames := (calls loads before).frames ++ [recorded] }
  observed : ∀ before observation after, run = before ++ .noncompliance observation :: after → ∃ violation,
    violation.connection = observation.connection ∧ calls loads (before ++ [.noncompliance observation]) =
      { calls loads before with noncompliance := (calls loads before).noncompliance ++ [violation] }
  happened : ∀ before connection clientId kind pskCategory detail after,
    run = before ++ .event connection clientId kind pskCategory detail :: after → ∃ event,
      event.connection = connection ∧ event.kind = kind ∧
      calls loads (before ++ [.event connection clientId kind pskCategory detail]) =
        { calls loads before with events := (calls loads before).events ++ [event] }
  kept : ∀ before after, run = before ++ after → Extends (calls loads before) (calls loads run)
  divided : ∀ number frame, frame ∈ framesOn (calls loads run) number ↔
    frame ∈ (calls loads run).frames ∧ frame.connection = number
  ordered : ∀ number, (framesOn (calls loads run) number).Sublist (calls loads run).frames ∧
    (framesOn (calls loads run) number).Pairwise fun first second => first.id < second.id

theorem frame_numbered (run : List Call) (position : Nat) (frame : RecordedFrame)
    (held : (calls loads run).frames[position]? = some frame) : frame.id = position + 1 := by
  obtain ⟨before, call, after, _, length, adds⟩ :=
    log_position (called loads) Recorder.frames (addedFrame loads) (called_frames_added loads) run {} position frame
      (Nat.zero_le position) held
  cases call with
  | frame observed =>
      cases decoded : decode loads (calls loads before) observed with
      | ok recorded =>
          have same : recorded = frame := by
            rw [addedFrame, ← calls, decoded] at adds
            exact Option.some.inj adds
          rw [← same, (decoded_number loads _ observed recorded decoded).1, ← length]
          rfl
      | error raised =>
          rw [addedFrame, ← calls, decoded] at adds
          cases adds
  | _ => cases adds

theorem frames_ordered (run : List Call) :
    (calls loads run).frames.Pairwise fun first second => first.id < second.id := by
  rw [List.pairwise_iff_getElem]
  intro first second inFirst inSecond earlier
  rw [frame_numbered loads run first _ (List.getElem?_eq_getElem inFirst),
    frame_numbered loads run second _ (List.getElem?_eq_getElem inSecond)]
  omega

theorem records_numbered (run : List Call) : Numbered loads run where
  ids := frame_numbered loads run
  violations := by
    intro position violation held
    obtain ⟨before, call, after, split, length, adds⟩ :=
      log_position (called loads) Recorder.noncompliance addedNoncompliance (called_noncompliance_added loads) run {}
        position violation (Nat.zero_le position) held
    cases call with
    | noncompliance observation =>
        cases adds
        exact ⟨before, observation, after, split, length, rfl, last_frame_on _ _⟩
    | _ => cases adds
  events := by
    intro position event held
    obtain ⟨before, call, after, split, length, adds⟩ :=
      log_position (called loads) Recorder.events addedEvent (called_events_added loads) run {}
        position event (Nat.zero_le position) held
    cases call with
    | event connection clientId kind pskCategory detail =>
        cases adds
        exact ⟨before, connection, clientId, kind, pskCategory, detail, after, split, length, rfl, rfl, last_frame_on _ _⟩
    | _ => cases adds
  failed := by
    intro before frame after raised _ failing
    refine ⟨unrecordedError (calls loads before) frame raised, ?_⟩
    rw [calls_snoc, called, observeFrame, failing]
  decoded := by
    intro before frame after recorded _ read
    rw [calls_snoc, called, observeFrame, read]
  observed := by
    intro before observation after _
    refine ⟨_, ?_, calls_snoc loads before _⟩
    rfl
  happened := by
    intro before connection clientId kind pskCategory detail after _
    refine ⟨_, ?_, ?_, calls_snoc loads before _⟩
    · rfl
    · rfl
  kept := by
    rintro before after rfl
    exact calls_extend loads before after
  divided := by
    intro number frame
    simp [framesOn, ConnectionRecord.ofSession]
  ordered := by
    intro number
    have kept : (framesOn (calls loads run) number).Sublist (calls loads run).frames := List.filter_sublist
    exact ⟨kept, (frames_ordered loads run).sublist kept⟩

end Conformance.Validator
