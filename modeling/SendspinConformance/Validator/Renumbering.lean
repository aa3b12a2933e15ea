import SendspinConformance.Base.Renumbering
import SendspinConformance.Validator.CodePairingChecks

set_option autoImplicit false

namespace Conformance.Validator

open Python Base

instance : Renumbered RecordedFrame where
  places frame := [frame.id]
  renumber f frame := { frame with id := f frame.id }
  places_renumber _ _ := rfl
  renumber_agree _ _ _ agree := by rw [agree _ (List.mem_singleton.mpr rfl)]
  renumber_twice _ _ _ := rfl
  renumber_same _ := rfl

instance : Renumbered RecordedNoncompliance where
  places observation := places observation.afterFrame
  renumber f observation := { observation with afterFrame := renumber f observation.afterFrame }
  places_renumber _ _ := places_renumber _ _
  renumber_agree f g observation agree := by rw [renumber_agree f g observation.afterFrame agree]
  renumber_twice f g observation := by simp [renumber_twice]
  renumber_same observation := by simp [renumber_same]

instance : Renumbered RecordedEvent where
  places event := places event.afterFrame
  renumber f event := { event with afterFrame := renumber f event.afterFrame }
  places_renumber _ _ := places_renumber _ _
  renumber_agree f g event agree := by rw [renumber_agree f g event.afterFrame agree]
  renumber_twice f g event := by simp [renumber_twice]
  renumber_same event := by simp [renumber_same]

instance : Renumbered Finding where
  places answer := places answer.frames
  renumber f answer := { answer with frames := renumber f answer.frames }
  places_renumber _ _ := places_renumber _ _
  renumber_agree f g answer agree := by rw [renumber_agree f g answer.frames agree]
  renumber_twice f g answer := by simp [renumber_twice]
  renumber_same answer := by simp [renumber_same]

instance : Renumbered ConnectionRecord where
  places record := places record.frames ++ places record.noncompliance ++ places record.events
  renumber f record :=
    { record with
      frames := renumber f record.frames
      noncompliance := renumber f record.noncompliance
      events := renumber f record.events }
  places_renumber f record := by simp
  renumber_agree f g record agree := by
    simp only [List.mem_append] at agree
    rw [renumber_agree f g record.frames fun place member => agree place (Or.inl (Or.inl member)),
      renumber_agree f g record.noncompliance fun place member => agree place (Or.inl (Or.inr member)),
      renumber_agree f g record.events fun place member => agree place (Or.inr member)]
  renumber_twice f g record := by simp [renumber_twice]
  renumber_same record := by simp [renumber_same]

section

variable (f : Nat → Nat)

-- A frame keeps all it carries but its id.
@[simp] theorem renumber_id (frame : RecordedFrame) : (renumber f frame).id = f frame.id := rfl

@[simp] theorem renumber_inbound (frame : RecordedFrame) : (renumber f frame).inbound = frame.inbound := rfl

@[simp] theorem renumber_phase (frame : RecordedFrame) : (renumber f frame).phase = frame.phase := rfl

@[simp] theorem renumber_transported (frame : RecordedFrame) :
    (renumber f frame).transported = frame.transported := rfl

@[simp] theorem renumber_typed (frame : RecordedFrame) (messageType : String) :
    (renumber f frame).typed messageType = frame.typed messageType := rfl

@[simp] theorem renumber_type_in (frame : RecordedFrame) (types : List String) :
    (renumber f frame).typeIn types = frame.typeIn types := rfl

@[simp] theorem renumber_payload (frame : RecordedFrame) : (renumber f frame).payload = frame.payload := rfl

@[simp] theorem renumber_fields (frame : RecordedFrame) : (renumber f frame).fields = frame.fields := rfl

@[simp] theorem renumber_message (frame : RecordedFrame) : (renumber f frame).message = frame.message := rfl

@[simp] theorem renumber_kind (event : RecordedEvent) : (renumber f event).kind = event.kind := rfl

@[simp] theorem renumber_reason (observation : RecordedNoncompliance) :
    (renumber f observation).reason = observation.reason := rfl

@[simp] theorem renumber_frames (record : ConnectionRecord) :
    (renumber f record).frames = record.frames.map (renumber f) := rfl

@[simp] theorem renumber_noncompliance (record : ConnectionRecord) :
    (renumber f record).noncompliance = record.noncompliance.map (renumber f) := rfl

@[simp] theorem renumber_events (record : ConnectionRecord) :
    (renumber f record).events = record.events.map (renumber f) := rfl

@[simp] theorem renumber_rejected (record : ConnectionRecord) : (renumber f record).rejected = record.rejected := by
  simp [ConnectionRecord.rejected]

@[simp] theorem renumber_closed (record : ConnectionRecord) : (renumber f record).closed = record.closed := by
  simp [ConnectionRecord.closed, Function.comp_def]

@[simp] theorem inbound_renumbered (record : ConnectionRecord) (messageType : String) (phase : FramePhase) :
    (renumber f record).inbound messageType phase = (record.inbound messageType phase).map (renumber f) := by
  simp [ConnectionRecord.inbound, List.filter_map, Function.comp_def]

@[simp] theorem outbound_renumbered (record : ConnectionRecord) (messageType : String) (phase : FramePhase) :
    (renumber f record).outbound messageType phase = (record.outbound messageType phase).map (renumber f) := by
  simp [ConnectionRecord.outbound, List.filter_map, Function.comp_def]

-- A finding on renumbered frames is the renumbered finding.
@[simp] theorem cite_renumbered (refs : List (String × String)) (checkId : String) (verdict : Verdict)
    (message : String) (frames : List RecordedFrame) :
    renumber f (cite refs checkId verdict message frames) =
      cite refs checkId verdict message (frames.map (renumber f)) := by
  simp [cite, renumber, Function.comp_def]

@[simp] theorem renumber_ok {α : Type} [Renumbered α] (value : α) :
    renumber f (Except.ok value : Py α) = .ok (renumber f value) := rfl

@[simp] theorem renumber_error {α : Type} [Renumbered α] (raised : PyError) :
    renumber f (Except.error raised : Py α) = .error raised := rfl

@[simp] theorem renumber_some {α : Type} [Renumbered α] (value : α) :
    renumber f (some value) = some (renumber f value) := rfl

@[simp] theorem renumber_none {α : Type} [Renumbered α] : renumber f (none : Option α) = none := rfl

@[simp] theorem renumber_nil {α : Type} [Renumbered α] : renumber f ([] : List α) = [] := rfl

@[simp] theorem renumber_cons {α : Type} [Renumbered α] (head : α) (tail : List α) :
    renumber f (head :: tail) = renumber f head :: renumber f tail := rfl

@[simp] theorem finding_renumbered (checkId : String) (verdict : Verdict) (message : String)
    (frames : List RecordedFrame) :
    renumber f (finding checkId verdict message frames) = finding checkId verdict message (frames.map (renumber f)) :=
  cite_renumbered f specRefs checkId verdict message frames

@[simp] theorem not_reached_renumbered (checkId : String) : renumber f (notReached checkId) = notReached checkId := by
  simp [notReached]

end

end Conformance.Validator
