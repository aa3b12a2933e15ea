import SendspinConformance.Validator.ConnectionEvents
import SendspinConformance.Validator.LinkWaits

set_option autoImplicit false

namespace Conformance.Validator

open Python Base

-- The number an attached connection's keying is recorded under.
def ServerConnection.recordedAs : ServerConnection → Option Nat
  | ⟨_, some number, some _⟩ => some number
  | _ => none

-- _ConnectionEvents knows each client's attached connection, and every event is filed under it.
structure Tracked (state : Watched) : Prop where
  mirrors : ∀ clientId, state.attached clientId = (state.connected clientId).bind ServerConnection.recordedAs
  alone : ∀ first second connection other number, state.connected first = some connection →
    state.connected second = some other → connection.connectionNumber = some number →
    other.connectionNumber = some number → first = second
  counted : ∀ clientId connection number, state.connected clientId = some connection →
    connection.connectionNumber = some number → number ∈ state.numbered
  unseen : ∀ number, number ∉ state.numbered → marks state number = []
  unkeyed : ∀ clientId connection number, state.connected clientId = some connection →
    connection.connectionNumber = some number → connection.recordedAs = none → marks state number = []
  lasting : ∀ clientId connection number, state.connected clientId = some connection →
    connection.recordedAs = some number → ∃ times, marks state number = List.replicate (times + 1) .keyed
  ended : ∀ number, ¬Connected state number → marks state number = [] ∨
    ∃ times, marks state number = List.replicate (times + 1) .keyed ++ [.closed]

theorem recorded_as_iff (connection : ServerConnection) (number : Nat) :
    connection.recordedAs = some number ↔
      connection.connectionNumber = some number ∧ connection.pskCategory.isSome = true := by
  obtain ⟨socket, own, category⟩ := connection
  cases own <;> cases category <;> simp [ServerConnection.recordedAs]

theorem recorded_number (connection : ServerConnection) (number : Nat) (recorded : connection.recordedAs = some number) :
    connection.connectionNumber = some number := ((recorded_as_iff connection number).mp recorded).1

theorem marks_observed (state : Watched) (connection : Nat) (clientId : String) (kind : EventKind)
    (pskCategory detail : Option String) (number : Nat) :
    ((observeEvent state.recorder connection clientId kind pskCategory detail).events.filter (marked number)).map
        RecordedEvent.kind =
      marks state number ++
        if connection = number ∧ (kind = .keyed ∨ kind = .closed) then [kind] else [] := by
  rw [observeEvent, List.filter_append, List.map_append, marks]
  by_cases counts : connection = number ∧ (kind = .keyed ∨ kind = .closed)
  · rw [if_pos counts]
    simp [marked, counts.1, counts.2]
  · rw [if_neg counts]
    simp only [List.append_right_inj, List.map_eq_nil_iff, List.filter_eq_nil_iff, List.mem_singleton, forall_eq,
      marked, Bool.and_eq_true, Bool.or_eq_true, beq_iff_eq]
    exact counts

theorem keyed_of_lasting (state : Watched) (number times : Nat)
    (lasted : marks state number = List.replicate (times + 1) .keyed) : Keyed state number := by
  have isMark : EventKind.keyed ∈ marks state number := by
    rw [lasted]
    exact List.mem_replicate.mpr ⟨Nat.succ_ne_zero times, rfl⟩
  obtain ⟨event, isEvent, isKeyed⟩ := List.mem_map.mp isMark
  obtain ⟨recorded, about⟩ := List.mem_filter.mp isEvent
  rw [marked, Bool.and_eq_true, beq_iff_eq] at about
  exact ⟨event, recorded, about.1, isKeyed⟩

-- What a step does to the connections and the events decides whether they stay tracked.
theorem tracked_quiet (state later : Watched) (tracked : Tracked state) (sameConnected : later.connected = state.connected)
    (sameAttached : later.attached = state.attached) (sameNumbered : later.numbered = state.numbered)
    (sameMarks : ∀ number, marks later number = marks state number) : Tracked later where
  mirrors := by
    rw [sameConnected, sameAttached]
    exact tracked.mirrors
  alone := by
    rw [sameConnected]
    exact tracked.alone
  counted := by
    rw [sameConnected, sameNumbered]
    exact tracked.counted
  unseen := by
    intro number absent
    rw [sameMarks]
    exact tracked.unseen number (sameNumbered ▸ absent)
  unkeyed := by
    intro clientId connection number isConnected
    rw [sameMarks]
    rw [sameConnected] at isConnected
    exact tracked.unkeyed clientId connection number isConnected
  lasting := by
    intro clientId connection number isConnected
    rw [sameMarks]
    rw [sameConnected] at isConnected
    exact tracked.lasting clientId connection number isConnected
  ended := by
    intro number isEnded
    rw [sameMarks]
    rw [Connected, sameConnected] at isEnded
    exact tracked.ended number isEnded

section attach

variable (state : Watched) (clientId : String) (connection : ServerConnection)

theorem attach_marks (number : Nat) : marks (state.attachConnection clientId connection) number =
    marks state number ++ if connection.recordedAs = some number then [.keyed] else [] := by
  obtain ⟨socket, own, category⟩ := connection
  cases own with
  | none => simp [Watched.attachConnection, Watched.onEvent, Function.update_self, ServerConnection.recordedAs, marks]
  | some own =>
      cases category with
      | none => simp [Watched.attachConnection, Watched.onEvent, Function.update_self, ServerConnection.recordedAs, marks]
      | some category =>
          have observed := marks_observed state own clientId .keyed (some category) none number
          simpa [Watched.attachConnection, Watched.onEvent, Function.update_self, ServerConnection.recordedAs, marks]
            using observed

theorem attach_connected : (state.attachConnection clientId connection).connected =
    Function.update state.connected clientId (some connection) := by
  rw [Watched.attachConnection, Watched.onEvent]
  split <;> rfl

theorem attach_numbered : (state.attachConnection clientId connection).numbered =
    connection.connectionNumber.toList ++ state.numbered := by
  rw [Watched.attachConnection, Watched.onEvent]
  split <;> rfl

theorem attach_attached (free : state.attached clientId = none) :
    (state.attachConnection clientId connection).attached =
      Function.update state.attached clientId connection.recordedAs := by
  have unchanged : Function.update state.attached clientId none = state.attached := by
    rw [← free]
    exact Function.update_eq_self clientId state.attached
  obtain ⟨socket, own, category⟩ := connection
  cases own with
  | none => simp [Watched.attachConnection, Watched.onEvent, Function.update_self, ServerConnection.recordedAs, unchanged]
  | some own =>
      cases category <;>
        simp [Watched.attachConnection, Watched.onEvent, Function.update_self, ServerConnection.recordedAs, unchanged]

-- The client's earlier connection, if it has one, was never recorded keyed.
theorem attach_free (tracked : Tracked state) (lone : ¬Replaces state (.attached clientId connection)) :
    state.attached clientId = none := by
  rw [tracked.mirrors]
  cases isConnected : state.connected clientId with
  | none => rfl
  | some earlier =>
      cases recorded : earlier.recordedAs with
      | none => simpa using recorded
      | some number =>
          obtain ⟨times, lasted⟩ := tracked.lasting clientId earlier number isConnected recorded
          exact absurd ⟨earlier, number, isConnected, recorded_number earlier number recorded,
            keyed_of_lasting state number times lasted⟩ lone

theorem tracked_attach (tracked : Tracked state) (fresh : Fresh state (.attached clientId connection))
    (lone : ¬Replaces state (.attached clientId connection)) :
    Tracked (state.attachConnection clientId connection) := by
  have free := attach_free state clientId connection tracked lone
  have freshNumber : ∀ number, connection.connectionNumber = some number → marks state number = [] :=
    fun number own => tracked.unseen number (fresh number own)
  have others : ∀ other earlier number, other ≠ clientId → state.connected other = some earlier →
      earlier.connectionNumber = some number → connection.connectionNumber ≠ some number := by
    intro other earlier number _ isConnected own same
    exact fresh number same (tracked.counted other earlier number isConnected own)
  refine ⟨?_, ?_, ?_, ?_, ?_, ?_, ?_⟩
  · intro other
    rw [attach_attached state clientId connection free, attach_connected]
    by_cases same : other = clientId
    · rw [same, Function.update_self, Function.update_self]
      rfl
    · rw [Function.update_of_ne same, Function.update_of_ne same]
      exact tracked.mirrors other
  · intro first second left right number
    rw [attach_connected]
    by_cases isFirst : first = clientId <;> by_cases isSecond : second = clientId
    · exact fun _ _ _ _ => isFirst.trans isSecond.symm
    · rw [isFirst, Function.update_self, Function.update_of_ne isSecond]
      intro isLeft isRight leftOwn rightOwn
      rw [← Option.some.inj isLeft] at leftOwn
      exact absurd leftOwn (others second right number isSecond isRight rightOwn)
    · rw [isSecond, Function.update_self, Function.update_of_ne isFirst]
      intro isLeft isRight leftOwn rightOwn
      rw [← Option.some.inj isRight] at rightOwn
      exact absurd rightOwn (others first left number isFirst isLeft leftOwn)
    · rw [Function.update_of_ne isFirst, Function.update_of_ne isSecond]
      exact tracked.alone first second left right number
  · intro other held number
    rw [attach_connected, attach_numbered, List.mem_append]
    by_cases same : other = clientId
    · rw [same, Function.update_self]
      intro isHeld own
      rw [← Option.some.inj isHeld] at own
      exact Or.inl (by rw [own]; exact List.mem_cons_self)
    · rw [Function.update_of_ne same]
      exact fun isHeld own => Or.inr (tracked.counted other held number isHeld own)
  · intro number absent
    rw [attach_numbered, List.mem_append, not_or] at absent
    rw [attach_marks, tracked.unseen number absent.2, if_neg]
    · rfl
    · intro recorded
      rw [recorded_number connection number recorded] at absent
      exact absent.1 List.mem_cons_self
  · intro other held number
    rw [attach_connected, attach_marks]
    by_cases same : other = clientId
    · rw [same, Function.update_self]
      intro isHeld own unrecorded
      rw [← Option.some.inj isHeld] at own unrecorded
      rw [freshNumber number own, unrecorded]
      rfl
    · rw [Function.update_of_ne same]
      intro isHeld own unrecorded
      rw [tracked.unkeyed other held number isHeld own unrecorded, if_neg]
      · rfl
      · exact fun recorded => others other held number same isHeld own (recorded_number connection number recorded)
  · intro other held number
    rw [attach_connected, attach_marks]
    by_cases same : other = clientId
    · rw [same, Function.update_self]
      intro isHeld recorded
      rw [← Option.some.inj isHeld] at recorded
      rw [freshNumber number (recorded_number connection number recorded), if_pos recorded]
      exact ⟨0, rfl⟩
    · rw [Function.update_of_ne same]
      intro isHeld recorded
      rw [if_neg, List.append_nil]
      · exact tracked.lasting other held number isHeld recorded
      · exact fun again => others other held number same isHeld (recorded_number held number recorded)
          (recorded_number connection number again)
  · intro number isEnded
    have notOwn : connection.recordedAs ≠ some number := by
      intro recorded
      refine isEnded ⟨clientId, connection, ?_, recorded_number connection number recorded⟩
      rw [attach_connected, Function.update_self]
    rw [attach_marks, if_neg notOwn, List.append_nil]
    by_cases before : Connected state number
    · obtain ⟨other, earlier, isConnected, own⟩ := before
      by_cases same : other = clientId
      · have unrecorded : earlier.recordedAs = none := by
          have mirrored := tracked.mirrors clientId
          rw [free, ← same, isConnected] at mirrored
          exact mirrored.symm
        exact Or.inl (tracked.unkeyed other earlier number isConnected own unrecorded)
      · refine absurd ⟨other, earlier, ?_, own⟩ isEnded
        rw [attach_connected, Function.update_of_ne same]
        exact isConnected
    · exact tracked.ended number before

end attach

section disconnect

variable (state : Watched) (clientId : String) (connection : ServerConnection)
  (isConnected : state.connected clientId = some connection)

def detached : Watched :=
  ({ state with connected := Function.update state.connected clientId none } : Watched).onEvent (.clientDisconnected clientId)

theorem detached_connected : (detached state clientId).connected = Function.update state.connected clientId none := by
  simp only [detached, Watched.onEvent]
  split <;> rfl

theorem detached_numbered : (detached state clientId).numbered = state.numbered := by
  simp only [detached, Watched.onEvent]
  split <;> rfl

theorem detached_attached : (detached state clientId).attached = Function.update state.attached clientId none := by
  simp only [detached, Watched.onEvent]
  split
  · rfl
  · rename_i free
    rw [← free]
    exact (Function.update_eq_self clientId state.attached).symm

include isConnected

theorem detached_marks (tracked : Tracked state) (number : Nat) : marks (detached state clientId) number =
    marks state number ++ if connection.recordedAs = some number then [.closed] else [] := by
  have mirrored := tracked.mirrors clientId
  rw [isConnected, Option.bind_some] at mirrored
  rw [← mirrored]
  simp only [detached, Watched.onEvent]
  cases known : state.attached clientId with
  | none => simp [marks]
  | some own =>
      have observed := marks_observed state own clientId .closed none none number
      simpa [marks] using observed

theorem tracked_detached (tracked : Tracked state) : Tracked (detached state clientId) := by
  have remains : ∀ other held number, other ≠ clientId → state.connected other = some held →
      held.connectionNumber = some number → connection.recordedAs ≠ some number := by
    intro other held number different isHeld own recorded
    exact different (tracked.alone other clientId held connection number isHeld isConnected own
      (recorded_number connection number recorded))
  refine ⟨?_, ?_, ?_, ?_, ?_, ?_, ?_⟩
  · intro other
    rw [detached_connected, detached_attached]
    by_cases same : other = clientId
    · rw [same, Function.update_self, Function.update_self]
      rfl
    · rw [Function.update_of_ne same, Function.update_of_ne same]
      exact tracked.mirrors other
  · intro first second left right number
    rw [detached_connected]
    by_cases isFirst : first = clientId
    · rw [isFirst, Function.update_self]
      exact fun isLeft => nomatch isLeft
    · by_cases isSecond : second = clientId
      · rw [isSecond, Function.update_self]
        exact fun _ isRight => nomatch isRight
      · rw [Function.update_of_ne isFirst, Function.update_of_ne isSecond]
        exact tracked.alone first second left right number
  · intro other held number
    rw [detached_connected, detached_numbered]
    by_cases same : other = clientId
    · rw [same, Function.update_self]
      exact fun isHeld => nomatch isHeld
    · rw [Function.update_of_ne same]
      exact tracked.counted other held number
  · intro number absent
    rw [detached_numbered] at absent
    rw [detached_marks state clientId connection isConnected tracked, tracked.unseen number absent, if_neg]
    · rfl
    · intro recorded
      exact absent (tracked.counted clientId connection number isConnected (recorded_number connection number recorded))
  · intro other held number
    rw [detached_connected, detached_marks state clientId connection isConnected tracked]
    by_cases same : other = clientId
    · rw [same, Function.update_self]
      exact fun isHeld => nomatch isHeld
    · rw [Function.update_of_ne same]
      intro isHeld own unrecorded
      rw [tracked.unkeyed other held number isHeld own unrecorded, if_neg (remains other held number same isHeld own)]
      rfl
  · intro other held number
    rw [detached_connected, detached_marks state clientId connection isConnected tracked]
    by_cases same : other = clientId
    · rw [same, Function.update_self]
      exact fun isHeld => nomatch isHeld
    · rw [Function.update_of_ne same]
      intro isHeld recorded
      rw [if_neg (remains other held number same isHeld (recorded_number held number recorded)), List.append_nil]
      exact tracked.lasting other held number isHeld recorded
  · intro number isEnded
    rw [detached_marks state clientId connection isConnected tracked]
    by_cases recorded : connection.recordedAs = some number
    · rw [if_pos recorded]
      obtain ⟨times, lasted⟩ := tracked.lasting clientId connection number isConnected recorded
      exact Or.inr ⟨times, by rw [lasted]⟩
    · rw [if_neg recorded, List.append_nil]
      by_cases before : Connected state number
      · obtain ⟨other, held, isHeld, own⟩ := before
        by_cases same : other = clientId
        · have isOwn : held = connection := Option.some.inj ((same ▸ isHeld).symm.trans isConnected)
          refine Or.inl (tracked.unkeyed other held number isHeld own ?_)
          rw [isOwn]
          cases known : connection.recordedAs with
          | none => rfl
          | some other =>
              have sameNumber := (recorded_number connection other known).symm.trans (isOwn ▸ own)
              rw [Option.some.inj sameNumber] at known
              exact absurd known recorded
        · refine absurd ⟨other, held, ?_, own⟩ isEnded
          rw [detached_connected, Function.update_of_ne same]
          exact isHeld
      · exact tracked.ended number before

end disconnect

section rekey

variable (state : Watched) (clientId : String)

-- A re-handshake adds a keying to a connection that had one.
theorem tracked_rekeyed (tracked : Tracked state) (socket number : Nat) (old category : String)
    (isConnected : state.connected clientId = some ⟨socket, some number, some old⟩) :
    Tracked { state with
      connected := Function.update state.connected clientId (some ⟨socket, some number, some category⟩)
      recorder := observeEvent state.recorder number clientId .keyed (some category) none } := by
  let later : Watched := { state with
    connected := Function.update state.connected clientId (some ⟨socket, some number, some category⟩)
    recorder := observeEvent state.recorder number clientId .keyed (some category) none }
  have observed : ∀ other, marks later other = marks state other ++ if number = other then [.keyed] else [] := by
    intro other
    have added := marks_observed state number clientId .keyed (some category) none other
    simpa [marks, later] using added
  have before : ∀ other held, later.connected other = some held → ∃ earlier, state.connected other = some earlier ∧
      earlier.connectionNumber = held.connectionNumber ∧ earlier.recordedAs = held.recordedAs := by
    intro other held isHeld
    by_cases same : other = clientId
    · rw [same] at isHeld ⊢
      rw [show later.connected clientId = some ⟨socket, some number, some category⟩ from Function.update_self ..] at isHeld
      rw [← Option.some.inj isHeld]
      exact ⟨_, isConnected, rfl, rfl⟩
    · rw [show later.connected other = state.connected other from Function.update_of_ne same ..] at isHeld
      exact ⟨held, isHeld, rfl, rfl⟩
  have stays : ∀ other, Connected state other → Connected later other := by
    rintro other ⟨client, held, isHeld, own⟩
    by_cases same : client = clientId
    · rw [same, isConnected] at isHeld
      rw [← Option.some.inj isHeld] at own
      exact ⟨clientId, _, Function.update_self .., own⟩
    · exact ⟨client, held, (Function.update_of_ne same ..).trans isHeld, own⟩
  have ownRecorded : ServerConnection.recordedAs ⟨socket, some number, some old⟩ = some number := rfl
  change Tracked later
  refine ⟨?_, ?_, ?_, ?_, ?_, ?_, ?_⟩
  · intro other
    rw [show later.attached other = state.attached other from rfl, tracked.mirrors other]
    by_cases same : other = clientId
    · rw [same, isConnected, show later.connected clientId = some ⟨socket, some number, some category⟩ from
        Function.update_self ..]
      rfl
    · rw [show later.connected other = state.connected other from Function.update_of_ne same ..]
  · intro first second left right shared isLeft isRight leftOwn rightOwn
    obtain ⟨leftBefore, wasLeft, sameLeft, _⟩ := before first left isLeft
    obtain ⟨rightBefore, wasRight, sameRight, _⟩ := before second right isRight
    exact tracked.alone first second leftBefore rightBefore shared wasLeft wasRight (sameLeft.trans leftOwn)
      (sameRight.trans rightOwn)
  · intro other held own isHeld isOwn
    obtain ⟨earlier, wasHeld, sameNumber, _⟩ := before other held isHeld
    exact tracked.counted other earlier own wasHeld (sameNumber.trans isOwn)
  · intro other absent
    rw [observed, tracked.unseen other absent, if_neg]
    · rfl
    · intro same
      exact absent (same ▸ tracked.counted clientId _ number isConnected rfl)
  · intro other held own isHeld isOwn unrecorded
    obtain ⟨earlier, wasHeld, sameNumber, sameRecorded⟩ := before other held isHeld
    rw [observed, tracked.unkeyed other earlier own wasHeld (sameNumber.trans isOwn) (sameRecorded.trans unrecorded), if_neg]
    · rfl
    · intro same
      rw [← same] at isOwn
      have isClient := tracked.alone other clientId earlier _ number wasHeld isConnected (sameNumber.trans isOwn) rfl
      rw [isClient, isConnected] at wasHeld
      rw [← Option.some.inj wasHeld] at sameRecorded
      cases sameRecorded.trans unrecorded
  · intro other held own isHeld recorded
    obtain ⟨earlier, wasHeld, _, sameRecorded⟩ := before other held isHeld
    obtain ⟨times, lasted⟩ := tracked.lasting other earlier own wasHeld (sameRecorded.trans recorded)
    rw [observed, lasted]
    by_cases same : number = own
    · rw [if_pos same]
      exact ⟨times + 1, (List.replicate_succ' ..).symm⟩
    · rw [if_neg same, List.append_nil]
      exact ⟨times, rfl⟩
  · intro other isEnded
    have different : number ≠ other := by
      intro same
      exact isEnded (stays other ⟨clientId, _, isConnected, congrArg some same⟩)
    rw [observed, if_neg different, List.append_nil]
    exact tracked.ended other fun still => isEnded (stays other still)

end rekey

theorem tracked_start : Tracked {} where
  mirrors := fun _ => rfl
  alone := fun _ _ _ _ _ isConnected => nomatch isConnected
  counted := fun _ _ _ isConnected => nomatch isConnected
  unseen := fun _ _ => rfl
  unkeyed := fun _ _ _ isConnected => nomatch isConnected
  lasting := fun _ _ _ isConnected => nomatch isConnected
  ended := fun _ _ => Or.inl rfl

section run

variable (loads : List UInt8 → Loaded)

theorem tracked_step (state : Watched) (occasion : Occasion) (tracked : Tracked state) (fresh : Fresh state occasion)
    (lone : ¬Replaces state occasion) : Tracked (state.after loads occasion) := by
  cases occasion with
  | attached clientId connection => exact tracked_attach state clientId connection tracked fresh lone
  | mismatched clientId =>
      rw [Watched.after, Watched.onEvent]
      split
      · rename_i number known
        refine tracked_quiet state _ tracked rfl rfl rfl fun other => ?_
        have observed := marks_observed state number clientId .credentialMismatch none none other
        simpa [marks] using observed
      · exact tracked
  | disconnected clientId socket =>
      rw [Watched.after, Watched.disconnect]
      split
      · rename_i connection isConnected
        split
        · exact tracked_detached state clientId connection isConnected tracked
        · exact tracked
      · exact tracked
  | rekeyed clientId number category =>
      rw [Watched.after, Watched.rekey]
      split
      · rename_i socket own old isConnected
        split
        · rename_i same
          subst same
          exact tracked_rekeyed state clientId tracked socket own old category isConnected
        · exact tracked
      · exact tracked
  | secret text =>
      refine tracked_quiet state _ tracked rfl rfl rfl fun number => ?_
      simp only [Watched.after, called, addSecret, marks]
      split <;> rfl
  | frame frame =>
      refine tracked_quiet state _ tracked rfl rfl rfl fun number => ?_
      simp only [Watched.after, called, observeFrame, marks]
      split <;> rfl
  | noncompliance observation => exact tracked_quiet state _ tracked rfl rfl rfl fun _ => rfl
  | pairingFailed connection clientId detail =>
      refine tracked_quiet state _ tracked rfl rfl rfl fun number => ?_
      have observed := marks_observed state connection clientId .pairingFailed none detail number
      simpa [Watched.after, called, marks] using observed

theorem tracked_run (occasions : List Occasion) (state : Watched) (tracked : Tracked state)
    (orderly : Orderly loads state occasions) : Tracked (occasions.foldl (Watched.after loads) state) := by
  induction occasions generalizing state with
  | nil => exact tracked
  | cons occasion rest ih =>
      obtain ⟨fresh, lone, later⟩ := orderly
      exact ih _ (tracked_step loads state occasion tracked fresh lone) later

theorem tracked_ends (state : Watched) (tracked : Tracked state) : EndsRecorded state := by
  intro number
  refine ⟨?_, tracked.ended number⟩
  rintro ⟨clientId, connection, isConnected, own⟩
  cases recorded : connection.recordedAs with
  | none => exact ⟨0, tracked.unkeyed clientId connection number isConnected own recorded⟩
  | some known =>
      have same := Option.some.inj ((recorded_number connection known recorded).symm.trans own)
      obtain ⟨times, lasted⟩ := tracked.lasting clientId connection known isConnected recorded
      exact ⟨times + 1, same ▸ lasted⟩

theorem closed_of_mark (state : Watched) (world : World) (same : world.recorder = state.recorder) (number : Nat)
    (isMark : EventKind.closed ∈ marks state number) : (Link.record world number).closed = true := by
  obtain ⟨event, isEvent, isClosed⟩ := List.mem_map.mp isMark
  obtain ⟨recorded, about⟩ := List.mem_filter.mp isEvent
  rw [marked, Bool.and_eq_true] at about
  rw [ConnectionRecord.closed, List.any_eq_true]
  refine ⟨event, ?_, by rw [isClosed]; rfl⟩
  rw [Link.record, same]
  exact List.mem_filter.mpr ⟨recorded, about.1⟩

theorem mark_of_ended (state : Watched) (recorded : EndsRecorded state) (number : Nat) (keyed : Keyed state number)
    (isEnded : ¬Connected state number) : EventKind.closed ∈ marks state number := by
  rcases (recorded number).2 isEnded with blank | ⟨times, closed⟩
  · obtain ⟨event, isEvent, about, isKeyed⟩ := keyed
    have isMark : event.kind ∈ marks state number :=
      List.mem_map.mpr ⟨event, List.mem_filter.mpr ⟨isEvent, by simp [marked, about, isKeyed]⟩, rfl⟩
    rw [blank] at isMark
    cases isMark
  · rw [closed]
    exact List.mem_append_right _ List.mem_cons_self

-- Where no attach replaces a keyed connection, every ended connection is closed once, after it
-- was keyed, and only those; none of them is open. A restart is then missed only where the last
-- look came while the old connection was still attached, or no new one of the client's showed.
theorem ends_recorded :
    (∀ occasions, Orderly loads {} occasions → EndsRecorded (Watched.run loads occasions) ∧
      ∀ (world : World) (number : Nat), world.recorder = (Watched.run loads occasions).recorder →
        Keyed (Watched.run loads occasions) number → ¬Connected (Watched.run loads occasions) number →
          Link.isOpen world (some number) = false) ∧
    ∀ (link : Link) (previous : Nat) (before after : World),
      (link.awaitReconnect previous).from before = some (.ok none, after) →
        (∃ looked, link.wake.from looked = some (.ok false, after) ∧
          ∀ occasions, Orderly loads {} occasions → looked.recorder = (Watched.run loads occasions).recorder →
            Keyed (Watched.run loads occasions) previous → Connected (Watched.run loads occasions) previous) ∨
        link.connectionsSince after previous = [] := by
  have recorded : ∀ occasions, Orderly loads {} occasions → EndsRecorded (Watched.run loads occasions) :=
    fun occasions orderly => tracked_ends _ (tracked_run loads occasions {} tracked_start orderly)
  apply And.intro
  · intro occasions orderly
    refine ⟨recorded occasions orderly, fun world number same keyed isEnded => ?_⟩
    have closed := closed_of_mark _ world same number
      (mark_of_ended _ (recorded occasions orderly) number keyed isEnded)
    simp [Link.isOpen, closed]
  · intro link previous before after ran
    rcases link.await_reconnect_none previous before after ran with ⟨looked, stillOpen, waited⟩ | absent
    · refine Or.inl ⟨looked, waited, fun occasions orderly same keyed => ?_⟩
      by_contra isEnded
      have closed := closed_of_mark _ looked same previous
        (mark_of_ended _ (recorded occasions orderly) previous keyed isEnded)
      rw [stillOpen] at closed
      cases closed
    · exact Or.inr absent

end run

def noLoads (_ : List UInt8) : Loaded := .notJson ""

def firstConnection : ServerConnection := ⟨1, some 1, some "sentinel"⟩

def secondConnection : ServerConnection := ⟨2, some 2, some "long_term"⟩

theorem reconnected_ends : EndsRecorded (Watched.run noLoads
    [.attached "client" firstConnection, .disconnected "client" 1, .attached "client" secondConnection]) := by
  refine ((ends_recorded noLoads).1 _ ?_).1
  refine ⟨fun _ _ => List.not_mem_nil, ?_, trivial, id, ?_, ?_, trivial⟩
  · rintro ⟨_, _, isConnected, _⟩
    cases isConnected
  · intro number own
    cases own
    decide
  · rintro ⟨_, _, isConnected, _⟩
    cases isConnected

-- A connection replaced while it was attached: nothing records its end, it still counts as
-- open, and a restart that replaced it is missed.
def replaced : Watched :=
  Watched.run noLoads [.attached "client" firstConnection, .attached "client" secondConnection, .disconnected "client" 1]

def watchingReplaced : World := { recorder := replaced.recorder, script := [.timedOut] }

def phone : Link := ⟨"client", none, [], noLoads⟩

theorem replaced_not_connected : ¬Connected replaced 1 := by
  rintro ⟨clientId, connection, isConnected, own⟩
  by_cases same : clientId = "client"
  · subst same
    cases isConnected
    cases own
  · have absent : replaced.connected clientId = none := by
      simp [replaced, Watched.run, Watched.after, Watched.attachConnection, Watched.onEvent, Watched.disconnect,
        firstConnection, secondConnection, Function.update_of_ne same]
    rw [absent] at isConnected
    cases isConnected

theorem replaced_stays_open :
    ¬EndsRecorded replaced ∧ Keyed replaced 1 ∧ Keyed replaced 2 ∧ ¬Connected replaced 1 ∧
      Link.isOpen watchingReplaced (some 1) = true ∧
      ∃ after, (phone.awaitReconnect 1).from watchingReplaced = some (.ok none, after) := by
  have keptMarks : marks replaced 1 = [.keyed] := rfl
  refine ⟨fun recorded => ?_, ⟨_, List.mem_cons_self, rfl, rfl⟩,
    ⟨_, List.mem_cons_of_mem _ List.mem_cons_self, rfl, rfl⟩, replaced_not_connected, rfl, _, rfl⟩
  have closed := mark_of_ended replaced recorded 1 ⟨_, List.mem_cons_self, rfl, rfl⟩ replaced_not_connected
  rw [keptMarks] at closed
  simp at closed

end Conformance.Validator
