import Mathlib.Data.List.Dedup
import SendspinConformance.Validator.LinkWaits

set_option autoImplicit false

namespace Conformance.Validator

open Python Protocol Base

-- The frames recorded since `start` come after those recorded before.
def Grown (start world : World) : Prop := start.recorder.frames <+: world.recorder.frames

-- The program only adds to the recorded frames, however it ends.
def Grows {α : Type} (program : Action α) : Prop :=
  ∀ start, Meets (Grown start) program fun _ after => Grown start after

theorem sequential_grown : Sequential (ε := PyError) fun before _ after => Grown before after where
  here _ _ := List.prefix_rfl
  trans _ _ _ _ := List.IsPrefix.trans

theorem called_grown (loads : List UInt8 → Loaded) (recorder : Recorder) (call : Call) :
    recorder.frames <+: (called loads recorder call).frames := by
  cases call with
  | secret text =>
      simp only [called, addSecret]
      split <;> exact List.prefix_rfl
  | frame frame =>
      simp only [called, observeFrame]
      split
      · exact List.prefix_append _ _
      · exact List.prefix_rfl
  | noncompliance observation => exact List.prefix_rfl
  | event connection clientId kind pskCategory detail => exact List.prefix_rfl

namespace Link

variable (link : Link)

theorem await_from_grown {α : Type} (ends : Happening → Option α) (script : List Happening) (world after : World)
    (ended : Py α) (ran : awaitFrom link ends script world = some (ended, after)) :
    world.recorder.frames <+: after.recorder.frames := by
  induction script generalizing world with
  | nil => cases ran
  | cons happening rest ih =>
      cases happening with
      | called call => exact (called_grown link.loads world.recorder call).trans (ih _ ran)
      | client client => exact ih { world with client } ran
      | paired record => exact ih { world with pairings := world.pairings.put record } ran
      | unpaired clientId => exact ih { world with pairings := world.pairings.pop clientId } ran
      | written => exact ih { world with saved := world.pairings } ran
      | locked => exact ih { world with payload := world.pairings } ran
      | raised error =>
          cases ran
          exact List.prefix_rfl
      | _ =>
          obtain ⟨value, _, same⟩ := Option.map_eq_some_iff.mp ran
          cases same
          exact List.prefix_rfl

theorem await_grows {α : Type} (ends : Happening → Option α) :
    Relates (fun before _ after => Grown before after) (link.await ends) := by
  intro before ended after ran
  exact link.await_from_grown ends before.script before after ended ran

theorem close_grows : Grows link.close := by
  intro start before ended after grown ran
  exact grown.trans (link.relates_close sequential_grown link.await_grows before ended after ran)

theorem watermark_below (world : World) (number : Nat) :
    watermark world < number ↔ 0 < number ∧ ∀ frame ∈ world.recorder.frames, frame.connection < number := by
  have folded : ∀ (connections : List Nat) (start : Nat),
      connections.foldl max start < number ↔ start < number ∧ ∀ connection ∈ connections, connection < number := by
    intro connections
    induction connections with
    | nil => simp
    | cons connection rest ih =>
        intro start
        rw [List.foldl_cons, ih, List.forall_mem_cons, Nat.max_lt, and_assoc]
  rw [watermark, folded, List.forall_mem_map]

theorem connections_since_iff (world : World) (watermark number : Nat) :
    number ∈ link.connectionsSince world watermark ↔
      ∃ frame ∈ world.recorder.frames, link.opens watermark frame = true ∧ frame.connection = number := by
  rw [connectionsSince, (List.perm_insertionSort _ _).mem_iff, List.mem_dedup, List.mem_map]
  simp only [List.mem_filter, and_assoc]

theorem opens_iff (low high : Nat) (frame : RecordedFrame) (order : low ≤ high) :
    link.opens high frame = true ↔ link.opens low frame = true ∧ high < frame.connection := by
  simp only [opens, Bool.and_eq_true, decide_eq_true_eq]
  constructor
  · rintro ⟨⟨above, isInit⟩, isClient⟩
    exact ⟨⟨⟨by omega, isInit⟩, isClient⟩, above⟩
  · rintro ⟨⟨⟨_, isInit⟩, isClient⟩, above⟩
    exact ⟨⟨above, isInit⟩, isClient⟩

theorem since_higher (world : World) (low high number : Nat) (order : low ≤ high) :
    number ∈ link.connectionsSince world high ↔ number ∈ link.connectionsSince world low ∧ high < number := by
  rw [connections_since_iff, connections_since_iff]
  simp only [link.opens_iff low high _ order]
  apply Iff.intro
  · rintro ⟨frame, isFrame, ⟨isOpening, above⟩, rfl⟩
    exact ⟨⟨frame, isFrame, isOpening, rfl⟩, above⟩
  · rintro ⟨⟨frame, isFrame, isOpening, rfl⟩, above⟩
    exact ⟨frame, isFrame, ⟨isOpening, above⟩, rfl⟩

theorem watermark_grown (before after : World) (grown : Grown before after) : watermark before ≤ watermark after := by
  have bounded := (watermark_below after (watermark after + 1)).mp (Nat.lt_succ_self _)
  have earlier := (watermark_below before (watermark after + 1)).mpr
    ⟨bounded.1, fun frame isFrame => bounded.2 frame (grown.subset isFrame)⟩
  exact Nat.le_of_lt_succ earlier

-- What the watermark leaves of one keyed connection is that connection.
theorem newest_only (world : World) (low high number : Nat) (order : low ≤ high)
    (only : link.connectionsSince world low = [number]) (isKeyed : keyed world number = true) (above : high < number) :
    link.newest world high = some number := by
  have listed : number ∈ link.connectionsSince world high :=
    (link.since_higher world low high number order).mpr ⟨only ▸ List.mem_cons_self, above⟩
  have keptKeyed : number ∈ (link.connectionsSince world high).filter (keyed world) :=
    List.mem_filter.mpr ⟨listed, isKeyed⟩
  rw [newest]
  cases kept : (link.connectionsSince world high).filter (keyed world) with
  | nil =>
      rw [kept] at keptKeyed
      cases keptKeyed
  | cons first rest =>
      have inHigh : first ∈ link.connectionsSince world high :=
        (List.mem_filter.mp (kept ▸ List.mem_cons_self : first ∈ (link.connectionsSince world high).filter (keyed world))).1
      have inLow := ((link.since_higher world low high first order).mp inHigh).1
      rw [only, List.mem_singleton] at inLow
      rw [inLow]
      rfl

-- `opened` is the highest number given out when reconnect began. Its watermark skips none of the
-- client's later connections, and the one it makes is returned, exactly where nothing is recorded
-- on such a connection, or on one numbered after it, before the watermark is taken.
theorem reconnect_keeps_iff (before closed after : World) (opened : Nat) (result : Option Nat)
    (numbered : ∀ frame ∈ before.recorder.frames, frame.connection ≤ opened)
    (closes : link.close.from before = some (.ok (), closed))
    (ran : link.reconnect.from before = some (.ok result, after)) :
    ((∀ number ∈ link.connectionsSince after opened, watermark closed < number) ∧
      ∀ number, opened < number → link.connectionsSince after (watermark before) = [number] →
        keyed after number = true → result = some number) ↔
    ∀ number ∈ link.connectionsSince after opened, ∀ frame ∈ closed.recorder.frames, frame.connection < number := by
  have grown : Grown before closed := link.close_grows before before _ closed List.prefix_rfl closes
  have positive : ∀ number ∈ link.connectionsSince after opened, 0 < number := by
    intro number listed
    obtain ⟨frame, _, isOpening, same⟩ := (link.connections_since_iff after opened number).mp listed
    simp only [opens, Bool.and_eq_true, decide_eq_true_eq] at isOpening
    omega
  have started : watermark before ≤ opened := by
    have below := (watermark_below before (opened + 1)).mpr
      ⟨Nat.succ_pos opened, fun frame isFrame => Nat.lt_succ_of_le (numbered frame isFrame)⟩
    omega
  have answered : result = link.newest after (watermark closed) := by
    rw [reconnect, from_bind, closes] at ran
    exact link.meets_next (watermark closed) closed _ after trivial ran
  apply Iff.intro
  · intro ⟨skipsNone, _⟩ number listed
    exact ((watermark_below closed number).mp (skipsNone number listed)).2
  · intro early
    have skipsNone : ∀ number ∈ link.connectionsSince after opened, watermark closed < number :=
      fun number listed => (watermark_below closed number).mpr ⟨positive number listed, early number listed⟩
    refine ⟨skipsNone, fun number isLater only isKeyed => ?_⟩
    have listed : number ∈ link.connectionsSince after opened :=
      (link.since_higher after (watermark before) opened number started).mpr ⟨only ▸ List.mem_cons_self, isLater⟩
    rw [answered]
    exact link.newest_only after (watermark before) (watermark closed) number
      (watermark_grown before closed grown) only isKeyed (skipsNone number listed)

-- That condition as an order of events: the frames on those connections, and on ones numbered after them, all
-- come after what was recorded when the watermark was taken.
theorem early_frames_iff (before closed after : World) (opened : Nat) (result : Option Nat)
    (closes : link.close.from before = some (.ok (), closed))
    (ran : link.reconnect.from before = some (.ok result, after)) :
    (∀ number ∈ link.connectionsSince after opened, ∀ frame ∈ closed.recorder.frames, frame.connection < number) ↔
      ∀ number ∈ link.connectionsSince after opened, ∀ earlier frame later,
        after.recorder.frames = earlier ++ frame :: later → number ≤ frame.connection →
          closed.recorder.frames <+: earlier := by
  have grown : closed.recorder.frames <+: after.recorder.frames := by
    rw [reconnect, from_bind, closes] at ran
    exact link.relates_next sequential_grown link.await_grows (watermark closed) closed _ after ran
  refine forall₂_congr fun number _ => ?_
  constructor
  · intro early earlier frame later split above
    refine List.prefix_of_prefix_length_le grown (split ▸ List.prefix_append _ _) ?_
    by_contra longer
    have seen : earlier ++ [frame] <+: closed.recorder.frames := by
      refine List.prefix_of_prefix_length_le ⟨later, ?_⟩ grown ?_
      · rw [split, List.append_assoc]
        rfl
      · rw [List.length_append, List.length_singleton]
        omega
    have below := early frame (seen.subset (List.mem_append_right earlier List.mem_cons_self))
    omega
  · intro later frame member
    by_contra above
    obtain ⟨first, rest, split⟩ := List.append_of_mem member
    obtain ⟨waiting, same⟩ := grown
    have before := later first frame (rest ++ waiting) (by rw [← same, split, List.append_assoc, List.cons_append])
      (Nat.le_of_not_lt above)
    have shorter := before.length_le
    rw [split, List.length_append, List.length_cons] at shorter
    omega

end Link

section runs

def initLoads (_ : List UInt8) : Loaded :=
  .value (.obj [("type", .str "client/init"), ("payload", .obj [("client_id", .str "client")])])

def initOn (connection : Nat) : ObservedFrame where
  connection := connection
  clientId := some "client"
  direction := .inbound
  phase := .cleartext
  data := []
  monotonicUs := 0

def app : Link := ⟨"client", none, [], initLoads⟩

def keyedOn (connection : Nat) : Call := .event connection "client" .keyed (some "long_term") none

-- The client on connection 1, and what happens while the validator closes it and waits.
def connectedWorld (script : List Happening) : World where
  recorder := calls initLoads [.frame (initOn 1), keyedOn 1]
  client := some ⟨some ⟨1, some "long_term"⟩, 0⟩
  script := script

-- The app reconnects as soon as its connection closes, before aiosendspin's disconnect returns.
def fastApp : World := connectedWorld
  [.client none, .called (.event 1 "client" .closed none none), .called (.frame (initOn 2)), .called (keyedOn 2),
    .returned, .timedOut]

def slowApp : World := connectedWorld
  [.client none, .called (.event 1 "client" .closed none none), .returned, .called (.frame (initOn 2)),
    .called (keyedOn 2), .woken]

theorem fast_app_missed : ∃ closed after, app.close.from fastApp = some (.ok (), closed) ∧
    app.reconnect.from fastApp = some (.ok none, after) ∧
    app.connectionsSince after 1 = [2] ∧ Link.keyed after 2 = true ∧ ¬Link.watermark closed < 2 :=
  ⟨_, _, rfl, rfl, rfl, rfl, by decide⟩

theorem slow_app_kept : ∃ closed after, app.close.from slowApp = some (.ok (), closed) ∧
    app.reconnect.from slowApp = some (.ok (some 2), after) ∧
    ((∀ number ∈ app.connectionsSince after 1, Link.watermark closed < number) ∧
      ∀ number, 1 < number → app.connectionsSince after (Link.watermark slowApp) = [number] →
        Link.keyed after number = true → some 2 = some number) := by
  refine ⟨_, _, rfl, rfl, (app.reconnect_keeps_iff slowApp _ _ 1 (some 2) ?_ rfl rfl).mpr ?_⟩
  · decide
  · decide

end runs

end Conformance.Validator
