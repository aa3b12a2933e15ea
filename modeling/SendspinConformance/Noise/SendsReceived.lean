import SendspinConformance.Base.Turns
import SendspinConformance.Noise.SendLock

set_option autoImplicit false

namespace Conformance.Noise

open Base

def Act.called : Act → Option Message
  | .call message => some message
  | _ => none

-- The messages handed over, in the order of their calls.
def calls (acts : List Act) : List Message := acts.filterMap Act.called

def cuts (acts : List Act) : Nat := acts.count .cut

def unfinished (log : List Entry) : Nat := log.countP fun entry => !entry.finished

-- The entry of the send that holds the lock is the last one, and not counted as cut off.
def Holding (acts : List Act) (log : List Entry) : Option (Message × List Bytes) → Prop
  | none => unfinished log ≤ cuts acts
  | some (message, rest) =>
      ∃ earlier written, log = earlier ++ [⟨message, written, false⟩] ∧
        frames message = (frames message).take written ++ rest ∧ unfinished earlier ≤ cuts acts

-- A log of the sends that took the lock, and what it says of the channel.
structure Explained (acts : List Act) (channel : Channel) (log : List Entry) : Prop where
  wire : channel.wire = log.flatMap Entry.frames
  tapped : channel.tapped = (log.filter Entry.finished).map Entry.message
  whole : ∀ entry ∈ log, entry.finished = true → entry.whole = true
  order : List.Sublist (log.map Entry.message ++ channel.waiting) (calls acts)
  plain : ∀ message ∈ calls acts, message.1 ∉ transportBinaryTypes
  holding : Holding acts log channel.holder

theorem holding_later (acts : List Act) (act : Act) (log : List Entry) (holder : Option (Message × List Bytes))
    (holding : Holding acts log holder) : Holding (acts ++ [act]) log holder := by
  have more : cuts acts ≤ cuts (acts ++ [act]) := by
    rw [cuts, cuts, List.count_append]
    exact Nat.le_add_right _ _
  cases holder with
  | none => exact Nat.le_trans holding more
  | some held =>
      obtain ⟨earlier, written, split, sent, few⟩ := holding
      exact ⟨earlier, written, split, sent, Nat.le_trans few more⟩

theorem calls_snoc (acts : List Act) (act : Act) : calls (acts ++ [act]) = calls acts ++ act.called.toList := by
  rw [calls, List.filterMap_append]
  cases act <;> rfl

theorem calls_uncalled (acts : List Act) (act : Act) (silent : act.called = none) : calls (acts ++ [act]) = calls acts := by
  rw [calls_snoc, silent]
  exact List.append_nil _

theorem unfinished_append (first second : List Entry) : unfinished (first ++ second) = unfinished first + unfinished second :=
  List.countP_append

theorem whole_snoc (earlier : List Entry) (last : Entry)
    (known : ∀ entry ∈ earlier, entry.finished = true → entry.whole = true)
    (new : last.finished = true → last.whole = true) :
    ∀ entry ∈ earlier ++ [last], entry.finished = true → entry.whole = true := by
  intro entry member finished
  rcases List.mem_append.mp member with old | added
  · exact known entry old finished
  · rw [List.mem_singleton] at added
    rw [added] at finished ⊢
    exact new finished

theorem written_bound (message : Message) (written : Nat) (rest : List Bytes)
    (sent : frames message = (frames message).take written ++ rest) :
    (frames message).length ≤ written + rest.length := by
  have lengths := congrArg List.length sent
  rw [List.length_append, List.length_take] at lengths
  omega

theorem take_written (message : Message) (written : Nat) (frame : Bytes) (rest : List Bytes)
    (sent : frames message = (frames message).take written ++ frame :: rest) :
    (frames message).take (written + 1) = (frames message).take written ++ [frame] := by
  have size : written < (frames message).length := by
    have lengths := congrArg List.length sent
    rw [List.length_append, List.length_take, List.length_cons] at lengths
    omega
  have grown := congrArg (List.take (written + 1)) sent
  rw [List.take_append, List.take_take, List.length_take, Nat.min_eq_right (by omega),
    Nat.min_eq_left (Nat.le_of_lt size), Nat.add_sub_cancel_left] at grown
  simpa using grown

section Acts

variable (acts : List Act) (before after : Channel) (log : List Entry) (explained : Explained acts before log)

include explained

theorem call_explained (message : Message) (stepped : before.step false (.call message) = some after) :
    Explained (acts ++ [.call message]) after log := by
  rw [Channel.step] at stepped
  split at stepped
  · cases stepped
  · rename_i free
    cases stepped
    refine ⟨explained.wire, explained.tapped, explained.whole, ?_, ?_, holding_later acts _ log _ explained.holding⟩
    · rw [calls_snoc, ← List.append_assoc]
      exact explained.order.append_right [message]
    · intro other member
      rw [calls_snoc] at member
      rcases List.mem_append.mp member with earlier | new
      · exact explained.plain other earlier
      · rw [List.mem_singleton.mp new]
        simpa using free

theorem acquire_explained (stepped : before.step false .acquire = some after) :
    ∃ message, Explained (acts ++ [.acquire]) after (log ++ [⟨message, 0, false⟩]) := by
  rw [Channel.step] at stepped
  split at stepped
  · rename_i message rest free waits
    cases stepped
    have order := explained.order
    rw [waits] at order
    have holding := explained.holding
    rw [free] at holding
    have same := calls_uncalled acts .acquire rfl
    refine ⟨message, ?_, ?_, whole_snoc log _ explained.whole (by intro finished; cases finished), ?_, ?_, ?_⟩
    · simp [explained.wire, Entry.frames]
    · simp [explained.tapped]
    · rw [same]
      simpa using order
    · rw [same]
      exact explained.plain
    · exact ⟨log, 0, rfl, rfl, holding_later acts .acquire log none holding⟩
  · cases stepped

-- The last entry follows the send that holds the lock.
theorem write_explained (stepped : before.step false .write = some after) :
    ∃ next, Explained (acts ++ [.write]) after next := by
  rw [Channel.step] at stepped
  split at stepped
  · rename_i message frame rest held
    cases stepped
    have holding := explained.holding
    rw [held] at holding
    obtain ⟨earlier, written, rfl, sent, few⟩ := holding
    have known := fun entry member => explained.whole entry (List.mem_append_left _ member)
    have now := take_written message written frame rest sent
    have same := calls_uncalled acts .write rfl
    refine ⟨earlier ++ [⟨message, written + 1, false⟩], ?_, ?_,
      whole_snoc earlier _ known (by intro finished; cases finished), ?_, ?_, ?_⟩
    · simp [explained.wire, Entry.frames, now]
    · simpa using explained.tapped
    · rw [same]
      simpa using explained.order
    · rw [same]
      exact explained.plain
    · refine ⟨earlier, written + 1, rfl, ?_, holding_later acts .write earlier none few⟩
      rw [now, List.append_assoc]
      exact sent
  · cases stepped

theorem finish_explained (stepped : before.step false .finish = some after) :
    ∃ next, Explained (acts ++ [.finish]) after next := by
  rw [Channel.step] at stepped
  split at stepped
  · rename_i message held
    cases stepped
    have holding := explained.holding
    rw [held] at holding
    obtain ⟨earlier, written, rfl, sent, few⟩ := holding
    have known := fun entry member => explained.whole entry (List.mem_append_left _ member)
    have all := written_bound message written [] sent
    have same := calls_uncalled acts .finish rfl
    refine ⟨earlier ++ [⟨message, written, true⟩], ?_, ?_,
      whole_snoc earlier _ known (by intro _; simpa [Entry.whole] using all), ?_, ?_, ?_⟩
    · simpa [Entry.frames] using explained.wire
    · simp [explained.tapped]
    · rw [same]
      simpa using explained.order
    · rw [same]
      exact explained.plain
    · have done := holding_later acts .finish earlier none few
      rw [Holding, unfinished_append]
      exact done
  · cases stepped

theorem withdraw_explained (place : Nat) (stepped : before.step false (.withdraw place) = some after) :
    Explained (acts ++ [.withdraw place]) after log := by
  rw [Channel.step] at stepped
  split at stepped
  · cases stepped
    have same := calls_uncalled acts (.withdraw place) rfl
    refine ⟨explained.wire, explained.tapped, explained.whole, ?_, ?_, holding_later acts _ log _ explained.holding⟩
    · rw [same]
      exact ((List.eraseIdx_sublist _ place).append_left _).trans explained.order
    · rw [same]
      exact explained.plain
  · cases stepped

-- The entry cut off keeps its place and is counted from now on.
theorem cut_explained (stepped : before.step false .cut = some after) : Explained (acts ++ [.cut]) after log := by
  rw [Channel.step, Option.map_eq_some_iff] at stepped
  obtain ⟨⟨message, rest⟩, held, rfl⟩ := stepped
  have holding := explained.holding
  rw [held] at holding
  obtain ⟨earlier, written, split, sent, few⟩ := holding
  have order := explained.order
  have plain := explained.plain
  have same := calls_uncalled acts .cut rfl
  refine ⟨explained.wire, explained.tapped, explained.whole, by rwa [same], by rwa [same], ?_⟩
  rw [Holding, split, unfinished_append, cuts, List.count_append]
  exact Nat.add_le_add few (Nat.le_refl 1)

-- The log grows by an entry when a caller gets the lock.
theorem step_explained (act : Act) (stepped : before.step false act = some after) :
    ∃ next, Explained (acts ++ [act]) after next := by
  cases act with
  | call message => exact ⟨log, call_explained acts before after log explained message stepped⟩
  | acquire =>
      obtain ⟨message, grown⟩ := acquire_explained acts before after log explained stepped
      exact ⟨_, grown⟩
  | write => exact write_explained acts before after log explained stepped
  | finish => exact finish_explained acts before after log explained stepped
  | withdraw place => exact ⟨log, withdraw_explained acts before after log explained place stepped⟩
  | cut => exact ⟨log, cut_explained acts before after log explained stepped⟩

end Acts

theorem run_explained (acts : List Act) (channel : Channel) (ran : turns (Channel.step false) {} acts = some channel) :
    ∃ log, Explained acts channel log := by
  apply turns_invariant _ _ (fun acts channel => ∃ log, Explained acts channel log) _ _ acts channel ran
  · exact ⟨[], rfl, rfl, fun _ member => (List.not_mem_nil member).elim, .slnil,
      fun _ member => (List.not_mem_nil member).elim, Nat.le_refl 0⟩
  · rintro acts before act after _ ⟨log, explained⟩ stepped
    exact step_explained acts before after log explained act stepped

theorem survivors_sublist (dirty : Bool) (log : List Entry) :
    List.Sublist (survivors dirty log) (log.map Entry.message) := by
  induction log generalizing dirty with
  | nil => cases dirty <;> exact .slnil
  | cons entry rest ih =>
      cases dirty with
      | true => exact .cons _ (ih _)
      | false =>
          rw [survivors, List.map_cons]
          split
          · exact .cons_cons _ (ih _)
          · exact .cons _ (ih _)

-- Each send cut off costs at most one that ran to its end.
theorem finished_bound (dirty : Bool) (log : List Entry)
    (whole : ∀ entry ∈ log, entry.finished = true → entry.whole = true) :
    (log.filter Entry.finished).length ≤ (survivors dirty log).length + unfinished log + dirty.toNat := by
  induction log generalizing dirty with
  | nil => exact Nat.zero_le _
  | cons entry rest ih =>
      have later (after : Bool) := ih after fun other member => whole other (List.mem_cons_of_mem entry member)
      have counted : unfinished (entry :: rest) = unfinished rest + (!entry.finished).toNat := by
        rw [unfinished, List.countP_cons]
        cases entry.finished <;> rfl
      have clean := later false
      have unclean := later true
      rw [Bool.toNat_false] at clean
      rw [Bool.toNat_true] at unclean
      rw [counted]
      cases finished : entry.finished with
      | true =>
          have all := whole entry List.mem_cons_self finished
          have started : (entry.written == 0) = false := by
            have some_frames := List.length_pos_iff.mpr (frames_nonempty entry.message)
            have bound : (frames entry.message).length ≤ entry.written := by simpa [Entry.whole] using all
            rw [beq_eq_false_iff_ne]
            omega
          rw [List.filter_cons_of_pos (by exact finished), List.length_cons]
          cases dirty with
          | true =>
              rw [survivors, started]
              simpa using clean
          | false =>
              rw [survivors, if_pos all, List.length_cons]
              simp only [Bool.not_true, Bool.toNat_false]
              omega
      | false =>
          rw [List.filter_cons_of_neg (by simp [finished])]
          simp only [Bool.not_false, Bool.toNat_true]
          cases dirty with
          | true =>
              rw [survivors]
              cases entry.written == 0 <;> simp only [Bool.toNat_true] <;> omega
          | false =>
              rw [survivors]
              split
              · rw [List.length_cons]
                omega
              · cases entry.written != 0 <;> omega

theorem survivors_append (log more : List Entry) (dirty : Bool) :
    ∃ rest, survivors dirty (log ++ more) = survivors dirty log ++ rest := by
  induction log generalizing dirty with
  | nil => exact ⟨survivors dirty more, by cases dirty <;> rfl⟩
  | cons entry rest ih =>
      cases dirty with
      | true => exact ih _
      | false =>
          rw [List.cons_append, survivors, survivors]
          split
          · obtain ⟨last, same⟩ := ih false
            exact ⟨last, by rw [same]; rfl⟩
          · exact ih _

theorem survivors_finished (log : List Entry)
    (whole : ∀ entry ∈ log, entry.finished = true → entry.whole = true) (none : unfinished log = 0) :
    survivors false log = (log.filter Entry.finished).map Entry.message := by
  induction log with
  | nil => rfl
  | cons entry rest ih =>
      rw [unfinished, List.countP_cons] at none
      have finished : entry.finished = true := by
        cases same : entry.finished with
        | true => rfl
        | false =>
            rw [same] at none
            simp at none
      have later := ih (fun other member => whole other (List.mem_cons_of_mem entry member)) (by rw [unfinished]; omega)
      rw [survivors, if_pos (whole entry List.mem_cons_self finished), later, List.filter_cons_of_pos finished]
      rfl

-- What the peer reads of a connection's sends: whole messages, each at most once and in the order of the calls. A
-- send cut off costs at most one other; where none was, the peer reads what the tap saw go out.
structure Received (acts : List Act) (channel : Channel) (arrived : List Message) : Prop where
  order : List.Sublist arrived (calls acts)
  tapped : List.Sublist channel.tapped (calls acts)
  cost : channel.tapped.length ≤ arrived.length + cuts acts
  uncut : cuts acts = 0 → channel.tapped <+: arrived ∧ (channel.holder = none → arrived = channel.tapped)

-- A message, a text and a short message are sent, and the first has the lock.
def threeSends (message : Message) : List Act := [.call message, .call (0, [104, 105]), .call (4, [7]), .acquire]

-- Its task is cancelled after one frame; the others are sent.
def cutMidway (message : Message) : List Act :=
  threeSends message ++ [.write, .cut, .acquire, .write, .finish, .acquire, .write, .finish]

theorem cut_midway_runs (message : Message) (first : Bytes) (rest : List Bytes)
    (plain : transportBinaryTypes.contains message.1 = false)
    (split : sendPlaintext false message.1 message.2 = first :: rest) :
    turns (Channel.step false) {} (cutMidway message) =
      some ⟨[], none, [first, [0, 104, 105], [4, 7]], [(0, [104, 105]), (4, [7])]⟩ := by
  have opened : turns (Channel.step false) {} (threeSends message) =
      some ⟨[(0, [104, 105]), (4, [7])], some (message, first :: rest), [], []⟩ := by
    rw [threeSends, turns_cons, Channel.step, plain, ← split]
    rfl
  rw [cutMidway, turns_append, opened]
  rfl

theorem long_chunk_frames : frames (4, longChunk) =
    [msgTypeFragment :: fragmentFlagFirst :: 4 :: longChunk.take (maxTransportPlaintext - 3),
      msgTypeFragment :: fragmentFlagLast :: (longChunk.drop (maxTransportPlaintext - 3)).take (maxTransportPlaintext - 2)] := by
  have long : ¬(4 :: longChunk).length ≤ maxTransportPlaintext := by
    rw [List.length_cons, long_chunk_length]
    decide
  have cut : steps (maxTransportPlaintext - 3) longChunk.length (maxTransportPlaintext - 2) = [maxTransportPlaintext - 3] := by
    rw [long_chunk_length]
    decide
  rw [frames, sendPlaintext, if_neg long, if_neg Bool.false_ne_true, fragment_cut, slices, cut, fragment_frames_cons]
  rfl

end Conformance.Noise
