import Mathlib.Data.Nat.Nth
import Mathlib.Data.Finset.Card
import Mathlib.Data.Finset.Image

set_option autoImplicit false

namespace Conformance.Base

-- A log of keyed requests and replies. A reply answers one earlier request of its key;
-- which one, when a key repeats, the log does not say.
inductive Exchange (κ : Type) where
  | request (key : κ)
  | reply (key : κ)
  | mark
deriving DecidableEq

variable {κ : Type}

def Exchange.isRequest : Exchange κ → Bool
  | .request _ => true
  | _ => false

def RequestAt (log : List (Exchange κ)) (key : κ) (place : Nat) : Prop := log[place]? = some (.request key)

def ReplyAt (log : List (Exchange κ)) (key : κ) (place : Nat) : Prop := log[place]? = some (.reply key)

def MarkAt (log : List (Exchange κ)) (place : Nat) : Prop := log[place]? = some .mark

def AnyRequestAt (log : List (Exchange κ)) (place : Nat) : Prop := log[place]?.any Exchange.isRequest = true

instance (log : List (Exchange κ)) : DecidablePred (AnyRequestAt log) :=
  fun _ => inferInstanceAs (Decidable (_ = _))

structure Pairing (log : List (Exchange κ)) (pair : Nat → Nat) : Prop where
  earlier : ∀ key place, ReplyAt log key place → pair place < place ∧ RequestAt log key (pair place)
  injective : ∀ key other first second, ReplyAt log key first → ReplyAt log other second →
    pair first = pair second → first = second

def Paired (log : List (Exchange κ)) (pair : Nat → Nat) (place : Nat) : Prop :=
  ∃ key reply, ReplyAt log key reply ∧ pair reply = place

-- No request left out comes before one answered, and none with a mark after it has a
-- later request.
structure Unblamed (log : List (Exchange κ)) (answered : Nat → Prop) : Prop where
  inOrder : ∀ key place, RequestAt log key place → ¬ answered place → ∀ later, answered later → ¬ place < later
  notPassed : ∀ key place, RequestAt log key place → ¬ answered place →
    ∀ mark, place < mark → MarkAt log mark → ∀ other later, RequestAt log other later → ¬ place < later

theorem request_key (log : List (Exchange κ)) (key other : κ) (place : Nat) (first : RequestAt log key place)
    (second : RequestAt log other place) : key = other := by
  have same : some (Exchange.request key) = some (Exchange.request other) := first.symm.trans second
  simpa using same

theorem reply_key (log : List (Exchange κ)) (key other : κ) (place : Nat) (first : ReplyAt log key place)
    (second : ReplyAt log other place) : key = other := by
  have same : some (Exchange.reply key) = some (Exchange.reply other) := first.symm.trans second
  simpa using same

theorem request_not_reply (log : List (Exchange κ)) (key other : κ) (place : Nat) (request : RequestAt log key place) :
    ¬ ReplyAt log other place := by
  intro reply
  have same : some (Exchange.request key) = some (Exchange.reply other) := request.symm.trans reply
  simp at same

theorem request_any (log : List (Exchange κ)) (key : κ) (place : Nat) (request : RequestAt log key place) :
    AnyRequestAt log place := by
  rw [AnyRequestAt, request]
  rfl

theorem any_request (log : List (Exchange κ)) (place : Nat) (any : AnyRequestAt log place) :
    ∃ key, RequestAt log key place := by
  cases entry : log[place]? with
  | none => simp [AnyRequestAt, entry] at any
  | some found =>
      cases found with
      | request key => exact ⟨key, entry⟩
      | reply key => simp [AnyRequestAt, entry, Exchange.isRequest] at any
      | mark => simp [AnyRequestAt, entry, Exchange.isRequest] at any

theorem reply_in_range (log : List (Exchange κ)) (key : κ) (place : Nat) (reply : ReplyAt log key place) :
    place < log.length := (List.getElem?_eq_some_iff.mp reply).1

theorem unblamed_congr (log : List (Exchange κ)) (answered other : Nat → Prop)
    (same : ∀ place, answered place ↔ other place) (unblamed : Unblamed log answered) : Unblamed log other where
  inOrder := by
    intro key place request left later answeredLater
    exact unblamed.inOrder key place request (fun answer => left ((same place).mp answer)) later
      ((same later).mpr answeredLater)
  notPassed := by
    intro key place request left
    exact unblamed.notPassed key place request fun answer => left ((same place).mp answer)

theorem paired_request (log : List (Exchange κ)) (pair : Nat → Nat) (pairing : Pairing log pair) (place : Nat)
    (paired : Paired log pair place) : ∃ key, RequestAt log key place := by
  obtain ⟨key, reply, isReply, rfl⟩ := paired
  exact ⟨key, (pairing.earlier key reply isReply).2⟩

variable [DecidableEq κ]

instance (log : List (Exchange κ)) (key : κ) : DecidablePred (RequestAt log key) :=
  fun _ => inferInstanceAs (Decidable (_ = _))

instance (log : List (Exchange κ)) (key : κ) : DecidablePred (ReplyAt log key) :=
  fun _ => inferInstanceAs (Decidable (_ = _))

def requests (log : List (Exchange κ)) (key : κ) (place : Nat) : Nat := Nat.count (RequestAt log key) place

def replies (log : List (Exchange κ)) (key : κ) (place : Nat) : Nat := Nat.count (ReplyAt log key) place

-- Requests answered in the order of each key, the first by the first.
def Served (log : List (Exchange κ)) (upTo place : Nat) : Prop :=
  ∃ key, RequestAt log key place ∧ requests log key place < replies log key upTo

def AnswerableTo (log : List (Exchange κ)) (upTo : Nat) : Prop :=
  ∀ key place, place < upTo → ReplyAt log key place → replies log key place < requests log key place

noncomputable def firstMatch (log : List (Exchange κ)) (place : Nat) : Nat :=
  match log[place]? with
  | some (.reply key) => Nat.nth (RequestAt log key) (replies log key place)
  | _ => 0

-- The replies of a key before a place, as the requests a pairing gives them.
theorem paired_card (log : List (Exchange κ)) (pair : Nat → Nat) (pairing : Pairing log pair) (key : κ) (upTo : Nat) :
    (((Finset.range upTo).filter (ReplyAt log key)).image pair).card = replies log key upTo := by
  rw [Finset.card_image_of_injOn, replies, Nat.count_eq_card_filter_range]
  intro first firstIn second secondIn same
  have firstReply : ReplyAt log key first := (Finset.mem_filter.mp firstIn).2
  have secondReply : ReplyAt log key second := (Finset.mem_filter.mp secondIn).2
  exact pairing.injective key key first second firstReply secondReply same

theorem pairing_answerable (log : List (Exchange κ)) (pair : Nat → Nat) (pairing : Pairing log pair) :
    AnswerableTo log log.length := by
  intro key place _ reply
  have inside : ((Finset.range (place + 1)).filter (ReplyAt log key)).image pair ⊆
      (Finset.range place).filter (RequestAt log key) := by
    intro request member
    obtain ⟨answer, answerIn, rfl⟩ := Finset.mem_image.mp member
    obtain ⟨bound, isReply⟩ := Finset.mem_filter.mp answerIn
    obtain ⟨before, isRequest⟩ := pairing.earlier key answer isReply
    have answerBound : answer < place + 1 := Finset.mem_range.mp bound
    exact Finset.mem_filter.mpr ⟨Finset.mem_range.mpr (by omega), isRequest⟩
  have counted := Finset.card_le_card inside
  rw [paired_card log pair pairing, ← Nat.count_eq_card_filter_range, replies, Nat.count_succ, if_pos reply] at counted
  exact counted

theorem replies_le_requests (log : List (Exchange κ)) (upTo : Nat) (answerable : AnswerableTo log upTo) (key : κ) :
    replies log key upTo ≤ requests log key upTo := by
  induction upTo with
  | zero => simp [replies]
  | succ last ih =>
      have before : replies log key last ≤ requests log key last :=
        ih fun other place bound => answerable other place (by omega)
      have grown : requests log key last ≤ requests log key (last + 1) := Nat.count_monotone _ (Nat.le_succ last)
      by_cases reply : ReplyAt log key last
      · have spare := answerable key last (by omega) reply
        rw [replies, Nat.count_succ, if_pos reply]
        exact spare.trans_le grown
      · rw [replies, Nat.count_succ, if_neg reply]
        exact before.trans grown

-- A pairing that leaves no request out before one it answers answers each key in order:
-- the places it uses are the served ones.
theorem in_order_paired (log : List (Exchange κ)) (pair : Nat → Nat) (pairing : Pairing log pair)
    (inOrder : ∀ key place, RequestAt log key place → ¬ Paired log pair place →
      ∀ later, Paired log pair later → ¬ place < later)
    (key : κ) (place : Nat) (request : RequestAt log key place) :
    Paired log pair place ↔ Served log log.length place := by
  have counted := paired_card log pair pairing key log.length
  have usedPaired : ∀ used, used ∈ ((Finset.range log.length).filter (ReplyAt log key)).image pair →
      Paired log pair used ∧ RequestAt log key used := by
    intro used member
    obtain ⟨reply, replyIn, rfl⟩ := Finset.mem_image.mp member
    have isReply : ReplyAt log key reply := (Finset.mem_filter.mp replyIn).2
    exact ⟨⟨key, reply, isReply, rfl⟩, (pairing.earlier key reply isReply).2⟩
  constructor
  · intro paired
    have inside : (Finset.range (place + 1)).filter (RequestAt log key) ⊆
        ((Finset.range log.length).filter (ReplyAt log key)).image pair := by
      intro earlier member
      obtain ⟨bound, isRequest⟩ := Finset.mem_filter.mp member
      have earlierPaired : Paired log pair earlier := by
        by_contra left
        have notBefore := inOrder key earlier isRequest left place paired
        have same : earlier = place := by
          have atMost : earlier < place + 1 := Finset.mem_range.mp bound
          omega
        exact left (same ▸ paired)
      obtain ⟨other, reply, isReply, rfl⟩ := earlierPaired
      have sameKey : other = key := request_key log other key _ (pairing.earlier other reply isReply).2 isRequest
      subst sameKey
      exact Finset.mem_image.mpr
        ⟨reply, Finset.mem_filter.mpr ⟨Finset.mem_range.mpr (reply_in_range log other reply isReply), isReply⟩, rfl⟩
    have fits := Finset.card_le_card inside
    rw [counted, ← Nat.count_eq_card_filter_range, Nat.count_succ, if_pos request] at fits
    exact ⟨key, request, fits⟩
  · rintro ⟨other, otherRequest, served⟩
    have sameKey : other = key := request_key log other key place otherRequest request
    subst sameKey
    by_contra left
    have inside : ((Finset.range log.length).filter (ReplyAt log other)).image pair ⊆
        (Finset.range place).filter (RequestAt log other) := by
      intro used member
      obtain ⟨paired, isRequest⟩ := usedPaired used member
      have notAfter := inOrder other place request left used paired
      have different : used ≠ place := fun same => left (same ▸ paired)
      exact Finset.mem_filter.mpr ⟨Finset.mem_range.mpr (by omega), isRequest⟩
    have fits := Finset.card_le_card inside
    rw [counted, ← Nat.count_eq_card_filter_range] at fits
    exact absurd served (Nat.not_lt.mpr fits)

theorem nth_request (log : List (Exchange κ)) (key : κ) (index upTo : Nat) (below : index < requests log key upTo) :
    Nat.nth (RequestAt log key) index < upTo ∧ RequestAt log key (Nat.nth (RequestAt log key) index) ∧
      requests log key (Nat.nth (RequestAt log key) index) = index := by
  have bounded : ∀ finite : (Set.ofPred (RequestAt log key)).Finite, index < finite.toFinset.card :=
    fun finite => lt_of_lt_of_le below (Nat.count_le_card finite upTo)
  exact ⟨Nat.nth_lt_of_lt_count below, Nat.nth_mem index bounded, Nat.count_nth bounded⟩

theorem first_match_reply (log : List (Exchange κ)) (key : κ) (place : Nat) (reply : ReplyAt log key place) :
    firstMatch log place = Nat.nth (RequestAt log key) (replies log key place) := by
  rw [firstMatch, reply]

theorem first_match_pairing (log : List (Exchange κ)) (answerable : AnswerableTo log log.length) :
    Pairing log (firstMatch log) where
  earlier := by
    intro key place reply
    have spare := answerable key place (reply_in_range log key place reply) reply
    obtain ⟨before, isRequest, _⟩ := nth_request log key _ place spare
    rw [first_match_reply log key place reply]
    exact ⟨before, isRequest⟩
  injective := by
    intro key other first second firstReply secondReply same
    have firstSpare := answerable key first (reply_in_range log key first firstReply) firstReply
    have secondSpare := answerable other second (reply_in_range log other second secondReply) secondReply
    obtain ⟨_, firstRequest, firstRank⟩ := nth_request log key _ first firstSpare
    obtain ⟨_, secondRequest, secondRank⟩ := nth_request log other _ second secondSpare
    rw [first_match_reply log key first firstReply, first_match_reply log other second secondReply] at same
    rw [← same] at secondRequest secondRank
    have sameKey : key = other := request_key log key other _ firstRequest secondRequest
    subst sameKey
    exact Nat.count_injective firstReply secondReply (firstRank.symm.trans secondRank)

theorem first_match_served (log : List (Exchange κ)) (answerable : AnswerableTo log log.length) (place : Nat) :
    Paired log (firstMatch log) place ↔ Served log log.length place := by
  constructor
  · rintro ⟨key, reply, isReply, rfl⟩
    have inside := reply_in_range log key reply isReply
    obtain ⟨_, isRequest, rank⟩ := nth_request log key _ reply (answerable key reply inside isReply)
    rw [first_match_reply log key reply isReply]
    refine ⟨key, isRequest, ?_⟩
    rw [rank]
    exact Nat.count_strict_mono isReply inside
  · rintro ⟨key, isRequest, served⟩
    have bounded : ∀ finite : (Set.ofPred (ReplyAt log key)).Finite, requests log key place < finite.toFinset.card :=
      fun finite => lt_of_lt_of_le served (Nat.count_le_card finite log.length)
    have isReply : ReplyAt log key (Nat.nth (ReplyAt log key) (requests log key place)) := Nat.nth_mem _ bounded
    have rank : replies log key (Nat.nth (ReplyAt log key) (requests log key place)) = requests log key place :=
      Nat.count_nth bounded
    refine ⟨key, _, isReply, ?_⟩
    rw [first_match_reply log key _ isReply, rank]
    exact Nat.nth_count isRequest

-- Answering each key first come, first served leaves nothing to blame whenever some
-- pairing of the same replies does.
theorem unblamed_pairing_iff (log : List (Exchange κ)) :
    (∃ pair, Pairing log pair ∧ Unblamed log (Paired log pair)) ↔
      AnswerableTo log log.length ∧ Unblamed log (Served log log.length) := by
  constructor
  · rintro ⟨pair, pairing, unblamed⟩
    refine ⟨pairing_answerable log pair pairing, unblamed_congr log _ _ ?_ unblamed⟩
    intro place
    constructor
    · intro paired
      obtain ⟨key, request⟩ := paired_request log pair pairing place paired
      exact (in_order_paired log pair pairing unblamed.inOrder key place request).mp paired
    · intro served
      obtain ⟨key, request, _⟩ := id served
      exact (in_order_paired log pair pairing unblamed.inOrder key place request).mpr served
  · rintro ⟨answerable, unblamed⟩
    refine ⟨firstMatch log, first_match_pairing log answerable, unblamed_congr log _ _ ?_ unblamed⟩
    intro place
    exact (first_match_served log answerable place).symm

end Conformance.Base
