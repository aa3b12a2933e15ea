import Mathlib.Data.List.Basic
import SendspinConformance.Adapters.SelectLoops

set_option autoImplicit false

namespace Conformance.Adapters

open Python Audio

abbrev Update := FloatPcmHasher → Bytes → Except String FloatPcmHasher

-- The loop ended with every chunk counted and hashed, in order.
def AllReported (update : Update) (chunks : List Bytes) (outcome : Option (Except String AudioReport)) : Prop :=
  ∃ received, chunks.foldlM update {} = .ok received ∧
    outcome = some (.ok (Tally.report ⟨received, chunks.flatten, chunks.length⟩))

-- The tally of the chunks served so far.
def Tallied (update : Update) (served : List Bytes) (tally : Tally) : Prop :=
  served.foldlM update {} = .ok tally.received ∧ tally.encoded = served.flatten ∧
    tally.audioChunkCount = served.length

def Supports (update : Update) (chunks : List Bytes) : Prop :=
  ∀ hasher, ∀ chunk ∈ chunks, ∃ received, update hasher chunk = .ok received

section

variable (update : Update)

theorem tallied_none : Tallied update [] {} := ⟨rfl, rfl, rfl⟩

theorem tallied_add (served : List Bytes) (tally : Tally) (chunk : Bytes) (received : FloatPcmHasher)
    (tallied : Tallied update served tally) (updated : update tally.received chunk = .ok received) :
    Tallied update (served ++ [chunk]) (tally.add chunk received) := by
  obtain ⟨hashed, encoded, counted⟩ := tallied
  refine ⟨?_, ?_, ?_⟩
  · rw [List.foldlM_append, hashed]
    simp only [List.foldlM_cons, List.foldlM_nil, bind, Except.bind, updated, pure, Except.pure, Tally.add]
  · rw [Tally.add, encoded, List.flatten_append, List.flatten_singleton]
  · rw [Tally.add, counted, List.length_append, List.length_singleton]

-- The loop is left with no more chunks counted than served.
theorem left_judged (chunks served rest : List Bytes) (tally : Tally) (reason : String)
    (split : served ++ rest = chunks) (tallied : Tallied update served tally) :
    AllReported update chunks
        (some (if tally.audioChunkCount = 0 then .error reason else .ok tally.report)) ↔
      chunks ≠ [] ∧ rest = [] := by
  obtain ⟨hashed, encoded, counted⟩ := tallied
  by_cases none : tally.audioChunkCount = 0
  · have empty : served = [] := List.length_eq_zero_iff.mp (counted.symm.trans none)
    rw [if_pos none]
    apply Iff.intro
    · intro ⟨_, _, same⟩
      cases same
    · intro ⟨chunked, drained⟩
      exact absurd (by rw [← split, empty, drained, List.append_nil]) chunked
  · rw [if_neg none]
    apply Iff.intro
    · intro ⟨received, _, same⟩
      have counts : tally.audioChunkCount = chunks.length := by
        injection same with same
        injection same with same
        exact congrArg AudioReport.audioChunkCount same
      have lengths := congrArg List.length split
      rw [List.length_append] at lengths
      refine ⟨?_, List.length_eq_zero_iff.mp (by omega)⟩
      intro empty
      rw [empty, List.length_nil] at counts
      exact none counts
    · intro ⟨_, drained⟩
      rw [drained, List.append_nil] at split
      refine ⟨tally.received, by rw [← split, hashed], ?_⟩
      rw [← split, ← encoded, ← counted]

-- A first chunk that cannot be hashed is in no report.
theorem refused_unreported (chunk : Bytes) (rest : List Bytes) (reported : Option (Except String AudioReport))
    (refused : ∃ reason, update {} chunk = .error reason) : ¬ AllReported update (chunk :: rest) reported := by
  intro ⟨received, hashed, _⟩
  obtain ⟨reason, failed⟩ := refused
  rw [List.foldlM_cons, failed] at hashed
  cases hashed

-- Where no chunk can be hashed at a depth, or there is no chunk, no chunks are reported.
theorem depth_judged (depths ordered : Prop) (chunks : List Bytes) (reported : Option (Except String AudioReport))
    (supports : depths → Supports update chunks)
    (refuses : ¬ depths → ∀ chunk, ∃ reason, update {} chunk = .error reason)
    (judged : Supports update chunks → (AllReported update chunks reported ↔ chunks ≠ [] ∧ ordered)) :
    AllReported update chunks reported ↔ (chunks ≠ [] ∧ depths) ∧ ordered := by
  by_cases depth : depths
  · simp only [depth, and_true]
    exact judged (supports depth)
  · cases chunks with
    | nil =>
        have run := judged fun _ _ member => absurd member List.not_mem_nil
        simp only [ne_eq, not_true_eq_false, false_and] at run ⊢
        exact run
    | cons chunk rest =>
        have unreported := refused_unreported update chunk rest reported (refuses depth chunk)
        simp only [unreported, depth, and_false, false_and]

theorem failed_unreported (chunks : List Bytes) (reason : String) :
    ¬ AllReported update chunks (some (.error reason)) := by
  intro ⟨_, _, same⟩
  cases same

theorem running_unreported (chunks : List Bytes) : ¬ AllReported update chunks none := by
  intro ⟨_, _, same⟩
  cases same

end

section

variable {σ arm : Type} (serve : σ → arm → Except String (Option σ)) (summary : σ → Except String AudioReport)

-- What a loop reports, begun in a state.
def outcome (order : List arm) (state : σ) : Option (Except String AudioReport) :=
  (selectLoop serve order state).map fun ended => ended.bind summary

theorem outcome_left (first : arm) (rest : List arm) (state : σ) (served : serve state first = .ok none) :
    outcome serve summary (first :: rest) state = some (summary state) := by
  rw [outcome, selectLoop, served]
  rfl

theorem outcome_next (first : arm) (rest : List arm) (state next : σ) (served : serve state first = .ok (some next)) :
    outcome serve summary (first :: rest) state = outcome serve summary rest next := by
  rw [outcome, selectLoop, served, outcome]

theorem outcome_failed (first : arm) (rest : List arm) (state : σ) (reason : String)
    (served : serve state first = .error reason) :
    outcome serve summary (first :: rest) state = some (.error reason) := by
  rw [outcome, selectLoop, served]
  rfl

end

namespace Rust

def hashing (bitDepth : Nat) : Update := fun hasher chunk => Audio.Rust.updateFromPcmBytes hasher chunk bitDepth

-- The loop's state once `served` of the chunks have been received.
structure Tracks (player : StreamPlayer) (chunks served : List Bytes) (state : LoopState) : Prop where
  split : served ++ state.audioReady = chunks
  before : state.startReady = true → state.currentStream = none ∧ state.pendingAudio = served ∧ state.tally = {}
  after : state.startReady = false → state.currentStream = some player ∧ state.pendingAudio = [] ∧
    Tallied (hashing player.bitDepth) served state.tally

-- Every item served before an end: the order starts with that many of each channel's
-- items, in any order, and goes on.
def ItemsFirst (starts items : Nat) (order : List Channel) : Prop :=
  ∃ served last rest, order = served ++ last :: rest ∧ served.count .messages = starts ∧ served.count .audio = items

theorem items_first_nil (starts items : Nat) : ¬ ItemsFirst starts items [] := by
  intro ⟨served, last, rest, same, _⟩
  have lengths := congrArg List.length same
  simp at lengths

theorem items_first_cons (starts items : Nat) (first : Channel) (rest : List Channel) :
    ItemsFirst starts items (first :: rest) ↔
      (starts = 0 ∧ items = 0) ∨
      (first = .messages ∧ ∃ fewer, starts = fewer + 1 ∧ ItemsFirst fewer items rest) ∨
      (first = .audio ∧ ∃ fewer, items = fewer + 1 ∧ ItemsFirst starts fewer rest) := by
  apply Iff.intro
  · intro ⟨served, last, later, same, messages, audio⟩
    cases served with
    | nil => exact Or.inl ⟨messages.symm, audio.symm⟩
    | cons head tail =>
        rw [List.cons_append, List.cons.injEq] at same
        obtain ⟨rfl, rfl⟩ := same
        cases first with
        | messages =>
            rw [List.count_cons_self] at messages
            rw [List.count_cons_of_ne (by decide)] at audio
            exact Or.inr (Or.inl ⟨rfl, _, messages.symm, tail, last, later, rfl, rfl, audio⟩)
        | audio =>
            rw [List.count_cons_self] at audio
            rw [List.count_cons_of_ne (by decide)] at messages
            exact Or.inr (Or.inr ⟨rfl, _, audio.symm, tail, last, later, rfl, messages, rfl⟩)
  · intro cases
    obtain ⟨rfl, rfl⟩ | ⟨rfl, fewer, rfl, served, last, later, rfl, messages, audio⟩ |
      ⟨rfl, fewer, rfl, served, last, later, rfl, messages, audio⟩ := cases
    · exact ⟨[], first, rest, rfl, rfl, rfl⟩
    · exact ⟨.messages :: served, last, later, rfl, by rw [List.count_cons_self, messages],
        by rw [List.count_cons_of_ne (by decide), audio]⟩
    · exact ⟨.audio :: served, last, later, rfl, by rw [List.count_cons_of_ne (by decide), messages],
        by rw [List.count_cons_self, audio]⟩

-- The chunks held back are hashed once the stream is known.
theorem flushed (player : StreamPlayer) (served pending : List Bytes) (tally : Tally)
    (supported : Supports (hashing player.bitDepth) pending) (tallied : Tallied (hashing player.bitDepth) served tally) :
    ∃ flushed, pending.foldlM (hashChunk player) tally = .ok flushed ∧
      Tallied (hashing player.bitDepth) (served ++ pending) flushed := by
  induction pending generalizing served tally with
  | nil => exact ⟨tally, rfl, by rwa [List.append_nil]⟩
  | cons chunk rest ih =>
      obtain ⟨received, updated⟩ := supported tally.received chunk List.mem_cons_self
      have step : hashChunk player tally chunk = .ok (tally.add chunk received) := by
        rw [hashChunk]
        exact congrArg _ updated
      obtain ⟨flushed, ran, last⟩ := ih (served ++ [chunk]) (tally.add chunk received)
        (fun hasher other member => supported hasher other (List.mem_cons_of_mem chunk member))
        (tallied_add _ served tally chunk received tallied updated)
      refine ⟨flushed, ?_, by rwa [List.append_assoc] at last⟩
      rw [List.foldlM_cons, step]
      exact ran

-- The loop is left on either channel's end.
theorem left_rust (player : StreamPlayer) (chunks served : List Bytes) (state : LoopState)
    (tracks : Tracks player chunks served state) :
    AllReported (hashing player.bitDepth) chunks (some (summary state)) ↔
      chunks ≠ [] ∧ state.startReady = false ∧ state.audioReady = [] := by
  by_cases ready : state.startReady = true
  · obtain ⟨_, _, unhashed⟩ := tracks.before ready
    rw [summary, unhashed, ready]
    simp only [Bool.true_eq_false, false_and, and_false, iff_false]
    exact failed_unreported _ chunks _
  · have waiting : state.startReady = false := by simpa using ready
    obtain ⟨_, _, tallied⟩ := tracks.after waiting
    rw [summary, left_judged _ chunks served state.audioReady state.tally _ tracks.split tallied]
    simp only [waiting, true_and]

section

variable (player : StreamPlayer) (chunks served : List Bytes) (state : LoopState) (pcm : player.codec = "pcm")
  (supported : Supports (hashing player.bitDepth) chunks) (tracks : Tracks player chunks served state)

include pcm supported tracks

theorem serve_start (ready : state.startReady = true) :
    ∃ next, serve player state .messages = .ok (some next) ∧ Tracks player chunks served next ∧
      next.startReady = false ∧ next.audioReady = state.audioReady := by
  have isPcm : (player.codec != "pcm") = false := by rw [pcm]; rfl
  obtain ⟨_, pending, unhashed⟩ := tracks.before ready
  obtain ⟨tally, ran, tallied⟩ := flushed player [] served {}
    (fun hasher chunk member => supported hasher chunk (tracks.split ▸ List.mem_append_left _ member)) (tallied_none _)
  refine ⟨{ state with startReady := false, currentStream := some player, pendingAudio := [], tally := tally },
    ?_, ⟨tracks.split, fun again => absurd again Bool.false_ne_true, fun _ => ⟨rfl, rfl, tallied⟩⟩, rfl, rfl⟩
  rw [serve, if_pos ready, isPcm, if_neg Bool.false_ne_true, pending, unhashed, ran]
  rfl

theorem serve_chunk (chunk : Bytes) (rest : List Bytes) (ready : state.audioReady = chunk :: rest) :
    ∃ next, serve player state .audio = .ok (some next) ∧ Tracks player chunks (served ++ [chunk]) next ∧
      next.startReady = state.startReady ∧ next.audioReady = rest := by
  have isPcm : (player.codec != "pcm") = false := by rw [pcm]; rfl
  have split : served ++ [chunk] ++ rest = chunks := by rw [List.append_assoc, ← tracks.split, ready]; rfl
  by_cases waiting : state.startReady = true
  · obtain ⟨unknown, pending, unhashed⟩ := tracks.before waiting
    refine ⟨{ state with audioReady := rest, pendingAudio := state.pendingAudio ++ [chunk] }, ?_,
      ⟨split, fun _ => ⟨unknown, by rw [pending], unhashed⟩, fun begun => absurd (waiting.symm.trans begun) (by decide)⟩,
      rfl, rfl⟩
    rw [serve, ready, unknown]
  · have begun : state.startReady = false := by simpa using waiting
    obtain ⟨known, flushed, tallied⟩ := tracks.after begun
    obtain ⟨received, updated⟩ := supported state.tally.received chunk
      (by rw [← split]; exact List.mem_append_left _ (List.mem_append_right _ List.mem_cons_self))
    have hashed : hashChunk player state.tally chunk = .ok (state.tally.add chunk received) := by
      rw [hashChunk]
      exact congrArg _ updated
    refine ⟨{ state with audioReady := rest, tally := state.tally.add chunk received }, ?_,
      ⟨split, fun again => absurd again waiting,
        fun _ => ⟨known, flushed, tallied_add _ served state.tally chunk received tallied updated⟩⟩, rfl, rfl⟩
    rw [serve, ready, known]
    simp only [isPcm, Bool.false_eq_true, if_false, hashed]
    rfl

end

theorem loop_judged (player : StreamPlayer) (chunks served : List Bytes) (order : List Channel) (state : LoopState)
    (pcm : player.codec = "pcm") (supported : Supports (hashing player.bitDepth) chunks)
    (tracks : Tracks player chunks served state) :
    AllReported (hashing player.bitDepth) chunks (outcome (serve player) summary order state) ↔
      chunks ≠ [] ∧ ItemsFirst state.startReady.toNat state.audioReady.length order := by
  induction order generalizing served state with
  | nil =>
      have running : ¬ AllReported (hashing player.bitDepth) chunks (outcome (serve player) summary [] state) :=
        running_unreported _ chunks
      simp only [running, items_first_nil, and_false]
  | cons first rest ih =>
      rw [items_first_cons]
      cases first with
      | messages =>
          by_cases ready : state.startReady = true
          · obtain ⟨next, step, later, begun, left⟩ := serve_start player chunks served state pcm supported tracks ready
            rw [outcome_next _ _ _ _ _ _ step, ih served next later, begun, left, ready]
            simp
          · have begun : state.startReady = false := by simpa using ready
            have step : serve player state .messages = .ok none := by rw [serve, if_neg ready]
            rw [outcome_left _ _ _ _ _ step, left_rust player chunks served state tracks, begun]
            simp
      | audio =>
          cases ready : state.audioReady with
          | nil =>
              have step : serve player state .audio = .ok none := by rw [serve, ready]
              rw [outcome_left _ _ _ _ _ step, left_rust player chunks served state tracks, ready]
              simp
          | cons chunk others =>
              obtain ⟨next, step, later, same, left⟩ :=
                serve_chunk player chunks served state pcm supported tracks chunk others ready
              rw [outcome_next _ _ _ _ _ _ step, ih (served ++ [chunk]) next later, same, left]
              simp

theorem supports_depth (bitDepth : Nat) (depth : bitDepth ∈ [16, 24, 32]) (chunks : List Bytes) :
    Supports (hashing bitDepth) chunks := by
  intro hasher chunk _
  simp only [List.mem_cons, List.not_mem_nil, or_false] at depth
  obtain rfl | rfl | rfl := depth
  · exact ⟨_, rfl⟩
  · exact ⟨_, rfl⟩
  · exact ⟨_, rfl⟩

theorem refuses_depth (bitDepth : Nat) (depth : bitDepth ∉ [16, 24, 32]) (hasher : FloatPcmHasher) (chunk : Bytes) :
    ∃ reason, hashing bitDepth hasher chunk = .error reason := by
  simp only [List.mem_cons, List.not_mem_nil, or_false, not_or] at depth
  obtain ⟨not16, not24, not32⟩ := depth
  rw [hashing, Audio.Rust.updateFromPcmBytes, if_neg not16, if_neg not24, if_neg not32]
  exact ⟨_, rfl⟩

-- Rust loses what is still buffered when it is served either channel's end.
theorem run_judged (bitDepth : Nat) (chunks : List Bytes) (order : List Channel) :
    AllReported (hashing bitDepth) chunks (runOutboundProtocolClient ⟨"pcm", bitDepth⟩ chunks order) ↔
      (chunks ≠ [] ∧ bitDepth ∈ [16, 24, 32]) ∧ ItemsFirst 1 chunks.length order := by
  have start : Tracks ⟨"pcm", bitDepth⟩ chunks [] ⟨true, chunks, none, [], {}⟩ :=
    ⟨rfl, fun _ => ⟨rfl, rfl, rfl⟩, fun begun => absurd begun.symm Bool.false_ne_true⟩
  refine depth_judged _ _ _ chunks _ (fun depth => supports_depth bitDepth depth chunks)
    (fun other chunk => refuses_depth bitDepth other {} chunk) fun supported => ?_
  exact loop_judged ⟨"pcm", bitDepth⟩ chunks [] order _ rfl supported start

end Rust

namespace Go

def hashing (bitDepth : Nat) : Update := fun hasher chunk => Audio.Go.updateFromPCMBytes hasher chunk bitDepth

theorem supports_depth (bitDepth : Nat) (depth : bitDepth ∈ [16, 24, 32]) (chunks : List Bytes) :
    Supports (hashing bitDepth) chunks := by
  intro hasher chunk _
  simp only [List.mem_cons, List.not_mem_nil, or_false] at depth
  obtain rfl | rfl | rfl := depth
  · exact ⟨_, rfl⟩
  · exact ⟨_, rfl⟩
  · exact ⟨_, rfl⟩

theorem refuses_depth (bitDepth : Nat) (depth : bitDepth ∉ [16, 24, 32]) (hasher : FloatPcmHasher) (chunk : Bytes) :
    ∃ reason, hashing bitDepth hasher chunk = .error reason := by
  simp only [List.mem_cons, List.not_mem_nil, or_false, not_or] at depth
  obtain ⟨not16, not24, not32⟩ := depth
  rw [hashing, Audio.Go.updateFromPCMBytes, if_neg not16, if_neg not24, if_neg not32]
  exact ⟨_, rfl⟩

section

variable [UnicodeData]

theorem hash_chunk_pcm (player : StreamPlayer) (tally : Tally) (chunk : Bytes) (pcm : player.codec = "pcm") :
    hashChunk (some player) tally chunk = (hashing player.bitDepth tally.received chunk).map (tally.add chunk) := by
  have isPcm : equalFold "pcm" "pcm" = true := beq_self_eq_true _
  simp only [hashChunk, pcm, isPcm, if_true]
  rfl

-- The loop's state once `served` of the chunks have been received.
structure Tracks (player : StreamPlayer) (chunks served : List Bytes) (state : LoopState) : Prop where
  split : served ++ state.audioReady = chunks
  before : state.startReady = true → state.currentPlayer = none ∧ served = []
  tallied : Tallied (hashing player.bitDepth) served state.tally

omit [UnicodeData] in
theorem left_go (player : StreamPlayer) (chunks served : List Bytes) (state : LoopState)
    (tracks : Tracks player chunks served state) :
    AllReported (hashing player.bitDepth) chunks (some (summary state)) ↔ chunks ≠ [] ∧ state.audioReady = [] := by
  rw [summary, left_judged _ chunks served state.audioReady state.tally _ tracks.split tracks.tallied]

-- A chunk served while the player is known.
theorem chunk_served (player : StreamPlayer) (chunks served : List Bytes) (state : LoopState) (chunk : Bytes)
    (rest : List Bytes) (pcm : player.codec = "pcm") (supported : Supports (hashing player.bitDepth) chunks)
    (tracks : Tracks player chunks served state) (begun : state.startReady = false)
    (known : state.currentPlayer = some player) (ready : state.audioReady = chunk :: rest) :
    ∃ tally, hashChunk state.currentPlayer state.tally chunk = .ok tally ∧
      Tracks player chunks (served ++ [chunk]) { state with audioReady := rest, tally := tally } := by
  have split : served ++ [chunk] ++ rest = chunks := by rw [List.append_assoc, ← tracks.split, ready]; rfl
  obtain ⟨received, updated⟩ := supported state.tally.received chunk
    (by rw [← split]; exact List.mem_append_left _ (List.mem_append_right _ List.mem_cons_self))
  refine ⟨state.tally.add chunk received, ?_, split, fun again => absurd (begun.symm.trans again) (by decide),
    tallied_add _ served state.tally chunk received tracks.tallied updated⟩
  rw [known, hash_chunk_pcm player _ _ pcm, updated]
  rfl

-- The starts, then the chunks, then an order that ends as told.
def InOrder (ends : List Arm → Prop) (starts items : Nat) (order : List Arm) : Prop :=
  ∃ last, order = List.replicate starts .streamStart ++ List.replicate items .audioChunks ++ last ∧ ends last

omit [UnicodeData] in
theorem in_order_nil (ends : List Arm → Prop) (starts items : Nat) (endless : ¬ ends []) :
    ¬ InOrder ends starts items [] := by
  intro ⟨last, same, ended⟩
  have empty : last = [] := by simpa using (List.append_eq_nil_iff.mp same.symm).2
  exact endless (empty ▸ ended)

omit [UnicodeData] in
theorem in_order_cons (ends : List Arm → Prop) (starts items : Nat) (first : Arm) (rest : List Arm) :
    InOrder ends starts items (first :: rest) ↔
      (starts = 0 ∧ items = 0 ∧ ends (first :: rest)) ∨
      (first = .streamStart ∧ ∃ fewer, starts = fewer + 1 ∧ InOrder ends fewer items rest) ∨
      (first = .audioChunks ∧ starts = 0 ∧ ∃ fewer, items = fewer + 1 ∧ InOrder ends 0 fewer rest) := by
  cases starts with
  | succ fewer =>
      simp only [InOrder, List.replicate_succ, List.cons_append, List.cons.injEq]
      apply Iff.intro
      · intro ⟨last, ⟨isStart, same⟩, ended⟩
        exact Or.inr (Or.inl ⟨isStart, fewer, rfl, last, same, ended⟩)
      · intro cases
        obtain ⟨none, _⟩ | ⟨isStart, _, counted, last, same, ended⟩ | ⟨_, none, _⟩ := cases
        · cases none
        · cases counted
          exact ⟨last, ⟨isStart, same⟩, ended⟩
        · cases none
  | zero =>
      cases items with
      | succ fewer =>
          simp only [InOrder, List.replicate_zero, List.nil_append, List.replicate_succ, List.cons_append,
            List.cons.injEq]
          apply Iff.intro
          · intro ⟨last, ⟨isChunk, same⟩, ended⟩
            exact Or.inr (Or.inr ⟨isChunk, trivial, fewer, rfl, last, same, ended⟩)
          · intro cases
            obtain ⟨_, none, _⟩ | ⟨_, _, none, _⟩ | ⟨isChunk, _, _, counted, last, same, ended⟩ := cases
            · cases none
            · cases none
            · cases counted
              exact ⟨last, ⟨isChunk, same⟩, ended⟩
      | zero =>
          simp [InOrder]

theorem connected_judged (player : StreamPlayer) (chunks served : List Bytes) (order : List Arm) (state : LoopState)
    (pcm : player.codec = "pcm") (supported : Supports (hashing player.bitDepth) chunks)
    (tracks : Tracks player chunks served state)
    (known : state.startReady = false → state.currentPlayer = some player) :
    AllReported (hashing player.bitDepth) chunks (outcome (serveConnected player) summary order state) ↔
      chunks ≠ [] ∧ InOrder (· ≠ []) state.startReady.toNat state.audioReady.length order := by
  induction order generalizing served state with
  | nil =>
      have running : ¬ AllReported (hashing player.bitDepth) chunks (outcome (serveConnected player) summary [] state) :=
        running_unreported _ chunks
      simp only [running, in_order_nil (· ≠ []) _ _ (not_not.mpr rfl), and_false]
  | cons first rest ih =>
      rw [in_order_cons]
      by_cases ready : state.startReady = true
      · obtain ⟨unknown, unserved⟩ := tracks.before ready
        cases first with
        | streamStart =>
            have step : serveConnected player state .streamStart =
                .ok (some { state with startReady := false, currentPlayer := some player }) := by
              rw [serveConnected, if_pos ready]
            have later : Tracks player chunks served { state with startReady := false, currentPlayer := some player } :=
              ⟨tracks.split, fun again => absurd again Bool.false_ne_true, tracks.tallied⟩
            rw [outcome_next _ _ _ _ _ _ step, ih served _ later fun _ => rfl, ready]
            simp
        | audioChunks =>
            cases buffered : state.audioReady with
            | nil =>
                have step : serveConnected player state .audioChunks = .ok none := by rw [serveConnected, buffered]
                have empty : chunks = [] := by rw [← tracks.split, unserved, buffered, List.append_nil]
                rw [outcome_left _ _ _ _ _ step, left_go player chunks served state tracks, empty]
                simp
            | cons chunk others =>
                have step : serveConnected player state .audioChunks =
                    .error "received audio before stream/start" := by
                  simp only [serveConnected, buffered, unknown, hashChunk]
                  rfl
                have failed := failed_unreported (hashing player.bitDepth) chunks "received audio before stream/start"
                rw [outcome_failed _ _ _ _ _ _ step, ready]
                simp [failed]
        | done =>
            have unfinished : chunks ≠ [] → state.audioReady ≠ [] := by
              intro chunked drained
              exact chunked (by rw [← tracks.split, unserved, drained, List.append_nil])
            rw [outcome_left _ _ _ _ _ rfl, left_go player chunks served state tracks, ready]
            simpa using unfinished
      · have begun : state.startReady = false := by simpa using ready
        rw [begun]
        cases first with
        | streamStart =>
            have step : serveConnected player state .streamStart = .ok none := by rw [serveConnected, if_neg ready]
            rw [outcome_left _ _ _ _ _ step, left_go player chunks served state tracks]
            simp
        | audioChunks =>
            cases buffered : state.audioReady with
            | nil =>
                have step : serveConnected player state .audioChunks = .ok none := by rw [serveConnected, buffered]
                rw [outcome_left _ _ _ _ _ step, left_go player chunks served state tracks, buffered]
                simp
            | cons chunk others =>
                obtain ⟨tally, hashed, later⟩ := chunk_served player chunks served state chunk others pcm supported
                  tracks begun (known begun) buffered
                have step : serveConnected player state .audioChunks =
                    .ok (some { state with audioReady := others, tally := tally }) := by
                  simp only [serveConnected, buffered, hashed]
                  rfl
                rw [outcome_next _ _ _ _ _ _ step, ih _ _ later known, begun]
                simp
        | done =>
            rw [outcome_left _ _ _ _ _ rfl, left_go player chunks served state tracks]
            simp

-- The outbound loop ends on Done alone. Until then it may take the closed start channel's
-- zero value, where that is no pointer.
def EndsDone (pointers : Arm → Bool) (last : List Arm) : Prop :=
  ∃ closed rest, last = List.replicate closed .streamStart ++ .done :: rest ∧
    (0 < closed → pointers .streamStart = false)

omit [UnicodeData] in
theorem ends_done_cons (pointers : Arm → Bool) (first : Arm) (rest : List Arm) :
    EndsDone pointers (first :: rest) ↔
      first = .done ∨ (first = .streamStart ∧ pointers .streamStart = false ∧ EndsDone pointers rest) := by
  apply Iff.intro
  · intro ⟨closed, later, same, allowed⟩
    cases closed with
    | zero =>
        rw [List.replicate_zero, List.nil_append, List.cons.injEq] at same
        exact Or.inl same.1
    | succ fewer =>
        rw [List.replicate_succ, List.cons_append, List.cons.injEq] at same
        exact Or.inr ⟨same.1, allowed (Nat.succ_pos _), fewer, later, same.2, fun _ => allowed (Nat.succ_pos _)⟩
  · intro cases
    obtain rfl | ⟨rfl, structs, fewer, later, rfl, _⟩ := cases
    · exact ⟨0, rest, rfl, fun some => absurd some (Nat.lt_irrefl 0)⟩
    · exact ⟨fewer + 1, later, rfl, fun _ => structs⟩

omit [UnicodeData] in
theorem ends_done_nil (pointers : Arm → Bool) : ¬ EndsDone pointers [] := by
  intro ⟨closed, rest, same, _⟩
  have lengths := congrArg List.length same
  simp at lengths

theorem hash_chunk_counts (player : Option StreamPlayer) (tally next : Tally) (chunk : Bytes)
    (hashed : hashChunk player tally chunk = .ok next) : next.audioChunkCount = tally.audioChunkCount + 1 := by
  cases player with
  | none => cases hashed
  | some stream =>
      simp only [hashChunk] at hashed
      split_ifs at hashed
      · cases updated : Audio.Go.updateFromPCMBytes tally.received chunk stream.bitDepth with
        | error reason => rw [updated] at hashed; cases hashed
        | ok received =>
            rw [updated] at hashed
            injection hashed with hashed
            rw [← hashed, Tally.add]
      · injection hashed with hashed
        rw [← hashed, Tally.add]

theorem chunk_counts (pointers : Arm → Bool) (player : StreamPlayer) (state : LoopState) (answer : Option LoopState)
    (served : serveOutbound pointers player state .audioChunks = .ok answer) :
    ∃ next, answer = some next ∧ next.tally.audioChunkCount = state.tally.audioChunkCount + 1 := by
  have counted (stream : Option StreamPlayer) (chunk : Bytes) (into : Tally → LoopState)
      (kept : ∀ tally, (into tally).tally = tally)
      (hashed : (hashChunk stream state.tally chunk).map (fun tally => some (into tally)) = .ok answer) :
      ∃ next, answer = some next ∧ next.tally.audioChunkCount = state.tally.audioChunkCount + 1 := by
    cases made : hashChunk stream state.tally chunk with
    | error reason => rw [made] at hashed; cases hashed
    | ok tally =>
        rw [made] at hashed
        injection hashed with hashed
        exact ⟨into tally, hashed.symm, by rw [kept, hash_chunk_counts _ _ _ _ made]⟩
  rw [serveOutbound] at served
  cases buffered : state.audioReady with
  | cons chunk others =>
      rw [buffered] at served
      exact counted state.currentPlayer chunk (fun tally => { state with audioReady := others, tally := tally })
        (fun _ => rfl) served
  | nil =>
      rw [buffered] at served
      cases known : state.currentPlayer with
      | none => rw [known] at served; cases served
      | some stream =>
          rw [known] at served
          cases pointed : pointers .audioChunks with
          | true => simp [pointed] at served
          | false =>
              simp only [pointed, Bool.false_eq_true, if_false] at served
              exact counted (some stream) []
                (fun tally => { state with audioReady := [], currentPlayer := some stream, tally := tally })
                (fun _ => rfl) served

theorem serve_counts (pointers : Arm → Bool) (player : StreamPlayer) (state next : LoopState) (first : Arm)
    (served : serveOutbound pointers player state first = .ok (some next)) :
    state.tally.audioChunkCount ≤ next.tally.audioChunkCount := by
  cases first with
  | streamStart =>
      rw [serveOutbound] at served
      split_ifs at served
      · injection served with served
        injection served with served
        rw [← served]
      · injection served with served
        injection served with served
        rw [← served]
  | done => cases served
  | audioChunks =>
      obtain ⟨later, same, counted⟩ := chunk_counts pointers player state _ served
      cases same
      omega

-- A chunk counted too many is counted to the end.
theorem overcounted (pointers : Arm → Bool) (player : StreamPlayer) (chunks : List Bytes) (order : List Arm)
    (state : LoopState) (beyond : chunks.length < state.tally.audioChunkCount) :
    ¬ AllReported (hashing player.bitDepth) chunks (outcome (serveOutbound pointers player) summary order state) := by
  induction order generalizing state with
  | nil => exact running_unreported _ chunks
  | cons first rest ih =>
      cases served : serveOutbound pointers player state first with
      | error reason =>
          rw [outcome_failed _ _ _ _ _ _ served]
          exact failed_unreported _ chunks reason
      | ok answer =>
          cases answer with
          | none =>
              have some : state.tally.audioChunkCount ≠ 0 := by omega
              rw [outcome_left _ _ _ _ _ served, summary, if_neg some]
              intro ⟨_, _, same⟩
              injection same with same
              injection same with same
              have counts : state.tally.audioChunkCount = chunks.length := congrArg AudioReport.audioChunkCount same
              omega
          | some next =>
              have grown := serve_counts pointers player state next first served
              rw [outcome_next _ _ _ _ _ _ served]
              exact ih next (by omega)

-- Once the closed start channel has been taken for a start, only Done is left to serve.
theorem closed_judged (pointers : Arm → Bool) (player : StreamPlayer) (chunks served : List Bytes) (order : List Arm)
    (state : LoopState) (tracks : Tracks player chunks served state) (begun : state.startReady = false)
    (unknown : state.currentPlayer = none) :
    AllReported (hashing player.bitDepth) chunks (outcome (serveOutbound pointers player) summary order state) ↔
      chunks ≠ [] ∧ state.audioReady = [] ∧ EndsDone pointers order := by
  have failed (reason : String) := failed_unreported (hashing player.bitDepth) chunks reason
  induction order with
  | nil =>
      have running : ¬ AllReported (hashing player.bitDepth) chunks
          (outcome (serveOutbound pointers player) summary [] state) := running_unreported _ chunks
      simp only [running, ends_done_nil, and_false]
  | cons first rest ih =>
      rw [ends_done_cons]
      cases first with
      | streamStart =>
          cases pointed : pointers .streamStart with
          | true =>
              have step : serveOutbound pointers player state .streamStart =
                  .error "invalid memory address or nil pointer dereference" := by
                simp [serveOutbound, begun, pointed]
              rw [outcome_failed _ _ _ _ _ _ step]
              simp [failed]
          | false =>
              have same : { state with currentPlayer := none } = state := by rw [← unknown]
              have step : serveOutbound pointers player state .streamStart = .ok (some state) := by
                rw [serveOutbound, if_neg (begun ▸ Bool.false_ne_true), if_neg (pointed ▸ Bool.false_ne_true), same]
              rw [outcome_next _ _ _ _ _ _ step]
              refine ih.trans ?_
              simp
      | audioChunks =>
          have step : serveOutbound pointers player state .audioChunks =
              .error "received audio before stream/start" := by
            cases buffered : state.audioReady with
            | nil => simp only [serveOutbound, buffered, unknown]
            | cons chunk others =>
                simp only [serveOutbound, buffered, unknown, hashChunk]
                rfl
          rw [outcome_failed _ _ _ _ _ _ step]
          simp [failed]
      | done =>
          rw [outcome_left _ _ _ _ _ rfl, left_go player chunks served state tracks]
          simp

theorem known_judged (pointers : Arm → Bool) (player : StreamPlayer) (chunks served : List Bytes) (order : List Arm)
    (state : LoopState) (pcm : player.codec = "pcm") (supported : Supports (hashing player.bitDepth) chunks)
    (tracks : Tracks player chunks served state) (begun : state.startReady = false)
    (known : state.currentPlayer = some player) :
    AllReported (hashing player.bitDepth) chunks (outcome (serveOutbound pointers player) summary order state) ↔
      chunks ≠ [] ∧ InOrder (EndsDone pointers) 0 state.audioReady.length order := by
  have failed (reason : String) := failed_unreported (hashing player.bitDepth) chunks reason
  induction order generalizing served state with
  | nil =>
      have running : ¬ AllReported (hashing player.bitDepth) chunks
          (outcome (serveOutbound pointers player) summary [] state) := running_unreported _ chunks
      simp only [running, in_order_nil _ _ _ (ends_done_nil pointers), and_false]
  | cons first rest ih =>
      rw [in_order_cons, ends_done_cons]
      cases first with
      | streamStart =>
          cases pointed : pointers .streamStart with
          | true =>
              have step : serveOutbound pointers player state .streamStart =
                  .error "invalid memory address or nil pointer dereference" := by
                simp [serveOutbound, begun, pointed]
              rw [outcome_failed _ _ _ _ _ _ step]
              simp [failed]
          | false =>
              have step : serveOutbound pointers player state .streamStart =
                  .ok (some { state with currentPlayer := none }) := by
                simp [serveOutbound, begun, pointed]
              have later : Tracks player chunks served { state with currentPlayer := none } :=
                ⟨tracks.split, fun again => absurd (begun.symm.trans again) (by decide), tracks.tallied⟩
              rw [outcome_next _ _ _ _ _ _ step, closed_judged pointers player chunks served rest _ later begun rfl]
              simp
      | audioChunks =>
          cases buffered : state.audioReady with
          | nil =>
              -- the closed channel's empty chunk fails, or is counted beside the others
              have all : served = chunks := by rw [← tracks.split, buffered, List.append_nil]
              have unreported : ¬ AllReported (hashing player.bitDepth) chunks
                  (outcome (serveOutbound pointers player) summary (.audioChunks :: rest) state) := by
                cases served' : serveOutbound pointers player state .audioChunks with
                | error reason =>
                    rw [outcome_failed _ _ _ _ _ _ served']
                    exact failed reason
                | ok answer =>
                    obtain ⟨next, rfl, counted⟩ := chunk_counts pointers player state answer served'
                    rw [outcome_next _ _ _ _ _ _ served']
                    refine overcounted pointers player chunks rest next ?_
                    rw [counted, tracks.tallied.2.2, all]
                    omega
              simp [unreported]
          | cons chunk others =>
              obtain ⟨tally, hashed, later⟩ := chunk_served player chunks served state chunk others pcm supported
                tracks begun known buffered
              have step : serveOutbound pointers player state .audioChunks =
                  .ok (some { state with audioReady := others, tally := tally }) := by
                simp only [serveOutbound, buffered, hashed]
                rfl
              rw [outcome_next _ _ _ _ _ _ step]
              refine (ih _ _ later begun known).trans ?_
              simp
      | done =>
          rw [outcome_left _ _ _ _ _ rfl, left_go player chunks served state tracks]
          simp

theorem outbound_judged (pointers : Arm → Bool) (player : StreamPlayer) (chunks : List Bytes) (order : List Arm)
    (pcm : player.codec = "pcm") (supported : Supports (hashing player.bitDepth) chunks) :
    AllReported (hashing player.bitDepth) chunks (runOutboundProtocolClient pointers player chunks order) ↔
      chunks ≠ [] ∧ InOrder (EndsDone pointers) 1 chunks.length order := by
  have run : runOutboundProtocolClient pointers player chunks order =
      outcome (serveOutbound pointers player) summary order ⟨true, chunks, none, {}⟩ := rfl
  have tracks : Tracks player chunks [] ⟨true, chunks, none, {}⟩ := ⟨rfl, fun _ => ⟨rfl, rfl⟩, tallied_none _⟩
  rw [run]
  cases order with
  | nil =>
      have running : ¬ AllReported (hashing player.bitDepth) chunks
          (outcome (serveOutbound pointers player) summary [] ⟨true, chunks, none, {}⟩) := running_unreported _ chunks
      simp only [running, in_order_nil _ _ _ (ends_done_nil pointers), and_false]
  | cons first rest =>
      rw [in_order_cons]
      cases first with
      | streamStart =>
          have later : Tracks player chunks [] ⟨false, chunks, some player, {}⟩ :=
            ⟨rfl, fun again => absurd again Bool.false_ne_true, tallied_none _⟩
          rw [outcome_next _ _ _ _ _ _ rfl]
          refine (known_judged pointers player chunks [] rest _ pcm supported later rfl rfl).trans ?_
          simp
      | audioChunks =>
          have step : serveOutbound pointers player ⟨true, chunks, none, {}⟩ .audioChunks =
              .error "received audio before stream/start" := by cases chunks <;> rfl
          have failed := failed_unreported (hashing player.bitDepth) chunks "received audio before stream/start"
          rw [outcome_failed _ _ _ _ _ _ step]
          simp [failed]
      | done =>
          rw [outcome_left _ _ _ _ _ rfl, left_go player chunks [] _ tracks]
          simp

theorem connected_session_judged (bitDepth : Nat) (chunks : List Bytes) (order : List Arm) :
    AllReported (hashing bitDepth) chunks (runConnectedSession ⟨"pcm", bitDepth⟩ chunks order) ↔
      (chunks ≠ [] ∧ bitDepth ∈ [16, 24, 32]) ∧ InOrder (· ≠ []) 1 chunks.length order := by
  refine depth_judged _ _ _ chunks _ (fun depth => supports_depth bitDepth depth chunks)
    (fun other chunk => refuses_depth bitDepth other {} chunk) fun supported => ?_
  exact connected_judged ⟨"pcm", bitDepth⟩ chunks [] order _ rfl supported
    ⟨rfl, fun _ => ⟨rfl, rfl⟩, tallied_none _⟩ fun begun => absurd begun.symm Bool.false_ne_true

theorem outbound_client_judged (pointers : Arm → Bool) (bitDepth : Nat) (chunks : List Bytes) (order : List Arm) :
    AllReported (hashing bitDepth) chunks (runOutboundProtocolClient pointers ⟨"pcm", bitDepth⟩ chunks order) ↔
      (chunks ≠ [] ∧ bitDepth ∈ [16, 24, 32]) ∧ InOrder (EndsDone pointers) 1 chunks.length order := by
  refine depth_judged _ _ _ chunks _ (fun depth => supports_depth bitDepth depth chunks)
    (fun other chunk => refuses_depth bitDepth other {} chunk) fun supported => ?_
  exact outbound_judged pointers ⟨"pcm", bitDepth⟩ chunks order rfl supported

end

end Go

-- A loop served an end loses what the other channel still holds, and the Go loops fail on
-- a chunk served before the start: each reports every chunk exactly in these orders.
theorem select_loops_judged [UnicodeData] (pointers : Go.Arm → Bool) (bitDepth : Nat) (chunks : List Bytes) :
    (∀ order, AllReported (Rust.hashing bitDepth) chunks
        (Rust.runOutboundProtocolClient ⟨"pcm", bitDepth⟩ chunks order) ↔
      (chunks ≠ [] ∧ bitDepth ∈ [16, 24, 32]) ∧ Rust.ItemsFirst 1 chunks.length order) ∧
    (∀ order, AllReported (Go.hashing bitDepth) chunks (Go.runConnectedSession ⟨"pcm", bitDepth⟩ chunks order) ↔
      (chunks ≠ [] ∧ bitDepth ∈ [16, 24, 32]) ∧ Go.InOrder (· ≠ []) 1 chunks.length order) ∧
    (∀ order, AllReported (Go.hashing bitDepth) chunks
        (Go.runOutboundProtocolClient pointers ⟨"pcm", bitDepth⟩ chunks order) ↔
      (chunks ≠ [] ∧ bitDepth ∈ [16, 24, 32]) ∧ Go.InOrder (Go.EndsDone pointers) 1 chunks.length order) :=
  ⟨Rust.run_judged bitDepth chunks, Go.connected_session_judged bitDepth chunks,
    Go.outbound_client_judged pointers bitDepth chunks⟩

-- Two chunks, the second still buffered at the message channel's end; and a chunk the Go
-- loops are served first.
theorem served_end_loses_chunk :
    (∃ report, Rust.runOutboundProtocolClient ⟨"pcm", 16⟩ [[0, 128], [0, 64]] [.messages, .audio, .messages] =
      some (.ok report) ∧ report.audioChunkCount = 1) ∧
    @Go.runConnectedSession noUnicode ⟨"pcm", 16⟩ [[0, 128]] [.audioChunks] =
      some (.error "received audio before stream/start") ∧
    @Go.runOutboundProtocolClient noUnicode (fun _ => false) ⟨"pcm", 16⟩ [[0, 128]] [.streamStart, .done] =
      some (.error "client received zero audio chunks") :=
  ⟨⟨_, rfl, rfl⟩, rfl, rfl⟩

end Conformance.Adapters
