import SendspinConformance.Harness.ChunkHeaders
import SendspinConformance.Harness.ChunkVerdict

set_option autoImplicit false

namespace Conformance.Harness

open Base Python

-- A chunk's duration in microseconds.
def durationUs (bytesPerSecond : Int) (frame : Frame) : Rat :=
  (((frame.payloadByteCount.getD 0 : Nat) * 1000000 : Int) : Rat) / bytesPerSecond

-- Every chunk is at most so long, and every chunk but the last at least so long.
def InBounds (shortest longest : Rat) (bytesPerSecond : Int) (sent : List Frame) : Prop :=
  ∀ position frame, sent[position]? = some frame → durationUs bytesPerSecond frame ≤ longest ∧
    (position + 1 ≠ sent.length → shortest ≤ durationUs bytesPerSecond frame)

-- What is asked of the durations: nothing where the adapter cut the chunks, bounds on those of a pcm
-- stream where the implementation did.
def DurationsMeet [CaseFolding] (shortest longest : Rat) (serverSummary serverAudio : Fields)
    (sent : List Frame) : Prop :=
  getKey serverAudio "chunked_by" = .str "adapter" ∨
    (getKey serverAudio "chunked_by" = .str "implementation" ∧
      ∃ stream, normalizedFormat (getKey serverSummary "stream") = some stream ∧ stream.codec = "pcm" ∧
        0 < stream.bitDepth ∧ stream.bitDepth % 8 = 0 ∧ 0 < bytesPerSecond stream ∧
        InBounds shortest longest (bytesPerSecond stream) sent)

-- What is asked of the server's frames.
structure ServerMeets [CaseFolding] (shortest longest : Rat) (serverSummary serverAudio : Fields)
    (sent : List Frame) : Prop where
  sends : sent ≠ []
  typed : ∀ frame ∈ sent, frame.leading.head? = some audioChunkType
  headers : ∀ frame ∈ sent, frame.headerBytes = some 13
  durations : DurationsMeet shortest longest serverSummary serverAudio sent

-- What a frame is compared by.
def Frame.observed (frame : Frame) : Nat × List UInt8 := (frame.byteCount, frame.leading)

-- What is asked of the client's frames.
structure ClientAgrees (sent received : List Frame) : Prop where
  same : received.map Frame.observed = sent.map Frame.observed
  headers : ∀ frame ∈ received, frame.headerBytes = some 13

section frames

theorem transported_begun (record : Json) (frame : Frame) (read : transportedFrame record = some frame) :
    frame.leading ≠ [] := by
  simp only [transportedFrame, Option.bind_eq_bind, Option.bind_eq_some_iff] at read
  obtain ⟨_, _, _, _, _, _, leading, _, read⟩ := read
  split_ifs at read with unusable
  cases Option.some.inj read
  intro isEmpty
  simp only at isEmpty
  rw [isEmpty] at unusable
  exact unusable rfl

theorem readable_begun (value : Json) (frames : List Frame) (read : transportedFrames value = some frames) :
    ∀ frame ∈ frames, frame.leading ≠ [] := by
  cases value with
  | arr records =>
      rw [transportedFrames] at read
      induction records generalizing frames with
      | nil =>
          cases read
          exact fun _ member => absurd member List.not_mem_nil
      | cons record rest ih =>
          obtain ⟨first, others, firstRead, othersRead, rfl⟩ := (map_all_cons _ record rest frames).mp read
          exact List.forall_mem_cons.mpr ⟨transported_begun record first firstRead, ih others othersRead⟩
  | _ => cases read

theorem type_violation (total index : Nat) (frames : List Frame) (begun : ∀ frame ∈ frames, frame.leading ≠ []) :
    ∃ found, typeViolation total index frames = .ok found ∧
      (found = none ↔ ∀ frame ∈ frames, frame.leading.head? = some audioChunkType) := by
  induction frames generalizing index with
  | nil => exact ⟨none, rfl, by simp⟩
  | cons frame rest ih =>
      cases isLeading : frame.leading with
      | nil => exact absurd isLeading (begun frame List.mem_cons_self)
      | cons byte bytes =>
          have first : firstByte frame = .ok byte := by rw [firstByte, isLeading]
          rw [typeViolation, first]
          by_cases isAudio : byte = audioChunkType
          · obtain ⟨found, judged, exact_⟩ := ih (index + 1) fun other member =>
              begun other (List.mem_cons_of_mem frame member)
            refine ⟨found, ?_, ?_⟩
            · simpa [isAudio, bind, Except.bind] using judged
            · rw [exact_, List.forall_mem_cons, isLeading, isAudio]
              simp
          · refine ⟨some (typeText byte index total), ?_, ?_⟩
            · simp [isAudio, bind, Except.bind]
            · simp [isLeading, isAudio]

end frames

section durations

theorem duration_nonneg (bytesPerSecond : Int) (positive : 0 < bytesPerSecond) (frame : Frame) :
    0 ≤ durationUs bytesPerSecond frame := by
  rw [durationUs]
  have rate : (0 : Rat) < bytesPerSecond := by exact_mod_cast positive
  positivity

-- The bounds as the rounding to a double leaves them: half a last place beyond each.
def roundedLongest : Rat := 150000 + 1 / 2 ^ 36
def roundedShortest : Rat := 15000 - 1 / 2 ^ 40

theorem rounded_long (duration : Rat) (positive : 0 ≤ duration) :
    roundTo .binary64 duration ≤ maxChunkUs ↔ duration ≤ roundedLongest := by
  have exact_ := @round_to_le_iff .binary64 duration (150000 * 2 ^ 35) 17 (by decide) (by decide) (by norm_num) positive
    (by norm_num [FloatFormat.binary64]) (by norm_num [FloatFormat.binary64])
  have bound : (((150000 * 2 ^ 35 : Int) : Rat)) * 2 ^ ((17 : Int) - (FloatFormat.binary64.precision - 1)) =
      maxChunkUs := by
    norm_num [FloatFormat.binary64, maxChunkUs]
  have beyond : (((150000 * 2 ^ 35 : Int) : Rat) + 1 / 2) * 2 ^ ((17 : Int) - (FloatFormat.binary64.precision - 1)) =
      roundedLongest := by
    norm_num [FloatFormat.binary64, roundedLongest]
  rwa [bound, beyond] at exact_

theorem rounded_short (duration : Rat) (positive : 0 ≤ duration) :
    minChunkUs ≤ roundTo .binary64 duration ↔ roundedShortest ≤ duration := by
  have exact_ := @le_round_to_iff .binary64 duration (15000 * 2 ^ 39) 13 (by decide) (by decide) (by norm_num) positive
    (by norm_num [FloatFormat.binary64]) (by norm_num [FloatFormat.binary64])
  have bound : (((15000 * 2 ^ 39 : Int) : Rat)) * 2 ^ ((13 : Int) - (FloatFormat.binary64.precision - 1)) =
      minChunkUs := by
    norm_num [FloatFormat.binary64, minChunkUs]
  have beyond : (((15000 * 2 ^ 39 : Int) : Rat) - 1 / 2) * 2 ^ ((13 : Int) - (FloatFormat.binary64.precision - 1)) =
      roundedShortest := by
    norm_num [FloatFormat.binary64, roundedShortest]
  rwa [bound, beyond] at exact_

theorem true_divide (number divisor : Int) (positive : 0 < divisor) :
    trueDivide number divisor = .error divisionOverflow ∧
        2 ^ 1024 ≤ |roundTo .binary64 ((number : Rat) / divisor)| ∨
      trueDivide number divisor = .ok (roundTo .binary64 ((number : Rat) / divisor)) := by
  rw [trueDivide, if_neg positive.ne']
  by_cases large : 2 ^ 1024 ≤ |roundTo .binary64 ((number : Rat) / divisor)|
  · exact Or.inl ⟨if_pos large, large⟩
  · exact Or.inr (if_neg large)

theorem duration_violation (total index : Nat) (durations : List Rat) :
    durationViolation total index durations = none ↔ ∀ position duration, durations[position]? = some duration →
      duration ≤ maxChunkUs ∧ (index + position ≠ total → minChunkUs ≤ duration) := by
  induction durations generalizing index with
  | nil => simp [durationViolation]
  | cons duration rest ih =>
      have split : (∀ position other, (duration :: rest)[position]? = some other →
          other ≤ maxChunkUs ∧ (index + position ≠ total → minChunkUs ≤ other)) ↔
          (duration ≤ maxChunkUs ∧ (index ≠ total → minChunkUs ≤ duration)) ∧
            ∀ position other, rest[position]? = some other →
              other ≤ maxChunkUs ∧ (index + 1 + position ≠ total → minChunkUs ≤ other) := by
        apply Iff.intro
        · intro each
          refine ⟨each 0 duration rfl, fun position other found => ?_⟩
          have later := each (position + 1) other (by simpa using found)
          rwa [show index + (position + 1) = index + 1 + position by omega] at later
        · rintro ⟨first, others⟩ position other found
          cases position with
          | zero =>
              cases Option.some.inj found
              exact first
          | succ position =>
              have later := others position other (by simpa using found)
              rwa [show index + (position + 1) = index + 1 + position by omega]
      rw [split, ← ih, durationViolation]
      split_ifs with long short
      · exact iff_of_false (by simp) fun fits => absurd long (not_lt.mpr fits.1.1)
      · exact iff_of_false (by simp) fun fits => absurd short.1 (not_lt.mpr (fits.1.2 short.2))
      · have fits : duration ≤ maxChunkUs ∧ (index ≠ total → minChunkUs ≤ duration) := by
          refine ⟨not_lt.mp long, fun notLast => ?_⟩
          exact not_lt.mp fun isShort => short ⟨isShort, notLast⟩
        exact (and_iff_right fits).symm

theorem min_of_some {α : Type} [Min α] (values : List α) (nonempty : values ≠ []) :
    ∃ smallest, minOf values = .ok smallest := by
  cases values with
  | nil => exact absurd rfl nonempty
  | cons first rest => exact ⟨_, rfl⟩

theorem max_of_some {α : Type} [Max α] (values : List α) (nonempty : values ≠ []) :
    ∃ largest, maxOf values = .ok largest := by
  cases values with
  | nil => exact absurd rfl nonempty
  | cons first rest => exact ⟨_, rfl⟩

-- A duration within the bounds is no overflow.
theorem bounded_divides (bytesPerSecond : Int) (positive : 0 < bytesPerSecond) (frame : Frame)
    (fits : durationUs bytesPerSecond frame ≤ roundedLongest) :
    ¬2 ^ 1024 ≤ |roundTo .binary64 (durationUs bytesPerSecond frame)| := by
  have small : |durationUs bytesPerSecond frame| < (2 : Rat) ^ (18 : Int) := by
    rw [abs_of_nonneg (duration_nonneg bytesPerSecond positive frame)]
    refine fits.trans_lt ?_
    norm_num [roundedLongest]
  have rounded := @round_to_below .binary64 (durationUs bytesPerSecond frame) 18 (by decide) small
  refine not_le.mpr (rounded.trans_lt ?_)
  rw [show ((2 : Rat) ^ (18 : Int)) = 2 ^ 18 from zpow_natCast 2 18]
  exact pow_lt_pow_right₀ (by norm_num) (by norm_num)

theorem implementation_verdict (bytesPerSecond : Int) (positive : 0 < bytesPerSecond) (sent : List Frame)
    (sends : sent ≠ []) :
    (∀ raised, implementationVerdict bytesPerSecond sent = .error raised → raised = divisionOverflow) ∧
      ((∃ text, implementationVerdict bytesPerSecond sent = .ok (true, text)) ↔
        InBounds roundedShortest roundedLongest bytesPerSecond sent) := by
  have divided : ∀ frame : Frame,
      trueDivide ((frame.payloadByteCount.getD 0 : Nat) * 1000000) bytesPerSecond = .error divisionOverflow ∧
          2 ^ 1024 ≤ |roundTo .binary64 (durationUs bytesPerSecond frame)| ∨
        trueDivide ((frame.payloadByteCount.getD 0 : Nat) * 1000000) bytesPerSecond =
          .ok (roundTo .binary64 (durationUs bytesPerSecond frame)) := fun frame => true_divide _ _ positive
  rw [implementationVerdict]
  cases ran : sent.mapM fun frame =>
      trueDivide ((frame.payloadByteCount.getD 0 : Nat) * 1000000) bytesPerSecond with
  | error raised =>
      obtain ⟨frame, member, failed⟩ := map_steps_error _ sent raised ran
      obtain ⟨overflowed, large⟩ | divided := divided frame
      · refine ⟨fun other isRaised => ?_, iff_of_false (fun passes => nomatch passes) fun inBounds => ?_⟩
        · cases isRaised
          exact (Except.error.inj (failed.symm.trans overflowed))
        · obtain ⟨position, _, found⟩ := List.mem_iff_getElem.mp member
          have fits := (inBounds position frame (List.getElem?_eq_some_iff.mpr ⟨_, found⟩)).1
          exact bounded_divides bytesPerSecond positive frame fits large
      · rw [failed] at divided
        cases divided
  | ok durations =>
      have rounded : durations = sent.map fun frame => roundTo .binary64 (durationUs bytesPerSecond frame) := by
        have answered := map_steps_view _ id (fun frame => roundTo .binary64 (durationUs bytesPerSecond frame)) (by
          intro frame answer isAnswer
          obtain ⟨overflowed, _⟩ | divided := divided frame
          · rw [overflowed] at isAnswer
            cases isAnswer
          · exact Except.ok.inj (isAnswer.symm.trans divided)) sent durations ran
        rwa [List.map_id] at answered
      have nonempty : durations ≠ [] := by
        rw [rounded]
        exact fun isEmpty => sends (List.map_eq_nil_iff.mp isEmpty)
      obtain ⟨shortest, isShortest⟩ := min_of_some durations nonempty
      obtain ⟨longest, isLongest⟩ := max_of_some durations nonempty
      have bounds : durationViolation sent.length 1 durations = none ↔
          InBounds roundedShortest roundedLongest bytesPerSecond sent := by
        rw [duration_violation, rounded, InBounds]
        refine forall_congr' fun position => ?_
        rw [List.getElem?_map]
        cases sent[position]? with
        | none => simp
        | some frame =>
            have nonneg := duration_nonneg bytesPerSecond positive frame
            simp only [Option.map_some, Option.some_inj, forall_eq', rounded_long _ nonneg, rounded_short _ nonneg,
              Nat.add_comm 1 position]
      rw [← bounds]
      cases violated : durationViolation sent.length 1 durations with
      | some violation =>
          simp only [bind, Except.bind, violated]
          exact ⟨fun _ isRaised => (nomatch isRaised), iff_of_false (fun passes => nomatch passes) (by simp)⟩
      | none =>
          simp only [bind, Except.bind, violated, isShortest, isLongest]
          exact ⟨fun _ isRaised => (nomatch isRaised), iff_of_true ⟨_, rfl⟩ trivial⟩

theorem bytes_per_second_pos (stream : AudioFormat) (positive : 0 < bytesPerSecond stream) :
    0 < stream.bitDepth ∧ stream.bitDepth % 8 = 0 := by
  by_contra unusable
  rw [bytesPerSecond, if_neg unusable] at positive
  exact lt_irrefl 0 positive

variable [UnicodeData] [CaseFolding]

-- What a judgement raises, and when it passes.
structure JudgedBy (verdict : Py (Bool × String)) (passes : Prop) : Prop where
  raises : ∀ raised, verdict = .error raised → raised = divisionOverflow
  passed : (∃ text, verdict = .ok (true, text)) ↔ passes

omit [UnicodeData] [CaseFolding] in
theorem judged_failed (text : String) (passes : Prop) (fails : ¬passes) : JudgedBy (.ok (false, text)) passes :=
  ⟨fun _ isRaised => (nomatch isRaised), iff_of_false (fun passed => nomatch passed) fails⟩

omit [UnicodeData] [CaseFolding] in
theorem judged_passed (text : String) (passes : Prop) (holds : passes) : JudgedBy (.ok (true, text)) passes :=
  ⟨fun _ isRaised => (nomatch isRaised), iff_of_true ⟨text, rfl⟩ holds⟩

theorem chunk_durations (serverSummary serverAudio : Fields) (sent : List Frame) (sends : sent ≠ []) :
    JudgedBy (chunkDurationsVerdict serverSummary serverAudio sent)
      (DurationsMeet roundedShortest roundedLongest serverSummary serverAudio sent) := by
  rw [chunkDurationsVerdict]
  by_cases byAdapter : (getKey serverAudio "chunked_by").eqStr "adapter" = true
  · rw [if_pos byAdapter]
    exact judged_passed _ _ (Or.inl ((Json.eq_str_iff _ _).mp byAdapter))
  · rw [if_neg byAdapter]
    have notAdapter := mt (Json.eq_str_iff _ _).mpr byAdapter
    by_cases byImplementation : (getKey serverAudio "chunked_by").eqStr "implementation" = true
    · rw [byImplementation, Bool.not_true, if_neg Bool.false_ne_true]
      have attributed := (Json.eq_str_iff _ _).mp byImplementation
      have meets : DurationsMeet roundedShortest roundedLongest serverSummary serverAudio sent ↔
          ∃ stream, normalizedFormat (getKey serverSummary "stream") = some stream ∧ stream.codec = "pcm" ∧
            0 < stream.bitDepth ∧ stream.bitDepth % 8 = 0 ∧ 0 < bytesPerSecond stream ∧
            InBounds roundedShortest roundedLongest (bytesPerSecond stream) sent := by
        rw [DurationsMeet, or_iff_right notAdapter, and_iff_right attributed]
      cases read : normalizedFormat (getKey serverSummary "stream") with
      | none =>
          refine judged_failed _ _ ?_
          rw [meets, read]
          simp
      | some stream =>
          rw [read] at meets
          simp only [Option.some_inj, exists_eq_left'] at meets
          by_cases positive : 0 < bytesPerSecond stream
          · obtain ⟨depth, whole⟩ := bytes_per_second_pos stream positive
            by_cases isPcm : stream.codec = "pcm"
            · have judged := implementation_verdict (bytesPerSecond stream) positive sent sends
              simp only [not_le.mpr positive, isPcm, ne_eq, not_true_eq_false, if_false]
              refine ⟨judged.1, judged.2.trans ?_⟩
              rw [meets]
              simp only [isPcm, depth, whole, positive, true_and]
            · simp only [not_le.mpr positive, isPcm, ne_eq, not_false_eq_true, if_false, if_true]
              exact judged_failed _ _ fun holds => isPcm (meets.mp holds).1
          · simp only [not_lt.mp positive, if_true]
            exact judged_failed _ _ fun holds => positive (meets.mp holds).2.2.2.1
    · rw [Bool.eq_false_iff.mpr byImplementation, Bool.not_false, if_pos rfl]
      refine judged_failed _ _ ?_
      rintro (adapter | ⟨implementation, _⟩)
      · exact notAdapter adapter
      · exact byImplementation ((Json.eq_str_iff _ _).mpr implementation)

theorem sent_verdict (serverSummary serverAudio : Fields) (sent : List Frame) (sends : sent ≠ [])
    (begun : ∀ frame ∈ sent, frame.leading ≠ []) :
    JudgedBy (sentVerdict serverSummary serverAudio sent)
      (ServerMeets roundedShortest roundedLongest serverSummary serverAudio sent) := by
  obtain ⟨found, judged, isNone⟩ := type_violation sent.length 1 sent begun
  rw [sentVerdict, judged]
  simp only [bind, Except.bind]
  cases found with
  | some violation => exact judged_failed _ _ fun meets => nomatch isNone.mpr meets.typed
  | none =>
      have typed := isNone.mp rfl
      cases header : headerViolation .server sent with
      | some violation =>
          refine judged_failed _ _ fun meets => ?_
          rw [(header_violation_none .server sent).mpr meets.headers] at header
          cases header
      | none =>
          have headers := (header_violation_none .server sent).mp header
          have durations := chunk_durations serverSummary serverAudio sent sends
          refine ⟨durations.raises, durations.passed.trans ?_⟩
          exact ⟨fun meets => ⟨sends, typed, headers, meets⟩, ServerMeets.durations⟩

end durations

section received

theorem disagreement_none (total index : Nat) (sent received : List Frame) (sameCount : received.length = sent.length) :
    disagreement total index sent received = none ↔ received.map Frame.observed = sent.map Frame.observed := by
  induction sent generalizing index received with
  | nil =>
      cases received with
      | nil => exact iff_of_true rfl rfl
      | cons theirs others => cases sameCount
  | cons ours rest ih =>
      cases received with
      | nil => cases sameCount
      | cons theirs others =>
          have later := ih (index + 1) others (Nat.succ.inj sameCount)
          rw [disagreement, List.map_cons, List.map_cons, List.cons.injEq, ← later]
          by_cases same : (ours.byteCount, ours.leading) = (theirs.byteCount, theirs.leading)
          · rw [if_neg (not_not.mpr same)]
            exact (and_iff_right same.symm).symm
          · rw [if_pos same]
            exact iff_of_false (by simp) fun both => same both.1.symm

theorem received_verdict (sent received : List Frame) (durations : String) (sends : sent ≠ []) :
    JudgedBy (receivedVerdict sent received durations) (ClientAgrees sent received) := by
  rw [receivedVerdict]
  by_cases sameCount : received.length = sent.length
  · rw [if_neg (not_not.mpr sameCount)]
    have agrees := disagreement_none sent.length 1 sent received sameCount
    cases disagreed : disagreement sent.length 1 sent received with
    | some violation =>
        refine judged_failed _ _ fun same => ?_
        rw [agrees.mpr same.same] at disagreed
        cases disagreed
    | none =>
        cases header : headerViolation .client received with
        | some violation =>
            refine judged_failed _ _ fun same => ?_
            rw [(header_violation_none .client received).mpr same.headers] at header
            cases header
        | none =>
            have some : sent.map sendAhead ≠ [] := fun isEmpty => sends (List.map_eq_nil_iff.mp isEmpty)
            obtain ⟨smallest, isSmallest⟩ := min_of_some _ some
            obtain ⟨largest, isLargest⟩ := max_of_some _ some
            simp only [isSmallest, isLargest, bind, Except.bind]
            exact judged_passed _ _ ⟨agrees.mp disagreed, (header_violation_none .client received).mp header⟩
  · rw [if_pos sameCount]
    refine judged_failed _ _ fun same => sameCount ?_
    simpa using congrArg List.length same.same

end received

section verdict

variable [UnicodeData] [CaseFolding]

structure ServerReadable (serverSummary serverAudio : Fields) (sent : List Frame) : Prop where
  ok : getKey serverSummary "status" = .str "ok"
  audio : getKey serverSummary "audio" = .obj serverAudio
  frames : transportedFrames (getKey serverAudio "sent_chunk_frames") = some sent

structure ClientReadable (clientSummary clientAudio : Fields) (received : List Frame) : Prop where
  ok : getKey clientSummary "status" = .str "ok"
  audio : getKey clientSummary "audio" = .obj clientAudio
  frames : transportedFrames (getKey clientAudio "received_chunk_frames") = some received

def Passes (serverSummary clientSummary : Fields) : Prop :=
  ∃ reason, chunkFramingVerdict serverSummary clientSummary = .ok (true, reason)

-- What is claimed of the verdicts on one server's summary.
structure FramingJudged (serverSummary serverAudio : Fields) (sent : List Frame) : Prop where
  passes : ∀ clientSummary clientAudio received, ClientReadable clientSummary clientAudio received →
    (Passes serverSummary clientSummary ↔
      ServerMeets minChunkUs maxChunkUs serverSummary serverAudio sent ∧ ClientAgrees sent received)
  -- no index out of range, no division by zero, no minimum of an empty list
  raises : ∀ clientSummary clientAudio received, ClientReadable clientSummary clientAudio received →
    ∀ raised, chunkFramingVerdict serverSummary clientSummary = .error raised → raised = divisionOverflow
  blames : ¬ServerMeets minChunkUs maxChunkUs serverSummary serverAudio sent →
    ∀ first second, getKey first "status" = getKey second "status" →
      chunkFramingVerdict serverSummary first = chunkFramingVerdict serverSummary second

-- The server breaks a bound by less than the rounding of a duration to a double, and no other rule.
def ExcusedByRounding (serverSummary serverAudio : Fields) (sent : List Frame) : Prop :=
  ServerMeets roundedShortest roundedLongest serverSummary serverAudio sent ∧
    ¬ServerMeets minChunkUs maxChunkUs serverSummary serverAudio sent

omit [UnicodeData] in
theorem meets_rounded (serverSummary serverAudio : Fields) (sent : List Frame)
    (meets : ServerMeets minChunkUs maxChunkUs serverSummary serverAudio sent) :
    ServerMeets roundedShortest roundedLongest serverSummary serverAudio sent := by
  refine ⟨meets.sends, meets.typed, meets.headers, ?_⟩
  obtain byAdapter | ⟨byImplementation, stream, read, isPcm, depth, whole, positive, bounded⟩ := meets.durations
  · exact Or.inl byAdapter
  · refine Or.inr ⟨byImplementation, stream, read, isPcm, depth, whole, positive, ?_⟩
    intro position frame found
    have fits := bounded position frame found
    refine ⟨fits.1.trans ?_, fun notLast => le_trans ?_ (fits.2 notLast)⟩
    · norm_num [maxChunkUs, roundedLongest]
    · norm_num [minChunkUs, roundedShortest]

-- The verdict on a readable server summary: on what the server sent, then on the client.
theorem verdict_of_sent (serverSummary serverAudio clientSummary : Fields) (sent : List Frame)
    (readable : ServerReadable serverSummary serverAudio sent) (sends : sent ≠ [])
    (ok : getKey clientSummary "status" = .str "ok") :
    chunkFramingVerdict serverSummary clientSummary = (do
      let judged ← sentVerdict serverSummary serverAudio sent
      if judged.1 then clientVerdict clientSummary sent judged.2 else .ok judged) := by
  obtain ⟨first, rest, rfl⟩ := List.exists_cons_of_ne_nil sends
  have serverOk := (Json.eq_str_iff "ok" _).mpr readable.ok
  have clientOk := (Json.eq_str_iff "ok" _).mpr ok
  rw [chunkFramingVerdict, serverOk, clientOk, readable.audio]
  simp only [Bool.not_true, Bool.false_eq_true, if_false, readable.frames]

omit [UnicodeData] [CaseFolding] in
theorem client_verdict (clientSummary clientAudio : Fields) (received : List Frame)
    (readable : ClientReadable clientSummary clientAudio received) (sent : List Frame) (durations : String) :
    clientVerdict clientSummary sent durations = receivedVerdict sent received durations := by
  simp only [clientVerdict, readable.audio, readable.frames]

theorem verdict_of_none (serverSummary serverAudio clientSummary : Fields)
    (readable : ServerReadable serverSummary serverAudio []) (ok : getKey clientSummary "status" = .str "ok") :
    chunkFramingVerdict serverSummary clientSummary = .ok (false, "Server sent no audio chunks") := by
  have serverOk := (Json.eq_str_iff "ok" _).mpr readable.ok
  have clientOk := (Json.eq_str_iff "ok" _).mpr ok
  rw [chunkFramingVerdict, serverOk, clientOk, readable.audio]
  simp only [Bool.not_true, Bool.false_eq_true, if_false, readable.frames]

theorem framing_verdict (serverSummary serverAudio : Fields) (sent : List Frame)
    (readable : ServerReadable serverSummary serverAudio sent) (clientSummary clientAudio : Fields)
    (received : List Frame) (clientReadable : ClientReadable clientSummary clientAudio received) :
    JudgedBy (chunkFramingVerdict serverSummary clientSummary)
      (ServerMeets roundedShortest roundedLongest serverSummary serverAudio sent ∧ ClientAgrees sent received) := by
  by_cases sends : sent = []
  · subst sends
    rw [verdict_of_none serverSummary serverAudio clientSummary readable clientReadable.ok]
    exact judged_failed _ _ fun meets => meets.1.sends rfl
  · have judged := sent_verdict serverSummary serverAudio sent sends (readable_begun _ sent readable.frames)
    rw [verdict_of_sent serverSummary serverAudio clientSummary sent readable sends clientReadable.ok]
    cases ran : sentVerdict serverSummary serverAudio sent with
    | error raised =>
        rw [ran] at judged
        refine ⟨fun other isRaised => ?_, iff_of_false (fun passes => nomatch passes) fun meets => ?_⟩
        · cases isRaised
          exact judged.raises raised rfl
        · exact nomatch judged.passed.mpr meets.1
    | ok answer =>
        obtain ⟨passed, durations⟩ := answer
        rw [ran] at judged
        simp only [bind, Except.bind]
        cases passed with
        | false =>
            refine judged_failed _ _ fun meets => ?_
            exact nomatch judged.passed.mpr meets.1
        | true =>
            have meets := judged.passed.mp ⟨durations, rfl⟩
            have agrees := received_verdict sent received durations sends
            rw [if_pos rfl, client_verdict clientSummary clientAudio received clientReadable]
            exact ⟨agrees.raises, agrees.passed.trans (and_iff_right meets).symm⟩

-- Where the server's frames break a rule the client's summary is not read.
theorem server_blamed (serverSummary serverAudio : Fields) (sent : List Frame)
    (readable : ServerReadable serverSummary serverAudio sent)
    (breaks : ¬ServerMeets roundedShortest roundedLongest serverSummary serverAudio sent) (first second : Fields)
    (same : getKey first "status" = getKey second "status") :
    chunkFramingVerdict serverSummary first = chunkFramingVerdict serverSummary second := by
  by_cases ok : getKey second "status" = .str "ok"
  · by_cases sends : sent = []
    · subst sends
      rw [verdict_of_none serverSummary serverAudio first readable (same.trans ok),
        verdict_of_none serverSummary serverAudio second readable ok]
    · have judged := sent_verdict serverSummary serverAudio sent sends (readable_begun _ sent readable.frames)
      rw [verdict_of_sent serverSummary serverAudio first sent readable sends (same.trans ok),
        verdict_of_sent serverSummary serverAudio second sent readable sends ok]
      cases ran : sentVerdict serverSummary serverAudio sent with
      | error raised => rfl
      | ok answer =>
          obtain ⟨passed, durations⟩ := answer
          cases passed with
          | false => rfl
          | true =>
              rw [ran] at judged
              exact absurd (judged.passed.mp ⟨durations, rfl⟩) breaks
  · have serverOk := (Json.eq_str_iff "ok" _).mpr readable.ok
    have notOk : (getKey second "status").eqStr "ok" = false := Bool.eq_false_iff.mpr (mt (Json.eq_str_iff "ok" _).mp ok)
    simp only [chunkFramingVerdict, serverOk, same, notOk, Bool.not_true, Bool.not_false, Bool.false_eq_true, if_false,
      if_true]

-- A client that reports the frames the server sent.
def echo (serverAudio : Fields) : Fields := [("received_chunk_frames", getKey serverAudio "sent_chunk_frames")]

def echoing (serverAudio : Fields) : Fields := [("status", .str "ok"), ("audio", .obj (echo serverAudio))]

omit [UnicodeData] [CaseFolding] in
theorem echo_readable (serverSummary serverAudio : Fields) (sent : List Frame)
    (readable : ServerReadable serverSummary serverAudio sent) :
    ClientReadable (echoing serverAudio) (echo serverAudio) sent := ⟨rfl, rfl, readable.frames⟩

theorem echo_passes (serverSummary serverAudio : Fields) (sent : List Frame)
    (readable : ServerReadable serverSummary serverAudio sent)
    (meets : ServerMeets roundedShortest roundedLongest serverSummary serverAudio sent) :
    Passes serverSummary (echoing serverAudio) :=
  (framing_verdict serverSummary serverAudio sent readable _ _ sent
    (echo_readable serverSummary serverAudio sent readable)).passed.mpr ⟨meets, rfl, meets.headers⟩

-- The verdicts on a readable server summary are as claimed exactly when no duration breaks a bound
-- by so little that its rounding to a double does not.
theorem chunk_framing_judged (serverSummary serverAudio : Fields) (sent : List Frame)
    (readable : ServerReadable serverSummary serverAudio sent) :
    FramingJudged serverSummary serverAudio sent ↔ ¬ExcusedByRounding serverSummary serverAudio sent := by
  apply Iff.intro
  · intro judged excused
    have passes := echo_passes serverSummary serverAudio sent readable excused.1
    have clientReadable := echo_readable serverSummary serverAudio sent readable
    exact excused.2 ((judged.passes _ _ sent clientReadable).mp passes).1
  · intro unexcused
    have same : ServerMeets roundedShortest roundedLongest serverSummary serverAudio sent ↔
        ServerMeets minChunkUs maxChunkUs serverSummary serverAudio sent := by
      refine ⟨fun meets => ?_, meets_rounded serverSummary serverAudio sent⟩
      by_contra breaks
      exact unexcused ⟨meets, breaks⟩
    refine ⟨?_, ?_, ?_⟩
    · intro clientSummary clientAudio received clientReadable
      rw [← same]
      exact (framing_verdict serverSummary serverAudio sent readable _ _ received clientReadable).passed
    · intro clientSummary clientAudio received clientReadable
      exact (framing_verdict serverSummary serverAudio sent readable _ _ received clientReadable).raises
    · intro breaks
      exact server_blamed serverSummary serverAudio sent readable (mt same.mp breaks)

end verdict

section oneChunk

-- A stream of one chunk, of so many bytes of mono pcm.
def chunkRecord (size : Nat) : Json :=
  .obj [("byte_count", .int (size + 13 : Nat)), ("leading_hex", .str "04000000000000000000000000"),
    ("payload_byte_count", .int size)]

def chunkAudio (size : Nat) : Fields :=
  [("chunked_by", .str "implementation"), ("sent_chunk_frames", .arr [chunkRecord size])]

def chunkSummary (sampleRate size : Nat) : Fields :=
  [("status", .str "ok"), ("audio", .obj (chunkAudio size)), ("stream", .obj [("codec", .str "pcm"),
    ("sample_rate", .int sampleRate), ("bit_depth", .int 8), ("channels", .int 1)])]

def oneChunk (size : Nat) : Frame := ⟨size + 13, [4, 0, 0, 0, 0, 0, 0, 0, 0, 0, 0, 0, 0], some size⟩

theorem one_chunk_readable (sampleRate size : Nat) :
    ServerReadable (chunkSummary sampleRate size) (chunkAudio size) [oneChunk size] := by
  refine ⟨rfl, rfl, ?_⟩
  have leading : fromHex "04000000000000000000000000" = some [4, 0, 0, 0, 0, 0, 0, 0, 0, 0, 0, 0, 0] := by
    decide +kernel
  have frame : transportedFrame (chunkRecord size) = some (oneChunk size) := by
    have count : countOf (.int (size + 13 : Nat)) = some (size + 13) := count_of_count (some (size + 13))
    have payload : countOf (.int size) = some size := count_of_count (some size)
    rw [transportedFrame, chunkRecord]
    simp only [Json.asObj, Option.bind_eq_bind, Option.bind_some]
    change ((countOf (.int (size + 13 : Nat))).bind fun byteCount => _) = _
    rw [count, Option.bind_some]
    change ((fromHex "04000000000000000000000000").bind fun leading => _) = _
    rw [leading, Option.bind_some]
    have carried : getKey [("byte_count", .int (size + 13 : Nat)), ("leading_hex", .str "04000000000000000000000000"),
        ("payload_byte_count", .int size)] "payload_byte_count" = .int size := rfl
    rw [carried, payload]
    simp [requiredHeaderBytes, oneChunk]
  change transportedFrames (.arr [chunkRecord size]) = some [oneChunk size]
  rw [transportedFrames, List.mapM_cons, frame]
  rfl

-- One chunk is only asked not to be too long.
theorem one_chunk_meets (shortest longest : Rat) (sampleRate size : Nat) (positive : 0 < sampleRate) :
    @ServerMeets noFolding shortest longest (chunkSummary sampleRate size) (chunkAudio size) [oneChunk size] ↔
      (size * 1000000 : Rat) / sampleRate ≤ longest := by
  let _ := noFolding
  have format : @normalizedFormat noFolding (getKey (chunkSummary sampleRate size) "stream") =
      some ⟨"pcm", sampleRate, 8, 1⟩ := rfl
  have rate : bytesPerSecond ⟨"pcm", sampleRate, 8, 1⟩ = sampleRate := by
    simp [bytesPerSecond]
  have duration : durationUs (sampleRate : Int) (oneChunk size) = (size * 1000000 : Rat) / sampleRate := by
    simp [durationUs, oneChunk]
  apply Iff.intro
  · intro meets
    obtain byAdapter | ⟨_, stream, read, _, _, _, _, bounded⟩ := meets.durations
    · have attributed : getKey (chunkAudio size) "chunked_by" = .str "implementation" := rfl
      rw [attributed] at byAdapter
      simp at byAdapter
    · cases Option.some.inj (format.symm.trans read)
      have fits := (bounded 0 (oneChunk size) rfl).1
      rwa [rate, duration] at fits
  · intro fits
    refine ⟨List.cons_ne_nil _ _, by simp [oneChunk, audioChunkType], ?_, Or.inr ⟨rfl, _, format, rfl, ?_⟩⟩
    · simp [Frame.headerBytes, oneChunk]
    · refine ⟨(by norm_num : (0 : Int) < 8), rfl, ?_, ?_⟩
      · rw [rate]
        exact_mod_cast positive
      · intro position frame found
        rw [rate]
        cases position with
        | zero =>
            cases Option.some.inj found
            rw [duration]
            exact ⟨fits, fun notLast => absurd rfl notLast⟩
        | succ position => cases found

theorem chunk_of_25_ms_judged : @FramingJudged noUnicode noFolding (chunkSummary 48000 1200) (chunkAudio 1200)
    [oneChunk 1200] := by
  refine (@chunk_framing_judged noUnicode noFolding _ _ _ (one_chunk_readable 48000 1200)).mpr fun excused => ?_
  refine excused.2 ((one_chunk_meets _ _ 48000 1200 (by decide)).mpr ?_)
  norm_num [maxChunkUs]

-- One chunk lasts 10^-14 microseconds over 150 ms and passes.
theorem long_chunk_passes :
    @Passes noUnicode noFolding (chunkSummary (10 ^ 20) (15 * 10 ^ 18 + 1)) (echoing (chunkAudio (15 * 10 ^ 18 + 1))) ∧
      maxChunkUs < durationUs (10 ^ 20) (oneChunk (15 * 10 ^ 18 + 1)) ∧
      ¬@FramingJudged noUnicode noFolding (chunkSummary (10 ^ 20) (15 * 10 ^ 18 + 1)) (chunkAudio (15 * 10 ^ 18 + 1))
        [oneChunk (15 * 10 ^ 18 + 1)] := by
  let _ := noUnicode
  let _ := noFolding
  have readable := one_chunk_readable (10 ^ 20) (15 * 10 ^ 18 + 1)
  have rounded := (one_chunk_meets roundedShortest roundedLongest (10 ^ 20) (15 * 10 ^ 18 + 1) (by decide)).mpr
    (by norm_num [roundedLongest])
  have passes := @echo_passes noUnicode noFolding _ _ _ readable rounded
  refine ⟨passes, by norm_num [maxChunkUs, durationUs, oneChunk], fun judged => ?_⟩
  have clientReadable := echo_readable _ _ _ readable
  have meets := ((judged.passes _ _ _ clientReadable).mp passes).1
  have fits := (one_chunk_meets minChunkUs maxChunkUs (10 ^ 20) (15 * 10 ^ 18 + 1) (by decide)).mp meets
  norm_num [maxChunkUs] at fits

end oneChunk

end Conformance.Harness
