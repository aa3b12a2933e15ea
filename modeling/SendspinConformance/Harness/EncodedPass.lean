import SendspinConformance.Harness.SummariesPass

set_option autoImplicit false

namespace Conformance.Comparison

open Python Harness

section

variable [UnicodeData]

-- A section of a summary says a text that is not empty under a key.
def SaysText (summary : Fields) (name key text : String) : Prop := Says summary name key (.str text) ∧ text ≠ ""

omit [UnicodeData] in
theorem some_text_iff (value : Json) (text : String) : someText value = some text ↔ value = .str text ∧ text ≠ "" := by
  cases value with
  | str found =>
      simp only [someText, String.isEmpty_iff, Json.str.injEq]
      constructor
      · intro read
        split at read
        · cases read
        · cases read
          exact ⟨rfl, ‹_›⟩
      · rintro ⟨rfl, nonempty⟩
        rw [if_neg nonempty]
  | _ => simp [someText]

-- The stream was sent at the rate and the channels of the source clip.
def AtSource (serverSummary stream : Fields) : Prop :=
  ∀ field ∈ ["sample_rate", "channels"], ∃ source, Says serverSummary "audio" field source ∧
    pyEqual (getKey stream field) source = true

-- Audio the client decoded from a lossless codec is that of the source clip.
def Faithful (serverSummary clientSummary stream : Fields) (expectedCodec : String) : Prop :=
  ∀ received, expectedCodec ∈ losslessCodecs → SaysText clientSummary "audio" "received_pcm_sha256" received →
    (∀ samples, Says clientSummary "audio" "received_sample_count" samples → samples.eqInt 0 = false) →
    ∃ source, SaysText serverSummary "audio" "source_pcm_sha256" source ∧
      (AtSource serverSummary stream → received = source)

def Unbroken (judged : Py DecodedAudio) : Prop := ∃ audio, judged = .ok audio ∧ ∀ reason, audio ≠ .violation reason

theorem converted_ok (serverAudio stream : Fields) :
    ∃ fields changed, ["sample_rate", "channels"].mapM (convertedField (.obj serverAudio) (.obj stream)) = .ok fields ∧
      fields.filterMap id = changed ∧ (changed = [] ↔ ∀ field ∈ ["sample_rate", "channels"],
        pyEqual (getKey stream field) (getKey serverAudio field) = true) := by
  refine ⟨_, _, by simp [convertedField, getField, bind, Except.bind, pure, Except.pure]; rfl, rfl, ?_⟩
  by_cases rate : pyEqual (getKey stream "sample_rate") (getKey serverAudio "sample_rate") = true <;>
    by_cases channels : pyEqual (getKey stream "channels") (getKey serverAudio "channels") = true <;>
      simp [rate, channels]

omit [UnicodeData] in
theorem sample_detail_ok (serverAudio clientAudio : Fields) :
    ∃ detail, sampleCountDetail (.obj serverAudio) (.obj clientAudio) = .ok detail := by
  simp only [sampleCountDetail, getField, bind, Except.bind]
  split
  · split <;> exact ⟨_, rfl⟩
  · exact ⟨_, rfl⟩

theorem decoded_unbroken (serverSummary clientSummary serverAudio clientAudio stream : Fields) (expectedCodec : String)
    (onServer : sectionOf serverSummary "audio" = .obj serverAudio)
    (onClient : sectionOf clientSummary "audio" = .obj clientAudio)
    (streamed : getKey serverSummary "stream" = .obj stream) (truthy : (Json.obj stream).truthy = true) :
    Unbroken (decodedAudioVerdict serverSummary clientSummary expectedCodec) ↔
      Faithful serverSummary clientSummary stream expectedCodec := by
  simp only [decodedAudioVerdict, Faithful, SaysText, AtSource, says_section _ _ _ _ onServer,
    says_section _ _ _ _ onClient, exists_eq_left', forall_eq', onServer, onClient, streamed, truthy, if_true, getField,
    bind, Except.bind, ← some_text_iff]
  by_cases lossless : expectedCodec ∈ losslessCodecs
  · simp only [List.contains_eq_mem, lossless, decide_true, Bool.not_true, Bool.false_eq_true, if_false, forall_const]
    cases received : someText (getKey clientAudio "received_pcm_sha256") with
    | none => simp [Unbroken]
    | some receivedHash =>
        cases silent : (getKey clientAudio "received_sample_count").eqInt 0 with
        | true => simp [Unbroken]
        | false =>
            cases source : someText (getKey serverAudio "source_pcm_sha256") with
            | none => simp [Unbroken]
            | some sourceHash =>
                obtain ⟨fields, changed, given, isChanged, atSource⟩ := converted_ok serverAudio stream
                obtain ⟨detail, detailed⟩ := sample_detail_ok serverAudio clientAudio
                simp only [given, isChanged, detailed, forall_eq', Option.some.injEq, exists_eq_left', ← atSource]
                by_cases same : changed = []
                · by_cases equal : receivedHash = sourceHash <;> simp [Unbroken, same, equal]
                · simp [Unbroken, same]
  · simp [lossless, Unbroken]

variable [Digests]

-- Where both sides know the codec header's hash, it is one hash.
def HeadersAgree (serverSummary clientSummary : Fields) : Prop :=
  ∀ server client, serverHeaderHash serverSummary (sectionOf serverSummary "audio") = .ok (some server) →
    streamCodecHeaderSha256 clientSummary = some client → server ≠ "" → client ≠ "" → server = client

omit [UnicodeData] [Digests] in
theorem transported_passes (codecLabel transported : String) (judged : Py DecodedAudio) :
    Succeeds (judged >>= fun audio => .ok (transportedVerdict codecLabel transported audio)) ↔ Unbroken judged := by
  rw [succeeds_bind]
  refine exists_congr fun audio => and_congr_right fun _ => ?_
  cases audio <;> simp [transportedVerdict, succeeds_passed, succeeds_failed]

omit [UnicodeData] in
theorem header_hash_ok (serverSummary serverAudio : Fields) :
    ∃ header, serverHeaderHash serverSummary (.obj serverAudio) = .ok header := by
  simp only [serverHeaderHash, getField, bind, Except.bind]
  split <;> exact ⟨_, rfl⟩

omit [UnicodeData] [Digests] in
theorem known_hash (header : Option String) (digest : String) :
    header.filter (!·.isEmpty) = some digest ↔ header = some digest ∧ digest ≠ "" := by
  simp [Option.filter_eq_some_iff]

theorem headers_pass (serverSummary clientSummary serverAudio clientAudio stream : Fields) (expectedCodec : String)
    (onServer : sectionOf serverSummary "audio" = .obj serverAudio)
    (onClient : sectionOf clientSummary "audio" = .obj clientAudio)
    (streamed : getKey serverSummary "stream" = .obj stream) (truthy : (Json.obj stream).truthy = true) :
    Succeeds (headersVerdict serverSummary clientSummary expectedCodec) ↔
      HeadersAgree serverSummary clientSummary ∧ Faithful serverSummary clientSummary stream expectedCodec := by
  obtain ⟨header, given⟩ := header_hash_ok serverSummary serverAudio
  have agree : HeadersAgree serverSummary clientSummary ↔ ∀ server client, header.filter (!·.isEmpty) = some server →
      (streamCodecHeaderSha256 clientSummary).filter (!·.isEmpty) = some client → server = client := by
    simp only [HeadersAgree, onServer, given, Except.ok.injEq, known_hash]
    grind
  rw [← decoded_unbroken _ _ _ _ _ _ onServer onClient streamed truthy, headersVerdict, agree, onServer, given]
  simp only [succeeds_bind, Except.ok.injEq, exists_eq_left']
  cases header.filter (!·.isEmpty) with
  | none => simp [transported_passes]
  | some server =>
      cases (streamCodecHeaderSha256 clientSummary).filter (!·.isEmpty) with
      | none => simp [transported_passes]
      | some client =>
          simp only [succeeds_unless, transported_passes, ne_eq, not_not]
          simp

-- The audio the client received is, byte for byte, what the server sent in the codec it was to send.
structure EncodedMatches (serverSummary clientSummary : Fields) (expectedCodec : String) : Prop where
  negotiated : streamCodec serverSummary = some expectedCodec
  observed : ∀ codec, streamCodec clientSummary = some codec → codec = expectedCodec
  sent : ∃ count, Says serverSummary "audio" "sent_audio_chunk_count" count ∧ Counted count
  received : ∃ count, Says clientSummary "audio" "audio_chunk_count" count ∧ Counted count
  bytes : ∃ digest, SaysText serverSummary "audio" "sent_encoded_sha256" digest ∧
    SaysText clientSummary "audio" "received_encoded_sha256" digest
  headers : HeadersAgree serverSummary clientSummary
  faithful : ∃ stream, getKey serverSummary "stream" = .obj stream ∧
    Faithful serverSummary clientSummary stream expectedCodec

omit [Digests] in
theorem codec_truthy (summary : Fields) (codec : String) (found : streamCodec summary = some codec) :
    ∃ stream, getKey summary "stream" = .obj stream ∧ (Json.obj stream).truthy = true := by
  rw [streamCodec] at found
  split at found
  · rename_i stream isStream
    refine ⟨stream, isStream, ?_⟩
    cases stream with
    | nil => simp [getKey, Json.isNull] at found
    | cons => rfl
  · cases found

theorem chunks_pass (serverSummary clientSummary : Fields) (expectedCodec : String) (stream : Fields)
    (streamed : getKey serverSummary "stream" = .obj stream) (truthy : (Json.obj stream).truthy = true) :
    Succeeds (chunksVerdict serverSummary clientSummary expectedCodec) ↔
      (∃ count, Says serverSummary "audio" "sent_audio_chunk_count" count ∧ Counted count) ∧
      (∃ count, Says clientSummary "audio" "audio_chunk_count" count ∧ Counted count) ∧
      (∃ digest, SaysText serverSummary "audio" "sent_encoded_sha256" digest ∧
        SaysText clientSummary "audio" "received_encoded_sha256" digest) ∧
      HeadersAgree serverSummary clientSummary ∧ Faithful serverSummary clientSummary stream expectedCodec := by
  simp only [chunksVerdict, succeeds_bind, succeeds_unless, says_iff]
  constructor
  · rintro ⟨sentCount, isSent, sent, sentCounted, receivedCount, isReceived, received, receivedCounted, someSent,
      someReceived, sentHash, isSentHash, receivedHash, isReceivedHash, passed⟩
    cases sentText : someText sentHash with
    | none => simp [sentText, succeeds_failed] at passed
    | some digest =>
        cases receivedText : someText receivedHash with
        | none => simp [sentText, receivedText, succeeds_failed] at passed
        | some other =>
            simp only [sentText, receivedText, succeeds_unless, ne_eq, not_not] at passed
            obtain ⟨rfl, passed⟩ := passed
            have ⟨serverAudio, onServer, _⟩ := isSent
            have ⟨clientAudio, onClient, _⟩ := isReceived
            obtain ⟨rfl, nonempty⟩ := (some_text_iff _ _).mp sentText
            obtain ⟨rfl, _⟩ := (some_text_iff _ _).mp receivedText
            exact ⟨⟨sentCount, isSent, sent, sentCounted, by omega⟩,
              ⟨receivedCount, isReceived, received, receivedCounted, by omega⟩,
              ⟨digest, ⟨isSentHash, nonempty⟩, isReceivedHash, nonempty⟩,
              (headers_pass _ _ _ _ _ _ onServer onClient streamed truthy).mp passed⟩
  · rintro ⟨⟨sentCount, isSent, sent, sentCounted, someSent⟩, ⟨receivedCount, isReceived, received, receivedCounted,
      someReceived⟩, ⟨digest, isSentHash, isReceivedHash⟩, agree⟩
    have ⟨serverAudio, onServer, _⟩ := isSent
    have ⟨clientAudio, onClient, _⟩ := isReceived
    refine ⟨sentCount, isSent, sent, sentCounted, receivedCount, isReceived, received, receivedCounted, by omega,
      by omega, .str digest, isSentHash.1, .str digest, isReceivedHash.1, ?_⟩
    rw [(some_text_iff _ digest).mpr ⟨rfl, isSentHash.2⟩]
    simpa using (headers_pass _ _ _ _ _ _ onServer onClient streamed truthy).mpr agree

theorem compare_encoded_passes (serverSummary clientSummary : Fields) (expectedCodec : String) :
    Succeeds (compareEncodedAudioSummaries serverSummary clientSummary expectedCodec) ↔
      StatusesOk serverSummary clientSummary ∧ EncodedMatches serverSummary clientSummary expectedCodec := by
  rw [compareEncodedAudioSummaries, succeeds_statuses]
  refine and_congr_right fun _ => ?_
  simp only [succeeds_unless, ne_eq, not_not]
  constructor
  · rintro ⟨negotiated, observed, passed⟩
    obtain ⟨stream, streamed, truthy⟩ := codec_truthy _ _ negotiated
    obtain ⟨sent, received, bytes, headers, faithful⟩ := (chunks_pass _ _ _ _ streamed truthy).mp passed
    refine ⟨negotiated, fun codec found => ?_, sent, received, bytes, headers, stream, streamed, faithful⟩
    by_contra differs
    exact observed ⟨by simp [found], by simpa [found] using differs⟩
  · rintro ⟨negotiated, observed, sent, received, bytes, headers, stream, streamed, faithful⟩
    obtain ⟨others, isOthers, truthy⟩ := codec_truthy _ _ negotiated
    cases streamed.symm.trans isOthers
    refine ⟨negotiated, ?_, (chunks_pass _ _ _ _ streamed truthy).mpr ⟨sent, received, bytes, headers, faithful⟩⟩
    rintro ⟨some_codec, differs⟩
    obtain ⟨codec, found⟩ := Option.isSome_iff_exists.mp some_codec
    exact differs (by rw [found, observed codec found])

end

end Conformance.Comparison
