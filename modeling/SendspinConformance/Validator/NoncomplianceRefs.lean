import SendspinConformance.Python.Text

set_option autoImplicit false

namespace Conformance.Validator

open Python

-- What a reason pattern is made of.
inductive Piece where
  | text (literal : String)
  -- (.+)
  | anything
  -- (a|b|c)
  | oneOf (choices : List String)
  -- (?!client/state\Z|client/command\b), which reads ahead and takes no text
  | notStateOrCommand
deriving DecidableEq, Repr

structure Reference where
  pattern : List Piece
  -- None marks a rule aiosendspin enforces that the spec does not make.
  ref : Option String
deriving DecidableEq, Repr

def isWordChar [UnicodeData] (char : Char) : Bool :=
  if isAscii char then char.isAlphanum || char == '_' else UnicodeData.isAlnum char

-- \b after a word character: the next character, if any, is not one.
def wordEnds [UnicodeData] : List Char → Bool
  | [] => true
  | char :: _ => !isWordChar char

def stateOrCommandAhead [UnicodeData] (rest : List Char) : Bool :=
  rest == "client/state".toList ||
    ("client/command".toList.isPrefixOf rest && wordEnds (rest.drop "client/command".toList.length))

-- pattern.fullmatch(text): some way of taking the text apart fits the pieces in order.
def fullmatch [UnicodeData] : List Piece → List Char → Bool
  | [], rest => rest.isEmpty
  | .text literal :: pieces, rest =>
      literal.toList.isPrefixOf rest && fullmatch pieces (rest.drop literal.toList.length)
  | .anything :: pieces, rest =>
      (List.range rest.length).any fun taken =>
        (rest.take (taken + 1)).all (· != '\n') && fullmatch pieces (rest.drop (taken + 1))
  | .oneOf choices :: pieces, rest =>
      choices.any fun choice =>
        choice.toList.isPrefixOf rest && fullmatch pieces (rest.drop choice.toList.length)
  | .notStateOrCommand :: pieces, rest => !stateOrCommandAhead rest && fullmatch pieces rest

def refs : List Reference :=
  [⟨[.anything, .text " sent ", .oneOf ["a boolean", "a number", "a string"], .text " for '", .anything,
    .text "' instead of an integer"],
    some "messaging.md:24"⟩,
  ⟨[.anything, .text " sent ", .oneOf ["a boolean", "a number", "a string"], .text " instead of an integer"],
    some "messaging.md:24"⟩,
  ⟨[.anything, .text " sent ", .oneOf ["a string", "an integer"], .text " for '", .anything,
    .text "' instead of a boolean"],
    some "messaging.md:24"⟩,
  ⟨[.anything, .text " sent ", .oneOf ["a string", "an integer"], .text " instead of a boolean"],
    some "messaging.md:24"⟩,
  ⟨[.anything, .text " sent ", .oneOf ["an integer", "a number"], .text " for '", .anything,
    .text "' instead of a string"],
    some "messaging.md:24"⟩,
  ⟨[.anything, .text " sent ", .oneOf ["an integer", "a number"], .text " instead of a string"],
    some "messaging.md:24"⟩,
  ⟨[.anything, .text " sent ", .oneOf ["an object"], .text " for '", .anything, .text "' instead of an array"],
    some "messaging.md:24"⟩,
  ⟨[.anything, .text " sent ", .oneOf ["an object"], .text " instead of an array"], some "messaging.md:24"⟩,
  ⟨[.anything, .text " sent ", .oneOf ["null"], .text " for '", .anything, .text "' instead of a value"],
    some "messaging.md:22"⟩,
  ⟨[.anything, .text " sent ", .oneOf ["null"], .text " instead of a value"], some "messaging.md:22"⟩,
  ⟨[.text "Noise message 2 data is not canonical base64url"], some "messaging.md:164"⟩,
  ⟨[.text "Noise message 2 payload is not the literal bytes \x7b\x7d"], some "messaging.md:171"⟩,
  ⟨[.text "Pairing PSK client/pair-finalize sent without client/pair-init"], some "pairing.md:59"⟩,
  ⟨[.text "client-stream/start announced codec '", .oneOf ["opus", "flac", "pcm"],
    .text "', which server/hello did not list"],
    some "roles/source/v1.md:20"⟩,
  ⟨[.text "client/hello artwork declared the removed 'bmp' format"], some "roles/artwork/v1.md:13"⟩,
  ⟨[.text "client/hello artwork used pre-rename dimension keys: ", .anything],
    some "messaging.md:28, roles/artwork/v1.md:14-15"⟩,
  ⟨[.text "client/hello declared artwork@v1_support, superseded by the client/state artwork object"],
    some "messaging.md:28, roles/artwork/v1.md:10"⟩,
  ⟨[.text "client/hello declared player supported_commands, superseded by client/state"],
    some "messaging.md:28, roles/player/v1.md:50"⟩,
  ⟨[.text "client/hello declared visualizer stream configuration, superseded by client/state"],
    some "messaging.md:28, roles/visualizer/v1.md:19"⟩,
  ⟨[.text "client/hello did not offer the pairing_psk method"], some "messaging.md:219, pairing.md:309"⟩,
  ⟨[.text "client/hello listed roles not of the form role@version"], some "messaging.md:208"⟩,
  ⟨[.text "client/hello listed roles without their required support object, not activating: ", .anything],
    some "messaging.md:216-218, messaging.md:225"⟩,
  ⟨[.text "client/hello offered qr_code without a display out_channel"], some "pairing.md:315"⟩,
  ⟨[.text "client/hello offered the pre-rename PIN pairing methods"],
    some "messaging.md:28, pairing.md:311, pairing.md:313, pairing.md:319"⟩,
  ⟨[.text "client/hello omitted the required supported_pair_methods"], some "messaging.md:219"⟩,
  ⟨[.text "client/hello omitted the required unpaired_access.enabled"], some "messaging.md:220-221"⟩,
  ⟨[.text "client/hello player@v1_support listed neither flac nor pcm"], some "roles/player/v1.md:20"⟩,
  ⟨[.text "client/hello sent a mac_address not in lowercase colon-separated form"], some "messaging.md:207"⟩,
  ⟨[.text "client/hello sent a malformed pair-method descriptor"], some "pairing.md:309-315"⟩,
  ⟨[.text "client/hello sent support objects for unlisted roles: ", .anything], some "messaging.md:216-218"⟩,
  ⟨[.text "client/hello sent supported_pair_methods as a list"], some "messaging.md:219"⟩,
  ⟨[.text "client/hello sent the removed trust_level key"], some "messaging.md:28"⟩,
  ⟨[.text "client/hello used unversioned support keys: ", .anything], some "messaging.md:223"⟩,
  ⟨[.text "client/init client_id is not canonical base64url"], some "messaging.md:145"⟩,
  ⟨[.text "client/pair-retry omitted the required payload object"], some "pairing.md:375"⟩,
  ⟨[.text "client/pair-retry sent a payload that is not an object"], some "pairing.md:375"⟩,
  ⟨[.text "client/state after server/activate has an active artwork role but no artwork state"],
    some "messaging.md:297"⟩,
  ⟨[.text "client/state after server/activate has an active player role but no player state"],
    some "messaging.md:297"⟩,
  ⟨[.text "client/state after server/activate has an active source role but no source state"],
    some "messaging.md:297"⟩,
  ⟨[.text "client/state after server/activate has an active visualizer role but no visualizer state"],
    some "messaging.md:297"⟩,
  ⟨[.text "client/state artwork declared the removed 'bmp' format"], some "roles/artwork/v1.md:13"⟩,
  ⟨[.text "client/state artwork used pre-rename dimension keys: ", .anything],
    some "messaging.md:28, roles/artwork/v1.md:14-15"⟩,
  ⟨[.text "client/state declared the pre-rename 'set_static_delay' command"], some "roles/player/v1.md:50"⟩,
  ⟨[.text "client/state declared unrecognized supported_commands"], some "roles/player/v1.md:50"⟩,
  ⟨[.text "client/state omitted muted despite declaring the mute command"], some "roles/player/v1.md:46"⟩,
  ⟨[.text "client/state omitted required player timing fields"], some "roles/player/v1.md:47-49"⟩,
  ⟨[.text "client/state omitted required supported_commands"], some "roles/player/v1.md:50"⟩,
  ⟨[.text "client/state omitted the required 'available' field"], some "messaging.md:301"⟩,
  ⟨[.text "client/state omitted volume despite declaring the volume command"], some "roles/player/v1.md:45"⟩,
  ⟨[.text "client/state preferred a format not in the client's declared supported_formats"],
    some "roles/player/v1.md:51"⟩,
  ⟨[.text "client/state reported available: false before client-stream/end"], some "roles/source/v1.md:73"⟩,
  ⟨[.text "client/state requested visualizer 'spectrum' without a spectrum configuration"],
    some "roles/visualizer/v1.md:28"⟩,
  ⟨[.text "client/state sent a non-positive visualizer rate_max"], some "roles/visualizer/v1.md:27"⟩,
  ⟨[.text "client/state source signal sent without line_sense support"], some "roles/source/v1.md:40"⟩,
  ⟨[.text "client/state used legacy player.state instead of top-level available"],
    some "messaging.md:28, messaging.md:303"⟩,
  ⟨[.text "client/state used the legacy top-level 'state' field"], some "messaging.md:28, messaging.md:303"⟩,
  ⟨[.text "client/state used the pre-rename 'static_delay_ms' key"], some "messaging.md:28, roles/player/v1.md:47"⟩,
  ⟨[.text "client/state visualizer types contained non-string entries"], some "roles/visualizer/v1.md:26"⟩,
  ⟨[.text "client dialed the server while advertising _sendspin._tcp"], some "connection.md:21"⟩,
  ⟨[.text "client sent client_stream/end, superseded by client-stream/end"], some "roles/source/v1.md:53"⟩,
  ⟨[.text "client sent client_stream/start, superseded by client-stream/start"], some "roles/source/v1.md:106"⟩,
  ⟨[.text "client-stream/start FLAC codec_header must contain STREAMINFO"], some "roles/source/v1.md:93"⟩,
  ⟨[.text "client-stream/start announced a pcm bit_depth that is not a whole number of bytes"],
    some "roles/source/v1.md:88"⟩,
  ⟨[.text "client-stream/start announced an unsupported bit_depth"], none⟩,
  ⟨[.text "client-stream/start announced an unsupported channels count"], none⟩,
  ⟨[.text "client-stream/start announced an unsupported sample_rate"], none⟩,
  ⟨[.text "client-stream/start codec_header is not valid Base64"], some "roles/source/v1.md:96"⟩,
  ⟨[.text "client-stream/start sent a codec_header for opus"], some "roles/source/v1.md:94"⟩,
  ⟨[.text "client-stream/start sent a codec_header for pcm"], some "roles/source/v1.md:92"⟩,
  ⟨[.text "client-stream/start sent without a preceding source start command"], some "roles/source/v1.md:63"⟩,
  ⟨[.text "client_kc is not canonical base64url"], some "pairing.md:381"⟩,
  ⟨[.text "commit_B is not canonical base64url"], some "pairing.md:341"⟩,
  ⟨[.text "connected unencrypted (transition mode)"], some "connection.md:66, messaging.md:16"⟩,
  ⟨[.text "did not send the ", .oneOf ["player", "source", "artwork", "visualizer"],
    .text " client/state object after server/activate in time"],
    some "messaging.md:297"⟩,
  ⟨[.text "did not send client/goodbye after server/unpair in time"], some "messaging.md:456"⟩,
  ⟨[.text "did not send the required initial client/state in time"], some "messaging.md:297, messaging.md:299"⟩,
  ⟨[.text "fragment used legacy binary message IDs 2/3"], some "messaging.md:76-77"⟩,
  ⟨[.text "initial client/state has an active artwork role but no artwork state"], some "messaging.md:297"⟩,
  ⟨[.text "initial client/state has an active player role but no player state"], some "messaging.md:297"⟩,
  ⟨[.text "initial client/state has an active source role but no source state"], some "messaging.md:297"⟩,
  ⟨[.text "initial client/state has an active visualizer role but no visualizer state"], some "messaging.md:297"⟩,
  ⟨[.text "initial client/state omitted the required 'available' field"], some "messaging.md:301"⟩,
  ⟨[.text "long_term_psk is not canonical base64url"], some "pairing.md:390"⟩,
  ⟨[.text "nonce_B is not canonical base64url"], some "messaging.md:28, pairing.md:382"⟩,
  ⟨[.text "pair/abort sent the pre-rename pin_mismatch reason"], some "pairing.md:403, pairing.md:407"⟩,
  ⟨[.text "pake_msg_2 is not canonical base64url"], some "pairing.md:361"⟩,
  ⟨[.text "sent ", .oneOf ["client/pair-auth", "client/pair-confirm", "client/pair-finalize", "client/pair-retry"],
    .text " before client/pair-init"],
    some "pairing.md:325"⟩,
  ⟨[.text "sent ", .oneOf ["client/pair-init", "client/pair-pending"],
    .text " with a pairing_index ahead of the server's count"],
    some "pairing.md:327"⟩,
  ⟨[.text "sent ",
    .oneOf ["client/pair-pending", "client/pair-init", "client/pair-finalize", "client/pair-auth",
      "client/pair-confirm", "client/pair-retry", "pair/abort"],
    .text " before any pairing server/activate"],
    some "pairing.md:325"⟩,
  ⟨[.text "sent a malformed ", .notStateOrCommand, .anything], some "messaging.md:24"⟩,
  ⟨[.text "sent a controller command the server did not offer"], some "roles/controller/v1.md:13"⟩,
  ⟨[.text "sent a malformed client/command controller object"], some "roles/controller/v1.md:12-17"⟩,
  ⟨[.text "sent a malformed client/state"], some "messaging.md:303-309"⟩,
  ⟨[.text "sent a message before the first server/activate"], some "messaging.md:14"⟩,
  ⟨[.text "sent a message before the server/activate that follows a re-handshake"], some "connection.md:153"⟩,
  ⟨[.text "sent a message that is not a valid message envelope"], some "messaging.md:24"⟩,
  ⟨[.text "sent a message without a payload object"], some "messaging.md:24"⟩,
  ⟨[.text "sent a pcm source audio chunk that is not a whole number of frames"], some "roles/source/v1.md:92"⟩,
  ⟨[.text "sent a second client/hello after the hello exchange"], some "messaging.md:198"⟩,
  ⟨[.text "sent a server-to-client binary message type"], some "messaging.md:36"⟩,
  ⟨[.text "sent a server-to-client message"], some "messaging.md:26"⟩,
  ⟨[.text "sent a source audio chunk longer than 150 ms"], some "roles/source/v1.md:114"⟩,
  ⟨[.text "sent a source audio chunk shorter than its header"], some "roles/source/v1.md:108-109"⟩,
  ⟨[.text "sent a source audio chunk that failed to decode"], some "roles/source/v1.md:90"⟩,
  ⟨[.text "sent a stream/request-format artwork object, superseded by the client/state artwork object"],
    some "roles/artwork/v1.md:11"⟩,
  ⟨[.text "sent a stream/request-format player object, superseded by the client/state player format"],
    some "roles/player/v1.md:51"⟩,
  ⟨[.text "sent a stream/request-format visualizer object, superseded by the client/state visualizer object"],
    some "roles/visualizer/v1.md:19"⟩,
  ⟨[.text "sent a stream/request-format without a role object"], none⟩,
  ⟨[.text "sent an empty flac or opus source audio chunk"], some "roles/source/v1.md:93-94"⟩,
  ⟨[.text "sent an unsolicited management/result"], none⟩,
  ⟨[.text "sent client/init after the connection was established"], some "messaging.md:143"⟩,
  ⟨[.text "sent client/pair-retry past the pairing round limit"], some "pairing.md:185"⟩,
  ⟨[.text "sent management/result (deprecated management activity)"], none⟩,
  ⟨[.text "sent noise/handshake outside a re-handshake"], some "messaging.md:162, messaging.md:177"⟩,
  ⟨[.text "sent source audio while reporting available: false"], some "roles/source/v1.md:104"⟩,
  ⟨[.text "sent source audio without an open input stream"], some "roles/source/v1.md:104"⟩,
  ⟨[.text "stream/request-format artwork channel: format, width and height are required for source ",
    .oneOf ["album", "artist"]],
    some "roles/artwork/v1.md:13-15"⟩,
  ⟨[.text "stream/request-format artwork dimensions must be positive: ", .oneOf ["width", "height", "width, height"]],
    none⟩,
  ⟨[.text "stream/request-format artwork requested the removed 'bmp' format"], some "roles/artwork/v1.md:13"⟩,
  ⟨[.text "stream/request-format artwork used pre-rename dimension keys: ", .anything],
    some "messaging.md:28, roles/artwork/v1.md:14-15"⟩,
  ⟨[.text "stream/request-format requested a format not in the client's declared supported_formats"],
    some "roles/player/v1.md:51"⟩,
  ⟨[.text "stream/request-format set buffer_capacity, not a visualizer field here"],
    some "messaging.md:28, roles/visualizer/v1.md:15"⟩,
  ⟨[.text "stream/request-format targeted an unknown artwork channel"], none⟩,
  ⟨[.text "stream/request-format visualizer fields must be positive: ",
    .oneOf ["rate_max", "buffer_capacity", "rate_max, buffer_capacity"]],
    some "roles/visualizer/v1.md:27"⟩,
  ⟨[.text "unencrypted client/hello omitted required version"], some "messaging.md:146"⟩,
  ⟨[.text "wrapped_nonce_B is not canonical base64url"], some "pairing.md:382"⟩,
  ⟨[.text "wrapped_psk is not canonical base64url"], some "pairing.md:391"⟩]

-- A reason no pattern matches raises UnmappedReasonError.
def specRefFor [UnicodeData] (reason : String) : Py (Option String) :=
  match refs.find? fun reference => fullmatch reference.pattern reason.toList with
  | some reference => .ok reference.ref
  | none => .error ⟨"UnmappedReasonError", reason⟩

end Conformance.Validator
