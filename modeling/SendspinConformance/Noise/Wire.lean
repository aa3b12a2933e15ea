import SendspinConformance.Base.Slices
import SendspinConformance.Python.Text

set_option autoImplicit false

namespace Conformance.Noise

open Base Python

abbrev Bytes := List UInt8

-- constants

def msgTypeJsonBody : UInt8 := 0
def msgTypeFragment : UInt8 := 1
def fragmentFlagLast : UInt8 := 0x01
def fragmentFlagFirst : UInt8 := 0x02
def fragmentFlagsReserved : UInt8 := 0xFC
def msgTypeFragmentMore : UInt8 := 2
def msgTypeFragmentEnd : UInt8 := 3
def maxTransportPlaintext : Nat := 65535 - 16

-- wire

def maxReassembledMessageBytes : Nat := 64 * 1024 * 1024

def transportBinaryTypes : List UInt8 := [msgTypeFragment, 2, 3]

-- text.encode("utf-8")
def utf8Encode (text : String) : Bytes := text.toUTF8.data.toList

-- data.decode("utf-8"); none where it raises UnicodeDecodeError
def utf8Decode (data : Bytes) : Option String := String.fromUTF8? ⟨data.toArray⟩

theorem utf8_decode_encode (text : String) : utf8Decode (utf8Encode text) = some text := by
  have bytes : (⟨(utf8Encode text).toArray⟩ : ByteArray) = text.toByteArray := by
    rw [utf8Encode, Array.toArray_toList]
    rfl
  rw [utf8Decode, bytes, String.fromUTF8?, dif_pos text.isValidUTF8]
  rfl

-- An aiohttp message, as receive() returns it.
inductive WsMessage where
  | text (data : String)
  | binary (data : Bytes)
  | error (reason : String)
  | closed
deriving DecidableEq, Repr

-- A frame as it arrived. A binary frame comes with what the session decrypts it to,
-- none where that raises NoiseInvalidMessage.
inductive RawFrame where
  | binary (data : Bytes) (plaintext : Option Bytes)
  | error (reason : String)
  | closed
  | other (typeName : String) (data : Bytes)
deriving DecidableEq, Repr

-- A message being reassembled: _reasm_type, _reasm_legacy and _reasm_buf.
structure InFlight where
  type : UInt8
  legacy : Bool
  buffer : Bytes
deriving DecidableEq, Repr

-- An inbound call of the frame tap.
structure Tapped where
  data : Bytes
  error : Option String
deriving DecidableEq, Repr

-- legacyOptIn says whether on_legacy_fragment is set, and legacySeen how often it was called.
structure Receiver where
  legacyOptIn : Bool
  inFlight : Option InFlight := none
  legacySeen : Nat := 0
  tapped : List Tapped := []
deriving DecidableEq, Repr

-- What _decode_frame makes of one frame: nothing yet, a message, or the UnicodeDecodeError
-- of a JSON body that is not UTF-8.
inductive Decoded where
  | pending
  | message (message : WsMessage)
  | raised
deriving DecidableEq, Repr

namespace Receiver

-- _error
def error (receiver : Receiver) (message : String) : Receiver × Decoded :=
  ({ receiver with inFlight := none }, .message (.error message))

def tap (receiver : Receiver) (data : Bytes) (error : Option String) : Receiver :=
  { receiver with tapped := receiver.tapped ++ [⟨data, error⟩] }

-- _dispatch, of a type byte and what follows it
def dispatch (receiver : Receiver) (type : UInt8) (data : Bytes) : Receiver × Decoded :=
  if type = msgTypeJsonBody then
    match utf8Decode data with
    | none => (receiver, .raised)
    | some text => (receiver.tap (type :: data) none, .message (.text text))
  else (receiver.tap (type :: data) none, .message (.binary (type :: data)))

-- _append_fragment
def appendFragment (receiver : Receiver) (flight : InFlight) (data : Bytes) (last : Bool) : Receiver × Decoded :=
  if maxReassembledMessageBytes < flight.buffer.length + data.length then
    receiver.error "fragmented message exceeds maximum reassembly size"
  else
    let buffer := flight.buffer ++ data
    if !last then ({ receiver with inFlight := some { flight with buffer } }, .pending)
    else { receiver with inFlight := none }.dispatch flight.type buffer

def hexByte (byte : UInt8) : String := String.ofList (hexDigits 2 byte.toNat)

-- _on_fragment, of what follows the type byte
def onFragment (receiver : Receiver) (rest : Bytes) : Receiver × Decoded :=
  match rest with
  | [] => receiver.error "fragment frame missing flags byte"
  | flags :: data =>
      let last := flags &&& fragmentFlagLast != 0
      if flags &&& fragmentFlagsReserved != 0 then
        receiver.error ("fragment flags 0x" ++ hexByte flags ++ " set reserved bits")
      else if flags &&& fragmentFlagFirst != 0 then
        if receiver.inFlight.isSome then receiver.error "first fragment while a fragmented message is in flight"
        else
          match data with
          | [] => receiver.error "first fragment missing orig_type"
          | type :: chunk =>
              if type = msgTypeFragment then receiver.error "first fragment has orig_type 1"
              else receiver.appendFragment ⟨type, false, []⟩ chunk last
      else
        match receiver.inFlight with
        | none => receiver.error "continuation fragment with no fragmented message in flight"
        | some flight =>
            if flight.legacy then receiver.error "type 1 fragment inside a legacy fragmented message"
            else receiver.appendFragment flight data last

-- _on_legacy_fragment, of a type byte 2 or 3 and what follows it
def onLegacyFragment (receiver : Receiver) (type : UInt8) (rest : Bytes) : Receiver × Decoded :=
  let last := type == msgTypeFragmentEnd
  match receiver.inFlight with
  | none =>
      if last then receiver.error "legacy fragment-end frame with no fragmented message in flight"
      else
        match rest with
        | [] => receiver.error "legacy fragment start frame missing orig_type"
        | origType :: chunk =>
            if transportBinaryTypes.contains origType then
              receiver.error ("legacy fragment has reserved orig_type " ++ toString origType.toNat)
            else
              { receiver with legacySeen := receiver.legacySeen + 1 }.appendFragment ⟨origType, true, []⟩ chunk false
  | some flight =>
      if !flight.legacy then receiver.error "legacy fragment inside a type 1 fragmented message"
      else receiver.appendFragment flight rest last

-- The part of _decode_frame after a frame has been decrypted.
def onPlaintext (receiver : Receiver) (plaintext : Bytes) : Receiver × Decoded :=
  match plaintext with
  | [] => receiver.error "empty plaintext after Noise decrypt"
  | type :: data =>
      if type = msgTypeFragment then receiver.onFragment data
      else if (type == msgTypeFragmentMore || type == msgTypeFragmentEnd) && receiver.legacyOptIn then
        receiver.onLegacyFragment type data
      else if receiver.inFlight.isSome then
        receiver.error "non-fragment frame while a fragmented message is in flight"
      else receiver.dispatch type data

-- _decode_frame
def decodeFrame (receiver : Receiver) : RawFrame → Receiver × Decoded
  | .closed => (receiver, .message .closed)
  | .binary _ none => receiver.error "Noise transport frame failed authentication"
  | .binary _ (some plaintext) => receiver.onPlaintext plaintext
  | .error reason => (receiver, .message (.error reason))
  | .other typeName _ => receiver.error ("unexpected " ++ typeName ++ " frame after Noise handshake")

-- What _decode reports of a frame that failed; a message that is an error already is not reported.
def failureTap : RawFrame → Decoded → Option Tapped
  | .binary data _, .message (.error reason) => some ⟨data, some reason⟩
  | .other _ data, .message (.error reason) => some ⟨data, some reason⟩
  | _, _ => none

-- _decode
def decode (receiver : Receiver) (raw : RawFrame) : Receiver × Decoded :=
  let decoded := receiver.decodeFrame raw
  match failureTap raw decoded.2 with
  | none => decoded
  | some failure => (decoded.1.tap failure.data failure.error, decoded.2)

-- What one frame gives the caller of receive().
def received : Decoded → List Decoded
  | .pending => []
  | decoded => [decoded]

-- receive(), called until the frames are used up: the receiver they leave, and what the calls
-- returned or raised.
def receiveAll (receiver : Receiver) : List RawFrame → Receiver × List Decoded
  | [] => (receiver, [])
  | raw :: rest =>
      let decoded := receiver.decode raw
      let later := decoded.1.receiveAll rest
      (later.1, received decoded.2 ++ later.2)

end Receiver

-- The type byte of a fragment frame, its flags and, on the first one, the type of the message.
def fragmentHeader (type : UInt8) (last index : Nat) : Bytes :=
  let flags := if index = last then fragmentFlagLast else 0
  if index = 0 then [msgTypeFragment, flags ||| fragmentFlagFirst, type] else [msgTypeFragment, flags]

-- The frames of _fragment's chunks.
def fragmentFrames (type : UInt8) (chunks : List Bytes) : List Bytes :=
  chunks.mapIdx fun index chunk => fragmentHeader type (chunks.length - 1) index ++ chunk

-- _fragment, of a type byte and what follows it
def fragment (type : UInt8) (data : Bytes) : List Bytes :=
  let firstCap := maxTransportPlaintext - 3
  let contCap := maxTransportPlaintext - 2
  fragmentFrames type (data.take firstCap :: slices data firstCap contCap)

-- The frames _fragment_legacy cuts what follows its first frame into.
def legacyTail (chunks : List Bytes) : List Bytes :=
  chunks.mapIdx fun index chunk =>
    (if index = chunks.length - 1 then msgTypeFragmentEnd else msgTypeFragmentMore) :: chunk

-- _fragment_legacy
def fragmentLegacy (type : UInt8) (data : Bytes) : List Bytes :=
  let firstCap := maxTransportPlaintext - 2
  let contCap := maxTransportPlaintext - 1
  (msgTypeFragmentMore :: type :: data.take firstCap) :: legacyTail (slices (data.drop firstCap) 0 contCap)

-- A message _send_plaintext is given, as its type byte and what follows.
abbrev Message := UInt8 × Bytes

-- A message handed to send_str or send_bytes.
inductive Outgoing where
  | str (data : String)
  | bytes (data : Bytes)
deriving DecidableEq, Repr

-- The plaintext of a message; an error where send_bytes raises ValueError.
def Outgoing.plaintext : Outgoing → Py Message
  | .str data => .ok (msgTypeJsonBody, utf8Encode data)
  | .bytes [] => .error ⟨"ValueError", "binary payload must include a leading type byte"⟩
  | .bytes (type :: data) =>
      if transportBinaryTypes.contains type then
        .error ⟨"ValueError", "binary type " ++ toString type.toNat ++ " is reserved for the transport"⟩
      else .ok (type, data)

-- The frames _send_plaintext encrypts and sends.
def sendPlaintext (legacyFragmentFraming : Bool) (type : UInt8) (data : Bytes) : List Bytes :=
  if (type :: data).length ≤ maxTransportPlaintext then [type :: data]
  else if legacyFragmentFraming then fragmentLegacy type data
  else fragment type data

end Conformance.Noise
