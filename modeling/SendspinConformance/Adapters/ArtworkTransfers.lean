import SendspinConformance.Adapters.FragmentsTraced
import SendspinConformance.Python.Hex

set_option autoImplicit false

namespace Conformance.Adapters

open Python Protocol Base

-- What a connection's trace shows of artwork: a transfer's announce with its total size, a part, a
-- cancel, and a write completion, which covers all before it.
inductive ArtworkEvent where
  | announce (channel total : Nat)
  | part (channel : Nat) (data : Bytes)
  | cancel (channel : Nat)
  | written
deriving DecidableEq

def ArtworkEvent.isWritten : ArtworkEvent → Bool
  | .written => true
  | _ => false

-- The image of a transfer of which some bytes were sent: its parts reach the total before it is
-- cancelled or another announce replaces it, and a later write completion covers them.
def imageOf (channel total : Nat) (gathered : Bytes) : List ArtworkEvent → List SentArtwork
  | [] => []
  | event :: rest =>
      if total ≤ gathered.length then
        if (event :: rest).any ArtworkEvent.isWritten then [⟨channel, gathered⟩] else []
      else
        match event with
        | .announce _ _ => []
        | .cancel other => if other = channel then [] else imageOf channel total gathered rest
        | .part other data =>
            if other = channel then imageOf channel total (gathered ++ data) rest
            else imageOf channel total gathered rest
        | .written => imageOf channel total gathered rest

-- The images sent in full. A transfer is over before the next one is announced, so the order of
-- the announces is that of the completions.
def imagesSent : List ArtworkEvent → List SentArtwork
  | [] => []
  | .announce channel total :: rest => imageOf channel total [] rest ++ imagesSent rest
  | _ :: rest => imagesSent rest

-- An artwork message.
inductive ArtworkMessage where
  | announce (channel : Fin 4) (timestamp total : Nat)
  | part (channel : Fin 4) (data : Bytes)
  | cancel (channel : Fin 4)

def artworkId (channel : Fin 4) : UInt8 := UInt8.ofNat (8 + channel.val)

def ArtworkMessage.plaintext : ArtworkMessage → Bytes
  | .announce channel timestamp total =>
      artworkId channel :: artworkAnnounceFlag :: (bigEndianBytes 8 timestamp ++ bigEndianBytes 4 total)
  | .part channel data => artworkId channel :: 0 :: data
  | .cancel channel => [artworkId channel, artworkCancelFlag]

-- The event of a message's plaintext, where it is an artwork message.
def eventOf (plaintext : Bytes) : Option ArtworkEvent :=
  match plaintext with
  | id :: flags :: data =>
      if firstArtworkMessageId ≤ id && id ≤ lastArtworkMessageId then
        let channel := id.toNat - firstArtworkMessageId.toNat
        if flags &&& artworkCancelFlag ≠ 0 then some (.cancel channel)
        else if flags &&& artworkAnnounceFlag ≠ 0 then
          if plaintext.length ≠ artworkAnnounceBytes then none
          else some (.announce channel (readBe ((data.drop timestampBytes).take artworkTotalSizeBytes)))
        else some (.part channel data)
      else none
  | _ => none

-- The transport's fragments: the type and the bytes of the message gathered so far.
structure Reassembly where
  type : Option UInt8 := none
  data : Bytes := []

def Reassembly.gather (state : Reassembly) (flags : UInt8) (rest : Bytes) : Reassembly :=
  match rest with
  | type :: data =>
      if flags &&& firstFragmentFlag ≠ 0 then ⟨some type, data⟩ else ⟨state.type, state.data ++ rest⟩
  | [] => state

-- One fragment after its ID and flags, with the message it completes.
def Reassembly.add (state : Reassembly) (flags : UInt8) (rest : Bytes) : Reassembly × Option Bytes :=
  match (state.gather flags rest).type with
  | some type =>
      if flags &&& lastFragmentFlag = 0 then (state.gather flags rest, none)
      else ({}, some (type :: (state.gather flags rest).data))
  | none => (state.gather flags rest, none)

-- An outbound binary frame of the connection, as the transport carries it.
inductive Carried where
  | whole (plaintext : Bytes)
  | fragment (flags : UInt8) (rest : Bytes)

def carried (id : Nat) (message : TracedMessage) : Option Carried :=
  if message.connectionId = id ∧ message.written = false ∧ message.direction = .outbound ∧ message.binary = true then
    match message.plaintext with
    | kind :: flags :: rest =>
        some (if kind = fragmentMessageId then .fragment flags rest else .whole message.plaintext)
    | plaintext => some (.whole plaintext)
  else none

-- The artwork events of a connection's trace, whole messages and reassembled ones alike.
def eventsOf (id : Nat) (state : Reassembly) : List TracedMessage → List ArtworkEvent
  | [] => []
  | message :: rest =>
      if message.connectionId = id ∧ message.written = true then .written :: eventsOf id state rest
      else
        match carried id message with
        | none => eventsOf id state rest
        | some (.whole plaintext) => (eventOf plaintext).toList ++ eventsOf id state rest
        | some (.fragment flags more) =>
            ((state.add flags more).2.bind eventOf).toList ++ eventsOf id (state.add flags more).1 rest

end Conformance.Adapters
