import Mathlib.Data.List.Dedup
import Mathlib.Data.List.Sort
import SendspinConformance.Python.Hex

set_option autoImplicit false

namespace Conformance.Harness

open Python

-- _aiosendspin_protocol_evidence

def framePrefixBytes : Nat := 13

def binaryFrameRecord (frame : List UInt8) : Fields :=
  [("byte_count", .int frame.length), ("leading_hex", .str (toHex (frame.take framePrefixBytes)))]

-- The payload sizes by timestamp; a timestamp two chunks carry has none.
abbrev ChunkPayloadSizes := Int → Option (Option Nat)

def ChunkPayloadSizes.record (sizes : ChunkPayloadSizes) (timestampUs : Int) (payload : List UInt8) :
    ChunkPayloadSizes := fun other =>
  if other = timestampUs then (if (sizes timestampUs).isSome then some none else some (some payload.length))
  else sizes other

-- {**fields, key: value}
def setKey (fields : Fields) (key : String) (value : Json) : Fields :=
  if hasKey fields key then fields.map fun entry => if entry.1 = key then (key, value) else entry
  else fields ++ [(key, value)]

def ofCount (count : Option Nat) : Json :=
  match count with
  | some size => .int size
  | none => .null

-- One frame of ChunkPayloadSizes.paired; none where leading_hex cannot be read.
def ChunkPayloadSizes.pairedFrame (sizes : ChunkPayloadSizes) (frame : Fields) : Option Fields := do
  let leading ← fromHex (← (getKey frame "leading_hex").asStr)
  let timestampUs := intFromBytes ((leading.drop 1).take 8)
  let size := if 9 ≤ leading.length then (sizes timestampUs).join else none
  some (setKey frame "payload_byte_count" (ofCount size))

def ChunkPayloadSizes.paired (sizes : ChunkPayloadSizes) (frames : List Fields) : Option (List Fields) :=
  frames.mapM sizes.pairedFrame

-- chunk_framing

def requiredHeaderBytes : Nat := 13

def harnessGap : String := "Harness gap, not a protocol result: "

structure Frame where
  byteCount : Nat
  leading : List UInt8
  payloadByteCount : Option Nat
deriving DecidableEq, Repr

def Frame.headerBytes (frame : Frame) : Option Int :=
  frame.payloadByteCount.map fun (size : Nat) => (frame.byteCount : Int) - (size : Int)

-- _count
def countOf : Json → Option Nat
  | .int value => if value < 0 then none else some value.toNat
  | _ => none

def transportedFrame (record : Json) : Option Frame := do
  let fields ← record.asObj
  let byteCount ← countOf (getKey fields "byte_count")
  let leading ← fromHex (← (getKey fields "leading_hex").asStr)
  let payloadByteCount := countOf (getKey fields "payload_byte_count")
  if leading.isEmpty || leading.length != min byteCount requiredHeaderBytes then none
  else if payloadByteCount.any (byteCount < ·) then none
  else some ⟨byteCount, leading, payloadByteCount⟩

def transportedFrames : Json → Option (List Frame)
  | .arr records => records.mapM transportedFrame
  | _ => none

inductive Role where
  | server
  | client
deriving DecidableEq, Repr

def Role.text : Role → String
  | .server => "server"
  | .client => "client"

def Role.capitalize : Role → String
  | .server => "Server"
  | .client => "Client"

def Role.verb : Role → String
  | .server => "sent"
  | .client => "read"

def unpairedText (role : Role) (unpaired total : Nat) : String :=
  harnessGap ++ "the " ++ role.text ++ " adapter could not tell which audio " ++ toString unpaired ++ " of its " ++
    toString total ++ " frames carried, so their headers cannot be measured"

def widthsText (role : Role) (widths : List Int) (wrong total : Nat) : String :=
  role.capitalize ++ " " ++ role.verb ++ " a header of " ++ joinWith ", " (widths.map toString) ++ " bytes on " ++
    toString wrong ++ " of " ++ toString total ++ " audio chunks; roles/player/v1.md requires " ++
    toString requiredHeaderBytes ++ " bytes (type, int64 timestamp, uint32 send_ahead)"

-- _header_violation
def headerViolation (role : Role) (frames : List Frame) : Option String :=
  let unpaired := frames.countP fun frame => frame.headerBytes.isNone
  if unpaired ≠ 0 then some (unpairedText role unpaired frames.length)
  else
    let wrong := (frames.filterMap Frame.headerBytes).filter (· ≠ (requiredHeaderBytes : Int))
    if wrong.isEmpty then none
    else some (widthsText role (wrong.dedup.mergeSort (· ≤ ·)) wrong.length frames.length)

end Conformance.Harness
