import Mathlib.Data.List.Basic

/-!
# Format processors: packets, codecs and processor state

A format processor keeps a format's parameters up to date and makes sure every RTP packet it lets
through fits in `udpMaxPayloadSize` bytes.  The RTP codecs are not part of the repository: a
processor is modelled over a `Codec` of the operations it calls.
-/

namespace RtspSimpleServer
namespace FormatProcessor

/-- An RTP packet (`rtp.Packet`), with the header fields the processors read or write.
`extensionSize` is the number of bytes the header extensions take once marshalled. -/
structure Packet where
  padding : Bool
  marker : Bool
  payloadType : UInt8
  sequenceNumber : UInt16
  timestamp : UInt32
  ssrc : UInt32
  csrc : List UInt32
  extensionSize : Nat
  payload : List UInt8
  paddingSize : Nat
  deriving DecidableEq, Repr

namespace Packet

/-- `MarshalSize`: the 12-byte fixed header, 4 bytes per contributing source, the extensions, the
payload and the padding. -/
def marshalSize (pkt : Packet) : Nat :=
  12 + 4 * pkt.csrc.length + pkt.extensionSize + pkt.payload.length + pkt.paddingSize

/-- `pkt.Header.Padding = false; pkt.PaddingSize = 0`, done in place before a packet is measured. -/
def removePadding (pkt : Packet) : Packet :=
  { pkt with padding := false, paddingSize := 0 }

@[simp] theorem removePadding_ssrc (pkt : Packet) : pkt.removePadding.ssrc = pkt.ssrc := rfl

@[simp] theorem removePadding_sequenceNumber (pkt : Packet) :
    pkt.removePadding.sequenceNumber = pkt.sequenceNumber := rfl

@[simp] theorem removePadding_payload (pkt : Packet) :
    pkt.removePadding.payload = pkt.payload := rfl

@[simp] theorem removePadding_paddingSize (pkt : Packet) : pkt.removePadding.paddingSize = 0 := rfl

theorem removePadding_removePadding (pkt : Packet) :
    pkt.removePadding.removePadding = pkt.removePadding := rfl

end Packet

open Packet

/-- `multiplyAndDivide(v, m, d)` (not in the repository): `v * m / d` computed as whole and
fractional parts of `v / d`, so that it does not overflow; Go's division truncates toward zero. -/
def multiplyAndDivide (v m d : Int) : Int :=
  v.tdiv d * m + (v.tmod d * m).tdiv d

/-- `uint32(multiplyAndDivide(pts, clockRate, time.Second))`: a presentation time in
nanoseconds as RTP clock ticks, modulo 2³². -/
def ptsTicks (pts : Int) (clockRate : Nat) : UInt32 :=
  UInt32.ofNat (multiplyAndDivide pts clockRate 1000000000 % 4294967296).toNat

/-- The timestamping of freshly encoded packets: each gets the unit's presentation time added,
as `ProcessUnit` of the VP9 and MPEG processors does in its loop (`setTimestamp` of the H.264 and
H.265 processors is not in the repository and does the same). -/
def setTimestamp (pkts : List Packet) (clockRate : Nat) (pts : Int) : List Packet :=
  pkts.map fun pkt => { pkt with timestamp := pkt.timestamp + ptsTicks pts clockRate }

/-- Timestamping changes no packet's size. -/
theorem marshalSize_of_mem_setTimestamp {pkts : List Packet} {clockRate : Nat} {pts : Int}
    {pkt : Packet} (mem : pkt ∈ setTimestamp pkts clockRate pts) :
    ∃ raw ∈ pkts, pkt.marshalSize = raw.marshalSize := by
  obtain ⟨raw, rawMem, rfl⟩ := List.mem_map.mp mem
  exact ⟨raw, rawMem, rfl⟩

/-- The fields the processors fill in an RTP encoder (`rtph264.Encoder`, `rtph265.Encoder`,
`rtpvp9.Encoder`, ...); a field an encoder type lacks keeps Go's zero value. -/
structure EncoderConf where
  payloadMaxSize : Int
  payloadType : UInt8 := 0
  ssrc : Option UInt32 := none
  initialSequenceNumber : Option UInt16 := none
  packetizationMode : Nat := 0
  maxDONDiff : Nat := 0
  deriving DecidableEq, Repr

/-- The errors of a decoder: the two sentinel errors that say a packet does not complete an access
unit or frame, and any other. -/
inductive DecodeError where
  | nonStartingPacketAndNoPrevious
  | morePacketsNeeded
  | other (text : String)
  deriving DecidableEq, Repr

/-- The errors a processor returns. -/
inductive ProcessError where
  /-- "payload size (%d) is greater than maximum allowed (%d)", with the packet's size and the
  limit. -/
  | payloadTooLarge (size max : Int)
  /-- An error of the decoder, returned as it is. -/
  | decode (err : DecodeError)
  /-- An error of the codec library: creating the decoder, initialising or running the encoder. -/
  | codec (text : String)
  /-- Encoding with no encoder: Go dereferences a nil pointer and panics. -/
  | nilEncoder
  deriving DecidableEq, Repr

/-- An RTP codec of the library: a decoder, created once, that keeps its state from packet to
packet and turns packets into `Data`, and an encoder built from an `EncoderConf`. -/
structure Codec (Data Dec Enc : Type) where
  createDecoder : Except String Dec
  decode : Dec → Packet → Dec × Except DecodeError Data
  init : EncoderConf → Enc × Option String
  encode : EncoderConf → Enc → Data → Enc × Except String (List Packet)

namespace Codec

variable {Data Dec Enc : Type}

/-- The processor's decoder, created on first use (`if t.decoder == nil { t.decoder, err =
t.format.CreateDecoder() }`). -/
def decoderOf (lib : Codec Data Dec Enc) : Option Dec → Except String Dec
  | some dec => .ok dec
  | none => lib.createDecoder

/-- Packets that an encoder with configuration `conf` produced, with their timestamps set. -/
def Encoded (lib : Codec Data Dec Enc) (conf : EncoderConf) (pkts : List Packet) : Prop :=
  ∃ enc data enc' raw clockRate pts,
    lib.encode conf enc data = (enc', .ok raw) ∧ pkts = setTimestamp raw clockRate pts

/-- The encoder keeps to its configuration: every packet it produces has a plain 12-byte header,
no padding and at most `PayloadMaxSize` bytes of payload. -/
def RespectsPayloadMaxSize (lib : Codec Data Dec Enc) : Prop :=
  ∀ conf enc data enc' pkts, lib.encode conf enc data = (enc', .ok pkts) → ∀ pkt ∈ pkts,
    pkt.csrc = [] ∧ pkt.extensionSize = 0 ∧ pkt.paddingSize = 0 ∧
      (pkt.payload.length : Int) ≤ conf.payloadMaxSize

/-- An encoder that keeps to its configuration produces packets of at most `PayloadMaxSize + 12`
bytes. -/
theorem Encoded.marshalSize_le {lib : Codec Data Dec Enc} (respects : lib.RespectsPayloadMaxSize)
    {conf : EncoderConf} {pkts : List Packet} (encoded : lib.Encoded conf pkts) :
    ∀ pkt ∈ pkts, (pkt.marshalSize : Int) ≤ conf.payloadMaxSize + 12 := by
  obtain ⟨enc, data, enc', raw, clockRate, pts, encode, rfl⟩ := encoded
  intro pkt mem
  obtain ⟨source, sourceMem, size⟩ := marshalSize_of_mem_setTimestamp mem
  obtain ⟨csrc, extension, padding, payload⟩ := respects conf enc data enc' raw encode source sourceMem
  rw [size, marshalSize, csrc, extension, padding]
  simp only [List.length_nil, Nat.mul_zero, Nat.add_zero]
  omega

end Codec

/-- The fields every format processor has: the size limit, the format it keeps up to date, and
the encoder (with the configuration it was built from) and decoder it creates on demand. -/
structure Processor (Format Dec Enc : Type) where
  udpMaxPayloadSize : Int
  format : Format
  encoder : Option (EncoderConf × Enc)
  decoder : Option Dec

/-- A unit of the H.264 and H.265 streams (`unit.H264`, `unit.H265`): the RTP packets, the
presentation time and the access unit, a list of NAL units. -/
structure H26xUnit where
  rtpPackets : List Packet
  pts : Int
  au : List (List UInt8)
  deriving DecidableEq, Repr

/-- A unit of the VP9, MPEG-1 and MPEG-4 streams: the RTP packets, the presentation time and the
frame (`Frame`, or `Frames` for MPEG-1 audio). -/
structure FrameUnit (Data : Type) where
  rtpPackets : List Packet
  pts : Int
  frame : Data

end FormatProcessor
end RtspSimpleServer
