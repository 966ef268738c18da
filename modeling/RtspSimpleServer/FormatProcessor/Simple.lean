import RtspSimpleServer.FormatProcessor.H26x

/-!
# The VP9, MPEG-1 and MPEG-4 video processors

These processors refuse an RTP packet still larger than the limit without its padding, and encode
only decoded frames.  The VP9, MPEG-1 audio and MPEG-1 video processors are one definition; the
MPEG-4 video processor also reads the configuration at the head of a frame.
-/

namespace RtspSimpleServer
namespace FormatProcessor

open Packet

variable {Format Data Dec Enc : Type}

/-- `createEncoder` of the four processors: payloads that leave room for the 12-byte RTP header;
the VP9 and MPEG-4 encoders also take the format's payload type. -/
def createSimpleEncoder (lib : Codec Data Dec Enc) (payloadType : Format → UInt8)
    (t : Processor Format Dec Enc) : Processor Format Dec Enc × Option ProcessError :=
  let conf : EncoderConf :=
    { payloadMaxSize := t.udpMaxPayloadSize - 12, payloadType := payloadType t.format }
  ({ t with encoder := some (conf, (lib.init conf).1) }, (lib.init conf).2.map .codec)

/-- `newVP9`, `newMPEG1Audio`, `newMPEG1Video`, `newMPEG4Video`. -/
def newSimple (lib : Codec Data Dec Enc) (payloadType : Format → UInt8) (udpMaxPayloadSize : Int)
    (format : Format) (generateRTPPackets : Bool) : Except ProcessError (Processor Format Dec Enc) :=
  let t : Processor Format Dec Enc := { udpMaxPayloadSize, format, encoder := none, decoder := none }
  if generateRTPPackets then
    match createSimpleEncoder lib payloadType t with
    | (t, none) => .ok t
    | (_, some err) => .error err
  else .ok t

/-- `ProcessRTPPacket` of `formatProcessorVP9`, `formatProcessorMPEG1Audio` and
`formatProcessorMPEG1Video`: the packet loses its padding and is refused when still larger than
the limit; it is decoded when a reader needs the frame or a decoder exists, and routed as is. -/
def processRTPPacket [Inhabited Data] (lib : Codec Data Dec Enc) (t : Processor Format Dec Enc)
    (pkt : Packet) (pts : Int) (hasNonRTSPReaders : Bool) :
    Processor Format Dec Enc × Except ProcessError (FrameUnit Data) :=
  let u : FrameUnit Data := { rtpPackets := [pkt.removePadding], pts, frame := default }
  if (pkt.removePadding.marshalSize : Int) > t.udpMaxPayloadSize then
    (t, .error (.payloadTooLarge pkt.removePadding.marshalSize t.udpMaxPayloadSize))
  else if hasNonRTSPReaders || t.decoder.isSome then
    match lib.decoderOf t.decoder with
    | .error err => (t, .error (.codec err))
    | .ok dec =>
        match lib.decode dec pkt.removePadding with
        | (dec, .error err) =>
            if err = .nonStartingPacketAndNoPrevious ∨ err = .morePacketsNeeded then
              ({ t with decoder := some dec }, .ok u)
            else ({ t with decoder := some dec }, .error (.decode err))
        | (dec, .ok frame) => ({ t with decoder := some dec }, .ok { u with frame })
  else (t, .ok u)

/-- `ProcessUnit` of `formatProcessorVP9`, `formatProcessorMPEG1Audio` and
`formatProcessorMPEG1Video`: the frame is encoded and the packets get the unit's timestamp. -/
def processUnit (lib : Codec Data Dec Enc) (clockRate : Nat) (t : Processor Format Dec Enc)
    (u : FrameUnit Data) : Processor Format Dec Enc × FrameUnit Data × Option ProcessError :=
  match t.encoder with
  | none => (t, u, some .nilEncoder)
  | some (conf, enc) =>
      match lib.encode conf enc u.frame with
      | (enc, .error err) => ({ t with encoder := some (conf, enc) }, u, some (.codec err))
      | (enc, .ok pkts) =>
          ({ t with encoder := some (conf, enc) },
            { u with rtpPackets := setTimestamp pkts clockRate u.pts }, none)

/-- The format of `formatProcessorVP9` (`format.VP9`): the processor reads its payload type. -/
structure FormatVP9 where
  payloadTyp : UInt8
  deriving DecidableEq, Repr

namespace FormatProcessorVP9

/-- `newVP9`. -/
def newVP9 (lib : Codec (List UInt8) Dec Enc) (udpMaxPayloadSize : Int) (format : FormatVP9)
    (generateRTPPackets : Bool) : Except ProcessError (Processor FormatVP9 Dec Enc) :=
  newSimple lib FormatVP9.payloadTyp udpMaxPayloadSize format generateRTPPackets

/-- `ProcessRTPPacket` of `formatProcessorVP9`. -/
def processRTPPacket (lib : Codec (List UInt8) Dec Enc) (t : Processor FormatVP9 Dec Enc)
    (pkt : Packet) (pts : Int) (hasNonRTSPReaders : Bool) :
    Processor FormatVP9 Dec Enc × Except ProcessError (FrameUnit (List UInt8)) :=
  FormatProcessor.processRTPPacket lib t pkt pts hasNonRTSPReaders

/-- `ProcessUnit` of `formatProcessorVP9`, at the format's 90 kHz clock. -/
def processUnit (lib : Codec (List UInt8) Dec Enc) (t : Processor FormatVP9 Dec Enc)
    (u : FrameUnit (List UInt8)) :
    Processor FormatVP9 Dec Enc × FrameUnit (List UInt8) × Option ProcessError :=
  FormatProcessor.processUnit lib 90000 t u

end FormatProcessorVP9

/-! `formatProcessorMPEG1Audio`: its format (`format.MPEG1Audio`) has no field the processor reads,
and its units carry a list of frames. -/

namespace FormatProcessorMPEG1Audio

/-- `newMPEG1Audio`: its encoder takes no payload type. -/
def newMPEG1Audio (lib : Codec (List (List UInt8)) Dec Enc) (udpMaxPayloadSize : Int)
    (generateRTPPackets : Bool) : Except ProcessError (Processor Unit Dec Enc) :=
  newSimple lib (fun _ => 0) udpMaxPayloadSize () generateRTPPackets

/-- `ProcessRTPPacket` of `formatProcessorMPEG1Audio`. -/
def processRTPPacket (lib : Codec (List (List UInt8)) Dec Enc) (t : Processor Unit Dec Enc)
    (pkt : Packet) (pts : Int) (hasNonRTSPReaders : Bool) :
    Processor Unit Dec Enc × Except ProcessError (FrameUnit (List (List UInt8))) :=
  FormatProcessor.processRTPPacket lib t pkt pts hasNonRTSPReaders

/-- `ProcessUnit` of `formatProcessorMPEG1Audio`, at the format's 90 kHz clock. -/
def processUnit (lib : Codec (List (List UInt8)) Dec Enc) (t : Processor Unit Dec Enc)
    (u : FrameUnit (List (List UInt8))) :
    Processor Unit Dec Enc × FrameUnit (List (List UInt8)) × Option ProcessError :=
  FormatProcessor.processUnit lib 90000 t u

end FormatProcessorMPEG1Audio

/-! `formatProcessorMPEG1Video`: its format (`format.MPEG1Video`) has no field the processor
reads. -/

namespace FormatProcessorMPEG1Video

/-- `newMPEG1Video`: its encoder takes no payload type. -/
def newMPEG1Video (lib : Codec (List UInt8) Dec Enc) (udpMaxPayloadSize : Int)
    (generateRTPPackets : Bool) : Except ProcessError (Processor Unit Dec Enc) :=
  newSimple lib (fun _ => 0) udpMaxPayloadSize () generateRTPPackets

/-- `ProcessRTPPacket` of `formatProcessorMPEG1Video`. -/
def processRTPPacket (lib : Codec (List UInt8) Dec Enc) (t : Processor Unit Dec Enc)
    (pkt : Packet) (pts : Int) (hasNonRTSPReaders : Bool) :
    Processor Unit Dec Enc × Except ProcessError (FrameUnit (List UInt8)) :=
  FormatProcessor.processRTPPacket lib t pkt pts hasNonRTSPReaders

/-- `ProcessUnit` of `formatProcessorMPEG1Video`, at the format's 90 kHz clock. -/
def processUnit (lib : Codec (List UInt8) Dec Enc) (t : Processor Unit Dec Enc)
    (u : FrameUnit (List UInt8)) :
    Processor Unit Dec Enc × FrameUnit (List UInt8) × Option ProcessError :=
  FormatProcessor.processUnit lib 90000 t u

end FormatProcessorMPEG1Video

/-! ### MPEG-4 video -/

namespace MPEG4Video

def VisualObjectSequenceStartCode : UInt8 := 0xB0
def GroupOfVOPStartCode : UInt8 := 0xB3

end MPEG4Video

open MPEG4Video

/-- `bytes.Index(s, sep)`: the first position of `sep` in `s`, if any. -/
def bytesIndex (sep : List UInt8) : List UInt8 → Option Nat
  | [] => if sep = [] then some 0 else none
  | b :: s => if sep.isPrefixOf (b :: s) then some 0 else (bytesIndex sep s).map (· + 1)

/-- The format of `formatProcessorMPEG4Video` (`format.MPEG4Video`): the payload type and the
configuration, nil until set. -/
structure FormatMPEG4Video where
  payloadTyp : UInt8
  config : Option (List UInt8)
  deriving DecidableEq, Repr

namespace FormatProcessorMPEG4Video

/-- `updateTrackParameters`: a frame that starts with a visual object sequence carries the
configuration up to its first group of VOPs, which the format takes when it differs. -/
def updateTrackParameters (format : FormatMPEG4Video) (frame : List UInt8) : FormatMPEG4Video :=
  if [0, 0, 1, VisualObjectSequenceStartCode].isPrefixOf frame then
    match bytesIndex [0, 0, 1, GroupOfVOPStartCode] (frame.drop 4) with
    | none => format
    | some end_ =>
        if !bytesEqual (some (frame.take (end_ + 4))) format.config then
          { format with config := some (frame.take (end_ + 4)) }
        else format
  else format

/-- `remuxFrame`: the configuration at the head of a frame is dropped, and the stored one is put
in front of a frame that has a group of VOPs. -/
def remuxFrame (format : FormatMPEG4Video) (frame : List UInt8) : List UInt8 :=
  let frame :=
    if [0, 0, 1, VisualObjectSequenceStartCode].isPrefixOf frame then
      match bytesIndex [0, 0, 1, GroupOfVOPStartCode] (frame.drop 4) with
      | some end_ => frame.drop (end_ + 4)
      | none => frame
    else frame
  if (bytesIndex [0, 0, 1, GroupOfVOPStartCode] frame).isSome then format.config.getD [] ++ frame
  else frame

/-- `newMPEG4Video`. -/
def newMPEG4Video (lib : Codec (List UInt8) Dec Enc) (udpMaxPayloadSize : Int)
    (format : FormatMPEG4Video) (generateRTPPackets : Bool) :
    Except ProcessError (Processor FormatMPEG4Video Dec Enc) :=
  newSimple lib FormatMPEG4Video.payloadTyp udpMaxPayloadSize format generateRTPPackets

/-- `ProcessUnit` of `formatProcessorMPEG4Video`: the configuration is read off the frame, the
frame remuxed, and a non-empty frame encoded. -/
def processUnit (lib : Codec (List UInt8) Dec Enc) (t : Processor FormatMPEG4Video Dec Enc)
    (u : FrameUnit (List UInt8)) :
    Processor FormatMPEG4Video Dec Enc × FrameUnit (List UInt8) × Option ProcessError :=
  let t := { t with format := updateTrackParameters t.format u.frame }
  let u := { u with frame := remuxFrame t.format u.frame }
  if u.frame.length ≠ 0 then
    match t.encoder with
    | none => (t, u, some .nilEncoder)
    | some (conf, enc) =>
        match lib.encode conf enc u.frame with
        | (enc, .error err) => ({ t with encoder := some (conf, enc) }, u, some (.codec err))
        | (enc, .ok pkts) =>
            ({ t with encoder := some (conf, enc) },
              { u with rtpPackets := setTimestamp pkts 90000 u.pts }, none)
  else (t, u, none)

/-- `ProcessRTPPacket` of `formatProcessorMPEG4Video`: the configuration is read off the packet's
payload first; only `ErrMorePacketsNeeded` counts as an incomplete frame, and a decoded frame is
remuxed. -/
def processRTPPacket (lib : Codec (List UInt8) Dec Enc) (t : Processor FormatMPEG4Video Dec Enc)
    (pkt : Packet) (pts : Int) (hasNonRTSPReaders : Bool) :
    Processor FormatMPEG4Video Dec Enc × Except ProcessError (FrameUnit (List UInt8)) :=
  let t := { t with format := updateTrackParameters t.format pkt.payload }
  let u : FrameUnit (List UInt8) := { rtpPackets := [pkt.removePadding], pts, frame := [] }
  if (pkt.removePadding.marshalSize : Int) > t.udpMaxPayloadSize then
    (t, .error (.payloadTooLarge pkt.removePadding.marshalSize t.udpMaxPayloadSize))
  else if hasNonRTSPReaders || t.decoder.isSome then
    match lib.decoderOf t.decoder with
    | .error err => (t, .error (.codec err))
    | .ok dec =>
        match lib.decode dec pkt.removePadding with
        | (dec, .error err) =>
            if err = .morePacketsNeeded then ({ t with decoder := some dec }, .ok u)
            else ({ t with decoder := some dec }, .error (.decode err))
        | (dec, .ok frame) =>
            ({ t with decoder := some dec }, .ok { u with frame := remuxFrame t.format frame })
  else (t, .ok u)

end FormatProcessorMPEG4Video

/-! ### Packets routed as they are -/

/-- A packet that `ProcessRTPPacket` of the VP9 and MPEG-1 processors lets through is the input
packet without padding, and it fits. -/
theorem processRTPPacket_ok [Inhabited Data] {lib : Codec Data Dec Enc}
    {t : Processor Format Dec Enc} {pkt : Packet} {pts : Int} {hasNonRTSPReaders : Bool}
    {u : FrameUnit Data} (ok : (processRTPPacket lib t pkt pts hasNonRTSPReaders).2 = .ok u) :
    u.rtpPackets = [pkt.removePadding] ∧
      (pkt.removePadding.marshalSize : Int) ≤ t.udpMaxPayloadSize := by
  unfold processRTPPacket at ok
  by_cases large : (pkt.removePadding.marshalSize : Int) > t.udpMaxPayloadSize
  · simp [large] at ok
  · rw [if_neg large] at ok
    refine ⟨?_, by omega⟩
    split_ifs at ok
    · split at ok
      · simp at ok
      · split at ok
        · split_ifs at ok
          obtain rfl := Except.ok.inj ok
          rfl
        · obtain rfl := Except.ok.inj ok
          rfl
    · obtain rfl := Except.ok.inj ok
      rfl

/-- A packet that `ProcessRTPPacket` of the MPEG-4 video processor lets through is the input packet
without padding, and it fits. -/
theorem FormatProcessorMPEG4Video.processRTPPacket_ok {lib : Codec (List UInt8) Dec Enc}
    {t : Processor FormatMPEG4Video Dec Enc} {pkt : Packet} {pts : Int} {hasNonRTSPReaders : Bool}
    {u : FrameUnit (List UInt8)}
    (ok : (FormatProcessorMPEG4Video.processRTPPacket lib t pkt pts hasNonRTSPReaders).2 = .ok u) :
    u.rtpPackets = [pkt.removePadding] ∧
      (pkt.removePadding.marshalSize : Int) ≤ t.udpMaxPayloadSize := by
  unfold FormatProcessorMPEG4Video.processRTPPacket at ok
  dsimp only at ok
  by_cases large : (pkt.removePadding.marshalSize : Int) > t.udpMaxPayloadSize
  · simp [large] at ok
  · rw [if_neg large] at ok
    refine ⟨?_, by omega⟩
    split_ifs at ok
    · split at ok
      · simp at ok
      · split at ok
        · split_ifs at ok
          obtain rfl := Except.ok.inj ok
          rfl
        · obtain rfl := Except.ok.inj ok
          rfl
    · obtain rfl := Except.ok.inj ok
      rfl

end FormatProcessor
end RtspSimpleServer
