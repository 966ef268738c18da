import RtspSimpleServer.FormatProcessor.Simple

/-!
# The configuration of an MPEG-4 video stream

`ProcessUnit` stores the configuration a frame carries and puts the stored one in front of a frame
with a group of VOPs and none of its own.  `ProcessRTPPacket` reads it off each packet instead,
and so misses one that is not in the first packet of a frame.
-/

namespace RtspSimpleServer
namespace FormatProcessor

open MPEG4Video

/-! ## `bytes.Index` -/

/-- A separator is found where it starts the rest of the slice. -/
theorem isPrefixOf_drop_of_bytesIndex {sep s : List UInt8} {i : Nat} (found : bytesIndex sep s = some i) :
    sep.isPrefixOf (s.drop i) = true := by
  induction s generalizing i with
  | nil =>
      simp only [bytesIndex] at found
      split_ifs at found with empty
      cases found
      simp [empty]
  | cons b s ih =>
      simp only [bytesIndex] at found
      split_ifs at found with here
      · cases found; exact here
      · obtain ⟨j, rest, rfl⟩ := Option.map_eq_some'.mp found
        exact ih rest

/-- A slice that starts with the separator finds it at once. -/
theorem bytesIndex_of_isPrefixOf {sep s : List UInt8} (here : sep.isPrefixOf s = true) :
    bytesIndex sep s = some 0 := by
  cases s with
  | nil => cases sep <;> simp_all [bytesIndex, List.isPrefixOf]
  | cons b s => simp [bytesIndex, here]

theorem length_le_of_bytesIndex {sep s : List UInt8} {i : Nat} (found : bytesIndex sep s = some i) :
    sep.length ≤ s.length - i := by
  simpa using (List.isPrefixOf_iff_prefix.mp (isPrefixOf_drop_of_bytesIndex found)).length_le

namespace FormatProcessorMPEG4Video

/-- The configuration a frame carries: its bytes up to its first group of VOPs, when it starts
with a visual object sequence. -/
def carriedConfig (frame : List UInt8) : Option (List UInt8) :=
  if [0, 0, 1, VisualObjectSequenceStartCode].isPrefixOf frame then
    (bytesIndex [0, 0, 1, GroupOfVOPStartCode] (frame.drop 4)).map fun end_ => frame.take (end_ + 4)
  else none

/-- A carried configuration starts the frame, and the rest of the frame starts with a group of
VOPs. -/
theorem carriedConfig_split {frame conf : List UInt8} (carried : carriedConfig frame = some conf) :
    conf ≠ [] ∧ conf ++ frame.drop conf.length = frame ∧
      (bytesIndex [0, 0, 1, GroupOfVOPStartCode] (frame.drop conf.length)).isSome := by
  simp only [carriedConfig] at carried
  split_ifs at carried with vos
  obtain ⟨end_, found, rfl⟩ := Option.map_eq_some'.mp carried
  have room := length_le_of_bytesIndex found
  have length : (frame.take (end_ + 4)).length = end_ + 4 := by
    simp only [List.length_drop, List.length_cons, List.length_nil] at room
    simp only [List.length_take]
    omega
  have gov : [0, 0, 1, GroupOfVOPStartCode].isPrefixOf (frame.drop (end_ + 4)) = true := by
    simpa [List.drop_drop, Nat.add_comm] using isPrefixOf_drop_of_bytesIndex found
  refine ⟨fun empty => by simp [empty] at length, by rw [length, List.take_append_drop], ?_⟩
  rw [length, bytesIndex_of_isPrefixOf gov]
  rfl

/-- `updateTrackParameters` stores the configuration the frame carries, if any. -/
theorem updateTrackParameters_config (format : FormatMPEG4Video) (frame : List UInt8) :
    (updateTrackParameters format frame).config = (carriedConfig frame).or format.config := by
  cases carried : carriedConfig frame with
  | none =>
      simp only [carriedConfig] at carried
      simp only [updateTrackParameters]
      split_ifs with vos
      · simp only [vos, if_true, Option.map_eq_none'] at carried
        simp [carried]
      · rfl
  | some conf =>
      have nonEmpty := (carriedConfig_split carried).1
      simp only [carriedConfig] at carried
      split_ifs at carried with vos
      obtain ⟨end_, found, rfl⟩ := Option.map_eq_some'.mp carried
      simp only [updateTrackParameters, vos, if_true, found]
      split_ifs with changed
      · rfl
      · simpa using (bytesEqual_some_iff nonEmpty _).mp (by simpa using changed)

/-- `remuxFrame` of a frame that carries no configuration: the stored one goes in front of a
frame that has a group of VOPs. -/
theorem remuxFrame_of_carriedConfig_none {frame : List UInt8} (none_ : carriedConfig frame = none)
    (format : FormatMPEG4Video) :
    remuxFrame format frame =
      if (bytesIndex [0, 0, 1, GroupOfVOPStartCode] frame).isSome then format.config.getD [] ++ frame
      else frame := by
  simp only [carriedConfig] at none_
  simp only [remuxFrame]
  split_ifs with vos <;> simp_all

/-- `remuxFrame` of a frame that carries a configuration: the stored one replaces it. -/
theorem remuxFrame_of_carriedConfig_some {frame conf : List UInt8}
    (carried : carriedConfig frame = some conf) (format : FormatMPEG4Video) :
    remuxFrame format frame = format.config.getD [] ++ frame.drop conf.length := by
  obtain ⟨-, -, gov⟩ := carriedConfig_split carried
  simp only [carriedConfig] at carried
  split_ifs at carried with vos
  obtain ⟨end_, found, rfl⟩ := Option.map_eq_some'.mp carried
  have room := length_le_of_bytesIndex found
  have length : (frame.take (end_ + 4)).length = end_ + 4 := by
    simp only [List.length_drop, List.length_cons, List.length_nil] at room
    simp only [List.length_take]
    omega
  rw [length] at gov ⊢
  simp [remuxFrame, vos, found, gov]

theorem processUnit_format (lib : Codec (List UInt8) Dec Enc) (t : Processor FormatMPEG4Video Dec Enc)
    (u : FrameUnit (List UInt8)) :
    (processUnit lib t u).1.format = updateTrackParameters t.format u.frame ∧
      (processUnit lib t u).2.1.frame = remuxFrame (updateTrackParameters t.format u.frame) u.frame := by
  simp only [processUnit]
  split_ifs
  · split
    · exact ⟨rfl, rfl⟩
    · split <;> exact ⟨rfl, rfl⟩
  · exact ⟨rfl, rfl⟩

/-- `ProcessUnit` stores the configuration the frame carries and then emits the frame unchanged;
a frame that carries none keeps the stored configuration, and if it has a group of VOPs it is
emitted behind that configuration, whole. -/
theorem processUnit_config_frame (lib : Codec (List UInt8) Dec Enc)
    (t : Processor FormatMPEG4Video Dec Enc) (u : FrameUnit (List UInt8)) :
    (processUnit lib t u).1.format.config = (carriedConfig u.frame).or t.format.config ∧
      (processUnit lib t u).2.1.frame =
        if (carriedConfig u.frame).isSome then u.frame
        else if (bytesIndex [0, 0, 1, GroupOfVOPStartCode] u.frame).isSome then
          t.format.config.getD [] ++ u.frame
        else u.frame := by
  obtain ⟨format, frame⟩ := processUnit_format lib t u
  refine ⟨by rw [format, updateTrackParameters_config], ?_⟩
  rw [frame]
  cases carried : carriedConfig u.frame with
  | none =>
      simp only [Option.isSome_none, if_false]
      rw [remuxFrame_of_carriedConfig_none carried, updateTrackParameters_config, carried]
      rfl
  | some conf =>
      rw [remuxFrame_of_carriedConfig_some carried, updateTrackParameters_config, carried]
      simpa using (carriedConfig_split carried).2.1

end FormatProcessorMPEG4Video

/-! ## A frame split over two packets -/

namespace MPEG4VideoSplit

/-- The configuration stored before the frame arrives. -/
def oldConfig : List UInt8 := [0, 0, 1, 0xB0, 1]

/-- A frame with a new configuration `00 00 01 B0 02`, then a group of VOPs. -/
def frame : List UInt8 := [0, 0, 1, 0xB0, 2, 0, 0, 1, 0xB3, 7]

/-- The first packet ends before the group of VOPs. -/
def firstPacket : Packet :=
  { padding := false, marker := false, payloadType := 96, sequenceNumber := 1, timestamp := 0,
    ssrc := 0, csrc := [], extensionSize := 0, payload := frame.take 5, paddingSize := 0 }

/-- The second packet holds the group of VOPs and ends the frame. -/
def secondPacket : Packet :=
  { firstPacket with marker := true, sequenceNumber := 2, payload := frame.drop 5 }

/-- The reassembly of `rtpmpeg4video.Decoder`: payloads are gathered up to the packet with the
marker, which returns the frame; the encoder produces no packet. -/
def frameDecoder : Codec (List UInt8) (List UInt8) Unit where
  createDecoder := .ok []
  decode gathered pkt :=
    if pkt.marker then ([], .ok (gathered ++ pkt.payload))
    else (gathered ++ pkt.payload, .error .morePacketsNeeded)
  init _ := ((), none)
  encode _ _ _ := ((), .ok [])

/-- A processor with the old configuration, an encoder and no decoder yet. -/
def processor : Processor FormatMPEG4Video (List UInt8) Unit :=
  ⟨1472, ⟨96, some oldConfig⟩, some ({ payloadMaxSize := 1460, payloadType := 96 }, ()), none⟩

end MPEG4VideoSplit

open MPEG4VideoSplit in
/-- `ProcessUnit` on the frame stores its configuration and emits it unchanged.  The same frame in
two packets, the group of VOPs in the second, leaves the old configuration stored, and the frame
that `ProcessRTPPacket` emits carries the old configuration in place of its own. -/
theorem processRTPPacket_keeps_old_config :
    firstPacket.payload ++ secondPacket.payload = frame ∧
      (FormatProcessorMPEG4Video.processUnit frameDecoder processor ⟨[], 0, frame⟩).1.format.config =
        some (frame.take 5) ∧
      (FormatProcessorMPEG4Video.processUnit frameDecoder processor ⟨[], 0, frame⟩).2.1.frame = frame ∧
      (FormatProcessorMPEG4Video.processRTPPacket frameDecoder processor firstPacket 0 true).2.toOption.map
        FrameUnit.frame = some [] ∧
      (FormatProcessorMPEG4Video.processRTPPacket frameDecoder
        (FormatProcessorMPEG4Video.processRTPPacket frameDecoder processor firstPacket 0 true).1
        secondPacket 0 true).1.format.config = some oldConfig ∧
      (FormatProcessorMPEG4Video.processRTPPacket frameDecoder
        (FormatProcessorMPEG4Video.processRTPPacket frameDecoder processor firstPacket 0 true).1
        secondPacket 0 true).2.toOption.map FrameUnit.frame = some (oldConfig ++ frame.drop 5) := by
  refine ⟨rfl, ?_, ?_, ?_, ?_, ?_⟩ <;> decide

end FormatProcessor
end RtspSimpleServer
