import Mathlib.Tactic.Ring

/-!
# The fMP4 recorder

The conversion of a duration to a time scale, exact whenever the result fits in 64 bits; the size
read off the first MJPEG frame, and the two shapes of image on which it panics; and the VP9
callback, whose height block stores the width, so that the codec is square after a key frame.
-/

namespace RtspSimpleServer
namespace Record

/-! ## `durationGoToMp4` -/

/-- `time.Second`, in nanoseconds. -/
def second : Int := 1000000000

/-- `uint64(x)` of an `int64`: its two's complement bits read as unsigned. -/
def toUint64 (x : Int) : UInt64 := UInt64.ofNat (x % 2 ^ 64).toNat

/-- `durationGoToMp4`. -/
def durationGoToMp4 (v : Int) (timeScale : UInt32) : UInt64 :=
  let timeScale64 := timeScale.toUInt64
  let secs := v.tdiv second
  let dec := v.tmod second
  toUint64 secs * timeScale64 + toUint64 dec * timeScale64 / toUint64 second

theorem toUint64_natCast (m : Nat) : (toUint64 m).toNat = m % 2 ^ 64 := by
  simp only [toUint64, UInt64.toNat, UInt64.ofNat, BitVec.toNat_ofNat]
  omega

theorem toUint64_second : (toUint64 second).toNat = 1000000000 := rfl

theorem toNat_toUInt64 (timeScale : UInt32) : timeScale.toUInt64.toNat = timeScale.toNat := rfl

theorem toNat_mul_uint64 (a b : UInt64) : (a * b).toNat = a.toNat * b.toNat % 2 ^ 64 :=
  BitVec.toNat_mul _ _

theorem toNat_add_uint64 (a b : UInt64) : (a + b).toNat = (a.toNat + b.toNat) % 2 ^ 64 :=
  BitVec.toNat_add _ _

/-- Whole seconds and the nanoseconds left, each scaled, add up to the scaled duration. -/
theorem div_mul_add_mod_mul_div (n t s : Nat) (pos : 0 < s) :
    n / s * t + n % s * t / s = n * t / s := by
  have split : n * t = n % s * t + s * (n / s * t) := by
    calc n * t = (n % s + s * (n / s)) * t := by rw [Nat.mod_add_div]
      _ = n % s * t + s * (n / s * t) := by ring
  rw [split, Nat.add_mul_div_left _ _ pos, Nat.add_comm]

/-- Neither product of `durationGoToMp4` overflows while the result fits in 64 bits, so the
result is the scaled duration, rounded down. -/
theorem durationGoToMp4_toNat (v : Int) (timeScale : UInt32) (nonneg : 0 ≤ v)
    (fits : v * timeScale.toNat / 1000000000 < 2 ^ 64) :
    ((durationGoToMp4 v timeScale).toNat : Int) = v * timeScale.toNat / 1000000000 := by
  obtain ⟨n, rfl⟩ := Int.eq_ofNat_of_zero_le nonneg
  set t := timeScale.toNat with t_def
  have scaled : n * t / 1000000000 < 2 ^ 64 := by exact_mod_cast fits
  have sum := div_mul_add_mod_mul_div n t 1000000000 (by norm_num)
  have small : n % 1000000000 * t < 2 ^ 64 :=
    calc n % 1000000000 * t < 1000000000 * 2 ^ 32 :=
          Nat.mul_lt_mul'' (Nat.mod_lt _ (by norm_num)) timeScale.toNat_lt_size
      _ ≤ 2 ^ 64 := by decide
  have secs : Int.tdiv n second = ((n / 1000000000 : Nat) : Int) := by
    rw [Int.tdiv_eq_ediv (by omega) (by decide)]; rfl
  have dec : Int.tmod n second = ((n % 1000000000 : Nat) : Int) := by
    rw [Int.tmod_eq_emod (by omega) (by decide)]; rfl
  simp only [durationGoToMp4, secs, dec, toNat_add_uint64, toNat_mul_uint64, UInt64.toNat_div,
    toUint64_natCast, toUint64_second, toNat_toUInt64, ← t_def]
  rw [Nat.mod_mul_mod, Nat.mod_mul_mod, Nat.mod_eq_of_lt small,
    Nat.mod_eq_of_lt (a := n / 1000000000 * t) (by omega), sum, Nat.mod_eq_of_lt scaled]
  push_cast
  rfl

/-- `durationGoToMp4` is exact for every non-negative duration and time scale whose result fits in
64 bits, and at 90 kHz, the time scale of the H.264 and H.265 tracks, for every non-negative
`int64` duration. -/
theorem durationGoToMp4_exact (v : Int) (nonneg : 0 ≤ v) :
    (∀ timeScale : UInt32, v * timeScale.toNat / 1000000000 < 2 ^ 64 →
      ((durationGoToMp4 v timeScale).toNat : Int) = v * timeScale.toNat / 1000000000) ∧
    (v < 2 ^ 63 → ((durationGoToMp4 v 90000).toNat : Int) = v * 90000 / 1000000000) :=
  ⟨fun timeScale => durationGoToMp4_toNat v timeScale nonneg, fun int64 =>
    durationGoToMp4_toNat v 90000 nonneg (by change v * 90000 / 1000000000 < 2 ^ 64; omega)⟩

/-- One and a half seconds at 90 kHz are 135000 ticks. -/
theorem durationGoToMp4_exact_90kHz :
    ((durationGoToMp4 1500000000 90000).toNat : Int) = 1500000000 * 90000 / 1000000000 :=
  (durationGoToMp4_exact 1500000000 (by decide)).2 (by decide)

/-! ## `jpegExtractSize` -/

/-- The markers of `jpeg` that `jpegExtractSize` reads, with their values in ITU-T T.81. -/
def MarkerStartOfImage : UInt8 := 0xD8
def MarkerStartOfFrame1 : UInt8 := 0xC0
def MarkerDefineHuffmanTable : UInt8 := 0xC4
def MarkerStartOfScan : UInt8 := 0xDA
def MarkerDefineQuantizationTable : UInt8 := 0xDB
def MarkerDefineRestartInterval : UInt8 := 0xDD
def MarkerComment : UInt8 := 0xFE

/-- The markers whose segment the loop skips: JFIF application data, Huffman tables, comments,
quantization tables and the restart interval. -/
def skippedMarkers : List UInt8 :=
  [0xE0, 0xE1, 0xE2, MarkerDefineHuffmanTable, MarkerComment, MarkerDefineQuantizationTable,
    MarkerDefineRestartInterval]

/-- What `jpegExtractSize` ends with: a size, an error, or a run-time panic of Go. -/
inductive JpegSize
  | size (width height : Int)
  | error (message : String)
  | panic (message : String)
  deriving DecidableEq, Repr

/-- The run-time error of an index `i` out of a slice of length `n`. -/
def indexOutOfRange (i n : Nat) : String :=
  "runtime error: index out of range [" ++ toString i ++ "] with length " ++ toString n

/-- The run-time error of a slice expression whose low bound is above its high bound. -/
def sliceOutOfRange (low high : Nat) : String :=
  "runtime error: slice bounds out of range [" ++ toString low ++ ":" ++ toString high ++ "]"

/-- `int(image[0])<<8 | int(image[1])`, or the panic of the first index out of range. -/
def readLength : List UInt8 → Except String Nat
  | [] => .error (indexOutOfRange 0 0)
  | [_] => .error (indexOutOfRange 1 1)
  | b0 :: b1 :: _ => .ok (b0.toNat <<< 8 ||| b1.toNat)

/-- `fmt.Sprintf("%.2x", b)`. -/
def hexByte (b : UInt8) : String :=
  String.mk [Nat.digitChar (b.toNat / 16), Nat.digitChar (b.toNat % 16)]

variable (unmarshalSOF : List UInt8 → Except String (Int × Int))

/-- The loop of `jpegExtractSize`, on the image after its start-of-image marker.  The decoder of
an SOF segment, `jpeg.StartOfFrame1.Unmarshal`, is `unmarshalSOF`. -/
def scanMarkers (image : List UInt8) : JpegSize :=
  match image with
  | h0 :: h1 :: image =>
      if h0 ≠ 0xFF then .error "invalid image"
      else if h1 ∈ skippedMarkers then
        match readLength image with
        | .error panic => .panic panic
        | .ok mlen =>
            if image.length < mlen then .error "not enough bits"
            else scanMarkers (image.drop mlen)
      else if h1 = MarkerStartOfFrame1 then
        match readLength image with
        | .error panic => .panic panic
        | .ok mlen =>
            if image.length < mlen then .error "not enough bits"
            else if mlen < 2 then .panic (sliceOutOfRange 2 mlen)
            else match unmarshalSOF ((image.take mlen).drop 2) with
              | .error err => .error err
              | .ok (width, height) => .size width height
      else if h1 = MarkerStartOfScan then .error "SOF not found"
      else .error ("unknown marker: 0x" ++ hexByte h1)
  | _ => .error "not enough bits"
termination_by image.length
decreasing_by simp_wf; omega

/-- `jpegExtractSize`. -/
def jpegExtractSize (image : List UInt8) : JpegSize :=
  match image with
  | b0 :: b1 :: image =>
      if b0 ≠ 0xFF ∨ b1 ≠ MarkerStartOfImage then .error "invalid header"
      else scanMarkers unmarshalSOF image
  | _ => .error "invalid header"

theorem readLength_cons_cons (b0 b1 : UInt8) (rest : List UInt8) :
    readLength (b0 :: b1 :: rest) = .ok (b0.toNat * 256 + b1.toNat) := by
  rw [readLength, Nat.shiftLeft_eq, ← Nat.mul_comm (2 ^ 8), ← Nat.mul_add_lt_is_or b1.toNat_lt_size]

theorem readLength_eq_error {image : List UInt8} {panic : String}
    (read : readLength image = .error panic) :
    image.length < 2 ∧ panic = indexOutOfRange image.length image.length := by
  match image, read with
  | [], read | [_], read => cases read; exact ⟨by simp, rfl⟩

theorem readLength_eq_ok {image : List UInt8} {mlen : Nat} (read : readLength image = .ok mlen) :
    ∃ b0 b1 rest, image = b0 :: b1 :: rest ∧ mlen = b0.toNat * 256 + b1.toNat := by
  match image, read with
  | b0 :: b1 :: rest, read =>
      rw [readLength_cons_cons] at read
      cases read
      exact ⟨b0, b1, rest, rfl, rfl⟩

/-- A marker segment the loop skips whole: a skipped marker, the two bytes of a big-endian length
that counts them, and a body of that length. -/
structure SkippedSegment where
  marker : UInt8
  lengthHigh : UInt8
  lengthLow : UInt8
  body : List UInt8
  skipped : marker ∈ skippedMarkers
  length_eq : lengthHigh.toNat * 256 + lengthLow.toNat = body.length + 2

/-- The bytes of a segment, from its `0xFF`. -/
def SkippedSegment.bytes (segment : SkippedSegment) : List UInt8 :=
  0xFF :: segment.marker :: segment.lengthHigh :: segment.lengthLow :: segment.body

/-- Where the loop panics. -/
inductive PanicsAt : List UInt8 → Prop
  /-- A marker that reads a length, with fewer than two bytes after it. -/
  | truncated {marker : UInt8} {extra : List UInt8}
      (readsLength : marker ∈ skippedMarkers ∨ marker = MarkerStartOfFrame1) (short : extra.length < 2) :
      PanicsAt (0xFF :: marker :: extra)
  /-- A start of frame that declares a length below 2. -/
  | shortStartOfFrame {high low : UInt8} (rest : List UInt8) (below : high.toNat * 256 + low.toNat < 2) :
      PanicsAt (0xFF :: MarkerStartOfFrame1 :: high :: low :: rest)

/-- The loop steps over a skipped segment. -/
theorem scanMarkers_skippedSegment (segment : SkippedSegment) (rest : List UInt8) :
    scanMarkers unmarshalSOF (segment.bytes ++ rest) = scanMarkers unmarshalSOF rest := by
  have length := segment.length_eq
  simp only [SkippedSegment.bytes, List.cons_append]
  rw [scanMarkers, if_neg (by simp), if_pos segment.skipped, readLength_cons_cons, length]
  simp only [List.length_cons, List.length_append]
  rw [if_neg (by omega), List.drop_succ_cons, List.drop_succ_cons, List.drop_left]

theorem scanMarkers_flatMap_bytes (segments : List SkippedSegment) (rest : List UInt8) :
    scanMarkers unmarshalSOF (segments.flatMap SkippedSegment.bytes ++ rest) =
      scanMarkers unmarshalSOF rest := by
  induction segments with
  | nil => rfl
  | cons segment segments ih =>
      rw [List.flatMap_cons, List.append_assoc, scanMarkers_skippedSegment, ih]

/-- A marker that reads a length panics when fewer than two bytes follow it. -/
theorem scanMarkers_truncated {marker : UInt8} {extra : List UInt8}
    (readsLength : marker ∈ skippedMarkers ∨ marker = MarkerStartOfFrame1) (short : extra.length < 2) :
    scanMarkers unmarshalSOF (0xFF :: marker :: extra) =
      .panic (indexOutOfRange extra.length extra.length) := by
  have unread : readLength extra = .error (indexOutOfRange extra.length extra.length) := by
    match extra, short with
    | [], _ | [_], _ => rfl
  rw [scanMarkers, if_neg (by simp)]
  rcases readsLength with skipped | rfl
  · rw [if_pos skipped, unread]
  · rw [if_neg (by decide), if_pos rfl, unread]

/-- A start of frame whose declared length is below 2 panics on the slice `image[2:mlen]`. -/
theorem scanMarkers_shortStartOfFrame {high low : UInt8} (rest : List UInt8)
    (below : high.toNat * 256 + low.toNat < 2) :
    scanMarkers unmarshalSOF (0xFF :: MarkerStartOfFrame1 :: high :: low :: rest) =
      .panic (sliceOutOfRange 2 (high.toNat * 256 + low.toNat)) := by
  rw [scanMarkers, if_neg (by simp), if_neg (by decide), if_pos rfl, readLength_cons_cons]
  simp only [List.length_cons]
  rw [if_neg (by omega), if_pos below]

/-- The loop errs on a byte other than `0xFF` where a marker should start. -/
theorem scanMarkers_cons_of_ne {b : UInt8} (ne : b ≠ 0xFF) (rest : List UInt8) :
    ∃ message, scanMarkers unmarshalSOF (b :: rest) = .error message := by
  cases rest with
  | nil => exact ⟨_, scanMarkers.eq_2 _ _ fun _ _ _ pair => by cases pair⟩
  | cons _ _ => exact ⟨_, by rw [scanMarkers, if_pos ne]⟩

/-- After a segment that declares a length below 2 the loop errs: it reads the length bytes as a
marker. -/
theorem scanMarkers_drop_short (b0 b1 : UInt8) (rest : List UInt8)
    (short : b0.toNat * 256 + b1.toNat < 2) :
    ∃ message, scanMarkers unmarshalSOF ((b0 :: b1 :: rest).drop (b0.toNat * 256 + b1.toNat)) =
      .error message := by
  have high : b0.toNat = 0 := by omega
  rcases (by omega : b1.toNat = 0 ∨ b1.toNat = 1) with low | low <;> rw [high, low]
  · exact scanMarkers_cons_of_ne unmarshalSOF (fun isFF => by simp [isFF] at high) _
  · exact scanMarkers_cons_of_ne unmarshalSOF (fun isFF => by simp [isFF] at low) _

/-- A skipped marker whose declared length is at least 2 and fits starts a segment the loop skips
whole. -/
theorem exists_skippedSegment {marker b0 b1 : UInt8} {rest : List UInt8}
    (skipped : marker ∈ skippedMarkers) (long : 2 ≤ b0.toNat * 256 + b1.toNat)
    (fits : b0.toNat * 256 + b1.toNat ≤ rest.length + 2) :
    ∃ segment : SkippedSegment, 0xFF :: marker :: b0 :: b1 :: rest =
      segment.bytes ++ (b0 :: b1 :: rest).drop (b0.toNat * 256 + b1.toNat) := by
  obtain ⟨n, length⟩ := Nat.exists_eq_add_of_le' long
  refine ⟨⟨marker, b0, b1, rest.take n, skipped, by simp only [List.length_take]; omega⟩, ?_⟩
  simp [SkippedSegment.bytes, length]

/-- Where the loop panics, it has skipped whole segments and stands on one that panics. -/
theorem panicsAt_of_scanMarkers {image : List UInt8} {message : String}
    (panics : scanMarkers unmarshalSOF image = .panic message) :
    ∃ (segments : List SkippedSegment) (tail : List UInt8),
      image = segments.flatMap SkippedSegment.bytes ++ tail ∧ PanicsAt tail := by
  induction image using scanMarkers.induct unmarshalSOF with
  | case2 h0 h1 image isFF skipped panic unread =>
      obtain rfl : h0 = 0xFF := not_not.mp isFF
      exact ⟨[], _, rfl, .truncated (.inl skipped) (readLength_eq_error unread).1⟩
  | case4 h0 h1 image isFF skipped mlen read fits ih =>
      obtain rfl : h0 = 0xFF := not_not.mp isFF
      rw [scanMarkers, if_neg isFF, if_pos skipped, read] at panics
      simp only [if_neg fits] at panics
      obtain ⟨b0, b1, rest, rfl, rfl⟩ := readLength_eq_ok read
      have long : 2 ≤ b0.toNat * 256 + b1.toNat := by
        by_contra short
        obtain ⟨_, errs⟩ := scanMarkers_drop_short unmarshalSOF b0 b1 rest (by omega)
        rw [errs] at panics
        cases panics
      obtain ⟨segment, split⟩ := exists_skippedSegment skipped long (by simpa using fits)
      obtain ⟨segments, tail, rest_split, panicsAt⟩ := ih panics
      refine ⟨segment :: segments, tail, ?_, panicsAt⟩
      rw [split, rest_split, List.flatMap_cons, List.append_assoc]
  | case5 h0 image isFF panic unread =>
      obtain rfl : h0 = 0xFF := not_not.mp isFF
      exact ⟨[], _, rfl, .truncated (.inr rfl) (readLength_eq_error unread).1⟩
  | case7 h0 image isFF mlen read _ short =>
      obtain rfl : h0 = 0xFF := not_not.mp isFF
      obtain ⟨b0, b1, rest, rfl, rfl⟩ := readLength_eq_ok read
      exact ⟨[], _, rfl, .shortStartOfFrame rest short⟩
  | case12 image notPair =>
      rw [scanMarkers.eq_2 _ _ notPair] at panics
      cases panics
  | _ =>
      rw [scanMarkers] at panics
      simp [*] at panics

/-- The loop panics exactly where, after segments it skips whole, it stands on a segment that
panics. -/
theorem scanMarkers_panic_iff (image : List UInt8) :
    (∃ message, scanMarkers unmarshalSOF image = .panic message) ↔
      ∃ (segments : List SkippedSegment) (tail : List UInt8),
        image = segments.flatMap SkippedSegment.bytes ++ tail ∧ PanicsAt tail := by
  refine ⟨fun ⟨_, panics⟩ => panicsAt_of_scanMarkers unmarshalSOF panics, ?_⟩
  rintro ⟨segments, tail, rfl, panicsAt⟩
  rw [scanMarkers_flatMap_bytes]
  cases panicsAt with
  | truncated readsLength short => exact ⟨_, scanMarkers_truncated unmarshalSOF readsLength short⟩
  | shortStartOfFrame rest below => exact ⟨_, scanMarkers_shortStartOfFrame unmarshalSOF rest below⟩

/-- Past its header, `jpegExtractSize` is the loop. -/
theorem jpegExtractSize_header (image : List UInt8) :
    jpegExtractSize unmarshalSOF (0xFF :: MarkerStartOfImage :: image) = scanMarkers unmarshalSOF image := by
  rw [jpegExtractSize, if_neg (by simp)]

/-- `jpegExtractSize` panics exactly on an image that has its start-of-image marker and then, after
segments the loop skips whole, a segment that panics. -/
theorem jpegExtractSize_panic_iff (image : List UInt8) :
    (∃ message, jpegExtractSize unmarshalSOF image = .panic message) ↔
      ∃ (segments : List SkippedSegment) (tail : List UInt8),
        image = 0xFF :: MarkerStartOfImage :: (segments.flatMap SkippedSegment.bytes ++ tail) ∧
          PanicsAt tail := by
  match image with
  | b0 :: b1 :: image =>
      by_cases header : b0 = 0xFF ∧ b1 = MarkerStartOfImage
      · obtain ⟨rfl, rfl⟩ := header
        simp only [jpegExtractSize_header, scanMarkers_panic_iff, List.cons.injEq, true_and]
      · have invalid : jpegExtractSize unmarshalSOF (b0 :: b1 :: image) = .error "invalid header" :=
          if_pos (by tauto)
        simp only [invalid, List.cons.injEq]
        constructor
        · rintro ⟨_, ⟨⟩⟩
        · rintro ⟨_, _, ⟨rfl, rfl, -⟩, -⟩
          exact (header ⟨rfl, rfl⟩).elim
  | [] | [_] => simp [jpegExtractSize]

/-- Whatever the decoder of the SOF segment, after any segments it skips whole `jpegExtractSize`
panics on a marker that reads a length with fewer than two bytes after it, and on a start of frame
that declares a length below 2. -/
theorem jpegExtractSize_panics (segments : List SkippedSegment) :
    (∀ marker extra, marker ∈ skippedMarkers ∨ marker = MarkerStartOfFrame1 → extra.length < 2 →
      jpegExtractSize unmarshalSOF (0xFF :: MarkerStartOfImage ::
          (segments.flatMap SkippedSegment.bytes ++ 0xFF :: marker :: extra)) =
        .panic (indexOutOfRange extra.length extra.length)) ∧
    ∀ high low rest, high.toNat * 256 + low.toNat < 2 →
      jpegExtractSize unmarshalSOF (0xFF :: MarkerStartOfImage ::
          (segments.flatMap SkippedSegment.bytes ++ 0xFF :: MarkerStartOfFrame1 :: high :: low :: rest)) =
        .panic (sliceOutOfRange 2 (high.toNat * 256 + low.toNat)) := by
  simp only [jpegExtractSize_header, scanMarkers_flatMap_bytes]
  exact ⟨fun _ _ => scanMarkers_truncated unmarshalSOF,
    fun _ _ => scanMarkers_shortStartOfFrame unmarshalSOF⟩

/-- An image that ends on its first marker, `FF D8 FF E0`, and one whose start of frame declares
the length 1, `FF D8 FF C0 00 01`. -/
theorem jpegExtractSize_panics_app0 :
    jpegExtractSize (fun _ => .ok (0, 0)) [0xFF, MarkerStartOfImage, 0xFF, 0xE0] =
        .panic (indexOutOfRange 0 0) ∧
      jpegExtractSize (fun _ => .ok (0, 0)) [0xFF, MarkerStartOfImage, 0xFF, MarkerStartOfFrame1, 0, 1] =
        .panic (sliceOutOfRange 2 1) :=
  ⟨(jpegExtractSize_panics _ []).1 0xE0 [] (.inl (by decide)) (by decide),
    (jpegExtractSize_panics _ []).2 0 1 [] (by decide)⟩

/-! ## The VP9 track -/

/-- `fmp4.CodecVP9`. -/
structure CodecVP9 where
  width : Int
  height : Int
  profile : UInt8
  bitDepth : UInt8
  chromaSubsampling : UInt8
  colorRange : Bool
  deriving DecidableEq, Repr

/-- What the callback reads of a `vp9.Header`: whether `FrameType` is `FrameTypeKeyFrame`,
`Width()`, `Height()`, `Profile`, `ColorConfig.BitDepth`, `ChromaSubsampling()` and
`ColorConfig.ColorRange`. -/
structure VP9Header where
  keyFrame : Bool
  width : Int
  height : Int
  profile : UInt8
  bitDepth : UInt8
  chromaSubsampling : UInt8
  colorRange : Bool
  deriving DecidableEq, Repr

/-- The codec the track is added with. -/
def initialCodecVP9 : CodecVP9 := ⟨1280, 720, 1, 8, 1, false⟩

/-- `recFormatFMP4Segment`, reduced to whether its file `fi` is open: the file starts with the init,
which holds the codec parameters. -/
structure FMP4Segment where
  fi : Bool
  deriving DecidableEq, Repr

/-- The `sample` the callback hands `track.record`. -/
structure Sample where
  isNonSyncSample : Bool
  payload : List UInt8
  dts : Int
  deriving DecidableEq, Repr

/-- What the VP9 callback reads and writes: the recorder's current segment, the track's codec and
`firstReceived`, and, as ghost state, how many times it has called `updateCodecs`. -/
structure VP9Recorder where
  currentSegment : Option FMP4Segment
  codec : CodecVP9
  firstReceived : Bool
  updateCodecsCalls : Nat
  deriving DecidableEq, Repr

/-- The state when the track is added, with the recorder's current segment. -/
def VP9Recorder.init (currentSegment : Option FMP4Segment) : VP9Recorder :=
  ⟨currentSegment, initialCodecVP9, false, 0⟩

/-- `updateCodecs`: a segment that has written the codec parameters on disk is closed. -/
def updateCodecs : Option FMP4Segment → Option FMP4Segment
  | some segment => if segment.fi then none else some segment
  | none => none

/-- A field of `fmp4.CodecVP9`: how to read it and how to write it; writing the value it has
changes nothing. -/
structure CodecField (α : Type) where
  read : CodecVP9 → α
  write : CodecVP9 → α → CodecVP9
  write_read : ∀ codec, write codec (read codec) = codec

def CodecField.width : CodecField Int := ⟨(·.width), fun c v => { c with width := v }, fun _ => rfl⟩
def CodecField.height : CodecField Int := ⟨(·.height), fun c v => { c with height := v }, fun _ => rfl⟩
def CodecField.profile : CodecField UInt8 :=
  ⟨(·.profile), fun c v => { c with profile := v }, fun _ => rfl⟩
def CodecField.bitDepth : CodecField UInt8 :=
  ⟨(·.bitDepth), fun c v => { c with bitDepth := v }, fun _ => rfl⟩
def CodecField.chromaSubsampling : CodecField UInt8 :=
  ⟨(·.chromaSubsampling), fun c v => { c with chromaSubsampling := v }, fun _ => rfl⟩
def CodecField.colorRange : CodecField Bool :=
  ⟨(·.colorRange), fun c v => { c with colorRange := v }, fun _ => rfl⟩

/-- `if codec.F != v { codec.F = v; updateCodecs() }`, for the field `F`. -/
def updateField {α : Type} [DecidableEq α] (field : CodecField α) (v : α) (r : VP9Recorder) :
    VP9Recorder :=
  if field.read r.codec ≠ v then
    { r with
      codec := field.write r.codec v
      currentSegment := updateCodecs r.currentSegment
      updateCodecsCalls := r.updateCodecsCalls + 1 }
  else r

/-- The six updates of a key frame, in the order of the source.  The second is
`if h := h.Width(); codec.Height != h`: its `h` shadows the header, so it compares the height with
the width and stores the width. -/
def updateKeyFrame (h : VP9Header) (r : VP9Recorder) : VP9Recorder :=
  r |> updateField .width h.width
    |> updateField .height h.width
    |> updateField .profile h.profile
    |> updateField .bitDepth h.bitDepth
    |> updateField .chromaSubsampling h.chromaSubsampling
    |> updateField .colorRange h.colorRange

/-- The VP9 track's callback on a unit with frame `frame` (`nil` is `none`) and time stamp `pts`;
`unmarshal` is `vp9.Header.Unmarshal`.  It returns the sample it hands `track.record`, if any. -/
def onVP9Unit (unmarshal : List UInt8 → Except String VP9Header) (r : VP9Recorder)
    (frame : Option (List UInt8)) (pts : Int) : VP9Recorder × Except String (Option Sample) :=
  match frame with
  | none => (r, .ok none)
  | some frame =>
      match unmarshal frame with
      | .error err => (r, .error err)
      | .ok h =>
          let randomAccess := h.keyFrame
          let r := if h.keyFrame then updateKeyFrame h r else r
          let sample : Sample := ⟨!randomAccess, frame, pts⟩
          if !r.firstReceived then
            if !randomAccess then (r, .ok none)
            else ({ r with firstReceived := true }, .ok (some sample))
          else (r, .ok (some sample))

section updateField

variable {α : Type} [DecidableEq α] (field : CodecField α) (v : α) (r : VP9Recorder)

/-- The field ends set to `v`. -/
theorem updateField_codec : (updateField field v r).codec = field.write r.codec v := by
  unfold updateField
  split_ifs with differs
  · rfl
  · rw [← not_not.mp differs, field.write_read]

theorem updateField_calls :
    (updateField field v r).updateCodecsCalls =
      r.updateCodecsCalls + if field.read r.codec = v then 0 else 1 := by
  unfold updateField
  split_ifs <;> simp_all

end updateField

/-- The codec a key frame leaves: the header's fields, with its width in the height. -/
def keyFrameCodec (h : VP9Header) : CodecVP9 :=
  ⟨h.width, h.width, h.profile, h.bitDepth, h.chromaSubsampling, h.colorRange⟩

theorem updateKeyFrame_codec (h : VP9Header) (r : VP9Recorder) :
    (updateKeyFrame h r).codec = keyFrameCodec h := by
  simp only [updateKeyFrame, updateField_codec]
  rfl

/-- A key frame calls `updateCodecs` once for each field of the codec that differs from the codec it
leaves. -/
theorem updateKeyFrame_calls (h : VP9Header) (r : VP9Recorder) :
    (updateKeyFrame h r).updateCodecsCalls = r.updateCodecsCalls +
      ((if r.codec.width = h.width then 0 else 1) + (if r.codec.height = h.width then 0 else 1) +
        (if r.codec.profile = h.profile then 0 else 1) +
        (if r.codec.bitDepth = h.bitDepth then 0 else 1) +
        (if r.codec.chromaSubsampling = h.chromaSubsampling then 0 else 1) +
        (if r.codec.colorRange = h.colorRange then 0 else 1)) := by
  simp only [updateKeyFrame, updateField_calls, updateField_codec, CodecField.width,
    CodecField.height, CodecField.profile, CodecField.bitDepth, CodecField.chromaSubsampling,
    CodecField.colorRange]
  omega

/-- A key frame calls `updateCodecs` exactly when it changes the codec. -/
theorem updateKeyFrame_calls_eq_iff (h : VP9Header) (r : VP9Recorder) :
    (updateKeyFrame h r).updateCodecsCalls = r.updateCodecsCalls ↔ r.codec = keyFrameCodec h := by
  rw [updateKeyFrame_calls, add_right_eq_self]
  obtain ⟨width, height, profile, bitDepth, chromaSubsampling, colorRange⟩ := r.codec
  simp only [keyFrameCodec, CodecVP9.mk.injEq, Nat.add_eq_zero_iff, ite_eq_left_iff, one_ne_zero,
    imp_false, not_not, and_assoc]

/-- A unit whose frame parses updates the codec at a key frame, and marks the first key frame as
received. -/
theorem onVP9Unit_of_ok {unmarshal : List UInt8 → Except String VP9Header} {frame : List UInt8}
    {h : VP9Header} (parsed : unmarshal frame = .ok h) (r : VP9Recorder) (pts : Int) :
    (onVP9Unit unmarshal r (some frame) pts).1 =
      let updated := if h.keyFrame then updateKeyFrame h r else r
      { updated with firstReceived := updated.firstReceived || h.keyFrame } := by
  simp only [onVP9Unit, parsed]
  generalize (if h.keyFrame then updateKeyFrame h r else r) = updated
  obtain ⟨segment, codec, received, calls⟩ := updated
  cases h.keyFrame <;> cases received <;> rfl

/-- A key frame leaves the codec it gives, its width in the height, and calls `updateCodecs`
exactly when that changes the codec. -/
theorem onVP9Unit_keyFrame {unmarshal : List UInt8 → Except String VP9Header} {frame : List UInt8}
    {h : VP9Header} (parsed : unmarshal frame = .ok h) (key : h.keyFrame = true) (r : VP9Recorder)
    (pts : Int) :
    (onVP9Unit unmarshal r (some frame) pts).1.codec = keyFrameCodec h ∧
      ((onVP9Unit unmarshal r (some frame) pts).1.updateCodecsCalls = r.updateCodecsCalls ↔
        r.codec = keyFrameCodec h) := by
  simp only [onVP9Unit_of_ok parsed, key, if_true]
  exact ⟨updateKeyFrame_codec h r, updateKeyFrame_calls_eq_iff h r⟩

/-- The callback on each unit in turn. -/
def onVP9Units (unmarshal : List UInt8 → Except String VP9Header) (r : VP9Recorder)
    (units : List (Option (List UInt8) × Int)) : VP9Recorder :=
  units.foldl (fun r unit => (onVP9Unit unmarshal r unit.1 unit.2).1) r

/-- Once the first key frame is received the codec is square, whatever the frames' sizes: every key
frame stores its width in the height, and no other unit touches the codec. -/
theorem onVP9Units_height_eq_width (unmarshal : List UInt8 → Except String VP9Header)
    (units : List (Option (List UInt8) × Int)) :
    ∀ r : VP9Recorder, (r.firstReceived = true → r.codec.height = r.codec.width) →
      let r' := onVP9Units unmarshal r units
      r'.firstReceived = true → r'.codec.height = r'.codec.width := by
  induction units with
  | nil => exact fun _ square => square
  | cons unit units ih =>
      intro r square
      apply ih
      obtain ⟨frame, pts⟩ := unit
      match frame with
      | none => exact square
      | some data =>
          cases parsed : unmarshal data with
          | error _ => simp only [onVP9Unit, parsed]; exact square
          | ok h =>
              simp only [onVP9Unit_of_ok parsed]
              cases key : h.keyFrame
              · simpa using square
              · simp [updateKeyFrame_codec, keyFrameCodec]

/-- From the codec the track is added with, a key frame with that codec's size, profile, bit depth,
chroma subsampling and colour range calls `updateCodecs`, closing the segment whose init is on
disk, and stores the width in the height; a second key frame that changes only the height calls
nothing, and the height stays the width. -/
theorem vp9KeyFrame_height_from_width (unmarshal : List UInt8 → Except String VP9Header)
    (frame₁ frame₂ : List UInt8) (pts₁ pts₂ : Int)
    (first : unmarshal frame₁ = .ok ⟨true, 1280, 720, 1, 8, 1, false⟩)
    (second : unmarshal frame₂ = .ok ⟨true, 1280, 1080, 1, 8, 1, false⟩) :
    let r₁ := (onVP9Unit unmarshal (VP9Recorder.init (some ⟨true⟩)) (some frame₁) pts₁).1
    let r₂ := (onVP9Unit unmarshal r₁ (some frame₂) pts₂).1
    r₁.codec = ⟨1280, 1280, 1, 8, 1, false⟩ ∧ r₁.updateCodecsCalls = 1 ∧ r₁.currentSegment = none ∧
      r₂.codec = ⟨1280, 1280, 1, 8, 1, false⟩ ∧ r₂.updateCodecsCalls = 1 := by
  simp only [onVP9Unit_of_ok first, onVP9Unit_of_ok second]
  decide

/-- The two key frames as the first two frames of a stream. -/
theorem vp9KeyFrame_height_from_width_1280x1080 :
    let unmarshal : List UInt8 → Except String VP9Header := fun frame =>
      .ok (if frame = [1] then ⟨true, 1280, 720, 1, 8, 1, false⟩ else ⟨true, 1280, 1080, 1, 8, 1, false⟩)
    let r₁ := (onVP9Unit unmarshal (VP9Recorder.init (some ⟨true⟩)) (some [1]) 0).1
    let r₂ := (onVP9Unit unmarshal r₁ (some [2]) 0).1
    r₁.codec = ⟨1280, 1280, 1, 8, 1, false⟩ ∧ r₁.updateCodecsCalls = 1 ∧ r₁.currentSegment = none ∧
      r₂.codec = ⟨1280, 1280, 1, 8, 1, false⟩ ∧ r₂.updateCodecsCalls = 1 :=
  vp9KeyFrame_height_from_width _ [1] [2] 0 0 rfl rfl

end Record
end RtspSimpleServer
