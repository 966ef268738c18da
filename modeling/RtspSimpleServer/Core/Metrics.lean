import Mathlib.Data.List.Basic
import Mathlib.Data.Nat.Digits

/-!
# The metrics exposition

A shallow embedding of `metrics.onMetrics`, the answer to `GET /metrics`, with the answers of the
list calls as its input.  The exposition reads back line by line, and which families it has
depends only on which servers are set, save one.
-/

namespace RtspSimpleServer

/-- `int64(v)` for an unsigned 64-bit counter: the two's complement reading of its bits. -/
def toInt64 (v : UInt64) : Int :=
  if v.toNat < UInt64.size / 2 then v.toNat else (v.toNat : Int) - UInt64.size

/-- `metric`: one line of the exposition, with the value as `strconv.FormatInt(value, 10)`
writes it. -/
def metric (key tags : String) (value : Int) : String :=
  key ++ tags ++ " " ++ toString value ++ "\n"

/-- The arguments of one call of `metric`. -/
structure MetricLine where
  key : String
  tags : String
  value : Int
  deriving DecidableEq, Repr

/-- The fields of `apiPath` that `onMetrics` reads. -/
structure APIPath where
  name : String
  sourceReady : Bool
  bytesReceived : UInt64
  deriving DecidableEq, Repr

/-- The fields of `apiHLSMuxer` that `onMetrics` reads. -/
structure APIHLSMuxer where
  path : String
  bytesSent : UInt64
  deriving DecidableEq, Repr

/-- The fields that `onMetrics` reads of `apiRTSPConn` and of `apiWebRTCSession`: the ID, as
`ID.String()` writes it, and two counters. -/
structure APIConn where
  id : String
  bytesReceived : UInt64
  bytesSent : UInt64
  deriving DecidableEq, Repr

/-- The fields that `onMetrics` reads of `apiRTSPSession` and of `apiRTMPConn`: the ID, the state
and two counters. -/
structure APISession where
  id : String
  state : String
  bytesReceived : UInt64
  bytesSent : UInt64
  deriving DecidableEq, Repr

/-- What the list calls of `onMetrics` return: the path manager's, and those of each server that
is set (`interfaceIsEmpty` is false; `none` otherwise). -/
structure Metrics where
  /-- `pathManager.apiPathsList()`. -/
  pathManager : Except String (List APIPath)
  /-- `hlsManager.apiMuxersList()`. -/
  hlsManager : Option (Except String (List APIHLSMuxer))
  /-- `rtspServer.apiConnsList()` and `rtspServer.apiSessionsList()`. -/
  rtspServer : Option (Except String (List APIConn) × Except String (List APISession))
  /-- `rtspsServer.apiConnsList()` and `rtspsServer.apiSessionsList()`. -/
  rtspsServer : Option (Except String (List APIConn) × Except String (List APISession))
  /-- `rtmpServer.apiConnsList()`. -/
  rtmpServer : Option (Except String (List APISession))
  /-- `webRTCManager.apiSessionsList()`. -/
  webRTCManager : Option (Except String (List APIConn))

/-- One list of the exposition: when the call returns at least one item, the lines of each item
in turn; when it fails or returns none, a line of value 0 without tags for each key of
`fallback`. -/
def listLines {α : Type} (itemLines : α → List MetricLine) (fallback : List String) :
    Except String (List α) → List MetricLine
  | .ok (item :: items) => (item :: items).flatMap itemLines
  | _ => fallback.map fun key => ⟨key, "", 0⟩

/-- The part of the exposition of a server: its lists when it is set, nothing otherwise. -/
def ifSet {σ : Type} (server : Option σ) (lines : σ → List MetricLine) : List MetricLine :=
  match server with
  | some answers => lines answers
  | none => []

/-- The lines of a path. -/
def pathLines (i : APIPath) : List MetricLine :=
  let state := if i.sourceReady then "ready" else "notReady"
  let tags := "\x7bname=\"" ++ i.name ++ "\",state=\"" ++ state ++ "\"\x7d"
  [⟨"paths", tags, 1⟩, ⟨"paths_bytes_received", tags, toInt64 i.bytesReceived⟩]

/-- The lines of an HLS muxer. -/
def hlsMuxerLines (i : APIHLSMuxer) : List MetricLine :=
  let tags := "\x7bname=\"" ++ i.path ++ "\"\x7d"
  [⟨"hls_muxers", tags, 1⟩, ⟨"hls_muxers_bytes_sent", tags, toInt64 i.bytesSent⟩]

/-- The lines of an item with a byte counter in each direction: one counting it under `count`,
then the bytes it received and the bytes it sent. -/
def counterLines (count received sent tags : String) (bytesReceived bytesSent : UInt64) :
    List MetricLine :=
  [⟨count, tags, 1⟩, ⟨received, tags, toInt64 bytesReceived⟩, ⟨sent, tags, toInt64 bytesSent⟩]

/-- The lines of an RTSP connection. -/
def rtspConnLines (i : APIConn) : List MetricLine :=
  counterLines "rtsp_conns" "rtsp_conns_bytes_received" "rtsp_conns_bytes_sent"
    ("\x7bid=\"" ++ i.id ++ "\"\x7d") i.bytesReceived i.bytesSent

/-- The lines of an RTSP session. -/
def rtspSessionLines (i : APISession) : List MetricLine :=
  counterLines "rtsp_sessions" "rtsp_sessions_bytes_received" "rtsp_sessions_bytes_sent"
    ("\x7bid=\"" ++ i.id ++ "\",state=\"" ++ i.state ++ "\"\x7d") i.bytesReceived i.bytesSent

/-- The lines of an RTSPS connection. -/
def rtspsConnLines (i : APIConn) : List MetricLine :=
  counterLines "rtsps_conns" "rtsps_conns_bytes_received" "rtsps_conns_bytes_sent"
    ("\x7bid=\"" ++ i.id ++ "\"\x7d") i.bytesReceived i.bytesSent

/-- The lines of an RTSPS session. -/
def rtspsSessionLines (i : APISession) : List MetricLine :=
  counterLines "rtsps_sessions" "rtsps_sessions_bytes_received" "rtsps_sessions_bytes_sent"
    ("\x7bid=\"" ++ i.id ++ "\",state=\"" ++ i.state ++ "\"\x7d") i.bytesReceived i.bytesSent

/-- The lines of an RTMP connection. -/
def rtmpConnLines (i : APISession) : List MetricLine :=
  counterLines "rtmp_conns" "rtmp_conns_bytes_received" "rtmp_conns_bytes_sent"
    ("\x7bid=\"" ++ i.id ++ "\",state=\"" ++ i.state ++ "\"\x7d") i.bytesReceived i.bytesSent

/-- The lines of a WebRTC session. -/
def webRTCSessionLines (i : APIConn) : List MetricLine :=
  counterLines "webrtc_sessions" "webrtc_sessions_bytes_received" "webrtc_sessions_bytes_sent"
    ("\x7bid=\"" ++ i.id ++ "\"\x7d") i.bytesReceived i.bytesSent

/-- The calls of `metric` that `onMetrics` makes, in order. -/
def Metrics.lines (m : Metrics) : List MetricLine :=
  listLines pathLines ["paths"] m.pathManager ++
  ifSet m.hlsManager (listLines hlsMuxerLines ["hls_muxers", "hls_muxers_bytes_sent"]) ++
  ifSet m.rtspServer (fun answers =>
    listLines rtspConnLines
      ["rtsp_conns", "rtsp_conns_bytes_received", "rtsp_conns_bytes_sent"] answers.1 ++
    listLines rtspSessionLines
      ["rtsp_sessions", "rtsp_sessions_bytes_received", "rtsp_sessions_bytes_sent"] answers.2) ++
  ifSet m.rtspsServer (fun answers =>
    listLines rtspsConnLines
      ["rtsps_conns", "rtsps_conns_bytes_received", "rtsps_conns_bytes_sent"] answers.1 ++
    listLines rtspsSessionLines
      ["rtsps_sessions", "rtsps_sessions_bytes_received", "rtsps_sessions_bytes_sent"]
      answers.2) ++
  ifSet m.rtmpServer (listLines rtmpConnLines
    ["rtmp_conns", "rtmp_conns_bytes_received", "rtmp_conns_bytes_sent"]) ++
  ifSet m.webRTCManager (listLines webRTCSessionLines
    ["webrtc_sessions", "webrtc_sessions_bytes_received", "webrtc_sessions_bytes_sent"])

/-- `metrics.onMetrics`: the body it writes, `out`, one call of `metric` appended after the
other. -/
def Metrics.onMetrics (m : Metrics) : String :=
  m.lines.foldl (fun out l => out ++ metric l.key l.tags l.value) ""

/-! ### Reading the exposition back -/

/-- One step of reading a decimal numeral: the number read so far, then one more digit. -/
def decimalStep (n : Nat) (c : Char) : Nat := 10 * n + (c.toNat - '0'.toNat)

/-- A value as `strconv.FormatInt` writes it in base 10: a minus sign, or none, then digits. -/
def readValue (chars : List Char) : Int :=
  if chars.head? = some '-' then -(chars.tail.foldl decimalStep 0 : Nat)
  else (chars.foldl decimalStep 0 : Nat)

/-- A line of the exposition read back, without its new line: the value is what follows the last
blank, the key what precedes the first brace, and the tags the rest. -/
def parseLine (line : List Char) : MetricLine :=
  let value := (line.reverse.takeWhile (· != ' ')).reverse
  let keyTags := (line.reverse.drop (value.length + 1)).reverse
  let key := keyTags.takeWhile (· != '\x7b')
  ⟨⟨key⟩, ⟨keyTags.drop key.length⟩, readValue value⟩

/-- An exposition read back: the lines of the text, each ended by a new line. -/
def parseExposition (text : String) : List MetricLine :=
  (text.data.splitOn '\n').dropLast.map parseLine

theorem decimalStep_digitChar (n : Nat) {d : Nat} (h : d < 10) :
    decimalStep n (Nat.digitChar d) = 10 * n + d := by
  have digit : ∀ d < 10, (Nat.digitChar d).toNat - '0'.toNat = d := by decide
  simp only [decimalStep, digit d h]

theorem foldl_decimalStep_toDigitsCore (fuel : Nat) :
    ∀ n (ds : List Char), n < fuel →
      (Nat.toDigitsCore 10 fuel n ds).foldl decimalStep 0 = ds.foldl decimalStep n := by
  induction fuel with
  | zero => intro n ds h; omega
  | succ fuel ih =>
    intro n ds h
    simp only [Nat.toDigitsCore]
    split
    · rw [List.foldl_cons, decimalStep_digitChar 0 (Nat.mod_lt n (by decide))]
      congr 1; omega
    · rw [ih _ _ (by omega), List.foldl_cons, decimalStep_digitChar _ (Nat.mod_lt n (by decide))]
      congr 1; omega

theorem isDigit_of_mem_toDigitsCore (fuel : Nat) :
    ∀ n (ds : List Char), ∀ c ∈ Nat.toDigitsCore 10 fuel n ds, c.isDigit ∨ c ∈ ds := by
  have digit : ∀ n, (Nat.digitChar (n % 10)).isDigit := by
    have : ∀ d < 10, (Nat.digitChar d).isDigit := by decide
    exact fun n => this _ (Nat.mod_lt n (by decide))
  induction fuel with
  | zero => intro n ds c h; exact .inr h
  | succ fuel ih =>
    intro n ds c h
    simp only [Nat.toDigitsCore] at h
    split at h
    · rcases List.mem_cons.1 h with rfl | h
      · exact .inl (digit n)
      · exact .inr h
    · rcases ih _ _ c h with h | h
      · exact .inl h
      · rcases List.mem_cons.1 h with rfl | h
        · exact .inl (digit n)
        · exact .inr h

/-- The digits `toString` writes for a natural number read back. -/
theorem foldl_decimalStep_toString (n : Nat) : (toString n).data.foldl decimalStep 0 = n :=
  foldl_decimalStep_toDigitsCore (n + 1) n [] (by omega)

theorem isDigit_of_mem_toString {n : Nat} {c : Char} (h : c ∈ (toString n).data) : c.isDigit :=
  (isDigit_of_mem_toDigitsCore (n + 1) n [] c h).resolve_right (List.not_mem_nil c)

/-- The value of a line read back. -/
theorem readValue_toString (v : Int) : readValue (toString v).data = v := by
  cases v with
  | ofNat n =>
    have unsigned : (toString n).data.head? ≠ some '-' := fun h =>
      absurd (isDigit_of_mem_toString (List.mem_of_mem_head? h)) (by decide)
    simp only [readValue, instToStringInt, if_neg unsigned, foldl_decimalStep_toString]
    rfl
  | negSucc n =>
    simp only [readValue, instToStringInt, String.data_append]
    simp only [show "-".data = ['-'] from rfl, List.singleton_append, List.head?_cons,
      if_pos, List.tail_cons, foldl_decimalStep_toString]
    rfl

/-- A key `parseLine` reads back: without new line or brace. -/
def ReadableKey (key : String) : Prop := '\n' ∉ key.data ∧ '\x7b' ∉ key.data

instance (key : String) : Decidable (ReadableKey key) := inferInstanceAs (Decidable (_ ∧ _))

/-- A line `parseLine` reads back: a readable key, and tags without new line that are empty or
open with a brace. -/
structure MetricLine.Readable (l : MetricLine) : Prop where
  key : ReadableKey l.key
  tags_newline : '\n' ∉ l.tags.data
  tags_open : ∀ c ∈ l.tags.data.head?, c = '\x7b'

/-- The characters of a line, without its new line. -/
def MetricLine.chars (l : MetricLine) : List Char :=
  l.key.data ++ l.tags.data ++ ' ' :: (toString l.value).data

theorem metric_data (l : MetricLine) :
    (metric l.key l.tags l.value).data = l.chars ++ ['\n'] := by
  simp [metric, MetricLine.chars, String.data_append]

/-- `strconv.FormatInt` writes no blank and no new line. -/
theorem ne_of_mem_toString {v : Int} {c : Char} (h : c ∈ (toString v).data) :
    c ≠ ' ' ∧ c ≠ '\n' := by
  have digit : c.isDigit ∨ c = '-' := by
    cases v with
    | ofNat n => exact .inl (isDigit_of_mem_toString h)
    | negSucc n =>
      simp only [instToStringInt, String.data_append, List.mem_append] at h
      rcases h with h | h
      · exact .inr (by simpa using h)
      · exact .inl (isDigit_of_mem_toString h)
  constructor <;> rintro rfl <;> revert digit <;> decide

theorem parseLine_chars {l : MetricLine} (h : l.Readable) : parseLine l.chars = l := by
  have reversed : l.chars.reverse =
      (toString l.value).data.reverse ++ ' ' :: (l.key.data ++ l.tags.data).reverse := by
    simp [MetricLine.chars]
  have value : ((toString l.value).data.reverse ++ ' ' ::
      (l.key.data ++ l.tags.data).reverse).takeWhile (· != ' ') =
        (toString l.value).data.reverse := by
    rw [List.takeWhile_append_of_pos, List.takeWhile_cons_of_neg, List.append_nil]
    · simp
    · intro c hc
      simpa using (ne_of_mem_toString (List.mem_reverse.1 hc)).1
  have key : (l.key.data ++ l.tags.data).takeWhile (· != '\x7b') = l.key.data := by
    rw [List.takeWhile_append_of_pos]
    · cases tags : l.tags.data with
      | nil => simp
      | cons c cs => simp [h.tags_open c (by simp [tags])]
    · intro c hc
      simp only [bne_iff_ne, ne_eq]
      rintro rfl
      exact h.key.2 hc
  have rest : ((toString l.value).data.reverse ++ ' ' ::
      (l.key.data ++ l.tags.data).reverse).drop ((toString l.value).data.length + 1) =
        (l.key.data ++ l.tags.data).reverse := by
    rw [List.append_cons, List.drop_left' (by simp)]
  simp only [parseLine, reversed, value, List.reverse_reverse, List.length_reverse, rest, key,
    List.drop_left, readValue_toString]

/-- The characters of an exposition, one line after the other. -/
theorem foldl_metric_data (ls : List MetricLine) (out : String) :
    (ls.foldl (fun out l => out ++ metric l.key l.tags l.value) out).data =
      out.data ++ (ls.map fun l => l.chars ++ ['\n']).flatten := by
  induction ls generalizing out with
  | nil => simp
  | cons l ls ih => simp [ih, metric_data, String.data_append]

/-- Pieces each followed by a separator are the pieces and an empty one, the separator between
them. -/
theorem flatten_map_append_singleton {α : Type} (sep : α) (pieces : List (List α)) :
    (pieces.map (· ++ [sep])).flatten = [sep].intercalate (pieces ++ [[]]) := by
  induction pieces with
  | nil => rfl
  | cons piece pieces ih =>
    cases pieces with
    | nil => simp [List.intercalate]
    | cons next pieces =>
      simp only [List.map_cons, List.flatten_cons, List.cons_append] at ih ⊢
      rw [ih]
      simp [List.intercalate, List.intersperse_cons_cons]

theorem newline_not_mem_chars {l : MetricLine} (h : l.Readable) : '\n' ∉ l.chars := by
  simp only [MetricLine.chars, List.mem_append, List.mem_cons, not_or]
  exact ⟨⟨h.key.1, h.tags_newline⟩, by decide,
    fun mem => (ne_of_mem_toString mem).2 rfl⟩

/-- An exposition whose lines are readable is read back line for line. -/
theorem parseExposition_foldl (ls : List MetricLine) (h : ∀ l ∈ ls, l.Readable) :
    parseExposition (ls.foldl (fun out l => out ++ metric l.key l.tags l.value) "") = ls := by
  have pieces : ∀ piece ∈ ls.map MetricLine.chars ++ [[]], '\n' ∉ piece := by
    simp only [List.mem_append, List.mem_map, List.mem_singleton]
    rintro piece (⟨l, mem, rfl⟩ | rfl)
    · exact newline_not_mem_chars (h l mem)
    · exact List.not_mem_nil _
  have lines :
      (ls.map fun l => l.chars ++ ['\n']) = (ls.map MetricLine.chars).map (· ++ ['\n']) := by
    simp
  rw [parseExposition, foldl_metric_data, lines, flatten_map_append_singleton,
    show ("" : String).data = [] from rfl, List.nil_append,
    List.splitOn_intercalate _ _ pieces (by simp), List.dropLast_concat, List.map_map]
  exact (List.map_congr_left fun l mem => parseLine_chars (h l mem)).trans (List.map_id _)

/-- Every item a list call returned satisfies `p`; nothing is asked of a failed call. -/
def Answered {α : Type} (p : α → Prop) : Except String (List α) → Prop
  | .ok items => ∀ i ∈ items, p i
  | .error _ => True

/-- No name, path, ID or state that the list calls returned holds a new line. -/
def Metrics.Printable (m : Metrics) : Prop :=
  Answered (fun i : APIPath => '\n' ∉ i.name.data) m.pathManager ∧
  (∀ r ∈ m.hlsManager, Answered (fun i : APIHLSMuxer => '\n' ∉ i.path.data) r) ∧
  (∀ r ∈ m.rtspServer, Answered (fun i : APIConn => '\n' ∉ i.id.data) r.1 ∧
    Answered (fun i : APISession => '\n' ∉ i.id.data ∧ '\n' ∉ i.state.data) r.2) ∧
  (∀ r ∈ m.rtspsServer, Answered (fun i : APIConn => '\n' ∉ i.id.data) r.1 ∧
    Answered (fun i : APISession => '\n' ∉ i.id.data ∧ '\n' ∉ i.state.data) r.2) ∧
  (∀ r ∈ m.rtmpServer,
    Answered (fun i : APISession => '\n' ∉ i.id.data ∧ '\n' ∉ i.state.data) r) ∧
  (∀ r ∈ m.webRTCManager, Answered (fun i : APIConn => '\n' ∉ i.id.data) r)

theorem readable_of_mem_listLines {α : Type} {itemLines : α → List MetricLine}
    {fallback : List String} {p : α → Prop} {r : Except String (List α)}
    (items : ∀ i, p i → ∀ l ∈ itemLines i, l.Readable) (keys : ∀ key ∈ fallback, ReadableKey key)
    (h : Answered p r) : ∀ l ∈ listLines itemLines fallback r, l.Readable := by
  have fallbackReadable :
      ∀ l ∈ fallback.map fun key => (⟨key, "", 0⟩ : MetricLine), l.Readable := by
    simp only [List.mem_map]
    rintro _ ⟨key, mem, rfl⟩
    exact ⟨keys key mem, List.not_mem_nil _, by simp⟩
  rcases r with err | _ | ⟨i, is⟩
  · exact fallbackReadable
  · exact fallbackReadable
  · simp only [listLines, List.mem_flatMap]
    rintro l ⟨i, mem, l_mem⟩
    exact items i (h i mem) l l_mem

theorem readable_of_mem_ifSet {σ : Type} {server : Option σ} {lines : σ → List MetricLine}
    (h : ∀ answers ∈ server, ∀ l ∈ lines answers, l.Readable) :
    ∀ l ∈ ifSet server lines, l.Readable := by
  cases server with
  | none => simp [ifSet]
  | some answers => exact h answers rfl

theorem MetricLine.readable_of_opens {l : MetricLine} (key : ReadableKey l.key)
    (newline : '\n' ∉ l.tags.data) (opens : l.tags.data.head? = some '\x7b') : l.Readable :=
  ⟨key, newline, by simp [opens]⟩

theorem readable_of_mem_pathLines (i : APIPath) (h : '\n' ∉ i.name.data) :
    ∀ l ∈ pathLines i, l.Readable := by
  have newline : '\n' ∉ (if i.sourceReady then "ready" else "notReady").data := by
    split <;> decide
  simp only [pathLines, List.mem_cons, List.mem_singleton, List.not_mem_nil, or_false]
  rintro l (rfl | rfl) <;>
    exact MetricLine.readable_of_opens (by dsimp only; decide)
      (by simp [String.data_append, h, newline]) rfl

theorem readable_of_mem_hlsMuxerLines (i : APIHLSMuxer) (h : '\n' ∉ i.path.data) :
    ∀ l ∈ hlsMuxerLines i, l.Readable := by
  simp only [hlsMuxerLines, List.mem_cons, List.mem_singleton, List.not_mem_nil, or_false]
  rintro l (rfl | rfl) <;>
    exact MetricLine.readable_of_opens (by dsimp only; decide) (by simp [String.data_append, h]) rfl

theorem readable_of_mem_counterLines {count received sent tags : String}
    {bytesReceived bytesSent : UInt64} (keys : ∀ key ∈ [count, received, sent], ReadableKey key)
    (newline : '\n' ∉ tags.data) (opens : tags.data.head? = some '\x7b') :
    ∀ l ∈ counterLines count received sent tags bytesReceived bytesSent, l.Readable := by
  simp only [counterLines, List.mem_cons, List.mem_singleton, List.not_mem_nil, or_false]
  rintro l (rfl | rfl | rfl) <;> exact MetricLine.readable_of_opens (keys _ (by simp)) newline opens

theorem readable_of_mem_counterLines_id {count received sent : String}
    (keys : ∀ key ∈ [count, received, sent], ReadableKey key) (i : APIConn)
    (h : '\n' ∉ i.id.data) :
    ∀ l ∈ counterLines count received sent ("\x7bid=\"" ++ i.id ++ "\"\x7d") i.bytesReceived
      i.bytesSent, l.Readable :=
  readable_of_mem_counterLines keys (by simp [String.data_append, h]) rfl

theorem readable_of_mem_counterLines_idState {count received sent : String}
    (keys : ∀ key ∈ [count, received, sent], ReadableKey key) (i : APISession)
    (h : '\n' ∉ i.id.data ∧ '\n' ∉ i.state.data) :
    ∀ l ∈ counterLines count received sent
      ("\x7bid=\"" ++ i.id ++ "\",state=\"" ++ i.state ++ "\"\x7d") i.bytesReceived i.bytesSent,
      l.Readable :=
  readable_of_mem_counterLines keys (by simp [String.data_append, h.1, h.2]) rfl

theorem Metrics.readable_of_mem_lines {m : Metrics} (h : m.Printable) :
    ∀ l ∈ m.lines, l.Readable := by
  obtain ⟨paths, hls, rtsp, rtsps, rtmp, webRTC⟩ := h
  simp only [Metrics.lines, List.mem_append]
  rintro l (((((l_mem | l_mem) | l_mem) | l_mem) | l_mem) | l_mem)
  · exact readable_of_mem_listLines readable_of_mem_pathLines (by decide) paths l l_mem
  · exact readable_of_mem_ifSet (fun r mem => readable_of_mem_listLines
      readable_of_mem_hlsMuxerLines (by decide) (hls r mem)) l l_mem
  · refine readable_of_mem_ifSet (fun r mem => ?_) l l_mem
    simp only [List.mem_append]
    rintro l (l_mem | l_mem)
    exacts [readable_of_mem_listLines (readable_of_mem_counterLines_id (by decide)) (by decide)
        (rtsp r mem).1 l l_mem,
      readable_of_mem_listLines (readable_of_mem_counterLines_idState (by decide)) (by decide)
        (rtsp r mem).2 l l_mem]
  · refine readable_of_mem_ifSet (fun r mem => ?_) l l_mem
    simp only [List.mem_append]
    rintro l (l_mem | l_mem)
    exacts [readable_of_mem_listLines (readable_of_mem_counterLines_id (by decide)) (by decide)
        (rtsps r mem).1 l l_mem,
      readable_of_mem_listLines (readable_of_mem_counterLines_idState (by decide)) (by decide)
        (rtsps r mem).2 l l_mem]
  · exact readable_of_mem_ifSet (fun r mem => readable_of_mem_listLines
      (readable_of_mem_counterLines_idState (by decide)) (by decide) (rtmp r mem)) l l_mem
  · exact readable_of_mem_ifSet (fun r mem => readable_of_mem_listLines
      (readable_of_mem_counterLines_id (by decide)) (by decide) (webRTC r mem)) l l_mem

/-- Reading the exposition back gives the calls of `metric` that `onMetrics` made, in order, as
long as no name, path, ID or state the list calls returned holds a new line. -/
theorem parseExposition_onMetrics (m : Metrics) (h : m.Printable) :
    parseExposition m.onMetrics = m.lines :=
  parseExposition_foldl m.lines (Metrics.readable_of_mem_lines h)

/-- A path whose counter has reached 2^64 - 1 bytes, exposed as -1, beside an RTSP server whose
sessions list fails. -/
theorem parseExposition_onMetrics_wrapped :
    let m : Metrics := ⟨.ok [⟨"cam", true, 18446744073709551615⟩], none,
      some (.ok [⟨"c1", 5, 7⟩], .error "terminated"), none, none, none⟩
    m.Printable ∧ parseExposition m.onMetrics = m.lines := by
  intro m
  have printable : m.Printable := by simp +decide [m, Metrics.Printable, Answered]
  exact ⟨printable, parseExposition_onMetrics m printable⟩

/-! ### The families of the exposition -/

/-- Which of the servers `onMetrics` reads are set. -/
def Metrics.servers (m : Metrics) : List Bool :=
  [m.hlsManager.isSome, m.rtspServer.isSome, m.rtspsServer.isSome, m.rtmpServer.isSome,
    m.webRTCManager.isSome]

/-- A list whose items each have a line per family of its fallback has the same families
whatever its call returns. -/
theorem mem_keys_listLines {α : Type} {itemLines : α → List MetricLine} {fallback : List String}
    (uniform : ∀ i, (itemLines i).map MetricLine.key = fallback) (r : Except String (List α))
    (key : String) :
    key ∈ (listLines itemLines fallback r).map MetricLine.key ↔ key ∈ fallback := by
  rcases r with err | _ | ⟨i, is⟩ <;> simp [listLines, List.map_flatMap, uniform]

/-- The paths list has `paths_bytes_received` lines only when the path manager returns a path. -/
theorem mem_keys_listLines_pathLines (r : Except String (List APIPath)) (key : String) :
    key ∈ (listLines pathLines ["paths"] r).map MetricLine.key ↔
      key = "paths" ∨ key = "paths_bytes_received" ∧ ∃ i items, r = .ok (i :: items) := by
  rcases r with err | _ | ⟨i, is⟩
  · simp [listLines]
  · simp [listLines]
  · simp only [listLines, List.map_flatMap, List.mem_flatMap, List.mem_cons, exists_eq_or_imp]
    simp [pathLines]

theorem mem_keys_ifSet {σ : Type} (server : Option σ) (lines : σ → List MetricLine) (key : String) :
    key ∈ (ifSet server lines).map MetricLine.key ↔
      ∃ answers ∈ server, key ∈ (lines answers).map MetricLine.key := by
  cases server <;> simp [ifSet]

theorem exists_mem_option_iff {σ : Type} {server : Option σ} {p : Prop} :
    (∃ answers ∈ server, p) ↔ server.isSome ∧ p := by
  cases server <;> simp

theorem counterLines_keys (count received sent tags : String) (bytesReceived bytesSent : UInt64) :
    (counterLines count received sent tags bytesReceived bytesSent).map MetricLine.key =
      [count, received, sent] := rfl

theorem families_onMetrics (m m' : Metrics) (servers : m.servers = m'.servers) :
    (∀ key ≠ "paths_bytes_received",
      key ∈ m.lines.map MetricLine.key ↔ key ∈ m'.lines.map MetricLine.key) ∧
    ("paths_bytes_received" ∈ m.lines.map MetricLine.key ↔
      ∃ i items, m.pathManager = .ok (i :: items)) := by
  have hlsKeys := @mem_keys_listLines _ hlsMuxerLines ["hls_muxers", "hls_muxers_bytes_sent"]
    fun _ => rfl
  have rtspConnKeys := @mem_keys_listLines _ rtspConnLines _ fun _ => counterLines_keys ..
  have rtspSessionKeys := @mem_keys_listLines _ rtspSessionLines _ fun _ => counterLines_keys ..
  have rtspsConnKeys := @mem_keys_listLines _ rtspsConnLines _ fun _ => counterLines_keys ..
  have rtspsSessionKeys := @mem_keys_listLines _ rtspsSessionLines _ fun _ => counterLines_keys ..
  have rtmpConnKeys := @mem_keys_listLines _ rtmpConnLines _ fun _ => counterLines_keys ..
  have webRTCSessionKeys := @mem_keys_listLines _ webRTCSessionLines _ fun _ => counterLines_keys ..
  simp only [Metrics.servers, List.cons.injEq, and_true] at servers
  obtain ⟨hls, rtsp, rtsps, rtmp, webRTC⟩ := servers
  simp only [Metrics.lines, List.map_append, List.mem_append, mem_keys_listLines_pathLines,
    mem_keys_ifSet, hlsKeys, rtspConnKeys, rtspSessionKeys, rtspsConnKeys, rtspsSessionKeys,
    rtmpConnKeys, webRTCSessionKeys, exists_mem_option_iff, hls, rtsp, rtsps, rtmp, webRTC]
  constructor
  · intro key hkey
    simp only [hkey, false_and, or_false]
  · simp +decide

/-- A path manager that fails and one that returns a path, with no server set. -/
theorem families_onMetrics_paths :
    let m : Metrics := ⟨.error "terminated", none, none, none, none, none⟩
    let m' : Metrics := ⟨.ok [⟨"cam", false, 0⟩], none, none, none, none, none⟩
    m.servers = m'.servers ∧
      (∀ key ≠ "paths_bytes_received",
        key ∈ m.lines.map MetricLine.key ↔ key ∈ m'.lines.map MetricLine.key) ∧
      ("paths_bytes_received" ∈ m.lines.map MetricLine.key ↔
        ∃ i items, m.pathManager = .ok (i :: items)) :=
  ⟨rfl, families_onMetrics _ _ rfl⟩

end RtspSimpleServer
