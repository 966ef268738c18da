import RtspSimpleServer.Stream.Readers

/-!
# SRT connections

A shallow embedding of `srtConn`: the stream ID it parses, the request it answers, the tracks a
publisher announces and those a reader writes.  A request is answered exactly once on every path
through the connection, and a reader of a stream an SRT publisher announced writes back the
publisher's tracks.
-/

namespace RtspSimpleServer
namespace SrtConn

open Stream

/-! ### The stream ID -/

/-- `strings.Split(s, sep)` for a separator of one character. -/
def split (s : String) (sep : Char) : List String :=
  (s.data.splitOn sep).map String.mk

/-- The action of a stream ID. -/
inductive Action where
  | read
  | publish
  deriving DecidableEq, Repr

/-- The word of a stream ID that names the action. -/
def Action.name : Action → String
  | .read => "read"
  | .publish => "publish"

/-- The first lines of `srtConn.runInner2`: the action, the path name, the user and the password
it reads from the stream ID, or the error it returns. -/
def streamIDParts (streamID : String) : Except String (Action × String × String × String) :=
  let parts := split streamID ':'
  if (parts.length != 2 && parts.length != 4) ||
      (parts.getD 0 "" != "read" && parts.getD 0 "" != "publish") then
    .error ("invalid streamid '" ++ streamID ++ "':" ++
      " it must be 'action:pathname' or 'action:pathname:user:pass', " ++
      "where action is either read or publish, pathname is the path name, " ++
      "user and pass are the credentials")
  else
    let pathName := parts.getD 1 ""
    let (user, pass) :=
      if parts.length == 4 then (parts.getD 2 "", parts.getD 3 "") else ("", "")
    .ok (if parts.getD 0 "" == "publish" then .publish else .read, pathName, user, pass)

theorem not_mem_of_mem_splitOn {sep : Char} :
    ∀ {l piece : List Char}, piece ∈ l.splitOn sep → sep ∉ piece := by
  intro l
  induction l with
  | nil => simp
  | cons c l ih =>
    intro piece mem
    simp only [List.splitOn, List.splitOnP_cons] at mem ih
    split at mem
    · rcases List.mem_cons.1 mem with rfl | mem
      · exact List.not_mem_nil _
      · exact ih mem
    · rename_i ne
      cases pieces : l.splitOnP (· == sep) with
      | nil => exact absurd pieces (List.splitOnP_ne_nil _ _)
      | cons first rest =>
        rw [pieces, List.modifyHead_cons, List.mem_cons] at mem
        rcases mem with rfl | mem
        · rintro (_ | ⟨_, mem⟩)
          · simp at ne
          · exact ih (by rw [pieces]; exact List.mem_cons_self _ _) mem
        · exact ih (by rw [pieces]; exact List.mem_cons_of_mem _ mem)

/-- `strings.Split` is undone by joining the parts with the separator, and the parts are exactly
the nonempty lists of texts without the separator. -/
theorem split_eq_iff {s : String} {sep : Char} {parts : List String} :
    split s sep = parts ↔
      parts ≠ [] ∧ (∀ part ∈ parts, sep ∉ part.data) ∧
        s.data = [sep].intercalate (parts.map String.data) := by
  constructor
  · rintro rfl
    refine ⟨by simpa [split] using List.splitOnP_ne_nil _ _, ?_, ?_⟩
    · simp only [split, List.mem_map]
      rintro _ ⟨piece, mem, rfl⟩
      exact not_mem_of_mem_splitOn mem
    · have dataMk : (String.data ∘ String.mk) = id := funext fun _ => rfl
      rw [split, List.map_map, dataMk, List.map_id, List.intercalate_splitOn]
  · rintro ⟨nonempty, sepFree, joined⟩
    have pieces : s.data.splitOn sep = parts.map String.data := by
      rw [joined]
      exact List.splitOn_intercalate _ sep (by simpa using sepFree) (by simpa using nonempty)
    have mkData : (String.mk ∘ String.data) = id := funext fun _ => rfl
    simp [split, pieces, mkData]


theorem streamIDParts_eq_ok (streamID : String) (action : Action) (pathName user pass : String) :
    streamIDParts streamID = .ok (action, pathName, user, pass) ↔
      ':' ∉ pathName.data ∧ ':' ∉ user.data ∧ ':' ∉ pass.data ∧
        (streamID = action.name ++ ":" ++ pathName ++ ":" ++ user ++ ":" ++ pass ∨
          user = "" ∧ pass = "" ∧ streamID = action.name ++ ":" ++ pathName) := by
  have named : ∀ {a : String}, ¬(¬a = "read" ∧ ¬a = "publish") →
      (if a = "publish" then Action.publish else Action.read).name = a := by
    intro a valid
    by_cases publish : a = "publish"
    · simp [publish, Action.name]
    · simp only [publish, if_false, Action.name]
      tauto
  constructor
  · intro h
    obtain ⟨-, sepFree, joined⟩ := split_eq_iff.1 (rfl : split streamID ':' = _)
    simp only [streamIDParts] at h
    generalize split streamID ':' = parts at h sepFree joined
    rcases parts with _ | ⟨a, _ | ⟨p, _ | ⟨u, _ | ⟨w, _ | ⟨x, rest⟩⟩⟩⟩⟩ <;>
      simp at h
    all_goals
      by_cases invalid : ¬a = "read" ∧ ¬a = "publish"
      · simp [invalid] at h
      rw [if_neg invalid, Except.ok.injEq, Prod.mk.injEq, Prod.mk.injEq, Prod.mk.injEq] at h
      obtain ⟨rfl, rfl, rfl, rfl⟩ := h
      simp only [List.mem_cons, List.mem_singleton, List.not_mem_nil, or_false,
        forall_eq_or_imp, forall_eq] at sepFree
    · refine ⟨sepFree.2, by simp, by simp, .inr ⟨rfl, rfl, String.ext ?_⟩⟩
      simp [joined, named invalid, String.data_append, List.intercalate]
    · refine ⟨sepFree.2.1, sepFree.2.2.1, sepFree.2.2.2, .inl (String.ext ?_)⟩
      simp [joined, named invalid, String.data_append, List.intercalate]
  · have nameFree : ':' ∉ action.name.data := by cases action <;> decide
    rintro ⟨pathFree, userFree, passFree, joined | ⟨rfl, rfl, joined⟩⟩
    · have parts : split streamID ':' = [action.name, pathName, user, pass] :=
        split_eq_iff.2 ⟨by simp, by simp [nameFree, pathFree, userFree, passFree],
          by simp [joined, String.data_append, List.intercalate]⟩
      cases action <;> simp [streamIDParts, parts, Action.name]
    · have parts : split streamID ':' = [action.name, pathName] :=
        split_eq_iff.2 ⟨by simp, by simp [nameFree, pathFree],
          by simp [joined, String.data_append, List.intercalate]⟩
      cases action <;> simp [streamIDParts, parts, Action.name]

/-! ### Publishing and reading -/

/-- `mpegts.Codec`, for the codecs the SRT connection handles; `other` stands for the rest. -/
inductive TSCodec (Config : Type) where
  | h264
  | h265
  | mpeg4Audio (config : Config)
  | opus (channelCount : Nat)
  | mpeg1Audio
  | other
  deriving DecidableEq, Repr

variable {Config Reader : Type}

/-- The formats of the media `runPublishReader` announces for an MPEG-TS track, if it supports
the track's codec. -/
def publishMedia : TSCodec Config → Option (List (MediaFormat Config))
  | .h264 => some [.h264]
  | .h265 => some [.h265]
  | .mpeg4Audio config => some [.mpeg4AudioGeneric config]
  | .opus channelCount => some [.opus (channelCount == 2)]
  | .mpeg1Audio => some [.mpeg1Audio]
  | .other => none

/-- The description `runPublishReader` hands to `path.startPublisher` for the tracks of the
MPEG-TS stream, or its error. -/
def publishDescription (tracks : List (TSCodec Config)) :
    Except String (List (List (MediaFormat Config))) :=
  match tracks.filterMap publishMedia with
  | [] => .error "no supported tracks found"
  | medias => .ok medias

/-- The MPEG-TS track `runRead` adds for a format, if it can write the format. -/
def readTrack : MediaFormat Config → Option (TSCodec Config)
  | .h265 => some .h265
  | .h264 => some .h264
  | .mpeg4AudioGeneric config => some (.mpeg4Audio config)
  | .mpeg4AudioLATM (some [[config]]) => some (.mpeg4Audio config)
  | .opus isStereo => some (.opus (if isStereo then 2 else 1))
  | .mpeg1Audio => some .mpeg1Audio
  | _ => none

/-- The tracks `runRead` adds, in order: for every format of every media that it can write, the
media, the format and the track. -/
def readTracks (medias : List (List (MediaFormat Config))) :
    List (Nat × MediaFormat Config × TSCodec Config) :=
  medias.enum.flatMap fun (media, formats) =>
    formats.filterMap fun format => (readTrack format).map fun track => (media, format, track)

/-- What a reader of a stream published over SRT writes of a published track: a track with the
same codec, or nothing for an unsupported codec. -/
def relayedTrack : TSCodec Config → Option (TSCodec Config)
  | .opus channelCount => some (.opus (if channelCount = 2 then 2 else 1))
  | .other => none
  | track => some track

theorem readTrack_publishMedia (track : TSCodec Config) :
    ((publishMedia track).map fun formats => formats.filterMap readTrack) =
      (relayedTrack track).map fun relayed => [relayed] := by
  cases track with
  | opus channelCount =>
    by_cases stereo : channelCount = 2 <;> simp [publishMedia, readTrack, relayedTrack, stereo]
  | _ => rfl

theorem readTracks_tracks (medias : List (List (MediaFormat Config))) :
    (readTracks medias).map (·.2.2) =
      medias.flatMap fun formats => formats.filterMap readTrack := by
  conv_rhs => rw [← List.enum_map_snd medias, List.flatMap_map]
  simp [readTracks, List.map_flatMap, List.map_filterMap, Function.comp_def]

theorem flatMap_filterMap_publishMedia (tracks : List (TSCodec Config)) :
    (tracks.filterMap publishMedia).flatMap (fun formats => formats.filterMap readTrack) =
      tracks.filterMap relayedTrack := by
  induction tracks with
  | nil => rfl
  | cons track tracks ih =>
    have step := readTrack_publishMedia track
    rw [List.filterMap_cons, List.filterMap_cons]
    cases published : publishMedia track <;> cases relayed : relayedTrack track <;>
      simp_all

/-- A reader of a stream that an SRT publisher announced writes the publisher's tracks of a
supported codec, in order and with their codecs (an Opus track with a channel count other than 1
or 2 comes back with one channel), so `runRead` never answers it that the stream has no supported
codec. -/
theorem readTracks_publishDescription {tracks : List (TSCodec Config)}
    {medias : List (List (MediaFormat Config))}
    (published : publishDescription tracks = .ok medias) :
    (readTracks medias).map (·.2.2) = tracks.filterMap relayedTrack ∧ readTracks medias ≠ [] := by
  have supported : tracks.filterMap publishMedia ≠ [] := by
    intro none
    simp [publishDescription, none] at published
  have medias_eq : medias = tracks.filterMap publishMedia := by
    cases found : tracks.filterMap publishMedia with
    | nil => exact absurd found supported
    | cons first rest => simpa [publishDescription, found, eq_comm] using published
  subst medias_eq
  rw [readTracks_tracks, flatMap_filterMap_publishMedia]
  refine ⟨rfl, fun none => supported ?_⟩
  have relayedNone : tracks.filterMap relayedTrack = [] := by
    rw [← flatMap_filterMap_publishMedia, ← readTracks_tracks, none, List.map_nil]
  rw [List.filterMap_eq_nil_iff] at relayedNone ⊢
  intro track mem
  simpa [relayedNone track mem] using readTrack_publishMedia track

/-- An H.264 track, a six-channel Opus track and an unsupported track, published and read. -/
theorem readTracks_publishDescription_opus :
    publishDescription [.h264, .opus 6, (.other : TSCodec Unit)] = .ok [[.h264], [.opus false]] ∧
      (readTracks [[.h264], [.opus false]]).map (·.2.2) =
          [.h264, .opus 6, (.other : TSCodec Unit)].filterMap relayedTrack ∧
        readTracks [[(.h264 : MediaFormat Unit)], [.opus false]] ≠ [] :=
  ⟨rfl, readTracks_publishDescription rfl⟩

/-! ### The connection request -/

/-- What the connection sends on the answer channel of its connection request: itself, accepting
the SRT connection, or nil, rejecting it. -/
inductive Answer where
  | accept
  | reject
  deriving DecidableEq, Repr

/-- `srtConn.exchangeRequestWithConn`: answers the request with the connection, then waits until
the listener hands over the SRT connection (`connSet`) or the context ends. -/
def exchangeRequestWithConn (connSet : Bool) : List Answer × Option String :=
  ([.accept], if connSet then none else some "terminated")

/-- What the rest of the server does for an SRT connection.  It gives the path manager's answers
to `addReader` (the description of the path's stream) and to `addPublisher`, for a path name, a
user and a password.  It says whether the listener hands over the SRT connection before the
context ends, how serving a reader ends, and the error publishing ends with. -/
structure Environment (Config : Type) where
  addReader : String → String → String → Except String (List (List (MediaFormat Config)))
  addPublisher : String → String → String → Option String
  connSet : Bool
  readEnd : ReadEnd
  publishEnd : String

/-- What a run of the connection on a request leaves: the answers it sent, `answerSent`, the
stream's subscriptions and the error it returns. -/
structure Run (Reader Config : Type) where
  answers : List Answer
  answerSent : Bool
  subscriptions : List (Subscription Reader Config)
  err : String

variable (env : Environment Config) (c : Reader)

/-- `srtConn.runRead`. -/
def runRead (pathName user pass : String) (subscriptions : List (Subscription Reader Config)) :
    Run Reader Config :=
  match env.addReader pathName user pass with
  | .error err => ⟨[], false, subscriptions, err⟩
  | .ok medias =>
    match exchangeRequestWithConn env.connSet with
    | (answers, some err) => ⟨answers, true, subscriptions, err⟩
    | (answers, none) =>
      let tracks := readTracks medias
      let subscriptions :=
        addReaders subscriptions c (tracks.map fun (media, format, _) => (media, format))
      if tracks.isEmpty then
        ⟨answers, true, subscriptions, "the stream doesn't contain any supported codec, " ++
          "which are currently H265, H264, Opus, MPEG-4 Audio"⟩
      else ⟨answers, true, subscriptions, env.readEnd.err⟩

/-- `srtConn.runPublish`. -/
def runPublish (pathName user pass : String) (subscriptions : List (Subscription Reader Config)) :
    Run Reader Config :=
  match env.addPublisher pathName user pass with
  | some err => ⟨[], false, subscriptions, err⟩
  | none =>
    match exchangeRequestWithConn env.connSet with
    | (answers, some err) => ⟨answers, true, subscriptions, err⟩
    | (answers, none) => ⟨answers, true, subscriptions, env.publishEnd⟩

/-- `srtConn.runInner2`. -/
def runInner2 (streamID : String) (subscriptions : List (Subscription Reader Config)) :
    Run Reader Config :=
  match streamIDParts streamID with
  | .error err => ⟨[], false, subscriptions, err⟩
  | .ok (.publish, pathName, user, pass) => runPublish env pathName user pass subscriptions
  | .ok (.read, pathName, user, pass) => runRead env c pathName user pass subscriptions

/-- `srtConn.runInner`, on the request it receives (`none` when the context ends first): the
answers it sends, the stream's subscriptions and the error it returns. -/
def runInner (request : Option String) (subscriptions : List (Subscription Reader Config)) :
    List Answer × List (Subscription Reader Config) × String :=
  match request with
  | none => ([], subscriptions, "terminated")
  | some streamID =>
    let run := runInner2 env c streamID subscriptions
    (run.answers ++ (if !run.answerSent then [.reject] else []), run.subscriptions, run.err)

/-- A run reports an answer sent exactly when it sent one, and it sends at most one. -/
def Run.Reported (run : Run Reader Config) : Prop :=
  run.answers = if run.answerSent then [.accept] else []

theorem runRead_reported (pathName user pass : String)
    (subscriptions : List (Subscription Reader Config)) :
    (runRead env c pathName user pass subscriptions).Reported := by
  simp only [runRead, exchangeRequestWithConn]
  split
  · rfl
  · cases env.connSet
    · rfl
    · simp only [if_true]
      split <;> rfl

theorem runPublish_reported (pathName user pass : String)
    (subscriptions : List (Subscription Reader Config)) :
    (runPublish env pathName user pass subscriptions : Run Reader Config).Reported := by
  simp only [runPublish, exchangeRequestWithConn]
  split
  · rfl
  · cases env.connSet <;> rfl

theorem runInner2_reported (streamID : String) (subscriptions : List (Subscription Reader Config)) :
    (runInner2 env c streamID subscriptions).Reported := by
  simp only [runInner2]
  split
  · rfl
  · exact runPublish_reported env _ _ _ _
  · exact runRead_reported env c _ _ _ _

/-- A connection that receives a request answers it exactly once, whichever way `runInner2`
returns, and one that receives none answers nothing. -/
theorem runInner_answers (request : Option String)
    (subscriptions : List (Subscription Reader Config)) :
    (runInner env c request subscriptions).1.length = if request.isSome then 1 else 0 := by
  cases request with
  | none => rfl
  | some streamID =>
    have reported := runInner2_reported env c streamID subscriptions
    simp only [runInner, List.length_append]
    rw [reported]
    cases (runInner2 env c streamID subscriptions).answerSent <;> rfl

end SrtConn
end RtspSimpleServer
