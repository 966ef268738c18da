import RtspSimpleServer.Conf
import Mathlib.Tactic.Simps.Basic

/-!
# The path event loop

A shallow embedding of `path.run`: the state is the `path` struct, a timer is whether it is armed,
and everything the loop sends is appended to the log `out`.  One select case is one `step`, which
continues the loop or makes `run` return.
-/

namespace RtspSimpleServer

/-- `pathOnDemandState`. -/
inductive OnDemandState where
  | initial
  | waitingReady
  | ready
  | closing
  deriving DecidableEq, Repr

/-- One on-demand variant: its state with its ready and close timers, `true` when armed
(`onDemandStaticSourceState` with its two timers, or the three publisher fields). -/
structure OnDemand where
  /-- The on-demand state. -/
  state : OnDemandState
  /-- The ready timer is armed. -/
  readyTimer : Bool
  /-- The close timer is armed. -/
  closeTimer : Bool
  deriving DecidableEq, Repr

namespace OnDemand

/-- The state of `newPath`: both timers come from `newEmptyTimer`. -/
def idle : OnDemand := ⟨.initial, false, false⟩

/-- The state part of `onDemandStaticSourceStart` and `onDemandPublisherStart`. -/
@[simps] def start (od : OnDemand) : OnDemand :=
  { od with readyTimer := true, state := .waitingReady }

/-- `onDemandStaticSourceScheduleClose` and `onDemandPublisherScheduleClose`. -/
@[simps] def scheduleClose (od : OnDemand) : OnDemand :=
  { od with closeTimer := true, state := .closing }

/-- The state part of `onDemandStaticSourceStop` and `onDemandPublisherStop`. -/
@[simps] def stop (od : OnDemand) : OnDemand :=
  { od with closeTimer := if od.state = .closing then false else od.closeTimer, state := .initial }

/-- The source became ready: the ready timer is replaced by an empty one, then
`ScheduleClose`. -/
@[simps] def sourceReady (od : OnDemand) : OnDemand :=
  { od with readyTimer := false, closeTimer := true, state := .closing }

/-- The state part of `handleReaderAddPost`: a new reader cancels a scheduled close. -/
def readerAdded (od : OnDemand) : OnDemand :=
  if od.state = .closing then { od with state := .ready, closeTimer := false } else od

/-- The state part of `handleReaderRemove` once no reader is left. -/
def readersGone (od : OnDemand) : OnDemand :=
  if od.state = .ready then od.scheduleClose else od

@[simp] theorem readerAdded_readyTimer (od : OnDemand) : od.readerAdded.readyTimer = od.readyTimer := by
  unfold readerAdded; split_ifs <;> rfl

@[simp] theorem readersGone_readyTimer (od : OnDemand) : od.readersGone.readyTimer = od.readyTimer := by
  unfold readersGone; split_ifs <;> rfl

end OnDemand

/-- The value held in `path.source`. -/
inductive Source where
  /-- `sourceRedirect`. -/
  | redirect
  /-- `sourceStatic`. -/
  | static
  /-- A publisher: an RTSP session, an RTMP or SRT connection, a WebRTC session. -/
  | publisher (id : Nat)
  deriving DecidableEq, Repr

/-- The fields of a request URL that a fallback redirect reuses. -/
structure URL where
  /-- `Scheme`. -/
  scheme : String
  /-- `User`, rendered as `user@`. -/
  user : String
  /-- `Host`. -/
  host : String
  deriving DecidableEq, Repr

/-- `url.URL.String` for a URL with only a scheme, a user, a host and a path. -/
def URL.render (url : URL) (path : String) : String :=
  url.scheme ++ "://" ++ (if url.user = "" then "" else url.user ++ "@") ++ url.host ++ path

/-- `pathDescribeReq`. -/
structure DescribeReq where
  /-- Identity of the request (its `res` channel). -/
  id : Nat
  /-- `url`. -/
  url : URL
  deriving DecidableEq, Repr

/-- The content of a response: a stream, a redirect, an error or a bare acknowledgement. -/
inductive Res where
  | ok
  | stream (stream : Option Nat)
  | redirect (url : String)
  | error (err : String)
  deriving DecidableEq, Repr

/-- What the loop sends, closes, starts or stops. -/
inductive Output where
  | describeRes (req : Nat) (res : Res)
  | readerAddRes (reader : Nat) (res : Res)
  | readerRemoveRes (reader : Nat)
  | publisherAddRes (publisher : Nat) (res : Res)
  | publisherStartRes (publisher : Nat) (res : Res)
  | publisherStopRes (publisher : Nat)
  | publisherRemoveRes (publisher : Nat)
  | sourceStaticSetReadyRes (res : Res)
  | sourceStaticSetNotReadyRes
  | apiPathsGetRes (sourceReady : Bool) (readers : List Nat)
  | readerClose (reader : Nat)
  | sourceClose (source : Source)
  | streamClose (stream : Nat)
  | sourceStaticStart
  | sourceStaticStop
  | sourceStaticReloadConf (conf : PathConf)
  | onDemandCmdStart
  | onDemandCmdStop
  | onReadyCmdStart
  | onReadyCmdStop
  | pathSourceReady
  | pathSourceNotReady
  deriving DecidableEq

/-- The configuration an output hands the static source, if it is a
`go pa.source.(*sourceStatic).reloadConf(newConf)`. -/
def Output.forwardedConf : Output → Option PathConf
  | sourceStaticReloadConf conf => some conf
  | _ => none

/-- The configurations handed to the static source, in the order the goroutines were spawned. -/
def forwardedConfs (out : List Output) : List PathConf := out.filterMap Output.forwardedConf

@[simp] theorem forwardedConfs_nil : forwardedConfs [] = [] := rfl

@[simp] theorem forwardedConfs_cons (output : Output) (out : List Output) :
    forwardedConfs (output :: out) = output.forwardedConf.toList ++ forwardedConfs out := by
  cases forwarded : output.forwardedConf <;> simp only [forwardedConfs, List.filterMap_cons, forwarded] <;> rfl

@[simp] theorem forwardedConfs_append (out more : List Output) :
    forwardedConfs (out ++ more) = forwardedConfs out ++ forwardedConfs more :=
  List.filterMap_append _ _ _

/-- Outputs of a kind that forwards nothing add nothing. -/
@[simp] theorem forwardedConfs_map {α : Type} (f : α → Output) (items : List α)
    (quiet : ∀ item, (f item).forwardedConf = none) : forwardedConfs (items.map f) = [] := by
  induction items with
  | nil => rfl
  | cons item items ih => simp only [List.map_cons, forwardedConfs_cons, quiet, ih]; rfl

/-- The `path` struct. -/
structure Path where
  /-- `name`. -/
  name : String
  /-- `confName`: the configuration entry the path was created from. -/
  confName : String
  /-- `conf`. -/
  conf : PathConf
  /-- `source`. -/
  source : Option Source
  /-- `stream`, by number. -/
  stream : Option Nat
  /-- `readers`, a set. -/
  readers : List Nat
  /-- `describeRequestsOnHold`. -/
  describeRequestsOnHold : List DescribeReq
  /-- `readerAddRequestsOnHold`, by requesting reader. -/
  readerAddRequestsOnHold : List Nat
  /-- `onDemandCmd` is running. -/
  onDemandCmd : Bool
  /-- `onReadyCmd` is running. -/
  onReadyCmd : Bool
  /-- The on-demand static source: its state and timers. -/
  onDemandStaticSource : OnDemand
  /-- The on-demand publisher: its state and timers. -/
  onDemandPublisher : OnDemand
  /-- The number the next stream created by `newStream` gets. -/
  nextStream : Nat
  /-- Everything sent so far, oldest first. -/
  out : List Output

/-- One case of the select loop of `run`. -/
inductive Event where
  | onDemandStaticSourceReadyTimer
  | onDemandStaticSourceCloseTimer
  | onDemandPublisherReadyTimer
  | onDemandPublisherCloseTimer
  | reloadConf (newConf : PathConf)
  /-- `chSourceStaticSetReady`; `streamErr` is the error `newStream` returns, if any. -/
  | sourceStaticSetReady (streamErr : Option String)
  | sourceStaticSetNotReady
  | describe (req : DescribeReq)
  | publisherRemove (author : Nat)
  | publisherAdd (author : Nat)
  /-- `chPublisherStart`; `streamErr` is the error `newStream` returns, if any. -/
  | publisherStart (author : Nat) (streamErr : Option String)
  | publisherStop (author : Nat)
  | readerAdd (author : Nat)
  | readerRemove (author : Nat)
  | apiPathsGet
  /-- `ctx.Done()`. -/
  | terminate

/-- The configuration a select case hands the path: that of `chReloadConf`. -/
def Event.newConf : Event → Option PathConf
  | reloadConf newConf => some newConf
  | _ => none

/-- The outcome of one select case: the loop goes on, or `run` returns `err`. -/
inductive Next where
  | running (pa : Path)
  | exited (pa : Path) (err : String)

/-- The state after a select case, whether or not the loop goes on. -/
def Next.path : Next → Path
  | running pa => pa
  | exited pa _ => pa

@[simp] theorem Next.path_running (pa : Path) : (Next.running pa).path = pa := rfl
@[simp] theorem Next.path_exited (pa : Path) (err : String) : (Next.exited pa err).path = pa :=
  rfl

namespace Path

/-- `newPath`, before `run` starts. -/
def newPath (confName : String) (conf : PathConf) (name : String) : Path where
  name := name
  confName := confName
  conf := conf
  source := none
  stream := none
  readers := []
  describeRequestsOnHold := []
  readerAddRequestsOnHold := []
  onDemandCmd := false
  onReadyCmd := false
  onDemandStaticSource := .idle
  onDemandPublisher := .idle
  nextStream := 0
  out := []

/-- Append one output to the log. -/
@[simps] def emit (pa : Path) (output : Output) : Path := { pa with out := pa.out ++ [output] }

/-- The beginning of `run`: the source the configuration asks for. -/
def start (pa : Path) : Path :=
  match pa.conf.source with
  | .redirect => { pa with source := some .redirect }
  | .static _ =>
      let pa := { pa with source := some .static }
      if pa.conf.sourceOnDemand then pa else pa.emit .sourceStaticStart
  | .publisher => pa

/-- `shouldClose`. -/
def shouldClose (pa : Path) : Bool :=
  pa.conf.regexp.isSome && pa.source.isNone && pa.readers.isEmpty &&
    pa.describeRequestsOnHold.isEmpty && pa.readerAddRequestsOnHold.isEmpty

/-- The check that ends most select cases. -/
def checkShouldClose (pa : Path) : Next :=
  if pa.shouldClose then .exited pa "not in use" else .running pa

@[simp] theorem checkShouldClose_path (pa : Path) : pa.checkShouldClose.path = pa := by
  unfold checkShouldClose; split <;> rfl

/-- `onDemandStaticSourceStart`: the static source is started and the ready timer armed. -/
@[simps] def onDemandStaticSourceStart (pa : Path) : Path :=
  { pa with
    onDemandStaticSource := pa.onDemandStaticSource.start
    out := pa.out ++ [.sourceStaticStart] }

/-- `onDemandStaticSourceScheduleClose`. -/
@[simps] def onDemandStaticSourceScheduleClose (pa : Path) : Path :=
  { pa with onDemandStaticSource := pa.onDemandStaticSource.scheduleClose }

/-- `onDemandStaticSourceStop`. -/
@[simps] def onDemandStaticSourceStop (pa : Path) : Path :=
  { pa with
    onDemandStaticSource := pa.onDemandStaticSource.stop
    out := pa.out ++ [.sourceStaticStop] }

/-- `onDemandPublisherStart`: `runOnDemand` is started and the ready timer armed. -/
@[simps] def onDemandPublisherStart (pa : Path) : Path :=
  { pa with
    onDemandCmd := true
    onDemandPublisher := pa.onDemandPublisher.start
    out := pa.out ++ [.onDemandCmdStart] }

/-- `onDemandPublisherScheduleClose`. -/
@[simps] def onDemandPublisherScheduleClose (pa : Path) : Path :=
  { pa with onDemandPublisher := pa.onDemandPublisher.scheduleClose }

/-- `sourceSetReady`: a new stream, or the error of `newStream`. -/
def sourceSetReady (pa : Path) : Option String → Except String Path
  | some err => .error err
  | none =>
      .ok
        { pa with
          stream := some pa.nextStream
          nextStream := pa.nextStream + 1
          onReadyCmd := if pa.conf.runOnReady ≠ "" then true else pa.onReadyCmd
          out := pa.out ++ (if pa.conf.runOnReady ≠ "" then [.onReadyCmdStart] else []) ++
            [.pathSourceReady] }

/-- A successful `sourceSetReady` installs the stream numbered `nextStream`. -/
theorem sourceSetReady_stream {pa next : Path} {streamErr : Option String}
    (ready : pa.sourceSetReady streamErr = .ok next) : next.stream = some pa.nextStream := by
  cases streamErr with
  | some err => cases ready
  | none => cases ready; rfl

/-- `sourceSetNotReady`: the parent is told, every reader is removed and closed, `onReadyCmd` is
stopped and the stream is closed. -/
@[simps] def sourceSetNotReady (pa : Path) : Path :=
  { pa with
    readers := []
    onReadyCmd := false
    stream := none
    out := pa.out ++ [.pathSourceNotReady] ++ pa.readers.map Output.readerClose ++
      (if pa.onReadyCmd then [.onReadyCmdStop] else []) ++ pa.stream.toList.map Output.streamClose }

/-- `doReaderRemove`. -/
@[simps] def doReaderRemove (pa : Path) (reader : Nat) : Path :=
  { pa with readers := pa.readers.filter (· != reader) }

/-- Removing a reader that is not registered changes nothing, as `delete` on a missing key. -/
@[simp] theorem doReaderRemove_of_not_mem {pa : Path} {reader : Nat} (absent : reader ∉ pa.readers) :
    pa.doReaderRemove reader = pa := by
  have kept : pa.readers.filter (· != reader) = pa.readers :=
    List.filter_eq_self.mpr fun other mem => bne_iff_ne.mpr fun same => absent (same ▸ mem)
  simp only [doReaderRemove, kept]

/-- The guard of `handleReaderRemove` changes nothing. -/
@[simp] theorem ite_mem_doReaderRemove (pa : Path) (reader : Nat) :
    (if reader ∈ pa.readers then pa.doReaderRemove reader else pa) = pa.doReaderRemove reader := by
  split_ifs with member
  · rfl
  · exact (doReaderRemove_of_not_mem member).symm

/-- `doPublisherRemove`. -/
def doPublisherRemove (pa : Path) : Path :=
  { (if pa.stream.isSome then pa.sourceSetNotReady else pa) with source := none }

section doPublisherRemove

variable (pa : Path)

@[simp] theorem doPublisherRemove_source : pa.doPublisherRemove.source = none := rfl

@[simp] theorem doPublisherRemove_stream : pa.doPublisherRemove.stream = none := by
  unfold doPublisherRemove; split_ifs with some_ <;> simp_all

@[simp] theorem doPublisherRemove_conf : pa.doPublisherRemove.conf = pa.conf := by
  unfold doPublisherRemove; split_ifs <;> rfl

@[simp] theorem doPublisherRemove_forwardedConfs :
    forwardedConfs pa.doPublisherRemove.out = forwardedConfs pa.out := by
  unfold doPublisherRemove
  split_ifs <;> simp [apply_ite forwardedConfs, Output.forwardedConf]

@[simp] theorem doPublisherRemove_nextStream : pa.doPublisherRemove.nextStream = pa.nextStream := by
  unfold doPublisherRemove; split_ifs <;> rfl

@[simp] theorem doPublisherRemove_onDemandStaticSource :
    pa.doPublisherRemove.onDemandStaticSource = pa.onDemandStaticSource := by
  unfold doPublisherRemove; split_ifs <;> rfl

@[simp] theorem doPublisherRemove_onDemandPublisher :
    pa.doPublisherRemove.onDemandPublisher = pa.onDemandPublisher := by
  unfold doPublisherRemove; split_ifs <;> rfl

@[simp] theorem doPublisherRemove_onDemandCmd : pa.doPublisherRemove.onDemandCmd = pa.onDemandCmd := by
  unfold doPublisherRemove; split_ifs <;> rfl

@[simp] theorem doPublisherRemove_describeRequestsOnHold :
    pa.doPublisherRemove.describeRequestsOnHold = pa.describeRequestsOnHold := by
  unfold doPublisherRemove; split_ifs <;> rfl

@[simp] theorem doPublisherRemove_readerAddRequestsOnHold :
    pa.doPublisherRemove.readerAddRequestsOnHold = pa.readerAddRequestsOnHold := by
  unfold doPublisherRemove; split_ifs <;> rfl

end doPublisherRemove

/-- The first lines of `onDemandPublisherStop`: the current source is closed and removed. -/
def closeSource (pa : Path) : Path :=
  match pa.source with
  | some source => (pa.emit (.sourceClose source)).doPublisherRemove
  | none => pa

section closeSource

variable (pa : Path)

@[simp] theorem closeSource_source : pa.closeSource.source = none := by
  unfold closeSource; split <;> simp_all

@[simp] theorem closeSource_stream_of_none (none_ : pa.source = none) : pa.closeSource = pa := by
  unfold closeSource; split <;> simp_all

@[simp] theorem closeSource_conf : pa.closeSource.conf = pa.conf := by
  unfold closeSource; split <;> simp

@[simp] theorem closeSource_forwardedConfs :
    forwardedConfs pa.closeSource.out = forwardedConfs pa.out := by
  unfold closeSource; split <;> simp [Output.forwardedConf]

@[simp] theorem closeSource_nextStream : pa.closeSource.nextStream = pa.nextStream := by
  unfold closeSource; split <;> simp

@[simp] theorem closeSource_onDemandStaticSource :
    pa.closeSource.onDemandStaticSource = pa.onDemandStaticSource := by
  unfold closeSource; split <;> simp

@[simp] theorem closeSource_onDemandPublisher :
    pa.closeSource.onDemandPublisher = pa.onDemandPublisher := by
  unfold closeSource; split <;> simp

@[simp] theorem closeSource_onDemandCmd : pa.closeSource.onDemandCmd = pa.onDemandCmd := by
  unfold closeSource; split <;> simp

@[simp] theorem closeSource_describeRequestsOnHold :
    pa.closeSource.describeRequestsOnHold = pa.describeRequestsOnHold := by
  unfold closeSource; split <;> simp

@[simp] theorem closeSource_readerAddRequestsOnHold :
    pa.closeSource.readerAddRequestsOnHold = pa.readerAddRequestsOnHold := by
  unfold closeSource; split <;> simp

end closeSource

/-- The rest of `onDemandPublisherStop`: the state goes back to `initial` and `runOnDemand` is
stopped. -/
@[simps] def stopOnDemandPublisher (pa : Path) : Path :=
  { pa with
    onDemandPublisher := pa.onDemandPublisher.stop
    onDemandCmd := false
    out := pa.out ++ if pa.onDemandCmd then [.onDemandCmdStop] else [] }

/-- `onDemandPublisherStop`. -/
def onDemandPublisherStop (pa : Path) : Path := pa.closeSource.stopOnDemandPublisher

/-- The error `pathErrNoOnePublishing`. -/
def errNoOnePublishing (pa : Path) : String :=
  "no one is publishing to path '" ++ pa.name ++ "'"

/-- `handleReaderAddPost`. -/
def handleReaderAddPost (pa : Path) (reader : Nat) : Path :=
  let pa := { pa with readers := pa.readers.insert reader }
  let pa :=
    if pa.conf.HasOnDemandStaticSource then
      { pa with onDemandStaticSource := pa.onDemandStaticSource.readerAdded }
    else if pa.conf.HasOnDemandPublisher then
      { pa with onDemandPublisher := pa.onDemandPublisher.readerAdded }
    else pa
  pa.emit (.readerAddRes reader (.stream pa.stream))

section handleReaderAddPost

variable (pa : Path) (reader : Nat)

@[simp] theorem handleReaderAddPost_readers :
    (pa.handleReaderAddPost reader).readers = pa.readers.insert reader := by
  simp only [handleReaderAddPost]; split_ifs <;> rfl

@[simp] theorem handleReaderAddPost_stream : (pa.handleReaderAddPost reader).stream = pa.stream := by
  simp only [handleReaderAddPost]; split_ifs <;> rfl

@[simp] theorem handleReaderAddPost_source : (pa.handleReaderAddPost reader).source = pa.source := by
  simp only [handleReaderAddPost]; split_ifs <;> rfl

@[simp] theorem handleReaderAddPost_conf : (pa.handleReaderAddPost reader).conf = pa.conf := by
  simp only [handleReaderAddPost]; split_ifs <;> rfl

@[simp] theorem handleReaderAddPost_nextStream :
    (pa.handleReaderAddPost reader).nextStream = pa.nextStream := by
  simp only [handleReaderAddPost]; split_ifs <;> rfl

@[simp] theorem handleReaderAddPost_out :
    (pa.handleReaderAddPost reader).out = pa.out ++ [.readerAddRes reader (.stream pa.stream)] := by
  simp only [handleReaderAddPost]; split_ifs <;> rfl

@[simp] theorem handleReaderAddPost_describeRequestsOnHold :
    (pa.handleReaderAddPost reader).describeRequestsOnHold = pa.describeRequestsOnHold := by
  simp only [handleReaderAddPost]; split_ifs <;> rfl

@[simp] theorem handleReaderAddPost_readerAddRequestsOnHold :
    (pa.handleReaderAddPost reader).readerAddRequestsOnHold = pa.readerAddRequestsOnHold := by
  simp only [handleReaderAddPost]; split_ifs <;> rfl

theorem handleReaderAddPost_onDemandStaticSource :
    (pa.handleReaderAddPost reader).onDemandStaticSource =
      if pa.conf.HasOnDemandStaticSource then pa.onDemandStaticSource.readerAdded
      else pa.onDemandStaticSource := by
  simp only [handleReaderAddPost]; split_ifs <;> rfl

theorem handleReaderAddPost_onDemandPublisher :
    (pa.handleReaderAddPost reader).onDemandPublisher =
      if ¬pa.conf.HasOnDemandStaticSource ∧ pa.conf.HasOnDemandPublisher then
        pa.onDemandPublisher.readerAdded
      else pa.onDemandPublisher := by
  simp only [handleReaderAddPost]; split_ifs <;> simp_all

end handleReaderAddPost

/-- The requests parked until the source is ready, answered once it is. -/
def flushRequestsOnHold (pa : Path) : Path :=
  let pa :=
    { pa with
      describeRequestsOnHold := []
      out := pa.out ++ pa.describeRequestsOnHold.map fun (req : DescribeReq) =>
        Output.describeRes req.id (.stream pa.stream) }
  { pa.readerAddRequestsOnHold.foldl handleReaderAddPost pa with readerAddRequestsOnHold := [] }

/-- The parked requests, failed when the ready timer fires. -/
@[simps] def failRequestsOnHold (pa : Path) : Path :=
  let err := "source of path '" ++ pa.name ++ "' has timed out"
  { pa with
    describeRequestsOnHold := []
    readerAddRequestsOnHold := []
    out := pa.out ++
      pa.describeRequestsOnHold.map (fun (req : DescribeReq) => Output.describeRes req.id (.error err)) ++
      pa.readerAddRequestsOnHold.map fun reader => Output.readerAddRes reader (.error err) }

/-- The `chSourceStaticSetReady` case. -/
def handleSourceStaticSetReady (pa : Path) (streamErr : Option String) : Path :=
  match pa.sourceSetReady streamErr with
  | .error err => pa.emit (.sourceStaticSetReadyRes (.error err))
  | .ok pa =>
      let pa :=
        if pa.conf.HasOnDemandStaticSource then
          { pa with onDemandStaticSource := pa.onDemandStaticSource.sourceReady }.flushRequestsOnHold
        else pa
      pa.emit (.sourceStaticSetReadyRes (.stream pa.stream))

/-- The `chSourceStaticSetNotReady` case, before its `shouldClose` check. -/
def handleSourceStaticSetNotReady (pa : Path) : Path :=
  let pa := pa.sourceSetNotReady.emit .sourceStaticSetNotReadyRes
  if pa.conf.HasOnDemandStaticSource && pa.onDemandStaticSource.state != .initial then
    pa.onDemandStaticSourceStop
  else pa

/-- The `chReloadConf` case: the static source gets the new configuration too. -/
@[simps] def reloadConf (pa : Path) (newConf : PathConf) : Path :=
  { pa with
    conf := newConf
    out := pa.out ++ if pa.conf.HasStaticSource then [.sourceStaticReloadConf newConf] else [] }

/-- `handleDescribe`. -/
def handleDescribe (pa : Path) (req : DescribeReq) : Path :=
  if pa.source = some .redirect then
    pa.emit (.describeRes req.id (.redirect pa.conf.sourceRedirect))
  else if pa.stream.isSome then
    pa.emit (.describeRes req.id (.stream pa.stream))
  else if pa.conf.HasOnDemandStaticSource then
    let pa := if pa.onDemandStaticSource.state = .initial then pa.onDemandStaticSourceStart else pa
    { pa with describeRequestsOnHold := pa.describeRequestsOnHold ++ [req] }
  else if pa.conf.HasOnDemandPublisher then
    let pa := if pa.onDemandPublisher.state = .initial then pa.onDemandPublisherStart else pa
    { pa with describeRequestsOnHold := pa.describeRequestsOnHold ++ [req] }
  else if pa.conf.fallback ≠ "" then
    let fallbackURL :=
      if pa.conf.fallback.startsWith "/" then req.url.render pa.conf.fallback else pa.conf.fallback
    pa.emit (.describeRes req.id (.redirect fallbackURL))
  else
    pa.emit (.describeRes req.id (.error pa.errNoOnePublishing))

/-- `handlePublisherRemove`. -/
def handlePublisherRemove (pa : Path) (author : Nat) : Path :=
  let pa := if pa.source = some (.publisher author) then pa.doPublisherRemove else pa
  pa.emit (.publisherRemoveRes author)

/-- `handlePublisherAdd`. -/
def handlePublisherAdd (pa : Path) (author : Nat) : Path :=
  if pa.conf.source ≠ .publisher then
    pa.emit (.publisherAddRes author
      (.error ("can't publish to path '" ++ pa.name ++ "' since 'source' is not 'publisher'")))
  else
    match pa.source with
    | some source =>
        if pa.conf.disablePublisherOverride then
          pa.emit (.publisherAddRes author
            (.error ("someone is already publishing to path '" ++ pa.name ++ "'")))
        else
          let pa := (pa.emit (.sourceClose source)).doPublisherRemove
          { pa with source := some (.publisher author) }.emit (.publisherAddRes author .ok)
    | none => { pa with source := some (.publisher author) }.emit (.publisherAddRes author .ok)

/-- `handlePublisherStart`. -/
def handlePublisherStart (pa : Path) (author : Nat) (streamErr : Option String) : Path :=
  if pa.source ≠ some (.publisher author) then
    pa.emit (.publisherStartRes author (.error "publisher is not assigned to this path anymore"))
  else
    match pa.sourceSetReady streamErr with
    | .error err => pa.emit (.publisherStartRes author (.error err))
    | .ok pa =>
        let pa :=
          if pa.conf.HasOnDemandPublisher then
            { pa with onDemandPublisher := pa.onDemandPublisher.sourceReady }.flushRequestsOnHold
          else pa
        pa.emit (.publisherStartRes author (.stream pa.stream))

/-- `handlePublisherStop`. -/
def handlePublisherStop (pa : Path) (author : Nat) : Path :=
  let pa :=
    if pa.source = some (.publisher author) ∧ pa.stream.isSome then pa.sourceSetNotReady else pa
  pa.emit (.publisherStopRes author)

/-- `handleReaderRemove`. -/
def handleReaderRemove (pa : Path) (author : Nat) : Path :=
  let pa := if author ∈ pa.readers then pa.doReaderRemove author else pa
  let pa := pa.emit (.readerRemoveRes author)
  if pa.readers.isEmpty then
    if pa.conf.HasOnDemandStaticSource then
      { pa with onDemandStaticSource := pa.onDemandStaticSource.readersGone }
    else if pa.conf.HasOnDemandPublisher then
      { pa with onDemandPublisher := pa.onDemandPublisher.readersGone }
    else pa
  else pa

/-- `handleReaderAdd`. -/
def handleReaderAdd (pa : Path) (author : Nat) : Path :=
  if pa.stream.isSome then
    pa.handleReaderAddPost author
  else if pa.conf.HasOnDemandStaticSource then
    let pa := if pa.onDemandStaticSource.state = .initial then pa.onDemandStaticSourceStart else pa
    { pa with readerAddRequestsOnHold := pa.readerAddRequestsOnHold ++ [author] }
  else if pa.conf.HasOnDemandPublisher then
    let pa := if pa.onDemandPublisher.state = .initial then pa.onDemandPublisherStart else pa
    { pa with readerAddRequestsOnHold := pa.readerAddRequestsOnHold ++ [author] }
  else
    pa.emit (.readerAddRes author (.error pa.errNoOnePublishing))

/-- `handleAPIPathsGet`, reduced to what it reports about the stream and the readers. -/
def handleAPIPathsGet (pa : Path) : Path :=
  pa.emit (.apiPathsGetRes pa.stream.isSome pa.readers)

/-- One select case of the loop of `run`. -/
def step (pa : Path) : Event → Next
  | .onDemandStaticSourceReadyTimer =>
      { pa with onDemandStaticSource.readyTimer := false }.failRequestsOnHold
        |>.onDemandStaticSourceStop |>.checkShouldClose
  | .onDemandStaticSourceCloseTimer =>
      { pa with onDemandStaticSource.closeTimer := false }.sourceSetNotReady
        |>.onDemandStaticSourceStop |>.checkShouldClose
  | .onDemandPublisherReadyTimer =>
      { pa with onDemandPublisher.readyTimer := false }.failRequestsOnHold
        |>.onDemandPublisherStop |>.checkShouldClose
  | .onDemandPublisherCloseTimer =>
      { pa with onDemandPublisher.closeTimer := false }.onDemandPublisherStop |>.checkShouldClose
  | .reloadConf newConf => .running (pa.reloadConf newConf)
  | .sourceStaticSetReady streamErr => .running (pa.handleSourceStaticSetReady streamErr)
  | .sourceStaticSetNotReady => pa.handleSourceStaticSetNotReady.checkShouldClose
  | .describe req => (pa.handleDescribe req).checkShouldClose
  | .publisherRemove author => (pa.handlePublisherRemove author).checkShouldClose
  | .publisherAdd author => .running (pa.handlePublisherAdd author)
  | .publisherStart author streamErr => .running (pa.handlePublisherStart author streamErr)
  | .publisherStop author => (pa.handlePublisherStop author).checkShouldClose
  | .readerAdd author => (pa.handleReaderAdd author).checkShouldClose
  | .readerRemove author => .running (pa.handleReaderRemove author)
  | .apiPathsGet => .running pa.handleAPIPathsGet
  | .terminate => .exited pa "terminated"

/-- The loop of `run` over a sequence of select cases, up to the first case that returns. -/
def runEvents (pa : Path) : List Event → Next
  | [] => .running pa
  | event :: events =>
      match pa.step event with
      | .running next => next.runEvents events
      | .exited next err => .exited next err

/-- When a select case can be taken: a timer case only when its timer is armed, a static-source
case only when the path has a static source, and a reload only with a configuration that
`pathConfCanBeUpdated` accepts, since the path manager recreates the path otherwise. -/
def Enabled (pa : Path) : Event → Prop
  | .onDemandStaticSourceReadyTimer => pa.onDemandStaticSource.readyTimer = true
  | .onDemandStaticSourceCloseTimer => pa.onDemandStaticSource.closeTimer = true
  | .onDemandPublisherReadyTimer => pa.onDemandPublisher.readyTimer = true
  | .onDemandPublisherCloseTimer => pa.onDemandPublisher.closeTimer = true
  | .reloadConf newConf => pathConfCanBeUpdated pa.conf newConf = true
  | .sourceStaticSetReady _ => pa.conf.HasStaticSource = true
  | .sourceStaticSetNotReady => pa.conf.HasStaticSource = true
  | _ => True

/-- The states of the loop of `run`, over every order of the events allowed by `allowed`. -/
inductive Run (allowed : Path → Event → Prop) : Path → Prop where
  | start (confName : String) (conf : PathConf) (name : String) :
      Run allowed (newPath confName conf name).start
  | step {pa next : Path} (event : Event) :
      Run allowed pa → pa.Enabled event → allowed pa event → pa.step event = .running next →
      Run allowed next

/-- Every event order. -/
def anyOrder : Path → Event → Prop := fun _ _ => True

/-- A run over some events is a run over more. -/
theorem Run.mono {allowed more : Path → Event → Prop}
    (sub : ∀ pa event, allowed pa event → more pa event) {pa : Path} (run : Run allowed pa) :
    Run more pa := by
  induction run with
  | start confName conf name => exact .start confName conf name
  | step event _ enabled ok stepped ih => exact .step event ih enabled (sub _ event ok) stepped

/-- A publisher that is no longer the source (replaced by an override, or closed by the
on-demand close timer) gets an error or a bare acknowledgement for each of its late requests, and
nothing else changes: one reply is appended to the log, and the loop goes on exactly when it would
have without the request. -/
theorem stale_publisher_requests (pa : Path) (author : Nat)
    (stale : pa.source ≠ some (.publisher author)) :
    (∀ streamErr, pa.step (.publisherStart author streamErr) =
      .running (pa.emit (.publisherStartRes author (.error "publisher is not assigned to this path anymore")))) ∧
    pa.step (.publisherStop author) = (pa.emit (.publisherStopRes author)).checkShouldClose ∧
    pa.step (.publisherRemove author) = (pa.emit (.publisherRemoveRes author)).checkShouldClose := by
  refine ⟨fun _ => ?_, ?_, ?_⟩ <;>
    simp [step, handlePublisherStart, handlePublisherStop, handlePublisherRemove, stale]

/-- Publisher `1` is replaced by publisher `2`; its late requests are answered and ignored. -/
theorem stale_publisher_requests_override :
    let pa := ((newPath "cam" (.ofSource .publisher false "" fun _ => rfl) "cam").start.handlePublisherAdd 1).handlePublisherAdd 2
    pa.step (.publisherRemove 1) = (pa.emit (.publisherRemoveRes 1)).checkShouldClose :=
  (stale_publisher_requests _ 1 (by decide)).2.2

/-- The runs in which no source sends a second `publisherStart` or static-source ready while its
stream exists. -/
def NoSecondStart (pa : Path) : Event → Prop
  | .publisherStart author _ => pa.source = some (.publisher author) → pa.stream = none
  | .sourceStaticSetReady _ => pa.stream = none
  | _ => True

/-- The runs of `NoSecondStart` in which a static source reports not-ready only while the stream
of its ready exists: it defers `setNotReady` only after a successful `setReady`, and the path
stops it, waiting for it to end, whenever it removes that stream. -/
def NotReadyAfterReady (pa : Path) : Event → Prop
  | .sourceStaticSetNotReady => pa.stream ≠ none
  | event => NoSecondStart pa event

theorem noSecondStart_of_notReadyAfterReady {pa : Path} {event : Event}
    (allowed : NotReadyAfterReady pa event) : NoSecondStart pa event := by
  cases event <;> first | exact allowed | trivial

end Path

end RtspSimpleServer
