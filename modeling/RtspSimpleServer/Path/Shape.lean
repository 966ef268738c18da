import RtspSimpleServer.Path.Basic

/-!
# The shape a configuration gives a path

In every run, whatever the order of events, a path with a static source keeps it, and an
on-demand variant the configuration does not enable stays idle with both timers disarmed.
-/

namespace RtspSimpleServer
namespace Path

/-- What the configuration fixes about a path's state. -/
structure ShapeInvariant (pa : Path) : Prop where
  static_source : pa.conf.HasStaticSource = true → pa.source = some .static
  staticIdle : pa.conf.HasOnDemandStaticSource = false → pa.onDemandStaticSource = .idle
  publisherIdle : pa.conf.HasOnDemandPublisher = false → pa.onDemandPublisher = .idle

/-- A change that keeps the configuration, keeps the source of a path with a static source,
touches an on-demand variant only when the configuration enables it, and forwards no
configuration to the static source. -/
structure ShapeFrame (pa next : Path) : Prop where
  conf : next.conf = pa.conf
  static_source : pa.conf.HasStaticSource = true → next.source = pa.source
  staticSource : pa.conf.HasOnDemandStaticSource = false →
    next.onDemandStaticSource = pa.onDemandStaticSource
  publisher : pa.conf.HasOnDemandPublisher = false → next.onDemandPublisher = pa.onDemandPublisher
  forwarded : forwardedConfs next.out = forwardedConfs pa.out

namespace ShapeInvariant

variable {pa next : Path}

theorem frame (inv : ShapeInvariant pa) (frame : ShapeFrame pa next) : ShapeInvariant next where
  static_source has := by
    rw [frame.conf] at has; rw [frame.static_source has, inv.static_source has]
  staticIdle off := by rw [frame.conf] at off; rw [frame.staticSource off, inv.staticIdle off]
  publisherIdle off := by rw [frame.conf] at off; rw [frame.publisher off, inv.publisherIdle off]

/-- An armed timer of the on-demand static source means the configuration enables it. -/
theorem hasOnDemandStaticSource_of_timer (inv : ShapeInvariant pa)
    (timer : pa.onDemandStaticSource.readyTimer = true ∨ pa.onDemandStaticSource.closeTimer = true) :
    pa.conf.HasOnDemandStaticSource = true := by
  by_contra off
  simp [inv.staticIdle (by simpa using off), OnDemand.idle] at timer

/-- An armed timer of the on-demand publisher means the configuration enables it. -/
theorem hasOnDemandPublisher_of_timer (inv : ShapeInvariant pa)
    (timer : pa.onDemandPublisher.readyTimer = true ∨ pa.onDemandPublisher.closeTimer = true) :
    pa.conf.HasOnDemandPublisher = true := by
  by_contra off
  simp [inv.publisherIdle (by simpa using off), OnDemand.idle] at timer

end ShapeInvariant

theorem shapeInvariant_start (confName : String) (conf : PathConf) (name : String) :
    ShapeInvariant (newPath confName conf name).start := by
  constructor <;> intro _ <;> cases source : conf.source <;>
    simp_all [start, newPath, PathConf.HasStaticSource] <;> split_ifs <;> simp

namespace ShapeFrame

variable {pa mid next : Path}

theorem refl (pa : Path) : ShapeFrame pa pa := ⟨rfl, fun _ => rfl, fun _ => rfl, fun _ => rfl, rfl⟩

theorem trans (first : ShapeFrame pa mid) (second : ShapeFrame mid next) : ShapeFrame pa next where
  conf := second.conf.trans first.conf
  static_source has := (second.static_source (first.conf ▸ has)).trans (first.static_source has)
  staticSource off := (second.staticSource (first.conf ▸ off)).trans (first.staticSource off)
  publisher off := (second.publisher (first.conf ▸ off)).trans (first.publisher off)
  forwarded := second.forwarded.trans first.forwarded

/-- A change of fields the shape does not read. -/
theorem of_eq (conf : next.conf = pa.conf) (source : next.source = pa.source)
    (staticSource : next.onDemandStaticSource = pa.onDemandStaticSource)
    (publisher : next.onDemandPublisher = pa.onDemandPublisher)
    (forwarded : forwardedConfs next.out = forwardedConfs pa.out) : ShapeFrame pa next :=
  ⟨conf, fun _ => source, fun _ => staticSource, fun _ => publisher, forwarded⟩

/-- A change of the on-demand static source of a path that has one. -/
theorem of_staticSource (onDemand : pa.conf.HasOnDemandStaticSource = true)
    (conf : next.conf = pa.conf) (source : next.source = pa.source)
    (publisher : next.onDemandPublisher = pa.onDemandPublisher)
    (forwarded : forwardedConfs next.out = forwardedConfs pa.out) : ShapeFrame pa next :=
  ⟨conf, fun _ => source, fun off => by simp_all, fun _ => publisher, forwarded⟩

/-- A change of the source and of the on-demand publisher of a path that has one. -/
theorem of_publisher (onDemand : pa.conf.HasOnDemandPublisher = true) (conf : next.conf = pa.conf)
    (staticSource : next.onDemandStaticSource = pa.onDemandStaticSource)
    (forwarded : forwardedConfs next.out = forwardedConfs pa.out) : ShapeFrame pa next :=
  ⟨conf, fun has => by simp [PathConf.not_hasStaticSource_of_publisher onDemand] at has,
    fun _ => staticSource, fun off => by simp_all, forwarded⟩

theorem emit (pa : Path) (output : Output) (quiet : output.forwardedConf = none) :
    ShapeFrame pa (pa.emit output) :=
  of_eq rfl rfl rfl rfl (by simp [quiet])

theorem setDescribeRequestsOnHold (pa : Path) (reqs : List DescribeReq) :
    ShapeFrame pa { pa with describeRequestsOnHold := reqs } := of_eq rfl rfl rfl rfl rfl

theorem setReaderAddRequestsOnHold (pa : Path) (readers : List Nat) :
    ShapeFrame pa { pa with readerAddRequestsOnHold := readers } := of_eq rfl rfl rfl rfl rfl

theorem setStaticSource (onDemand : pa.conf.HasOnDemandStaticSource = true) (od : OnDemand) :
    ShapeFrame pa { pa with onDemandStaticSource := od } := of_staticSource onDemand rfl rfl rfl rfl

theorem setPublisher (onDemand : pa.conf.HasOnDemandPublisher = true) (od : OnDemand) :
    ShapeFrame pa { pa with onDemandPublisher := od } := of_publisher onDemand rfl rfl rfl

theorem failRequestsOnHold (pa : Path) : ShapeFrame pa pa.failRequestsOnHold :=
  of_eq rfl rfl rfl rfl (by simp [Output.forwardedConf])

theorem sourceSetNotReady (pa : Path) : ShapeFrame pa pa.sourceSetNotReady :=
  of_eq rfl rfl rfl rfl (by simp [apply_ite forwardedConfs, Output.forwardedConf])

theorem doReaderRemove (pa : Path) (reader : Nat) : ShapeFrame pa (pa.doReaderRemove reader) :=
  of_eq rfl rfl rfl rfl rfl

theorem onDemandStaticSourceStart (onDemand : pa.conf.HasOnDemandStaticSource = true) :
    ShapeFrame pa pa.onDemandStaticSourceStart :=
  of_staticSource onDemand rfl rfl rfl (by simp [Output.forwardedConf])

theorem onDemandStaticSourceStop (onDemand : pa.conf.HasOnDemandStaticSource = true) :
    ShapeFrame pa pa.onDemandStaticSourceStop :=
  of_staticSource onDemand rfl rfl rfl (by simp [Output.forwardedConf])

theorem onDemandPublisherStart (onDemand : pa.conf.HasOnDemandPublisher = true) :
    ShapeFrame pa pa.onDemandPublisherStart :=
  of_publisher onDemand rfl rfl (by simp [Output.forwardedConf])

theorem handleReaderAddPost (pa : Path) (reader : Nat) :
    ShapeFrame pa (pa.handleReaderAddPost reader) :=
  ⟨by simp, fun _ => by simp, fun off => by simp [handleReaderAddPost_onDemandStaticSource, off],
    fun off => by simp [handleReaderAddPost_onDemandPublisher, off],
    by simp [Output.forwardedConf]⟩

theorem foldl_handleReaderAddPost (readers : List Nat) (pa : Path) :
    ShapeFrame pa (readers.foldl Path.handleReaderAddPost pa) := by
  induction readers generalizing pa with
  | nil => exact refl pa
  | cons reader readers ih => exact (handleReaderAddPost pa reader).trans (ih _)

theorem flushRequestsOnHold (pa : Path) : ShapeFrame pa pa.flushRequestsOnHold :=
  have readers := foldl_handleReaderAddPost pa.readerAddRequestsOnHold
    { pa with
      describeRequestsOnHold := []
      out := pa.out ++ pa.describeRequestsOnHold.map fun (req : DescribeReq) =>
        Output.describeRes req.id (.stream pa.stream) }
  ⟨readers.conf, readers.static_source, readers.staticSource, readers.publisher,
    readers.forwarded.trans (by simp [Output.forwardedConf])⟩

theorem sourceSetReady {streamErr : Option String} (ready : pa.sourceSetReady streamErr = .ok next) :
    ShapeFrame pa next := by
  cases streamErr with
  | some err => cases ready
  | none =>
      cases ready
      exact of_eq rfl rfl rfl rfl (by simp [apply_ite forwardedConfs, Output.forwardedConf])

theorem doPublisherRemove (static : pa.conf.HasStaticSource = false) :
    ShapeFrame pa pa.doPublisherRemove :=
  ⟨by simp, fun has => by simp_all, fun _ => by simp, fun _ => by simp, by simp⟩

theorem onDemandPublisherStop (onDemand : pa.conf.HasOnDemandPublisher = true) :
    ShapeFrame pa pa.onDemandPublisherStop :=
  of_publisher onDemand (by simp [Path.onDemandPublisherStop])
    (by simp [Path.onDemandPublisherStop])
    (by simp [Path.onDemandPublisherStop, apply_ite forwardedConfs, Output.forwardedConf])

/-! ## The handlers -/

theorem handleSourceStaticSetReady (pa : Path) (streamErr : Option String) :
    ShapeFrame pa (pa.handleSourceStaticSetReady streamErr) := by
  simp only [Path.handleSourceStaticSetReady]
  split
  · exact emit _ _ rfl
  · rename_i next ready
    refine ((sourceSetReady ready).trans ?_).trans (emit _ _ rfl)
    split_ifs with staticOnDemand
    · exact (setStaticSource staticOnDemand _).trans (flushRequestsOnHold _)
    · exact refl _

theorem handleSourceStaticSetNotReady (pa : Path) :
    ShapeFrame pa pa.handleSourceStaticSetNotReady := by
  simp only [Path.handleSourceStaticSetNotReady]
  refine ((sourceSetNotReady pa).trans (emit _ .sourceStaticSetNotReadyRes rfl)).trans ?_
  split_ifs with staticOnDemand
  · exact onDemandStaticSourceStop (by simp_all)
  · exact refl _

/-- Starting an on-demand source only when it is idle keeps the shape either way. -/
theorem ite_start {started : Path} (start : ShapeFrame pa started) (idle : Prop) [Decidable idle] :
    ShapeFrame pa (if idle then started else pa) := by
  split
  · exact start
  · exact refl pa

theorem handleDescribe (pa : Path) (req : DescribeReq) : ShapeFrame pa (pa.handleDescribe req) := by
  unfold Path.handleDescribe
  split
  · exact emit _ _ rfl
  split
  · exact emit _ _ rfl
  split
  next staticOnDemand =>
    exact (ite_start (onDemandStaticSourceStart staticOnDemand) _).trans (setDescribeRequestsOnHold _ _)
  split
  next publisherOnDemand =>
    exact (ite_start (onDemandPublisherStart publisherOnDemand) _).trans (setDescribeRequestsOnHold _ _)
  split <;> exact emit _ _ rfl

theorem handleReaderAdd (pa : Path) (reader : Nat) : ShapeFrame pa (pa.handleReaderAdd reader) := by
  unfold Path.handleReaderAdd
  split
  · exact handleReaderAddPost _ _
  split
  next staticOnDemand =>
    exact (ite_start (onDemandStaticSourceStart staticOnDemand) _).trans (setReaderAddRequestsOnHold _ _)
  split
  next publisherOnDemand =>
    exact (ite_start (onDemandPublisherStart publisherOnDemand) _).trans (setReaderAddRequestsOnHold _ _)
  · exact emit _ _ rfl

theorem handleReaderRemove (pa : Path) (reader : Nat) :
    ShapeFrame pa (pa.handleReaderRemove reader) := by
  have removed : ShapeFrame pa
      ((if reader ∈ pa.readers then pa.doReaderRemove reader else pa).emit (.readerRemoveRes reader)) := by
    split_ifs
    · exact (doReaderRemove _ _).trans (emit _ _ rfl)
    · exact emit _ _ rfl
  simp only [Path.handleReaderRemove]
  generalize (if reader ∈ pa.readers then pa.doReaderRemove reader else pa).emit
    (.readerRemoveRes reader) = removedPath at removed ⊢
  split_ifs with empty staticOnDemand publisherOnDemand
  · exact removed.trans (setStaticSource staticOnDemand _)
  · exact removed.trans (setPublisher publisherOnDemand _)
  · exact removed
  · exact removed

theorem handlePublisherRemove (inv : ShapeInvariant pa) (author : Nat) :
    ShapeFrame pa (pa.handlePublisherRemove author) := by
  simp only [Path.handlePublisherRemove]
  refine (?_ : ShapeFrame pa _).trans (emit _ _ rfl)
  split_ifs with current
  · refine doPublisherRemove ?_
    by_contra static
    simp [inv.static_source (by simpa using static)] at current
  · exact refl _

theorem handlePublisherAdd (pa : Path) (author : Nat) :
    ShapeFrame pa (pa.handlePublisherAdd author) := by
  have assign : ∀ next : Path, next.conf.HasStaticSource = false →
      ShapeFrame next ({ next with source := some (.publisher author) }.emit
        (.publisherAddRes author .ok)) := fun next static =>
    ⟨rfl, fun has => by simp_all, fun _ => rfl, fun _ => rfl, by simp [Output.forwardedConf]⟩
  simp only [Path.handlePublisherAdd]
  split_ifs with other override
  · exact emit _ _ rfl
  all_goals have static : pa.conf.HasStaticSource = false := by simp_all [PathConf.HasStaticSource]
  · split
    · exact emit _ _ rfl
    · exact assign _ static
  · split
    · exact ((emit _ (.sourceClose _) rfl).trans (doPublisherRemove static)).trans (assign _ (by simpa using static))
    · exact assign _ static

theorem handlePublisherStart (pa : Path) (author : Nat) (streamErr : Option String) :
    ShapeFrame pa (pa.handlePublisherStart author streamErr) := by
  simp only [Path.handlePublisherStart]
  split_ifs
  · exact emit _ _ rfl
  · split
    · exact emit _ _ rfl
    · rename_i next ready
      refine ((sourceSetReady ready).trans ?_).trans (emit _ _ rfl)
      split_ifs with publisherOnDemand
      · exact (setPublisher publisherOnDemand _).trans (flushRequestsOnHold _)
      · exact refl _

theorem handlePublisherStop (pa : Path) (author : Nat) :
    ShapeFrame pa (pa.handlePublisherStop author) := by
  simp only [Path.handlePublisherStop]
  split_ifs
  · exact (sourceSetNotReady pa).trans (emit _ _ rfl)
  · exact emit _ _ rfl

/-- Every select case but a reload is a `ShapeFrame`. -/
theorem step {pa : Path} (inv : ShapeInvariant pa) {event : Event} (enabled : pa.Enabled event)
    (keep : event.newConf = none) : ShapeFrame pa (pa.step event).path := by
  cases event with
  | onDemandStaticSourceReadyTimer =>
      have onDemand := inv.hasOnDemandStaticSource_of_timer (.inl enabled)
      simp only [Path.step, checkShouldClose_path]
      exact ((setStaticSource onDemand _).trans (failRequestsOnHold _)).trans
        (onDemandStaticSourceStop onDemand)
  | onDemandStaticSourceCloseTimer =>
      have onDemand := inv.hasOnDemandStaticSource_of_timer (.inr enabled)
      simp only [Path.step, checkShouldClose_path]
      exact ((setStaticSource onDemand _).trans (sourceSetNotReady _)).trans
        (onDemandStaticSourceStop onDemand)
  | onDemandPublisherReadyTimer =>
      have onDemand := inv.hasOnDemandPublisher_of_timer (.inl enabled)
      simp only [Path.step, checkShouldClose_path]
      exact ((setPublisher onDemand _).trans (failRequestsOnHold _)).trans
        (onDemandPublisherStop onDemand)
  | onDemandPublisherCloseTimer =>
      have onDemand := inv.hasOnDemandPublisher_of_timer (.inr enabled)
      simp only [Path.step, checkShouldClose_path]
      exact (setPublisher onDemand _).trans (onDemandPublisherStop onDemand)
  | reloadConf newConf => cases keep
  | sourceStaticSetReady streamErr => exact handleSourceStaticSetReady pa streamErr
  | sourceStaticSetNotReady => simpa [Path.step] using handleSourceStaticSetNotReady pa
  | describe req => simpa [Path.step] using handleDescribe pa req
  | publisherRemove author => simpa [Path.step] using handlePublisherRemove inv author
  | publisherAdd author => exact handlePublisherAdd pa author
  | publisherStart author streamErr => exact handlePublisherStart pa author streamErr
  | publisherStop author => simpa [Path.step] using handlePublisherStop pa author
  | readerAdd author => simpa [Path.step] using handleReaderAdd pa author
  | readerRemove author => exact handleReaderRemove pa author
  | apiPathsGet => exact emit _ _ rfl
  | terminate => exact refl pa

end ShapeFrame

/-- One select case keeps the shape: a reload changes only fields the shape does not read. -/
theorem ShapeInvariant.step {pa : Path} (inv : ShapeInvariant pa) {event : Event}
    (enabled : pa.Enabled event) : ShapeInvariant (pa.step event).path := by
  cases reload : event.newConf with
  | none => exact inv.frame (.step inv enabled reload)
  | some newConf =>
      cases event <;> simp only [Event.newConf, reduceCtorEq] at reload
      cases reload
      have same := sameOutsideCamera_of_canBeUpdated enabled
      exact ⟨by simpa [Path.step, same.hasStaticSource] using inv.static_source,
        by simpa [Path.step, same.hasOnDemandStaticSource] using inv.staticIdle,
        by simpa [Path.step, same.hasOnDemandPublisher] using inv.publisherIdle⟩

/-- Every state of every run has the shape its configuration gives. -/
theorem Run.shapeInvariant {allowed : Path → Event → Prop} {pa : Path} (run : Run allowed pa) :
    ShapeInvariant pa := by
  induction run with
  | start confName conf name => exact shapeInvariant_start confName conf name
  | step _ _ enabled _ stepped ih => simpa [stepped] using ih.step enabled

end Path
end RtspSimpleServer
