import Mathlib.Logic.Basic
import Mathlib.Tactic.Common

/-!
# Path configurations

The part of `conf.PathConf` that the path loop, the path manager and the record cleaner read.  A
configuration carries the rule that `runOnDemand` needs a `publisher` source as a field, so an
invalid one cannot be built.
-/

namespace RtspSimpleServer

/-- The `source` field of a path configuration. -/
inductive PathSource where
  /-- `publisher`: the stream is pushed by a client. -/
  | publisher
  /-- `redirect`: readers are redirected to `sourceRedirect`. -/
  | redirect
  /-- A static source (an `rtsp://`, `rtmp://`, `hls://`, ... URL or `rpiCamera`). -/
  | static (url : String)
  deriving DecidableEq, Repr

namespace PathSource

/-- The source is pulled by the server itself. -/
def isStatic : PathSource → Bool
  | static _ => true
  | _ => false

@[simp] theorem isStatic_publisher : publisher.isStatic = false := rfl
@[simp] theorem isStatic_redirect : redirect.isStatic = false := rfl
@[simp] theorem isStatic_static (url : String) : (static url).isStatic = true := rfl

end PathSource

/-- The fields of `conf.PathConf` read by `path`, `pathManager` and `gatherCleanerEntries`. -/
structure PathConf where
  /-- `Source`. -/
  source : PathSource
  /-- `SourceOnDemand`: start the static source only when a reader asks for it. -/
  sourceOnDemand : Bool
  /-- `SourceRedirect`: the target of a `redirect` source. -/
  sourceRedirect : String
  /-- `DisablePublisherOverride`. -/
  disablePublisherOverride : Bool
  /-- `Fallback`: where readers are sent when nobody publishes. -/
  fallback : String
  /-- `RunOnDemand`: the command that starts a publisher on demand. -/
  runOnDemand : String
  /-- `RunOnReady`: the command run while the stream is ready. -/
  runOnReady : String
  /-- `Record`. -/
  record : Bool
  /-- `RecordPath`. -/
  recordPath : String
  /-- `RecordFormat`. -/
  recordFormat : String
  /-- `RecordDeleteAfter`. -/
  recordDeleteAfter : Nat
  /-- `Regexp`: the pattern of a `~` entry, `none` for a literal entry. -/
  regexp : Option String
  /-- `RPICameraBrightness`. -/
  rpiCameraBrightness : Int
  /-- `RPICameraContrast`. -/
  rpiCameraContrast : Int
  /-- `RPICameraSaturation`. -/
  rpiCameraSaturation : Int
  /-- `RPICameraSharpness`. -/
  rpiCameraSharpness : Int
  /-- `RPICameraExposure`. -/
  rpiCameraExposure : String
  /-- `RPICameraAWB`. -/
  rpiCameraAWB : String
  /-- `RPICameraDenoise`. -/
  rpiCameraDenoise : String
  /-- `RPICameraShutter`. -/
  rpiCameraShutter : Int
  /-- `RPICameraMetering`. -/
  rpiCameraMetering : String
  /-- `RPICameraGain`. -/
  rpiCameraGain : Int
  /-- `RPICameraEV`. -/
  rpiCameraEV : Int
  /-- `RPICameraFPS`. -/
  rpiCameraFPS : Int
  /-- `runOnDemand` can be used only when the source is `publisher`. -/
  runOnDemand_publisher : runOnDemand ≠ "" → source = .publisher
  deriving DecidableEq

namespace PathConf

/-- `HasStaticSource`. -/
def HasStaticSource (conf : PathConf) : Bool := conf.source.isStatic

/-- `HasOnDemandStaticSource`. -/
def HasOnDemandStaticSource (conf : PathConf) : Bool := conf.HasStaticSource && conf.sourceOnDemand

/-- `HasOnDemandPublisher`. -/
def HasOnDemandPublisher (conf : PathConf) : Bool := conf.runOnDemand != ""

/-- `runOnDemand` rules out a static source. -/
theorem not_hasStaticSource_of_publisher {conf : PathConf}
    (publisher : conf.HasOnDemandPublisher = true) : conf.HasStaticSource = false := by
  have source := conf.runOnDemand_publisher (by simpa [HasOnDemandPublisher] using publisher)
  simp [HasStaticSource, source]

/-- The two on-demand variants exclude each other. -/
theorem not_hasOnDemandStaticSource_of_publisher {conf : PathConf}
    (publisher : conf.HasOnDemandPublisher = true) : conf.HasOnDemandStaticSource = false := by
  simp [HasOnDemandStaticSource, not_hasStaticSource_of_publisher publisher]

theorem hasStaticSource_of_onDemand {conf : PathConf}
    (onDemand : conf.HasOnDemandStaticSource = true) : conf.HasStaticSource = true := by
  simp only [HasOnDemandStaticSource, Bool.and_eq_true] at onDemand
  exact onDemand.1

end PathConf

/-- A configuration with source `source`, `sourceOnDemand` and `runOnDemand` as given and every
other field at its zero value; the concrete runs use it. -/
def PathConf.ofSource (source : PathSource) (sourceOnDemand : Bool) (runOnDemand : String)
    (valid : runOnDemand ≠ "" → source = .publisher) : PathConf where
  source := source
  sourceOnDemand := sourceOnDemand
  sourceRedirect := ""
  disablePublisherOverride := false
  fallback := ""
  runOnDemand := runOnDemand
  runOnReady := ""
  record := false
  recordPath := ""
  recordFormat := ""
  recordDeleteAfter := 0
  regexp := none
  rpiCameraBrightness := 0
  rpiCameraContrast := 0
  rpiCameraSaturation := 0
  rpiCameraSharpness := 0
  rpiCameraExposure := ""
  rpiCameraAWB := ""
  rpiCameraDenoise := ""
  rpiCameraShutter := 0
  rpiCameraMetering := ""
  rpiCameraGain := 0
  rpiCameraEV := 0
  rpiCameraFPS := 0
  runOnDemand_publisher := valid

/-- `pathConfCanBeUpdated`: the new configuration differs from the old one at most in the
`RPICamera*` fields, which a running path takes over without being recreated. -/
def pathConfCanBeUpdated (oldPathConf newPathConf : PathConf) : Bool :=
  let clone : PathConf :=
    { oldPathConf with
      rpiCameraBrightness := newPathConf.rpiCameraBrightness
      rpiCameraContrast := newPathConf.rpiCameraContrast
      rpiCameraSaturation := newPathConf.rpiCameraSaturation
      rpiCameraSharpness := newPathConf.rpiCameraSharpness
      rpiCameraExposure := newPathConf.rpiCameraExposure
      rpiCameraAWB := newPathConf.rpiCameraAWB
      rpiCameraDenoise := newPathConf.rpiCameraDenoise
      rpiCameraShutter := newPathConf.rpiCameraShutter
      rpiCameraMetering := newPathConf.rpiCameraMetering
      rpiCameraGain := newPathConf.rpiCameraGain
      rpiCameraEV := newPathConf.rpiCameraEV
      rpiCameraFPS := newPathConf.rpiCameraFPS }
  newPathConf == clone

/-- An update that `pathConfCanBeUpdated` accepts keeps every field the path logic reads. -/
structure SameOutsideCamera (oldPathConf newPathConf : PathConf) : Prop where
  source : newPathConf.source = oldPathConf.source
  sourceOnDemand : newPathConf.sourceOnDemand = oldPathConf.sourceOnDemand
  sourceRedirect : newPathConf.sourceRedirect = oldPathConf.sourceRedirect
  disablePublisherOverride :
    newPathConf.disablePublisherOverride = oldPathConf.disablePublisherOverride
  fallback : newPathConf.fallback = oldPathConf.fallback
  runOnDemand : newPathConf.runOnDemand = oldPathConf.runOnDemand
  runOnReady : newPathConf.runOnReady = oldPathConf.runOnReady
  regexp : newPathConf.regexp = oldPathConf.regexp

theorem sameOutsideCamera_of_canBeUpdated {oldPathConf newPathConf : PathConf}
    (update : pathConfCanBeUpdated oldPathConf newPathConf = true) :
    SameOutsideCamera oldPathConf newPathConf := by
  simp only [pathConfCanBeUpdated, beq_iff_eq] at update
  rw [update]
  exact ⟨rfl, rfl, rfl, rfl, rfl, rfl, rfl, rfl⟩

namespace SameOutsideCamera

variable {first second third : PathConf}

theorem refl (conf : PathConf) : SameOutsideCamera conf conf :=
  ⟨rfl, rfl, rfl, rfl, rfl, rfl, rfl, rfl⟩

theorem trans (left : SameOutsideCamera first second) (right : SameOutsideCamera second third) :
    SameOutsideCamera first third :=
  ⟨right.1.trans left.1, right.2.trans left.2, right.3.trans left.3, right.4.trans left.4,
    right.5.trans left.5, right.6.trans left.6, right.7.trans left.7, right.8.trans left.8⟩

theorem hasStaticSource (same : SameOutsideCamera first second) :
    second.HasStaticSource = first.HasStaticSource := by
  simp [PathConf.HasStaticSource, same.source]

theorem hasOnDemandStaticSource (same : SameOutsideCamera first second) :
    second.HasOnDemandStaticSource = first.HasOnDemandStaticSource := by
  simp [PathConf.HasOnDemandStaticSource, same.hasStaticSource, same.sourceOnDemand]

theorem hasOnDemandPublisher (same : SameOutsideCamera first second) :
    second.HasOnDemandPublisher = first.HasOnDemandPublisher := by
  simp [PathConf.HasOnDemandPublisher, same.runOnDemand]

end SameOutsideCamera

end RtspSimpleServer
