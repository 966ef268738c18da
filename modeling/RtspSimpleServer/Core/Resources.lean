import RtspSimpleServer.Core.Cleaner

/-!
# Reloading the configuration of the core

`closeResources` closes each component whose close predicate holds for the old and the new
configuration, and `createResources` rebuilds the missing ones.  A component that survives a
reload keeps no closed instance, except the API, which can keep an RTMPS server that was closed.
-/

namespace RtspSimpleServer

/-- `conf.Encryption`. -/
inductive Encryption where
  | no
  | optional
  | strict
  deriving DecidableEq, Repr, Inhabited

/-- `conf.Protocols`: the set of enabled RTSP transports. -/
structure Protocols where
  udp : Bool
  multicast : Bool
  tcp : Bool
  deriving DecidableEq, Repr, Inhabited

instance : Inhabited PathConfs := ⟨⟨[], List.nodup_nil⟩⟩

/-- The fields of `conf.Conf` that `createResources` and `closeResources` read. -/
structure Conf where
  /-- `LogLevel`. -/
  logLevel : String
  /-- `LogDestinations`. -/
  logDestinations : List String
  /-- `LogFile`. -/
  logFile : String
  /-- `Metrics`. -/
  metrics : Bool
  /-- `MetricsAddress`. -/
  metricsAddress : String
  /-- `ReadTimeout`. -/
  readTimeout : Nat
  /-- `PPROF`. -/
  pprof : Bool
  /-- `PPROFAddress`. -/
  pprofAddress : String
  /-- `Paths`. -/
  paths : PathConfs
  /-- `ExternalAuthenticationURL`. -/
  externalAuthenticationURL : String
  /-- `RTSPAddress`. -/
  rtspAddress : String
  /-- `AuthMethods`. -/
  authMethods : List String
  /-- `WriteTimeout`. -/
  writeTimeout : Nat
  /-- `WriteQueueSize`. -/
  writeQueueSize : Nat
  /-- `UDPMaxPayloadSize`. -/
  udpMaxPayloadSize : Nat
  /-- `RTSP`. -/
  rtsp : Bool
  /-- `Encryption`. -/
  encryption : Encryption
  /-- `Protocols`. -/
  protocols : Protocols
  /-- `RTPAddress`. -/
  rtpAddress : String
  /-- `RTCPAddress`. -/
  rtcpAddress : String
  /-- `MulticastIPRange`. -/
  multicastIPRange : String
  /-- `MulticastRTPPort`. -/
  multicastRTPPort : Nat
  /-- `MulticastRTCPPort`. -/
  multicastRTCPPort : Nat
  /-- `RunOnConnect`. -/
  runOnConnect : String
  /-- `RunOnConnectRestart`. -/
  runOnConnectRestart : Bool
  /-- `RunOnDisconnect`. -/
  runOnDisconnect : String
  /-- `RTSPSAddress`. -/
  rtspsAddress : String
  /-- `ServerCert`. -/
  serverCert : String
  /-- `ServerKey`. -/
  serverKey : String
  /-- `RTMP`. -/
  rtmp : Bool
  /-- `RTMPEncryption`. -/
  rtmpEncryption : Encryption
  /-- `RTMPAddress`. -/
  rtmpAddress : String
  /-- `RTMPSAddress`. -/
  rtmpsAddress : String
  /-- `RTMPServerCert`. -/
  rtmpServerCert : String
  /-- `RTMPServerKey`. -/
  rtmpServerKey : String
  /-- `HLS`. -/
  hls : Bool
  /-- `HLSAddress`. -/
  hlsAddress : String
  /-- `HLSEncryption`. -/
  hlsEncryption : Bool
  /-- `HLSServerKey`. -/
  hlsServerKey : String
  /-- `HLSServerCert`. -/
  hlsServerCert : String
  /-- `HLSAlwaysRemux`. -/
  hlsAlwaysRemux : Bool
  /-- `HLSVariant`. -/
  hlsVariant : String
  /-- `HLSSegmentCount`. -/
  hlsSegmentCount : Nat
  /-- `HLSSegmentDuration`. -/
  hlsSegmentDuration : Nat
  /-- `HLSPartDuration`. -/
  hlsPartDuration : Nat
  /-- `HLSSegmentMaxSize`. -/
  hlsSegmentMaxSize : Nat
  /-- `HLSAllowOrigin`. -/
  hlsAllowOrigin : String
  /-- `HLSTrustedProxies`. -/
  hlsTrustedProxies : List String
  /-- `HLSDirectory`. -/
  hlsDirectory : String
  /-- `WebRTC`. -/
  webRTC : Bool
  /-- `WebRTCAddress`. -/
  webRTCAddress : String
  /-- `WebRTCEncryption`. -/
  webRTCEncryption : Bool
  /-- `WebRTCServerKey`. -/
  webRTCServerKey : String
  /-- `WebRTCServerCert`. -/
  webRTCServerCert : String
  /-- `WebRTCAllowOrigin`. -/
  webRTCAllowOrigin : String
  /-- `WebRTCTrustedProxies`. -/
  webRTCTrustedProxies : List String
  /-- `WebRTCICEServers2`. -/
  webRTCICEServers2 : List String
  /-- `WebRTCICEInterfaces`. -/
  webRTCICEInterfaces : List String
  /-- `WebRTCICEHostNAT1To1IPs`. -/
  webRTCICEHostNAT1To1IPs : List String
  /-- `WebRTCICEUDPMuxAddress`. -/
  webRTCICEUDPMuxAddress : String
  /-- `WebRTCICETCPMuxAddress`. -/
  webRTCICETCPMuxAddress : String
  /-- `SRT`. -/
  srt : Bool
  /-- `SRTAddress`. -/
  srtAddress : String
  /-- `API`. -/
  api : Bool
  /-- `APIAddress`. -/
  apiAddress : String
  deriving Inhabited

/-- The components of `Core`, in the order `createResources` builds them. -/
inductive Component where
  | logger
  | metrics
  | pprof
  | recordCleaner
  | pathManager
  | rtspServer
  | rtspsServer
  | rtmpServer
  | rtmpsServer
  | hlsManager
  | webRTCManager
  | srtServer
  | api
  deriving DecidableEq, Repr

namespace Component

/-- The order of the blocks of `createResources`. -/
def creationOrder : List Component :=
  [logger, metrics, pprof, recordCleaner, pathManager, rtspServer, rtspsServer, rtmpServer,
    rtmpsServer, hlsManager, webRTCManager, srtServer, api]

/-- The order of the `close()` calls of `closeResources` after the API's and before the
logger's. -/
def closeOrder : List Component :=
  [srtServer, webRTCManager, hlsManager, rtmpsServer, rtmpServer, rtspsServer, rtspServer,
    pathManager, recordCleaner, pprof, metrics]

/-- The components whose instance `createResources` hands to a component's constructor. -/
def references : Component → List Component
  | pathManager => [metrics]
  | rtspServer | rtspsServer | rtmpServer | rtmpsServer | srtServer => [metrics, pathManager]
  | hlsManager | webRTCManager => [pathManager, metrics]
  | api =>
      [pathManager, rtspServer, rtspsServer, rtmpServer, rtmpsServer, hlsManager, webRTCManager,
        srtServer]
  | logger | metrics | pprof | recordCleaner => []

/-- Whether a component's constructor returns an error (all do but `record.NewCleaner` and
`newPathManager`). -/
def fallible : Component → Bool
  | recordCleaner | pathManager => false
  | _ => true

/-- No constructor is handed its own component. -/
theorem not_mem_references_self (c : Component) : c ∉ c.references := by
  cases c <;> decide

end Component

/-- The condition of a block of `createResources`, besides that the component does not exist. -/
def Conf.enables (conf : Conf) : Component → Bool
  | .logger | .pathManager => true
  | .metrics => conf.metrics
  | .pprof => conf.pprof
  | .recordCleaner => !(gatherCleanerEntries conf.paths).isEmpty
  | .rtspServer => conf.rtsp && (conf.encryption == .no || conf.encryption == .optional)
  | .rtspsServer => conf.rtsp && (conf.encryption == .strict || conf.encryption == .optional)
  | .rtmpServer =>
      conf.rtmp && (conf.rtmpEncryption == .no || conf.rtmpEncryption == .optional)
  | .rtmpsServer =>
      conf.rtmp && (conf.rtmpEncryption == .strict || conf.rtmpEncryption == .optional)
  | .hlsManager => conf.hls
  | .webRTCManager => conf.webRTC
  | .srtServer => conf.srt
  | .api => conf.api

/-- What `closeResources` compares: the new configuration (`nil` at shutdown) and the current
one. -/
structure ConfChange where
  newConf : Option Conf
  conf : Conf

namespace ConfChange

variable (change : ConfChange)

/-- `newConf == nil || newConf.F != p.conf.F`, or `!reflect.DeepEqual` of a slice or a set. -/
def changed {α : Type} [DecidableEq α] (field : Conf → α) : Bool :=
  match change.newConf with
  | none => true
  | some newConf => field newConf != field change.conf

/-- `closeLogger`. -/
def closeLogger : Bool :=
  change.changed Conf.logLevel || change.changed Conf.logDestinations ||
    change.changed Conf.logFile

/-- `closeMetrics`. -/
def closeMetrics : Bool :=
  change.changed Conf.metrics || change.changed Conf.metricsAddress ||
    change.changed Conf.readTimeout || change.closeLogger

/-- `closePPROF`. -/
def closePPROF : Bool :=
  change.changed Conf.pprof || change.changed Conf.pprofAddress ||
    change.changed Conf.readTimeout || change.closeLogger

/-- `closeRecorderCleaner`. -/
def closeRecorderCleaner : Bool :=
  change.changed (fun conf => gatherCleanerEntries conf.paths) || change.closeLogger

/-- `closePathManager`. -/
def closePathManager : Bool :=
  change.changed Conf.externalAuthenticationURL || change.changed Conf.rtspAddress ||
    change.changed Conf.authMethods || change.changed Conf.readTimeout ||
    change.changed Conf.writeTimeout || change.changed Conf.writeQueueSize ||
    change.changed Conf.udpMaxPayloadSize || change.closeMetrics || change.closeLogger

/-- `closeRTSPServer`. -/
def closeRTSPServer : Bool :=
  change.changed Conf.rtsp || change.changed Conf.encryption ||
    change.changed Conf.rtspAddress || change.changed Conf.authMethods ||
    change.changed Conf.readTimeout || change.changed Conf.writeTimeout ||
    change.changed Conf.writeQueueSize || change.changed Conf.protocols ||
    change.changed Conf.rtpAddress || change.changed Conf.rtcpAddress ||
    change.changed Conf.multicastIPRange || change.changed Conf.multicastRTPPort ||
    change.changed Conf.multicastRTCPPort || change.changed Conf.rtspAddress ||
    change.changed Conf.protocols || change.changed Conf.runOnConnect ||
    change.changed Conf.runOnConnectRestart || change.changed Conf.runOnDisconnect ||
    change.closeMetrics || change.closePathManager || change.closeLogger

/-- `closeRTSPSServer`. -/
def closeRTSPSServer : Bool :=
  change.changed Conf.rtsp || change.changed Conf.encryption ||
    change.changed Conf.rtspsAddress || change.changed Conf.authMethods ||
    change.changed Conf.readTimeout || change.changed Conf.writeTimeout ||
    change.changed Conf.writeQueueSize || change.changed Conf.serverCert ||
    change.changed Conf.serverKey || change.changed Conf.rtspAddress ||
    change.changed Conf.protocols || change.changed Conf.runOnConnect ||
    change.changed Conf.runOnConnectRestart || change.changed Conf.runOnDisconnect ||
    change.closeMetrics || change.closePathManager || change.closeLogger

/-- `closeRTMPServer`. -/
def closeRTMPServer : Bool :=
  change.changed Conf.rtmp || change.changed Conf.rtmpEncryption ||
    change.changed Conf.rtmpAddress || change.changed Conf.readTimeout ||
    change.changed Conf.writeTimeout || change.changed Conf.writeQueueSize ||
    change.changed Conf.rtspAddress || change.changed Conf.runOnConnect ||
    change.changed Conf.runOnConnectRestart || change.changed Conf.runOnDisconnect ||
    change.closeMetrics || change.closePathManager || change.closeLogger

/-- `closeRTMPSServer`. -/
def closeRTMPSServer : Bool :=
  change.changed Conf.rtmp || change.changed Conf.rtmpEncryption ||
    change.changed Conf.rtmpsAddress || change.changed Conf.readTimeout ||
    change.changed Conf.writeTimeout || change.changed Conf.writeQueueSize ||
    change.changed Conf.rtmpServerCert || change.changed Conf.rtmpServerKey ||
    change.changed Conf.rtspAddress || change.changed Conf.runOnConnect ||
    change.changed Conf.runOnConnectRestart || change.changed Conf.runOnDisconnect ||
    change.closeMetrics || change.closePathManager || change.closeLogger

/-- `closeHLSManager`. -/
def closeHLSManager : Bool :=
  change.changed Conf.hls || change.changed Conf.hlsAddress ||
    change.changed Conf.hlsEncryption || change.changed Conf.hlsServerKey ||
    change.changed Conf.hlsServerCert || change.changed Conf.externalAuthenticationURL ||
    change.changed Conf.hlsAlwaysRemux || change.changed Conf.hlsVariant ||
    change.changed Conf.hlsSegmentCount || change.changed Conf.hlsSegmentDuration ||
    change.changed Conf.hlsPartDuration || change.changed Conf.hlsSegmentMaxSize ||
    change.changed Conf.hlsAllowOrigin || change.changed Conf.hlsTrustedProxies ||
    change.changed Conf.hlsDirectory || change.changed Conf.readTimeout ||
    change.changed Conf.writeQueueSize || change.closePathManager || change.closeMetrics ||
    change.closeLogger

/-- `closeWebRTCManager`. -/
def closeWebRTCManager : Bool :=
  change.changed Conf.webRTC || change.changed Conf.webRTCAddress ||
    change.changed Conf.webRTCEncryption || change.changed Conf.webRTCServerKey ||
    change.changed Conf.webRTCServerCert || change.changed Conf.webRTCAllowOrigin ||
    change.changed Conf.webRTCTrustedProxies || change.changed Conf.webRTCICEServers2 ||
    change.changed Conf.readTimeout || change.changed Conf.writeQueueSize ||
    change.changed Conf.webRTCICEInterfaces || change.changed Conf.webRTCICEHostNAT1To1IPs ||
    change.changed Conf.webRTCICEUDPMuxAddress || change.changed Conf.webRTCICETCPMuxAddress ||
    change.closeMetrics || change.closePathManager || change.closeLogger

/-- `closeSRTServer`. -/
def closeSRTServer : Bool :=
  change.changed Conf.srt || change.changed Conf.srtAddress ||
    change.changed Conf.rtspAddress || change.changed Conf.readTimeout ||
    change.changed Conf.writeTimeout || change.changed Conf.writeQueueSize ||
    change.changed Conf.udpMaxPayloadSize || change.changed Conf.runOnConnect ||
    change.changed Conf.runOnConnectRestart || change.changed Conf.runOnDisconnect ||
    change.closePathManager || change.closeLogger

/-- `closeAPI`. -/
def closeAPI : Bool :=
  change.changed Conf.api || change.changed Conf.apiAddress ||
    change.changed Conf.readTimeout || change.closePathManager || change.closeRTSPServer ||
    change.closeRTSPSServer || change.closeRTMPServer || change.closeHLSManager ||
    change.closeWebRTCManager || change.closeSRTServer || change.closeLogger

/-- The close predicate of each component. -/
def closes : Component → Bool
  | .logger => change.closeLogger
  | .metrics => change.closeMetrics
  | .pprof => change.closePPROF
  | .recordCleaner => change.closeRecorderCleaner
  | .pathManager => change.closePathManager
  | .rtspServer => change.closeRTSPServer
  | .rtspsServer => change.closeRTSPSServer
  | .rtmpServer => change.closeRTMPServer
  | .rtmpsServer => change.closeRTMPSServer
  | .hlsManager => change.closeHLSManager
  | .webRTCManager => change.closeWebRTCManager
  | .srtServer => change.closeSRTServer
  | .api => change.closeAPI

end ConfChange

/-- A reference that `closeResources` honours: every one but the API's reference to the RTMPS
server. -/
def Honoured (c d : Component) : Prop := ¬(c = .api ∧ d = .rtmpsServer)

namespace ConfChange

variable (change : ConfChange)

/-- Closing the metrics closes the path manager, which is built with them. -/
theorem closePathManager_of_closeMetrics (closed : change.closeMetrics = true) :
    change.closePathManager = true := by
  simp [closePathManager, closed]

/-- Whatever closes a component a constructor is handed closes the component it builds, for
every honoured reference.  The SRT server's predicate leaves out `closeMetrics`, but closing the
metrics closes the path manager, which the SRT server's predicate does include. -/
theorem closes_of_references {c d : Component} (ref : d ∈ c.references) (honoured : Honoured c d)
    (closed : change.closes d = true) : change.closes c = true := by
  cases c <;> simp only [Component.references, List.mem_cons, List.mem_singleton,
    List.not_mem_nil, or_false] at ref
  case api =>
    rcases ref with rfl | rfl | rfl | rfl | rfl | rfl | rfl | rfl <;>
      simp_all [closes, closeAPI, Honoured]
  all_goals
    rcases ref with rfl | rfl <;>
      simp_all [closes, closeRTSPServer, closeRTSPSServer, closeRTMPServer, closeRTMPSServer,
        closeHLSManager, closeWebRTCManager, closeSRTServer, closePathManager_of_closeMetrics]

/-- The API's reference to the RTMPS server is not honoured: a new RTMPS address closes the
RTMPS server and keeps the API. -/
example : (ConfChange.mk (some { (default : Conf) with rtmpsAddress := ":1937" })
    default).closes .rtmpsServer = true ∧
    (ConfChange.mk (some { (default : Conf) with rtmpsAddress := ":1937" })
      default).closes .api = false := by
  decide

end ConfChange

/-- What `closeResources` does besides closing components. -/
inductive CoreOutput where
  /-- `p.pathManager.confReload(newConf.Paths)`. -/
  | pathManagerConfReload (paths : PathConfs)
  /-- `p.api.confReload(newConf)`. -/
  | apiConfReload (newConf : Option Conf)
  /-- The `close()` of a component. -/
  | close (component : Component)

/-- The `Core` struct, reduced to its configuration and its components. -/
structure Core where
  /-- `conf`. -/
  conf : Conf
  /-- The live instance of each component, `none` for `nil`. -/
  live : Component → Option Nat
  /-- The instances each component's constructor was handed. -/
  held : Component → List (Component × Nat)
  /-- The number the next instance built gets. -/
  nextInstance : Nat
  /-- What `closeResources` has closed and forwarded, oldest first. -/
  out : List CoreOutput

namespace Core

/-- A core with a configuration and no component yet. -/
def new (conf : Conf) : Core := ⟨conf, fun _ => none, fun _ => [], 0, []⟩

/-- Append one output to the log. -/
def emit (core : Core) (output : CoreOutput) : Core := { core with out := core.out ++ [output] }

/-- `p.c.close(); p.c = nil`. -/
def close (core : Core) (c : Component) : Core :=
  { core.emit (.close c) with live := Function.update core.live c none }

/-- `if closeC && p.c != nil { p.c.close(); p.c = nil }`. -/
def closeIf (core : Core) (closeIt : Bool) (c : Component) : Core :=
  if closeIt && (core.live c).isSome then core.close c else core

/-- The first statement of `closeResources` after its predicates: a path manager that is kept
receives the new path configurations if they changed. -/
def forwardPaths (core : Core) (newConf : Option Conf) : Core :=
  match newConf with
  | some newConf =>
      if !(ConfChange.mk (some newConf) core.conf).closePathManager &&
          !newConf.paths.entries.isPerm core.conf.paths.entries then
        core.emit (.pathManagerConfReload newConf.paths)
      else core
  | none => core

/-- The API block of `closeResources`: a kept API receives the new configuration, unless the
reload comes from the API itself. -/
def closeOrReloadAPI (core : Core) (change : ConfChange) (calledByAPI : Bool) : Core :=
  if (core.live .api).isSome then
    if change.closeAPI then core.close .api
    else if !calledByAPI then core.emit (.apiConfReload change.newConf)
    else core
  else core

/-- `closeResources`. -/
def closeResources (core : Core) (newConf : Option Conf) (calledByAPI : Bool) : Core :=
  let change : ConfChange := ⟨newConf, core.conf⟩
  let core := (core.forwardPaths newConf).closeOrReloadAPI change calledByAPI
  let core := Component.closeOrder.foldl (fun core c => core.closeIf (change.closes c) c) core
  if change.closeLogger then core.close .logger else core

/-- Build a component, handing its constructor the live instances of the components it takes. -/
def build (core : Core) (c : Component) : Core :=
  { core with
    live := Function.update core.live c (some core.nextInstance)
    held := Function.update core.held c
      (c.references.filterMap fun d => (core.live d).map (d, ·))
    nextInstance := core.nextInstance + 1 }

/-- One block of `createResources`: an enabled component that does not exist is built, unless
its constructor returns an error, which ends `createResources`.  `fails` is the error each
constructor returns during this call, if any. -/
def createStep (fails : Component → Option String) (core : Core) (c : Component) :
    Except String Core :=
  if core.conf.enables c && (core.live c).isNone then
    match if c.fallible then fails c else none with
    | some err => .error err
    | none => .ok (core.build c)
  else .ok core

/-- `createResources`. -/
def createResources (fails : Component → Option String) (core : Core) : Except String Core :=
  Component.creationOrder.foldlM (createStep fails) core

/-- `reloadConf`: close what the new configuration changes, then build what is missing. -/
def reloadConf (fails : Component → Option String) (core : Core) (newConf : Conf)
    (calledByAPI : Bool) : Except String Core :=
  createResources fails { core.closeResources (some newConf) calledByAPI with conf := newConf }

/-- The states of `Core` after `New` and after each successful reload. -/
inductive Run : Core → Prop where
  | start {core : Core} (conf : Conf) (fails : Component → Option String) :
      createResources fails (new conf) = .ok core → Run core
  | reload {core next : Core} (newConf : Conf) (calledByAPI : Bool)
      (fails : Component → Option String) :
      Run core → core.reloadConf fails newConf calledByAPI = .ok next → Run next

@[simp] theorem emit_live (core : Core) (output : CoreOutput) :
    (core.emit output).live = core.live := rfl

@[simp] theorem emit_held (core : Core) (output : CoreOutput) :
    (core.emit output).held = core.held := rfl

@[simp] theorem close_live (core : Core) (c : Component) :
    (core.close c).live = Function.update core.live c none := rfl

@[simp] theorem close_held (core : Core) (c : Component) : (core.close c).held = core.held := rfl

theorem closeIf_live (core : Core) (closeIt : Bool) (c d : Component) :
    (core.closeIf closeIt c).live d = if closeIt ∧ d = c then none else core.live d := by
  unfold closeIf
  by_cases same : d = c
  · subst same
    cases closeIt <;> cases live : core.live d <;> simp [live]
  · split <;> simp [same]

@[simp] theorem closeIf_held (core : Core) (closeIt : Bool) (c : Component) :
    (core.closeIf closeIt c).held = core.held := by
  unfold closeIf
  split <;> rfl

theorem foldl_closeIf_live (closes : Component → Bool) (order : List Component) (core : Core)
    (d : Component) :
    (order.foldl (fun core c => core.closeIf (closes c) c) core).live d =
      if d ∈ order ∧ closes d then none else core.live d := by
  induction order generalizing core with
  | nil => simp
  | cons c order ih =>
      by_cases same : d = c
      · subst same
        cases closed : closes d <;> simp [ih, closeIf_live, closed]
      · simp [ih, closeIf_live, same]

theorem foldl_closeIf_held (closes : Component → Bool) (order : List Component) (core : Core) :
    (order.foldl (fun core c => core.closeIf (closes c) c) core).held = core.held := by
  induction order generalizing core with
  | nil => rfl
  | cons c order ih => simp [ih]

@[simp] theorem forwardPaths_live (core : Core) (newConf : Option Conf) :
    (core.forwardPaths newConf).live = core.live := by
  unfold forwardPaths
  split
  · split <;> rfl
  · rfl

@[simp] theorem forwardPaths_held (core : Core) (newConf : Option Conf) :
    (core.forwardPaths newConf).held = core.held := by
  unfold forwardPaths
  split
  · split <;> rfl
  · rfl

@[simp] theorem forwardPaths_conf (core : Core) (newConf : Option Conf) :
    (core.forwardPaths newConf).conf = core.conf := by
  unfold forwardPaths
  split
  · split <;> rfl
  · rfl

theorem closeOrReloadAPI_live (core : Core) (change : ConfChange) (calledByAPI : Bool)
    (d : Component) :
    (core.closeOrReloadAPI change calledByAPI).live d =
      if change.closeAPI ∧ d = .api then none else core.live d := by
  by_cases same : d = .api
  · subst same
    unfold closeOrReloadAPI
    cases api : core.live .api <;> cases change.closeAPI <;> cases calledByAPI <;> simp [api]
  · rw [if_neg fun closed => same closed.2]
    unfold closeOrReloadAPI
    split_ifs <;> simp [same]

@[simp] theorem closeOrReloadAPI_held (core : Core) (change : ConfChange) (calledByAPI : Bool) :
    (core.closeOrReloadAPI change calledByAPI).held = core.held := by
  unfold closeOrReloadAPI
  split_ifs <;> rfl

/-- `closeResources` closes exactly the live components whose close predicate holds. -/
theorem closeResources_live (core : Core) (newConf : Option Conf) (calledByAPI : Bool)
    (d : Component) :
    (core.closeResources newConf calledByAPI).live d =
      if (ConfChange.mk newConf core.conf).closes d then none else core.live d := by
  simp only [closeResources]
  by_cases logger : (ConfChange.mk newConf core.conf).closeLogger
  · rw [if_pos logger]
    simp only [close_live, Function.update_apply, foldl_closeIf_live, closeOrReloadAPI_live,
      forwardPaths_live]
    cases d <;> simp [Component.closeOrder, ConfChange.closes, logger]
  · rw [if_neg logger]
    simp only [foldl_closeIf_live, closeOrReloadAPI_live, forwardPaths_live]
    cases d <;> simp [Component.closeOrder, ConfChange.closes, logger]

/-- `closeResources` leaves what the remaining components were built with. -/
@[simp] theorem closeResources_held (core : Core) (newConf : Option Conf) (calledByAPI : Bool) :
    (core.closeResources newConf calledByAPI).held = core.held := by
  simp only [closeResources]
  split <;> simp [foldl_closeIf_held]

/-- Every live component holds live instances of the components its constructor took, along
every honoured reference. -/
structure Consistent (core : Core) : Prop where
  /-- A component holds only instances of components its constructor takes. -/
  held_references : ∀ c d i, (d, i) ∈ core.held c → d ∈ c.references
  /-- The instances a live component holds are live, along honoured references. -/
  held_live : ∀ c d i, (core.live c).isSome → (d, i) ∈ core.held c → Honoured c d →
    core.live d = some i

namespace Consistent

variable {core : Core}

theorem new (conf : Conf) : (Core.new conf).Consistent :=
  ⟨fun _ _ _ held => by simp [Core.new] at held, fun _ _ _ live => by simp [Core.new] at live⟩

/-- Building a missing component hands it live instances and leaves every other one alone. -/
theorem build (cons : core.Consistent) {c : Component} (absent : core.live c = none) :
    (core.build c).Consistent := by
  constructor
  · intro x d i held
    by_cases same : x = c
    · subst same
      simp only [Core.build, Function.update_same, List.mem_filterMap, Option.map_eq_some']
        at held
      obtain ⟨d', ref, i', _, same⟩ := held
      cases same
      exact ref
    · simp only [Core.build, Function.update_noteq same] at held
      exact cons.held_references x d i held
  · intro x d i live held honoured
    by_cases same : x = c
    · subst same
      simp only [Core.build, Function.update_same, List.mem_filterMap, Option.map_eq_some']
        at held
      obtain ⟨d', ref, i', live_d, same⟩ := held
      cases same
      have other : d ≠ x := fun eq => x.not_mem_references_self (eq ▸ ref)
      simp [Core.build, Function.update_noteq other, live_d]
    · simp only [Core.build, Function.update_noteq same] at live held
      have live_d := cons.held_live x d i live held honoured
      have other : d ≠ c := fun eq => by simp [eq, absent] at live_d
      simp [Core.build, Function.update_noteq other, live_d]

theorem createStep (cons : core.Consistent) {fails : Component → Option String} {c : Component}
    {next : Core} (step : Core.createStep fails core c = .ok next) : next.Consistent := by
  unfold Core.createStep at step
  split at step
  · rename_i enabled
    split at step
    · cases step
    · cases step
      exact cons.build (by simp_all)
  · cases step
    exact cons

theorem foldlM_createStep {fails : Component → Option String} :
    ∀ (order : List Component) {core next : Core}, core.Consistent →
      order.foldlM (Core.createStep fails) core = .ok next → next.Consistent
  | [], _, _, cons, done => by cases done; exact cons
  | c :: order, core, next, cons, done => by
      rw [List.foldlM_cons] at done
      cases step : Core.createStep fails core c with
      | error err => rw [step] at done; cases done
      | ok mid =>
          rw [step] at done
          exact foldlM_createStep order (cons.createStep step) done

theorem createResources (cons : core.Consistent) {fails : Component → Option String}
    {next : Core} (created : core.createResources fails = .ok next) : next.Consistent :=
  foldlM_createStep _ cons created

/-- A reload closes a component together with everything built with it, along honoured
references, so what survives holds live instances. -/
theorem closeResources (cons : core.Consistent) (newConf : Option Conf) (calledByAPI : Bool) :
    (core.closeResources newConf calledByAPI).Consistent := by
  constructor
  · intro c d i held
    exact cons.held_references c d i (by simpa using held)
  · intro c d i live held honoured
    rw [closeResources_held] at held
    rw [closeResources_live] at live ⊢
    split at live
    · simp at live
    · rename_i kept
      have closed : (ConfChange.mk newConf core.conf).closes d = false := by
        cases closes : (ConfChange.mk newConf core.conf).closes d
        · rfl
        · exact absurd (ConfChange.closes_of_references _ (cons.held_references c d i held)
            honoured closes) kept
      simp [closed, cons.held_live c d i live held honoured]

theorem reloadConf (cons : core.Consistent) {fails : Component → Option String} {newConf : Conf}
    {calledByAPI : Bool} {next : Core} (reloaded : core.reloadConf fails newConf calledByAPI = .ok next) :
    next.Consistent :=
  have closed : Consistent { core.closeResources (some newConf) calledByAPI with conf := newConf } :=
    let closed := cons.closeResources (some newConf) calledByAPI
    ⟨closed.held_references, closed.held_live⟩
  closed.createResources reloaded

end Consistent

/-- Every state of the core is consistent. -/
theorem Run.consistent {core : Core} (run : Run core) : core.Consistent := by
  induction run with
  | start conf fails created => exact (Consistent.new conf).createResources created
  | reload newConf calledByAPI fails _ reloaded ih => exact ih.reloadConf reloaded

/-- With the API and an RTMPS server running, a reload that changes only the RTMPS address
closes the RTMPS server and builds a new one, and keeps the API, which still holds the closed
one. -/
theorem api_holds_closed_rtmpsServer :
    ∃ core, Run core ∧ (core.live .api).isSome ∧
      ∃ i, (.rtmpsServer, i) ∈ core.held .api ∧ core.live .rtmpsServer ≠ some i :=
  ⟨_, .reload { (default : Conf) with
      api := true, rtmp := true, rtmpEncryption := .optional, rtmpsAddress := ":1937" } false
      (fun _ => none)
      (.start { (default : Conf) with api := true, rtmp := true, rtmpEncryption := .optional }
        (fun _ => none) rfl) rfl,
    rfl, 3, by decide, by decide⟩

/-- Two paths record to one directory with one retention, one in fMP4 and one in MPEG-TS.  The
two iteration orders of their map give the two entries in two orders, and a reload that hands the
core the same map in the other order closes the record cleaner. -/
theorem gatherCleanerEntries_iteration_order :
    let fmp4 : PathConf := { PathConf.ofSource .publisher false "" (fun _ => rfl) with
      record := true, recordPath := "rec", recordFormat := "fmp4", recordDeleteAfter := 86400 }
    let mpegts : PathConf := { fmp4 with recordFormat := "mpegts" }
    let conf : Conf := { (default : Conf) with
      paths := ⟨[("cam1", fmp4), ("cam2", mpegts)], by decide⟩ }
    let reordered : PathConfs := ⟨[("cam2", mpegts), ("cam1", fmp4)], by decide⟩
    conf.paths.entries.Perm reordered.entries ∧
      gatherCleanerEntries conf.paths = [⟨"rec", "fmp4", 86400⟩, ⟨"rec", "mpegts", 86400⟩] ∧
      gatherCleanerEntries reordered = [⟨"rec", "mpegts", 86400⟩, ⟨"rec", "fmp4", 86400⟩] ∧
      ∀ core : Core, core.conf = conf →
        (core.closeResources (some { conf with paths := reordered }) false).live .recordCleaner = none := by
  intro fmp4 mpegts conf reordered
  have closes : (ConfChange.mk (some { conf with paths := reordered }) conf).closes .recordCleaner := by
    decide
  exact ⟨List.Perm.swap _ _ [], by decide, by decide, fun core same => by
    rw [closeResources_live, same, if_pos closes]⟩

end Core

end RtspSimpleServer
