import RtspSimpleServer.Conf
import Mathlib.Logic.Function.Basic

/-!
# The path manager

A shallow embedding of `pathManager` and of the select loop of its `run`, with the library code it
calls as a parameter.  Its two path maps are functions to `Option`, a missing key reading as
`none`, and what the loop sends, closes or spawns is appended to the log `out`.
-/

namespace RtspSimpleServer

/-- The library calls of the path manager whose code is not part of the sources. -/
structure PathManagerLib where
  /-- `conf.IsValidPathName`: why a name is invalid, if it is. -/
  isValidPathName : String → Option String
  /-- `FindStringSubmatch` of the compiled pattern of a `~` entry: the match and its groups. -/
  findStringSubmatch : String → String → Option (List String)
  /-- `authenticate` of a path name, its configuration, whether the request publishes, and the
  request's credentials: why the request is refused, if it is. -/
  authenticate : String → PathConf → Bool → Nat → Option String

/-- `map[string]*conf.PathConf`: its entries, in the order a `range` visits them. -/
structure PathConfs where
  /-- The entries, by configuration name. -/
  entries : List (String × PathConf)
  /-- A map has each key once. -/
  nodup : (entries.map Prod.fst).Nodup

namespace PathConfs

/-- `pathConfs[name]`. -/
def get (pathConfs : PathConfs) (name : String) : Option PathConf := pathConfs.entries.lookup name

end PathConfs

/-- What `newPath` is given and the path manager reads back: the path's identity, its name, the
configuration entry it was created from, that configuration and the regular expression's match. -/
structure PathRef where
  /-- The identity of the `*path`. -/
  id : Nat
  /-- `name`. -/
  name : String
  /-- `confName`. -/
  confName : String
  /-- `conf` at creation. -/
  conf : PathConf
  /-- `matches`. -/
  pathMatches : List String
  deriving DecidableEq

/-- What the loop of `run` sends, closes or spawns. -/
inductive PathManagerOutput where
  /-- `go pa.reloadConf(newPathConf)`. -/
  | reloadConf (pa : PathRef) (newConf : PathConf)
  /-- `pa.close()` followed by `pa.wait()`. -/
  | closePath (pa : PathRef)
  /-- The path answered to a describe, reader or publisher request. -/
  | pathRes (pa : Option PathRef)
  /-- The configuration answered to `getPathConf`. -/
  | pathConfRes (pathConf : PathConf)
  /-- The error answered to a request. -/
  | requestErr (err : String)
  /-- `errAPINotFound`, whose text is not part of the sources. -/
  | apiNotFound
  /-- `hlsManager.pathSourceReady(pa)`. -/
  | hlsPathSourceReady (pa : PathRef)
  /-- `hlsManager.pathSourceNotReady(pa)`. -/
  | hlsPathSourceNotReady (pa : PathRef)
  deriving DecidableEq

/-- The `pathManager` struct, reduced to what its loop reads and writes. -/
structure PathManager where
  /-- `pathConfs`. -/
  pathConfs : PathConfs
  /-- `paths`, by name. -/
  paths : String → Option PathRef
  /-- `pathsByConf`: the set of paths of each configuration name the map has as a key. -/
  pathsByConf : String → Option (List PathRef)
  /-- An HLS manager has been set. -/
  hlsManager : Bool
  /-- The identity the next path created gets. -/
  nextPath : Nat
  /-- Everything sent so far, oldest first. -/
  out : List PathManagerOutput

/-- One case of the select loop of `run`. -/
inductive PathManagerEvent where
  | confReload (newPathConfs : PathConfs)
  | pathClose (pa : PathRef)
  | pathSourceReady (pa : PathRef)
  | pathSourceNotReady (pa : PathRef)
  | getPathConf (name : String) (publish : Bool) (credentials : Nat)
  | describe (pathName : String) (credentials : Nat)
  | readerAdd (pathName : String) (skipAuth : Bool) (credentials : Nat)
  | publisherAdd (pathName : String) (skipAuth : Bool) (credentials : Nat)
  | hlsManagerSet (set : Bool)
  | apiPathsGet (name : String)

section

variable (lib : PathManagerLib)

/-- One iteration of the regular-expression loop of `getPathConfInternal`. -/
def regexpMatch (name : String) : String × PathConf → Option (String × PathConf × List String)
  | (pathConfName, pathConf) =>
      pathConf.regexp.bind fun re =>
        (lib.findStringSubmatch re name).map fun found => (pathConfName, pathConf, found)

/-- `getPathConfInternal`: a literal entry first, then the first `~` entry in iteration order
whose pattern matches. -/
def getPathConfInternal (pathConfs : PathConfs) (name : String) :
    Except String (String × PathConf × List String) :=
  match lib.isValidPathName name with
  | some err => .error ("invalid path name: " ++ err ++ " (" ++ name ++ ")")
  | none =>
      match pathConfs.get name with
      | some pathConf => .ok (name, pathConf, [])
      | none =>
          match pathConfs.entries.findSome? (regexpMatch lib name) with
          | some found => .ok found
          | none => .error ("path '" ++ name ++ "' is not configured")

namespace PathManager

/-- Append one output to the log. -/
def emit (pm : PathManager) (output : PathManagerOutput) : PathManager :=
  { pm with out := pm.out ++ [output] }

/-- `pm.pathsByConf[confName]`: the set of a configuration name, empty when the map lacks it. -/
def pathsOf (pm : PathManager) (confName : String) : List PathRef :=
  (pm.pathsByConf confName).getD []

/-- `createPath`: the set of the entry is made when the map lacks it, and the path added. -/
def createPath (pm : PathManager) (pathConfName : String) (pathConf : PathConf) (name : String)
    (pathMatches : List String) : PathManager :=
  let pa : PathRef := ⟨pm.nextPath, name, pathConfName, pathConf, pathMatches⟩
  { pm with
    paths := Function.update pm.paths name (some pa)
    pathsByConf := Function.update pm.pathsByConf pathConfName (some (pm.pathsOf pathConfName ++ [pa]))
    nextPath := pm.nextPath + 1 }

/-- `removePath`: the path leaves the set of its entry, whose key is deleted once the set is
empty. -/
def removePath (pm : PathManager) (pa : PathRef) : PathManager :=
  let remaining := (pm.pathsOf pa.confName).erase pa
  { pm with
    pathsByConf := Function.update pm.pathsByConf pa.confName
      (if remaining.length = 0 then none else some remaining)
    paths := Function.update pm.paths pa.name none }

section updates

variable (pm : PathManager) (pathConfName : String) (pathConf : PathConf) (name : String)
  (pathMatches : List String) (pa : PathRef) (confName : String)

@[simp] theorem createPath_paths : (pm.createPath pathConfName pathConf name pathMatches).paths =
    Function.update pm.paths name (some ⟨pm.nextPath, name, pathConfName, pathConf, pathMatches⟩) :=
  rfl

@[simp] theorem createPath_nextPath :
    (pm.createPath pathConfName pathConf name pathMatches).nextPath = pm.nextPath + 1 := rfl

theorem pathsOf_createPath : (pm.createPath pathConfName pathConf name pathMatches).pathsOf confName =
    if confName = pathConfName then
      pm.pathsOf pathConfName ++ [⟨pm.nextPath, name, pathConfName, pathConf, pathMatches⟩]
    else pm.pathsOf confName := by
  simp only [pathsOf, createPath, Function.update_apply]
  split_ifs <;> rfl

@[simp] theorem removePath_paths : (pm.removePath pa).paths = Function.update pm.paths pa.name none :=
  rfl

theorem pathsOf_removePath : (pm.removePath pa).pathsOf confName =
    if confName = pa.confName then (pm.pathsOf pa.confName).erase pa else pm.pathsOf confName := by
  simp only [pathsOf, removePath, Function.update_apply]
  split_ifs with same empty <;> simp_all

theorem pathsOf_removePath_subset : (pm.removePath pa).pathsOf confName ⊆ pm.pathsOf confName := by
  rw [pathsOf_removePath]
  split_ifs with same
  · exact same ▸ List.erase_subset _ _
  · exact List.Subset.refl _

/-- After `removePath` a key holds the set it held before, or a set that is not empty. -/
theorem removePath_pathsByConf {paths : List PathRef}
    (found : (pm.removePath pa).pathsByConf confName = some paths) :
    paths ≠ [] ∨ pm.pathsByConf confName = some paths := by
  simp only [removePath, Function.update_apply] at found
  split_ifs at found with same empty
  · cases found
    exact .inl (List.length_eq_zero.not.mp empty)
  · exact .inr found

end updates

/-- The body of `newPathManager`: a path for every literal entry. -/
def newPathManager (pathConfs : PathConfs) : PathManager :=
  pathConfs.entries.foldl
    (fun pm entry => if entry.2.regexp = none then pm.createPath entry.1 entry.2 entry.1 [] else pm)
    ⟨pathConfs, fun _ => none, fun _ => none, false, 0, []⟩

/-- The paths of an entry, removed and closed one after the other. -/
def removePaths (pm : PathManager) (paths : List PathRef) : PathManager :=
  paths.foldl (fun pm pa => (pm.removePath pa).emit (.closePath pa)) pm

/-- The new configuration, handed to each path of an entry by its own goroutine. -/
def reloadPaths (pm : PathManager) (paths : List PathRef) (newPathConf : PathConf) : PathManager :=
  paths.foldl (fun pm pa => pm.emit (.reloadConf pa newPathConf)) pm

/-- One iteration of the first loop of the `chConfReload` case, over an old entry. -/
def reloadEntry (newPathConfs : PathConfs) (pm : PathManager) : String × PathConf → PathManager
  | (confName, pathConf) =>
      match newPathConfs.get confName with
      | some newPathConf =>
          if newPathConf = pathConf then pm
          else if pathConfCanBeUpdated pathConf newPathConf then
            pm.reloadPaths (pm.pathsOf confName) newPathConf
          else pm.removePaths (pm.pathsOf confName)
      | none => pm.removePaths (pm.pathsOf confName)

/-- One iteration of the last loop of the `chConfReload` case: a path for a literal entry that
has none. -/
def addPath (pm : PathManager) : String × PathConf → PathManager
  | (pathConfName, pathConf) =>
      if (pm.paths pathConfName).isNone ∧ pathConf.regexp = none then
        pm.createPath pathConfName pathConf pathConfName []
      else pm

/-- The `chConfReload` case. -/
def handleConfReload (pm : PathManager) (newPathConfs : PathConfs) : PathManager :=
  let pm := pm.pathConfs.entries.foldl (reloadEntry newPathConfs) pm
  newPathConfs.entries.foldl addPath { pm with pathConfs := newPathConfs }

/-- The `chPathClose` case: a path that is still the one registered under its name is removed. -/
def handlePathClose (pm : PathManager) (pa : PathRef) : PathManager :=
  if pm.paths pa.name = some pa then pm.removePath pa else pm

/-- The `chDescribe`, `chReaderAdd` and `chPublisherAdd` cases: the name is resolved, the
request authenticated unless `skipAuth`, the path created if it does not exist, and returned. -/
def handlePathRequest (pm : PathManager) (pathName : String) (publish skipAuth : Bool)
    (credentials : Nat) : PathManager :=
  match getPathConfInternal lib pm.pathConfs pathName with
  | .error err => pm.emit (.requestErr err)
  | .ok (pathConfName, pathConf, pathMatches) =>
      match if skipAuth then none else lib.authenticate pathName pathConf publish credentials with
      | some _ => pm.emit (.requestErr "authentication error")
      | none =>
          let pm :=
            if (pm.paths pathName).isSome then pm
            else pm.createPath pathConfName pathConf pathName pathMatches
          pm.emit (.pathRes (pm.paths pathName))

/-- The `chPathGetPathConf` case. -/
def handleGetPathConf (pm : PathManager) (name : String) (publish : Bool) (credentials : Nat) :
    PathManager :=
  match getPathConfInternal lib pm.pathConfs name with
  | .error err => pm.emit (.requestErr err)
  | .ok (_, pathConf, _) =>
      match lib.authenticate name pathConf publish credentials with
      | some _ => pm.emit (.requestErr "authentication error")
      | none => pm.emit (.pathConfRes pathConf)

/-- One select case of the loop of `run`. -/
def step (pm : PathManager) : PathManagerEvent → PathManager
  | .confReload newPathConfs => pm.handleConfReload newPathConfs
  | .pathClose pa => pm.handlePathClose pa
  | .pathSourceReady pa => if pm.hlsManager then pm.emit (.hlsPathSourceReady pa) else pm
  | .pathSourceNotReady pa => if pm.hlsManager then pm.emit (.hlsPathSourceNotReady pa) else pm
  | .getPathConf name publish credentials => pm.handleGetPathConf lib name publish credentials
  | .describe pathName credentials => pm.handlePathRequest lib pathName false false credentials
  | .readerAdd pathName skipAuth credentials =>
      pm.handlePathRequest lib pathName false skipAuth credentials
  | .publisherAdd pathName skipAuth credentials =>
      pm.handlePathRequest lib pathName true skipAuth credentials
  | .hlsManagerSet set => { pm with hlsManager := set }
  | .apiPathsGet name =>
      match pm.paths name with
      | some pa => pm.emit (.pathRes (some pa))
      | none => pm.emit .apiNotFound

/-- The states of the loop of `run`, over every sequence of events. -/
inductive Run : PathManager → Prop where
  | start (pathConfs : PathConfs) : Run (newPathManager pathConfs)
  | step {pm : PathManager} (event : PathManagerEvent) : Run pm → Run (pm.step lib event)

end PathManager

end

end RtspSimpleServer
