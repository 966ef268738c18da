import RtspSimpleServer.PathManager.Binding

/-!
# The two path maps agree

In every reachable state of the path manager `paths` and `pathsByConf` agree both ways, each set of
`pathsByConf` holds a path once and no key of `pathsByConf` holds an empty set.  The agreement
rests on two guards: `createPath` is called only for a name no path holds, and `removePath` only
for a path that is still registered.
-/

namespace RtspSimpleServer
namespace PathManager

/-- The two path maps agree both ways, each set of `pathsByConf` holds a path once, no key holds
an empty set, and every path in a set was created before the counter. -/
structure Consistent (pm : PathManager) extends Registry pm : Prop where
  member : ∀ confName pa, pa ∈ pm.pathsOf confName →
    pa.confName = confName ∧ pm.paths pa.name = some pa
  nodup : ∀ confName, (pm.pathsOf confName).Nodup
  nonempty : ∀ confName paths, pm.pathsByConf confName = some paths → paths ≠ []
  fresh : ∀ confName pa, pa ∈ pm.pathsOf confName → pa.id < pm.nextPath

/-- Two paths registered under one name are the same path. -/
theorem eq_of_paths {paths : String → Option PathRef} {pa other : PathRef}
    (found : paths other.name = some other) (registered : paths pa.name = some pa)
    (same : other.name = pa.name) : other = pa :=
  Option.some.inj (by rw [← found, same, registered])

namespace Consistent

variable {pm : PathManager}

theorem of_eq {next : PathManager} (consistent : Consistent pm) (paths : next.paths = pm.paths)
    (pathsByConf : next.pathsByConf = pm.pathsByConf) (nextPath : next.nextPath = pm.nextPath) :
    Consistent next where
  toRegistry := consistent.toRegistry.of_eq paths pathsByConf
  member := by unfold pathsOf; rw [paths, pathsByConf]; exact consistent.member
  nodup := by unfold pathsOf; rw [pathsByConf]; exact consistent.nodup
  nonempty := by rw [pathsByConf]; exact consistent.nonempty
  fresh := by unfold pathsOf; rw [pathsByConf, nextPath]; exact consistent.fresh

theorem emit (consistent : Consistent pm) (output : PathManagerOutput) :
    Consistent (pm.emit output) :=
  consistent.of_eq rfl rfl rfl

/-- `removePath` of a path that is still registered. -/
theorem removePath (consistent : Consistent pm) {pa : PathRef}
    (registered : pm.paths pa.name = some pa) : Consistent (pm.removePath pa) where
  toRegistry := consistent.toRegistry.removePath pa
  member confName other mem := by
    have kept : other ∈ pm.pathsOf confName ∧ other ≠ pa := by
      rw [pathsOf_removePath] at mem
      split_ifs at mem with same
      · subst same
        exact ((consistent.nodup _).mem_erase_iff.mp mem).symm
      · exact ⟨mem, fun eq => same (eq ▸ (consistent.member _ _ mem).1).symm⟩
    obtain ⟨conf, found⟩ := consistent.member _ _ kept.1
    simp only [removePath_paths, Function.update_apply]
    exact ⟨conf, by rwa [if_neg fun same => kept.2 (eq_of_paths found registered same)]⟩
  nodup confName := by
    rw [pathsOf_removePath]
    split_ifs
    · exact (consistent.nodup _).erase _
    · exact consistent.nodup _
  nonempty confName paths found :=
    (removePath_pathsByConf pm pa confName found).elim id (consistent.nonempty confName paths)
  fresh confName other mem := by
    rw [pathsOf_removePath] at mem
    split_ifs at mem
    · exact consistent.fresh _ _ (List.mem_of_mem_erase mem)
    · exact consistent.fresh _ _ mem

/-- `createPath` for a name that no path holds. -/
theorem createPath (consistent : Consistent pm) {confName : String} {pathConf : PathConf}
    {name : String} {pathMatches : List String} (absent : pm.paths name = none) :
    Consistent (pm.createPath confName pathConf name pathMatches) where
  toRegistry := consistent.toRegistry.createPath confName pathConf name pathMatches
  member other pa mem := by
    have old : ∀ pa ∈ pm.pathsOf other, pa.confName = other ∧
        (if pa.name = name then some ⟨pm.nextPath, name, confName, pathConf, pathMatches⟩
          else pm.paths pa.name) = some pa := fun pa mem => by
      obtain ⟨conf, found⟩ := consistent.member _ _ mem
      have named : pa.name ≠ name := fun same => by simp [← same, found] at absent
      exact ⟨conf, by rwa [if_neg named]⟩
    rw [pathsOf_createPath] at mem
    simp only [createPath_paths, Function.update_apply]
    split_ifs at mem with conf
    · rcases List.mem_append.mp mem with mem | created
      · exact old pa (conf ▸ mem)
      · simp only [List.mem_singleton] at created
        subst created
        simp [conf]
    · exact old pa mem
  nodup other := by
    rw [pathsOf_createPath]
    split_ifs
    · refine List.nodup_append.mpr ⟨consistent.nodup _, List.nodup_singleton _, ?_⟩
      simp only [List.disjoint_singleton]
      exact fun mem => (consistent.fresh _ _ mem).ne rfl
    · exact consistent.nodup _
  nonempty other paths found := by
    simp only [PathManager.createPath, Function.update_apply] at found
    split_ifs at found
    · cases found; simp
    · exact consistent.nonempty other paths found
  fresh other pa mem := by
    rw [pathsOf_createPath] at mem
    rw [createPath_nextPath]
    split_ifs at mem
    · rcases List.mem_append.mp mem with mem | created
      · exact Nat.lt_succ_of_lt (consistent.fresh _ _ mem)
      · simp only [List.mem_singleton] at created
        simp [created]
    · exact Nat.lt_succ_of_lt (consistent.fresh _ _ mem)

/-- The paths of a set, removed one after the other: each is still registered when its turn
comes, since removing one path keeps the others. -/
theorem removePaths (consistent : Consistent pm) (paths : List PathRef)
    (registered : ∀ pa ∈ paths, pm.paths pa.name = some pa) (nodup : paths.Nodup) :
    Consistent (pm.removePaths paths) := by
  induction paths generalizing pm with
  | nil => exact consistent
  | cons pa paths ih =>
      obtain ⟨fresh, nodup⟩ := List.nodup_cons.mp nodup
      have current := registered pa (.head _)
      refine ih ((consistent.removePath current).emit _) (fun other mem => ?_) nodup
      have found := registered other (.tail _ mem)
      show Function.update pm.paths pa.name none other.name = some other
      rw [Function.update_noteq fun same => fresh (eq_of_paths found current same ▸ mem)]
      exact found

theorem reloadPaths (consistent : Consistent pm) (paths : List PathRef) (newPathConf : PathConf) :
    Consistent (pm.reloadPaths paths newPathConf) := by
  induction paths generalizing pm with
  | nil => exact consistent
  | cons pa paths ih => exact ih (consistent.emit _)

theorem reloadEntry (consistent : Consistent pm) (newPathConfs : PathConfs)
    (entry : String × PathConf) : Consistent (pm.reloadEntry newPathConfs entry) := by
  obtain ⟨confName, pathConf⟩ := entry
  have removed := consistent.removePaths (pm.pathsOf confName)
    (fun pa mem => (consistent.member _ _ mem).2) (consistent.nodup _)
  simp only [PathManager.reloadEntry]
  split
  · split_ifs
    · exact consistent
    · exact consistent.reloadPaths _ _
    · exact removed
  · exact removed

theorem addPath (consistent : Consistent pm) (entry : String × PathConf) :
    Consistent (pm.addPath entry) := by
  obtain ⟨pathConfName, pathConf⟩ := entry
  simp only [PathManager.addPath]
  split_ifs with absent
  · exact consistent.createPath (Option.isNone_iff_eq_none.mp absent.1)
  · exact consistent

/-- The `chConfReload` case, with its removals inside the loop over the old entries. -/
theorem handleConfReload (consistent : Consistent pm) (newPathConfs : PathConfs) :
    Consistent (pm.handleConfReload newPathConfs) := by
  have reloaded : ∀ (entries : List (String × PathConf)) (pm : PathManager), Consistent pm →
      Consistent (entries.foldl (PathManager.reloadEntry newPathConfs) pm) := by
    intro entries
    induction entries with
    | nil => exact fun _ consistent => consistent
    | cons entry entries ih => exact fun pm consistent => ih _ (consistent.reloadEntry newPathConfs entry)
  have added : ∀ (entries : List (String × PathConf)) (pm : PathManager), Consistent pm →
      Consistent (entries.foldl PathManager.addPath pm) := by
    intro entries
    induction entries with
    | nil => exact fun _ consistent => consistent
    | cons entry entries ih => exact fun pm consistent => ih _ (consistent.addPath entry)
  exact added _ _ ((reloaded _ _ consistent).of_eq rfl rfl rfl)

/-- The `chPathClose` case removes a path only while it is the one registered under its name. -/
theorem handlePathClose (consistent : Consistent pm) (pa : PathRef) :
    Consistent (pm.handlePathClose pa) := by
  unfold PathManager.handlePathClose
  split_ifs with registered
  · exact consistent.removePath registered
  · exact consistent

theorem handlePathRequest (consistent : Consistent pm) (lib : PathManagerLib) (pathName : String)
    (publish skipAuth : Bool) (credentials : Nat) :
    Consistent (pm.handlePathRequest lib pathName publish skipAuth credentials) := by
  simp only [PathManager.handlePathRequest]
  split
  · exact consistent.emit _
  · split
    · exact consistent.emit _
    · split_ifs with present
      · exact consistent.emit _
      · exact (consistent.createPath (Option.not_isSome_iff_eq_none.mp present)).emit _

/-- One select case keeps the maps in agreement. -/
theorem step (consistent : Consistent pm) (lib : PathManagerLib) (event : PathManagerEvent) :
    Consistent (pm.step lib event) := by
  cases event with
  | confReload newPathConfs => exact consistent.handleConfReload newPathConfs
  | pathClose pa => exact consistent.handlePathClose pa
  | pathSourceReady pa =>
      simp only [PathManager.step]; split_ifs <;> first | exact consistent | exact consistent.emit _
  | pathSourceNotReady pa =>
      simp only [PathManager.step]; split_ifs <;> first | exact consistent | exact consistent.emit _
  | getPathConf name publish credentials =>
      simp only [PathManager.step, PathManager.handleGetPathConf]
      split
      · exact consistent.emit _
      · split <;> exact consistent.emit _
  | describe pathName credentials => exact consistent.handlePathRequest lib pathName false false credentials
  | readerAdd pathName skipAuth credentials =>
      exact consistent.handlePathRequest lib pathName false skipAuth credentials
  | publisherAdd pathName skipAuth credentials =>
      exact consistent.handlePathRequest lib pathName true skipAuth credentials
  | hlsManagerSet set => exact consistent.of_eq rfl rfl rfl
  | apiPathsGet name => simp only [PathManager.step]; split <;> exact consistent.emit _

/-- `newPathManager`: a path for each literal entry, whose names are distinct. -/
theorem newPathManager (pathConfs : PathConfs) :
    Consistent (PathManager.newPathManager pathConfs) := by
  have created : ∀ (entries : List (String × PathConf)) (pm : PathManager), Consistent pm →
      (entries.map Prod.fst).Nodup → (∀ entry ∈ entries, pm.paths entry.1 = none) →
      Consistent (entries.foldl (fun pm entry =>
        if entry.2.regexp = none then pm.createPath entry.1 entry.2 entry.1 [] else pm) pm) := by
    intro entries
    induction entries with
    | nil => exact fun _ consistent _ _ => consistent
    | cons entry entries ih =>
        intro pm consistent nodup absent
        obtain ⟨distinct, nodup⟩ := List.nodup_cons.mp nodup
        refine ih _ ?_ nodup fun other mem => ?_
        · dsimp only
          split_ifs
          · exact consistent.createPath (absent entry (.head _))
          · exact consistent
        · have named : other.1 ≠ entry.1 := fun same => distinct (same ▸ List.mem_map_of_mem _ mem)
          dsimp only
          split_ifs
          · simp only [PathManager.createPath, Function.update_noteq named]
            exact absent other (.tail _ mem)
          · exact absent other (.tail _ mem)
  exact created _ _ ⟨⟨by simp, by simp [pathsOf]⟩, by simp [pathsOf], by simp [pathsOf], by simp,
    by simp [pathsOf]⟩ pathConfs.nodup
    fun _ _ => rfl

end Consistent

variable (lib : PathManagerLib)

/-- Every reachable state of the path manager keeps its two maps in agreement. -/
theorem Run.consistent {pm : PathManager} (run : Run lib pm) : Consistent pm := by
  induction run with
  | start pathConfs => exact Consistent.newPathManager pathConfs
  | step event _ ih => exact ih.step lib event

/-- In every reachable state of the path manager, `paths` and `pathsByConf` agree both ways, each
set of `pathsByConf` holds a path once, no key of `pathsByConf` holds an empty set, and a late close
notification from a path that a newer path of the same name has replaced changes nothing. -/
theorem run_pathMaps_consistent {pm : PathManager} (run : Run lib pm) :
    (∀ name pa, pm.paths name = some pa → pa.name = name ∧ pa ∈ pm.pathsOf pa.confName) ∧
    (∀ confName pa, pa ∈ pm.pathsOf confName →
      pa.confName = confName ∧ pm.paths pa.name = some pa) ∧
    (∀ confName, (pm.pathsOf confName).Nodup) ∧
    (∀ confName paths, pm.pathsByConf confName = some paths → paths ≠ []) ∧
    (∀ pa newer, pm.paths pa.name = some newer → newer ≠ pa → pm.step lib (.pathClose pa) = pm) := by
  have consistent := run.consistent
  refine ⟨fun name pa found => ⟨consistent.name name pa found, consistent.covered name pa found⟩,
    consistent.member, consistent.nodup, consistent.nonempty, fun pa newer found newer_ne => ?_⟩
  simp only [PathManager.step, PathManager.handlePathClose, found, Option.some.injEq, newer_ne,
    if_false]

/-- A path `cam1` born from `~^cam.*$` closes itself, a reader recreates `cam1`, and the first
path's close notification arrives again: the new path stays registered. -/
theorem run_pathMaps_consistent_late_close :
    let lib : PathManagerLib := ⟨fun _ => none, fun _ name => some [name], fun _ _ _ _ => none⟩
    let camConf : PathConf :=
      { PathConf.ofSource .publisher false "" (fun _ => rfl) with regexp := some "^cam.*$" }
    let first : PathRef := ⟨0, "cam1", "~^cam.*$", camConf, ["cam1"]⟩
    let pm := (((newPathManager ⟨[("~^cam.*$", camConf)], by decide⟩).step lib
      (.describe "cam1" 0)).step lib (.pathClose first)).step lib (.describe "cam1" 0)
    pm.step lib (.pathClose first) = pm := by
  intro lib camConf first pm
  exact (run_pathMaps_consistent lib (((Run.start _).step _).step _ |>.step _)).2.2.2.2 first
    ⟨1, "cam1", "~^cam.*$", camConf, ["cam1"]⟩ rfl (by decide)

end PathManager
end RtspSimpleServer
