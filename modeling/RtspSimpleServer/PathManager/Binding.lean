import RtspSimpleServer.PathManager.Resolve

/-!
# Which configuration entry a path is bound to

In every reachable state the entry a path was created from still exists and still matches its
name, though it need not be the entry the name resolves to now.
-/

namespace RtspSimpleServer
namespace PathManager

variable (lib : PathManagerLib)

/-- The entry `pa` was created from still exists in `pathConfs` and still matches its name: it is
a literal entry of that name, or a `~` entry whose pattern matches it. -/
def EntryMatches (pathConfs : PathConfs) (pa : PathRef) : Prop :=
  ∃ pathConf, pathConfs.get pa.confName = some pathConf ∧
    (pa.confName = pa.name ∨
      ∃ re, pathConf.regexp = some re ∧ (lib.findStringSubmatch re pa.name).isSome)

/-- Every registered path is registered under its own name, and the entry it was created from
still exists and still matches that name. -/
def PathsBound (pm : PathManager) : Prop :=
  ∀ name pa, pm.paths name = some pa → pa.name = name ∧ EntryMatches lib pm.pathConfs pa

/-- The two path maps agree: a path is registered under its own name and is in the set of its
entry. -/
structure Registry (pm : PathManager) : Prop where
  name : ∀ name pa, pm.paths name = some pa → pa.name = name
  covered : ∀ name pa, pm.paths name = some pa → pa ∈ pm.pathsOf pa.confName

/-- `PathsBound`, with the agreement of the two maps that the reload relies on. -/
structure Bound (pm : PathManager) extends Registry pm : Prop where
  entry : ∀ name pa, pm.paths name = some pa → EntryMatches lib pm.pathConfs pa

/-- A change that keeps the configuration map and only drops paths. -/
structure Shrinks (pm next : PathManager) : Prop where
  pathConfs : next.pathConfs = pm.pathConfs
  paths : ∀ name pa, next.paths name = some pa → pm.paths name = some pa

theorem Shrinks.refl (pm : PathManager) : Shrinks pm pm := ⟨rfl, fun _ _ found => found⟩

theorem Shrinks.trans {pm mid next : PathManager} (first : Shrinks pm mid) (second : Shrinks mid next) :
    Shrinks pm next :=
  ⟨second.pathConfs.trans first.pathConfs, fun name pa found =>
    first.paths name pa (second.paths name pa found)⟩

/-- The paths of an old entry survive a reload: the entry is kept, unchanged or changed only in
fields `pathConfCanBeUpdated` accepts. -/
def Keeps (newPathConfs : PathConfs) : String × PathConf → Prop
  | (confName, pathConf) => ∃ newPathConf, newPathConfs.get confName = some newPathConf ∧
      (newPathConf = pathConf ∨ pathConfCanBeUpdated pathConf newPathConf = true)

/-! ## The two path maps -/

namespace Registry

variable {pm : PathManager}

theorem of_eq {next : PathManager} (reg : Registry pm) (paths : next.paths = pm.paths)
    (pathsByConf : next.pathsByConf = pm.pathsByConf) : Registry next :=
  ⟨by rw [paths]; exact reg.name, fun name pa found => by
    unfold pathsOf; rw [pathsByConf]; exact reg.covered name pa (paths ▸ found)⟩

theorem emit (reg : Registry pm) (output : PathManagerOutput) : Registry (pm.emit output) :=
  ⟨reg.name, reg.covered⟩

theorem removePath (reg : Registry pm) (pa : PathRef) : Registry (pm.removePath pa) where
  name name other found := by
    simp only [removePath_paths, Function.update_apply] at found
    split_ifs at found
    exact reg.name name other found
  covered name other found := by
    simp only [removePath_paths, Function.update_apply] at found
    rw [pathsOf_removePath]
    split_ifs at found with removed
    have other_name := reg.name name other found
    split_ifs with conf
    · refine (List.mem_erase_of_ne fun same => removed ?_).mpr (conf ▸ reg.covered name other found)
      rw [← other_name, same]
    · exact reg.covered name other found

theorem createPath (reg : Registry pm) (confName : String) (pathConf : PathConf) (name : String)
    (pathMatches : List String) : Registry (pm.createPath confName pathConf name pathMatches) where
  name other pa found := by
    simp only [createPath_paths, Function.update_apply] at found
    split_ifs at found with same
    · cases found; exact same.symm
    · exact reg.name other pa found
  covered other pa found := by
    simp only [createPath_paths, Function.update_apply] at found
    rw [pathsOf_createPath]
    split_ifs at found with same
    · cases found; simp
    · split_ifs with conf
      · exact List.mem_append_left _ (conf ▸ reg.covered other pa found)
      · exact reg.covered other pa found

theorem removePaths (reg : Registry pm) (paths : List PathRef) : Registry (pm.removePaths paths) := by
  induction paths generalizing pm with
  | nil => exact reg
  | cons pa paths ih => exact ih ((reg.removePath pa).emit _)

end Registry

theorem removePaths_paths {pm : PathManager} {paths : List PathRef} {name : String} {pa : PathRef}
    (found : (pm.removePaths paths).paths name = some pa) :
    pm.paths name = some pa ∧ ∀ removed ∈ paths, removed.name ≠ name := by
  induction paths generalizing pm with
  | nil => exact ⟨found, by simp⟩
  | cons removed paths ih =>
      obtain ⟨before, others⟩ := ih found
      simp only [PathManager.emit, removePath_paths, Function.update_apply] at before
      split_ifs at before with same
      exact ⟨before, by simpa [Ne.symm same] using others⟩

theorem shrinks_removePaths (pm : PathManager) (paths : List PathRef) :
    Shrinks pm (pm.removePaths paths) := by
  refine ⟨?_, fun _ _ found => (removePaths_paths found).1⟩
  induction paths generalizing pm with
  | nil => rfl
  | cons pa paths ih => exact ih _

theorem reloadPaths_eq (pm : PathManager) (paths : List PathRef) (newPathConf : PathConf) :
    (pm.reloadPaths paths newPathConf).pathConfs = pm.pathConfs ∧
      (pm.reloadPaths paths newPathConf).paths = pm.paths ∧
      (pm.reloadPaths paths newPathConf).pathsByConf = pm.pathsByConf := by
  induction paths generalizing pm with
  | nil => exact ⟨rfl, rfl, rfl⟩
  | cons pa paths ih => exact ih _

/-! ## A reload -/

section reload

variable (newPathConfs : PathConfs)

/-- One old entry: the maps still agree, paths are only dropped, and an entry that is not kept
loses all its paths. -/
theorem reloadEntry_spec {pm : PathManager} (reg : Registry pm) (entry : String × PathConf) :
    Registry (pm.reloadEntry newPathConfs entry) ∧ Shrinks pm (pm.reloadEntry newPathConfs entry) ∧
      (¬Keeps newPathConfs entry → ∀ name pa,
        (pm.reloadEntry newPathConfs entry).paths name = some pa → pa.confName ≠ entry.1) := by
  obtain ⟨confName, pathConf⟩ := entry
  have dropped : ∀ name pa, (pm.removePaths (pm.pathsOf confName)).paths name = some pa →
      pa.confName ≠ confName := by
    intro name pa found conf
    obtain ⟨before, others⟩ := removePaths_paths found
    exact others pa (conf ▸ reg.covered name pa before) (reg.name name pa before)
  have kept := reloadPaths_eq pm (pm.pathsOf confName)
  simp only [reloadEntry]
  split
  · rename_i newPathConf newer
    split_ifs with same update
    · exact ⟨reg, .refl pm, fun notKept => absurd ⟨newPathConf, newer, .inl same⟩ notKept⟩
    · refine ⟨?_, ?_, fun notKept => absurd ⟨newPathConf, newer, .inr update⟩ notKept⟩
      · exact reg.of_eq (kept newPathConf).2.1 (kept newPathConf).2.2
      · exact ⟨(kept newPathConf).1, fun name pa found => by rwa [(kept newPathConf).2.1] at found⟩
    · exact ⟨reg.removePaths _, shrinks_removePaths _ _, fun _ => dropped⟩
  · exact ⟨reg.removePaths _, shrinks_removePaths _ _, fun _ => dropped⟩

/-- The first loop of the `chConfReload` case, over the old entries. -/
theorem foldl_reloadEntry_spec (entries : List (String × PathConf)) {pm : PathManager}
    (reg : Registry pm) :
    Registry (entries.foldl (reloadEntry newPathConfs) pm) ∧
      Shrinks pm (entries.foldl (reloadEntry newPathConfs) pm) ∧
      ∀ entry ∈ entries, ¬Keeps newPathConfs entry → ∀ name pa,
        (entries.foldl (reloadEntry newPathConfs) pm).paths name = some pa → pa.confName ≠ entry.1 := by
  induction entries generalizing pm with
  | nil => exact ⟨reg, .refl pm, by simp⟩
  | cons entry entries ih =>
      obtain ⟨reg₁, shrinks₁, dropped₁⟩ := reloadEntry_spec newPathConfs reg entry
      obtain ⟨reg₂, shrinks₂, dropped₂⟩ := ih reg₁
      refine ⟨reg₂, shrinks₁.trans shrinks₂, fun other mem notKept name pa found => ?_⟩
      rcases List.mem_cons.mp mem with same | later
      · subst same
        exact dropped₁ notKept name pa (shrinks₂.paths name pa found)
      · exact dropped₂ other later notKept name pa found

end reload

/-! ## The invariant -/

namespace Bound

variable {lib} {pm : PathManager}

theorem emit (bound : Bound lib pm) (output : PathManagerOutput) : Bound lib (pm.emit output) :=
  { bound.toRegistry.emit output with entry := bound.entry }

theorem removePath (bound : Bound lib pm) (pa : PathRef) : Bound lib (pm.removePath pa) where
  toRegistry := bound.toRegistry.removePath pa
  entry name other found := by
    simp only [removePath_paths, Function.update_apply] at found
    split_ifs at found
    exact bound.entry name other found

theorem createPath (bound : Bound lib pm) {confName : String} {pathConf : PathConf} {name : String}
    {pathMatches : List String}
    (entry : EntryMatches lib pm.pathConfs ⟨pm.nextPath, name, confName, pathConf, pathMatches⟩) :
    Bound lib (pm.createPath confName pathConf name pathMatches) where
  toRegistry := bound.toRegistry.createPath confName pathConf name pathMatches
  entry other pa found := by
    simp only [createPath_paths, Function.update_apply] at found
    split_ifs at found
    · cases found; exact entry
    · exact bound.entry other pa found

theorem addPath (bound : Bound lib pm) {entry : String × PathConf}
    (mem : entry ∈ pm.pathConfs.entries) : Bound lib (pm.addPath entry) := by
  obtain ⟨pathConfName, pathConf⟩ := entry
  simp only [PathManager.addPath]
  split_ifs
  · exact bound.createPath ⟨pathConf, PathConfs.get_eq_some_iff.mpr mem, .inl rfl⟩
  · exact bound

theorem foldl_addPath (bound : Bound lib pm) (entries : List (String × PathConf))
    (sub : ∀ entry ∈ entries, entry ∈ pm.pathConfs.entries) :
    Bound lib (entries.foldl PathManager.addPath pm) := by
  induction entries generalizing pm with
  | nil => exact bound
  | cons entry entries ih =>
      refine ih (bound.addPath (sub entry (by simp))) fun other mem => ?_
      have same : (pm.addPath entry).pathConfs = pm.pathConfs := by
        simp only [PathManager.addPath]; split_ifs <;> rfl
      exact same ▸ sub other (.tail _ mem)

/-- The `chConfReload` case: the paths left are those of kept entries, whose `Regexp` the update
did not change, and the paths created are those of new literal entries. -/
theorem handleConfReload (bound : Bound lib pm) (newPathConfs : PathConfs) :
    Bound lib (pm.handleConfReload newPathConfs) := by
  obtain ⟨reg, shrinks, dropped⟩ :=
    foldl_reloadEntry_spec newPathConfs pm.pathConfs.entries bound.toRegistry
  have swapped : Bound lib
      { pm.pathConfs.entries.foldl (reloadEntry newPathConfs) pm with pathConfs := newPathConfs } := by
    refine ⟨⟨reg.name, reg.covered⟩, fun name pa found => ?_⟩
    obtain ⟨oldConf, oldGet, named⟩ := bound.entry name pa (shrinks.paths name pa found)
    by_cases kept : Keeps newPathConfs (pa.confName, oldConf)
    · obtain ⟨newConf, newGet, same⟩ := kept
      have regexp : newConf.regexp = oldConf.regexp := by
        rcases same with same | update
        · rw [same]
        · exact (sameOutsideCamera_of_canBeUpdated update).regexp
      exact ⟨newConf, newGet, by rwa [regexp]⟩
    · exact absurd rfl (dropped _ (PathConfs.get_eq_some_iff.mp oldGet) kept name pa found)
  exact swapped.foldl_addPath newPathConfs.entries fun _ mem => mem

theorem handlePathClose (bound : Bound lib pm) (pa : PathRef) : Bound lib (pm.handlePathClose pa) := by
  unfold PathManager.handlePathClose
  split_ifs
  · exact bound.removePath pa
  · exact bound

theorem handlePathRequest (bound : Bound lib pm) (pathName : String) (publish skipAuth : Bool)
    (credentials : Nat) : Bound lib (pm.handlePathRequest lib pathName publish skipAuth credentials) := by
  simp only [PathManager.handlePathRequest]
  split
  · exact bound.emit _
  · rename_i confName pathConf pathMatches resolved
    obtain ⟨get, named⟩ := getPathConfInternal_ok lib resolved
    split
    · exact bound.emit _
    · split_ifs
      · exact bound.emit _
      · refine (bound.createPath ⟨pathConf, get, ?_⟩).emit _
        rcases named with same | ⟨re, re_, found⟩
        · exact .inl same
        · exact .inr ⟨re, re_, found⟩

theorem handleGetPathConf (bound : Bound lib pm) (name : String) (publish : Bool) (credentials : Nat) :
    Bound lib (pm.handleGetPathConf lib name publish credentials) := by
  simp only [PathManager.handleGetPathConf]
  split
  · exact bound.emit _
  · split <;> exact bound.emit _

/-- One select case keeps the invariant. -/
theorem step (bound : Bound lib pm) (event : PathManagerEvent) : Bound lib (pm.step lib event) := by
  cases event with
  | confReload newPathConfs => exact bound.handleConfReload newPathConfs
  | pathClose pa => exact bound.handlePathClose pa
  | pathSourceReady pa => simp only [PathManager.step]; split_ifs <;> first | exact bound | exact bound.emit _
  | pathSourceNotReady pa =>
      simp only [PathManager.step]; split_ifs <;> first | exact bound | exact bound.emit _
  | getPathConf name publish credentials => exact bound.handleGetPathConf name publish credentials
  | describe pathName credentials => exact bound.handlePathRequest pathName false false credentials
  | readerAdd pathName skipAuth credentials =>
      exact bound.handlePathRequest pathName false skipAuth credentials
  | publisherAdd pathName skipAuth credentials =>
      exact bound.handlePathRequest pathName true skipAuth credentials
  | hlsManagerSet set => exact ⟨⟨bound.name, bound.covered⟩, bound.entry⟩
  | apiPathsGet name => simp only [PathManager.step]; split <;> exact bound.emit _

theorem newPathManager (pathConfs : PathConfs) : Bound lib (PathManager.newPathManager pathConfs) := by
  have empty : Bound lib ⟨pathConfs, fun _ => none, fun _ => none, false, 0, []⟩ :=
    ⟨⟨by simp, by simp⟩, by simp⟩
  have step : ∀ (entries : List (String × PathConf)) (pm : PathManager),
      Bound lib pm → pm.pathConfs = pathConfs → (∀ entry ∈ entries, entry ∈ pathConfs.entries) →
      Bound lib (entries.foldl (fun pm entry =>
        if entry.2.regexp = none then pm.createPath entry.1 entry.2 entry.1 [] else pm) pm) := by
    intro entries
    induction entries with
    | nil => exact fun _ bound _ _ => bound
    | cons entry entries ih =>
        intro pm bound confs sub
        refine ih _ ?_ (by dsimp only; split_ifs <;> exact confs) fun other mem => sub other (.tail _ mem)
        dsimp only
        split_ifs
        · exact bound.createPath ⟨entry.2, confs ▸ PathConfs.get_eq_some_iff.mpr (sub entry (by simp)),
            .inl rfl⟩
        · exact bound
  exact step _ _ empty rfl fun _ mem => mem

end Bound

/-- Every reachable state of the path manager is bound. -/
theorem Run.bound {pm : PathManager} (run : Run lib pm) : Bound lib pm := by
  induction run with
  | start pathConfs => exact Bound.newPathManager pathConfs
  | step event _ ih => exact ih.step event

/-- In every reachable state of the path manager, every registered path is registered under its
name, and the configuration entry it was created from still exists and still matches that name. -/
theorem run_pathsBound {pm : PathManager} (run : Run lib pm) : PathsBound lib pm := fun name pa found =>
  have bound := run.bound
  ⟨bound.name name pa found, bound.entry name pa found⟩


/-- A reader creates `cam1` from the entry `~^cam.*$`, then a reload adds a literal entry `cam1`. -/
theorem run_pathsBound_literal_added :
    PathsBound ⟨fun _ => none, fun _ name => some [name], fun _ _ _ _ => none⟩
      (((newPathManager ⟨[("~^cam.*$", { PathConf.ofSource .publisher false "" (fun _ => rfl) with
          regexp := some "^cam.*$" })], by decide⟩).step
        ⟨fun _ => none, fun _ name => some [name], fun _ _ _ _ => none⟩ (.readerAdd "cam1" false 0)).step
        ⟨fun _ => none, fun _ name => some [name], fun _ _ _ _ => none⟩
        (.confReload ⟨[("~^cam.*$", { PathConf.ofSource .publisher false "" (fun _ => rfl) with
          regexp := some "^cam.*$" }), ("cam1", PathConf.ofSource .publisher false "" fun _ => rfl)],
          by decide⟩)) :=
  run_pathsBound _ (((Run.start _).step _).step _)

/-- Under a regular-expression engine in which every pattern matches every name (as Go's
`regexp` does for `^cam.*$` on `cam1`): a path `cam1` born from the entry `~^cam.*$` survives a
reload that adds a literal entry `cam1`, and stays bound to `~^cam.*$` while `cam1` now resolves
to the literal entry. -/
theorem path_kept_after_literal_entry :
    ∃ (pm : PathManager) (pa : PathRef),
      Run ⟨fun _ => none, fun _ name => some [name], fun _ _ _ _ => none⟩ pm ∧
      pm.paths "cam1" = some pa ∧ pa.confName = "~^cam.*$" ∧
      (getPathConfInternal ⟨fun _ => none, fun _ name => some [name], fun _ _ _ _ => none⟩
        pm.pathConfs "cam1").map Prod.fst = .ok "cam1" :=
  ⟨_, _, ((Run.start ⟨[("~^cam.*$", { PathConf.ofSource .publisher false "" (fun _ => rfl) with
      regexp := some "^cam.*$" })], by decide⟩).step (.describe "cam1" 0)).step
      (.confReload ⟨[("~^cam.*$", { PathConf.ofSource .publisher false "" (fun _ => rfl) with
        regexp := some "^cam.*$" }), ("cam1", PathConf.ofSource .publisher false "" fun _ => rfl)],
        by decide⟩), rfl, rfl, rfl⟩

end PathManager
end RtspSimpleServer
