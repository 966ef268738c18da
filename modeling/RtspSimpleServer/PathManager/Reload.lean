import RtspSimpleServer.PathManager.Binding
import RtspSimpleServer.Path.Reload

/-!
# The configurations a reload hands to the paths

In every reachable state the entry of a registered path is the last configuration handed to it by
`go pa.reloadConf(newPathConf)`, or the one it was created with.  Nothing fixes the order the
goroutines run in, so after two quick reloads a path can end with the older configuration.
-/

namespace RtspSimpleServer
namespace PathManager

/-- The configuration an output hands `pa`, if it is a `go pa.reloadConf(newPathConf)`. -/
def deliveryTo (pa : PathRef) : PathManagerOutput → Option PathConf
  | .reloadConf target newPathConf => if target = pa then some newPathConf else none
  | _ => none

/-- The configurations handed to `pa`, in the order the goroutines were spawned. -/
def deliveries (pa : PathRef) (out : List PathManagerOutput) : List PathConf :=
  out.filterMap (deliveryTo pa)

section deliveries

variable {pa : PathRef}

@[simp] theorem deliveries_append (out more : List PathManagerOutput) :
    deliveries pa (out ++ more) = deliveries pa out ++ deliveries pa more :=
  List.filterMap_append _ _ _

@[simp] theorem deliveries_emit (pm : PathManager) (output : PathManagerOutput) :
    deliveries pa (pm.emit output).out = deliveries pa pm.out ++ (deliveryTo pa output).toList := by
  cases delivered : deliveryTo pa output <;>
    simp [PathManager.emit, deliveries, List.filterMap_cons, delivered]

theorem deliveries_reloadPaths (pm : PathManager) (paths : List PathRef) (newPathConf : PathConf) :
    deliveries pa (pm.reloadPaths paths newPathConf).out =
      deliveries pa pm.out ++ (paths.filter (· = pa)).map fun _ => newPathConf := by
  induction paths generalizing pm with
  | nil => simp [PathManager.reloadPaths]
  | cons target paths ih =>
      have step := ih (pm.emit (.reloadConf target newPathConf))
      simp only [PathManager.reloadPaths, List.foldl_cons] at step ⊢
      rw [step]
      by_cases same : target = pa <;> simp [deliveryTo, same]

@[simp] theorem removePath_out (pm : PathManager) (removed : PathRef) :
    (pm.removePath removed).out = pm.out := rfl

theorem deliveries_removePaths (pm : PathManager) (paths : List PathRef) :
    deliveries pa (pm.removePaths paths).out = deliveries pa pm.out := by
  induction paths generalizing pm with
  | nil => rfl
  | cons removed paths ih =>
      rw [PathManager.removePaths, List.foldl_cons, ← PathManager.removePaths, ih]
      simp [deliveryTo]

/-- A list that ends with copies of one configuration ends with it. -/
theorem getLast?_append_map_const {before : List PathConf} {copies : List PathRef}
    (nonempty : copies ≠ []) (newPathConf : PathConf) :
    (before ++ copies.map fun _ => newPathConf).getLast? = some newPathConf := by
  simp [List.getLast?_append, List.getLast?_replicate, List.length_eq_zero, nonempty]

end deliveries

/-! ## One old entry of a reload -/

section reloadEntry

variable (newPathConfs : PathConfs)

/-- The configuration the first loop of `chConfReload` hands the paths of an old entry: the new
one, when it differs from the old one only in fields `pathConfCanBeUpdated` accepts. -/
def updatedConf : String × PathConf → Option PathConf
  | (confName, pathConf) =>
      match newPathConfs.get confName with
      | some newPathConf =>
          if newPathConf = pathConf then none
          else if pathConfCanBeUpdated pathConf newPathConf then some newPathConf else none
      | none => none

/-- What one old entry adds to the configurations handed to a path: the updated configuration,
once for each time the path is in the entry's set. -/
theorem deliveries_reloadEntry (pm : PathManager) (entry : String × PathConf) (pa : PathRef) :
    deliveries pa (pm.reloadEntry newPathConfs entry).out =
      deliveries pa pm.out ++
        match updatedConf newPathConfs entry with
        | some newPathConf => ((pm.pathsOf entry.1).filter (· = pa)).map fun _ => newPathConf
        | none => [] := by
  obtain ⟨confName, pathConf⟩ := entry
  simp only [reloadEntry, updatedConf]
  cases newPathConfs.get confName with
  | none => simp [deliveries_removePaths]
  | some newPathConf =>
      dsimp only
      split_ifs <;> simp [deliveries_reloadPaths, deliveries_removePaths]

theorem reloadEntry_pathsOf {pm : PathManager} {entry : String × PathConf} {confName : String}
    {pa : PathRef} (mem : pa ∈ (pm.reloadEntry newPathConfs entry).pathsOf confName) :
    pa ∈ pm.pathsOf confName := by
  have removePaths_sub : ∀ (paths : List PathRef) (pm : PathManager),
      (pm.removePaths paths).pathsOf confName ⊆ pm.pathsOf confName := by
    intro paths
    induction paths with
    | nil => exact fun _ => List.Subset.refl _
    | cons removed paths ih => exact fun pm => (ih _).trans (pathsOf_removePath_subset pm removed _)
  obtain ⟨entryName, pathConf⟩ := entry
  simp only [reloadEntry] at mem
  split at mem
  · split_ifs at mem
    · exact mem
    · rw [pathsOf, (reloadPaths_eq pm _ _).2.2] at mem; exact mem
    · exact removePaths_sub _ pm mem
  · exact removePaths_sub _ pm mem

theorem reloadEntry_nextPath (pm : PathManager) (entry : String × PathConf) :
    (pm.reloadEntry newPathConfs entry).nextPath = pm.nextPath := by
  have removePaths_nextPath : ∀ (paths : List PathRef) (pm : PathManager),
      (pm.removePaths paths).nextPath = pm.nextPath := by
    intro paths
    induction paths with
    | nil => exact fun _ => rfl
    | cons removed paths ih => exact fun pm => ih _
  have reloadPaths_nextPath : ∀ (paths : List PathRef) (newPathConf : PathConf) (pm : PathManager),
      (pm.reloadPaths paths newPathConf).nextPath = pm.nextPath := by
    intro paths newPathConf
    induction paths with
    | nil => exact fun _ => rfl
    | cons target paths ih => exact fun pm => ih _
  obtain ⟨entryName, pathConf⟩ := entry
  simp only [reloadEntry]
  split
  · split_ifs
    · rfl
    · exact reloadPaths_nextPath _ _ pm
    · exact removePaths_nextPath _ pm
  · exact removePaths_nextPath _ pm

end reloadEntry

/-! ## The invariant -/

/-- Every path of the map by configuration is filed under its own entry, and every identity the
loop has filed or handed a configuration to is below `nextPath`. -/
structure Fresh (pm : PathManager) : Prop where
  sorted : ∀ confName pa, pa ∈ pm.pathsOf confName → pa.confName = confName
  member_lt : ∀ confName pa, pa ∈ pm.pathsOf confName → pa.id < pm.nextPath
  delivered_lt : ∀ pa, deliveries pa pm.out ≠ [] → pa.id < pm.nextPath

/-- The entry of every registered path is the last configuration handed to it, or the one the
path was created with. -/
structure Delivered (pm : PathManager) extends Fresh pm : Prop where
  last : ∀ name pa, pm.paths name = some pa →
    pm.pathConfs.get pa.confName = some ((deliveries pa pm.out).getLastD pa.conf)

namespace Fresh

variable {pm : PathManager}

theorem emit (fresh : Fresh pm) {output : PathManagerOutput}
    (quiet : ∀ pa, deliveryTo pa output = none) : Fresh (pm.emit output) :=
  ⟨fresh.sorted, fresh.member_lt, fun pa delivered =>
    fresh.delivered_lt pa (by simpa [quiet] using delivered)⟩

theorem removePath (fresh : Fresh pm) (removed : PathRef) : Fresh (pm.removePath removed) := by
  have sub := pathsOf_removePath_subset pm removed
  exact ⟨fun confName pa mem => fresh.sorted confName pa (sub confName mem),
    fun confName pa mem => fresh.member_lt confName pa (sub confName mem), fresh.delivered_lt⟩

theorem removePaths (fresh : Fresh pm) (paths : List PathRef) : Fresh (pm.removePaths paths) := by
  induction paths generalizing pm with
  | nil => exact fresh
  | cons removed paths ih => exact ih ((fresh.removePath removed).emit fun _ => rfl)

theorem createPath (fresh : Fresh pm) (pathConfName : String) (pathConf : PathConf) (name : String)
    (pathMatches : List String) : Fresh (pm.createPath pathConfName pathConf name pathMatches) := by
  have member : ∀ confName pa,
      pa ∈ (pm.createPath pathConfName pathConf name pathMatches).pathsOf confName →
        pa ∈ pm.pathsOf confName ∨ (pa.confName = confName ∧ pa.id = pm.nextPath) := by
    intro confName pa mem
    rw [pathsOf_createPath] at mem
    split_ifs at mem with same
    · subst same
      rcases List.mem_append.mp mem with old | new
      · exact .inl old
      · exact .inr (by simp [List.mem_singleton.mp new])
    · exact .inl mem
  refine ⟨fun confName pa mem => ?_, fun confName pa mem => ?_, fun pa delivered =>
    (fresh.delivered_lt pa delivered).trans (Nat.lt_succ_self _)⟩
  · rcases member confName pa mem with old | ⟨conf, _⟩
    · exact fresh.sorted confName pa old
    · exact conf
  · rcases member confName pa mem with old | ⟨_, id⟩
    · exact (fresh.member_lt confName pa old).trans (Nat.lt_succ_self _)
    · simp [PathManager.createPath, id]

theorem reloadEntry (fresh : Fresh pm) (newPathConfs : PathConfs) (entry : String × PathConf) :
    Fresh (pm.reloadEntry newPathConfs entry) := by
  refine ⟨fun confName pa mem => fresh.sorted confName pa (reloadEntry_pathsOf _ mem),
    fun confName pa mem => ?_, fun pa delivered => ?_⟩
  · rw [reloadEntry_nextPath]
    exact fresh.member_lt confName pa (reloadEntry_pathsOf _ mem)
  · rw [reloadEntry_nextPath]
    rw [deliveries_reloadEntry] at delivered
    by_cases before : deliveries pa pm.out = []
    · rw [before, List.nil_append] at delivered
      split at delivered
      · obtain ⟨copy, mem⟩ := List.exists_mem_of_ne_nil _ delivered
        obtain ⟨member, inFilter, _⟩ := List.mem_map.mp mem
        obtain ⟨inEntry, same⟩ := List.mem_filter.mp inFilter
        have same : member = pa := by simpa using same
        exact fresh.member_lt _ pa (same ▸ inEntry)
      · exact absurd rfl delivered
    · exact fresh.delivered_lt pa before

theorem foldl_reloadEntry (fresh : Fresh pm) (newPathConfs : PathConfs)
    (entries : List (String × PathConf)) :
    Fresh (entries.foldl (PathManager.reloadEntry newPathConfs) pm) := by
  induction entries generalizing pm with
  | nil => exact fresh
  | cons entry entries ih => exact ih (fresh.reloadEntry newPathConfs entry)

end Fresh

/-! ## The first loop of a reload -/

section reload

variable (newPathConfs : PathConfs)

/-- A registered path of another entry is handed nothing. -/
theorem deliveries_reloadEntry_of_ne {pm : PathManager} (fresh : Fresh pm)
    {entry : String × PathConf} {pa : PathRef} (other : pa.confName ≠ entry.1) :
    deliveries pa (pm.reloadEntry newPathConfs entry).out = deliveries pa pm.out := by
  rw [deliveries_reloadEntry]
  have absent : (pm.pathsOf entry.1).filter (· = pa) = [] :=
    List.filter_eq_nil_iff.mpr fun member mem same =>
      other (by simpa using fresh.sorted _ member mem ▸ (of_decide_eq_true same).symm ▸ rfl)
  split <;> simp [absent]

/-- A path of the entry that survives was kept: with the same configuration, handed nothing, or
with an updated one, which is the last handed to it. -/
theorem deliveries_reloadEntry_self {pm : PathManager} (reg : Registry pm)
    {confName : String} {pathConf : PathConf} {name : String} {pa : PathRef}
    (found : (pm.reloadEntry newPathConfs (confName, pathConf)).paths name = some pa)
    (entry : pa.confName = confName) :
    ∃ newPathConf, newPathConfs.get confName = some newPathConf ∧
      ((newPathConf = pathConf ∧
          deliveries pa (pm.reloadEntry newPathConfs (confName, pathConf)).out =
            deliveries pa pm.out) ∨
        (deliveries pa (pm.reloadEntry newPathConfs (confName, pathConf)).out).getLast? =
          some newPathConf) := by
  obtain ⟨_, shrinks, dropped⟩ := reloadEntry_spec newPathConfs reg (confName, pathConf)
  have kept : Keeps newPathConfs (confName, pathConf) := by
    by_contra notKept
    exact dropped notKept name pa found entry
  obtain ⟨newPathConf, get, same⟩ := kept
  refine ⟨newPathConf, get, ?_⟩
  rw [deliveries_reloadEntry]
  by_cases unchanged : newPathConf = pathConf
  · left
    simp [updatedConf, get, unchanged]
  · right
    have update : pathConfCanBeUpdated pathConf newPathConf = true := same.resolve_left unchanged
    have before := shrinks.paths name pa found
    have member : pa ∈ pm.pathsOf confName := entry ▸ reg.covered name pa before
    simp only [updatedConf, get, unchanged, update, if_false, if_true]
    exact getLast?_append_map_const (List.ne_nil_of_mem (List.mem_filter.mpr ⟨member, by simp⟩)) _

/-- The first loop of the `chConfReload` case, over old entries with distinct names: a path that
survives it is handed nothing unless its entry is among them, and then its entry's new value is
the configuration it had or the last handed to it. -/
theorem foldl_reloadEntry_deliveries (entries : List (String × PathConf))
    (nodup : (entries.map Prod.fst).Nodup) {pm : PathManager} (reg : Registry pm)
    (fresh : Fresh pm) {name : String} {pa : PathRef}
    (found : (entries.foldl (reloadEntry newPathConfs) pm).paths name = some pa) :
    (pa.confName ∉ entries.map Prod.fst →
      deliveries pa (entries.foldl (reloadEntry newPathConfs) pm).out = deliveries pa pm.out) ∧
    ∀ pathConf, (pa.confName, pathConf) ∈ entries → ∃ newPathConf,
      newPathConfs.get pa.confName = some newPathConf ∧
        ((newPathConf = pathConf ∧
            deliveries pa (entries.foldl (reloadEntry newPathConfs) pm).out =
              deliveries pa pm.out) ∨
          (deliveries pa (entries.foldl (reloadEntry newPathConfs) pm).out).getLast? =
            some newPathConf) := by
  induction entries generalizing pm with
  | nil => simp
  | cons entry entries ih =>
      obtain ⟨confName, pathConf⟩ := entry
      simp only [List.map_cons, List.nodup_cons] at nodup
      simp only [List.foldl_cons] at found ⊢
      obtain ⟨reg₁, _, _⟩ := reloadEntry_spec newPathConfs reg (confName, pathConf)
      obtain ⟨untouched, updated⟩ := ih nodup.2 reg₁ (fresh.reloadEntry newPathConfs _) found
      by_cases entry : pa.confName = confName
      · have later := untouched (entry ▸ nodup.1)
        have survived : (pm.reloadEntry newPathConfs (confName, pathConf)).paths name = some pa :=
          (foldl_reloadEntry_spec newPathConfs entries reg₁).2.1.paths name pa found
        refine ⟨fun absent => absurd (by simp [entry]) absent, fun other mem => ?_⟩
        have head : other = pathConf := by
          rcases List.mem_cons.mp mem with same | tail
          · exact (Prod.mk.inj same).2
          · exact absurd (entry ▸ List.mem_map_of_mem Prod.fst tail) nodup.1
        subst head
        rw [later, entry]
        exact deliveries_reloadEntry_self newPathConfs reg survived entry
      · have first : deliveries pa (pm.reloadEntry newPathConfs (confName, pathConf)).out =
            deliveries pa pm.out := deliveries_reloadEntry_of_ne newPathConfs fresh entry
        refine ⟨fun absent => ?_, fun other mem => ?_⟩
        · rw [untouched fun inLater => absent (by simp [inLater]), first]
        · have inLater : (pa.confName, other) ∈ entries := by
            rcases List.mem_cons.mp mem with same | tail
            · exact absurd (Prod.mk.inj same).1 entry
            · exact tail
          rw [← first]
          exact updated other inLater

end reload

namespace Delivered

variable {lib : PathManagerLib} {pm : PathManager}

theorem emit (del : Delivered pm) {output : PathManagerOutput}
    (quiet : ∀ pa, deliveryTo pa output = none) : Delivered (pm.emit output) :=
  ⟨del.toFresh.emit quiet, fun name pa found => by simpa [quiet] using del.last name pa found⟩

theorem removePath (del : Delivered pm) (removed : PathRef) : Delivered (pm.removePath removed) := by
  refine ⟨del.toFresh.removePath removed, fun name pa found => ?_⟩
  simp only [PathManager.removePath, Function.update_apply] at found
  split_ifs at found
  exact del.last name pa found

theorem createPath (del : Delivered pm) {pathConfName : String} {pathConf : PathConf}
    (get : pm.pathConfs.get pathConfName = some pathConf) (name : String)
    (pathMatches : List String) : Delivered (pm.createPath pathConfName pathConf name pathMatches) := by
  refine ⟨del.toFresh.createPath pathConfName pathConf name pathMatches, fun other pa found => ?_⟩
  simp only [PathManager.createPath, Function.update_apply] at found
  split_ifs at found
  · cases found
    have none : deliveries ⟨pm.nextPath, name, pathConfName, pathConf, pathMatches⟩ pm.out = [] := by
      by_contra delivered
      exact Nat.lt_irrefl _ (del.delivered_lt _ delivered)
    simpa [PathManager.createPath, none] using get
  · exact del.last other pa found

theorem addPath (del : Delivered pm) {entry : String × PathConf}
    (mem : entry ∈ pm.pathConfs.entries) : Delivered (pm.addPath entry) := by
  obtain ⟨pathConfName, pathConf⟩ := entry
  simp only [PathManager.addPath]
  split_ifs
  · exact del.createPath (PathConfs.get_eq_some_iff.mpr mem) _ _
  · exact del

theorem foldl_addPath (del : Delivered pm) (entries : List (String × PathConf))
    (sub : ∀ entry ∈ entries, entry ∈ pm.pathConfs.entries) :
    Delivered (entries.foldl PathManager.addPath pm) := by
  induction entries generalizing pm with
  | nil => exact del
  | cons entry entries ih =>
      refine ih (del.addPath (sub entry (by simp))) fun other mem => ?_
      have same : (pm.addPath entry).pathConfs = pm.pathConfs := by
        simp only [PathManager.addPath]; split_ifs <;> rfl
      exact same ▸ sub other (.tail _ mem)

/-- The `chConfReload` case: a kept path of an updated entry was handed the entry's new value
last, a kept path of an unchanged entry was handed nothing, and a new path was handed nothing. -/
theorem handleConfReload (reg : Registry pm) (del : Delivered pm) (newPathConfs : PathConfs) :
    Delivered (pm.handleConfReload newPathConfs) := by
  obtain ⟨_, shrinks, _⟩ := foldl_reloadEntry_spec newPathConfs pm.pathConfs.entries reg
  have fresh := del.toFresh.foldl_reloadEntry newPathConfs pm.pathConfs.entries
  have swapped : Delivered
      { pm.pathConfs.entries.foldl (reloadEntry newPathConfs) pm with pathConfs := newPathConfs } := by
    refine ⟨⟨fresh.sorted, fresh.member_lt, fresh.delivered_lt⟩, fun name pa found => ?_⟩
    obtain ⟨_, updated⟩ := foldl_reloadEntry_deliveries newPathConfs pm.pathConfs.entries
      pm.pathConfs.nodup reg del.toFresh found
    have old := del.last name pa (shrinks.paths name pa found)
    obtain ⟨newPathConf, get, kept⟩ := updated _ (PathConfs.get_eq_some_iff.mp old)
    rcases kept with ⟨same, unchanged⟩ | last
    · simp only at unchanged ⊢
      rw [get, same, unchanged]
    · simp only at last ⊢
      rw [get, List.getLastD_eq_getLast?, last]
      rfl
  exact swapped.foldl_addPath newPathConfs.entries fun _ mem => mem

theorem handlePathRequest (del : Delivered pm) (pathName : String) (publish skipAuth : Bool)
    (credentials : Nat) : Delivered (pm.handlePathRequest lib pathName publish skipAuth credentials) := by
  simp only [PathManager.handlePathRequest]
  split
  · exact del.emit fun _ => rfl
  · rename_i confName pathConf pathMatches resolved
    split
    · exact del.emit fun _ => rfl
    · split_ifs
      · exact del.emit fun _ => rfl
      · exact (del.createPath (getPathConfInternal_ok lib resolved).1 _ _).emit fun _ => rfl

/-- One select case keeps the invariant. -/
theorem step (reg : Registry pm) (del : Delivered pm) (event : PathManagerEvent) :
    Delivered (pm.step lib event) := by
  cases event with
  | confReload newPathConfs => exact del.handleConfReload reg newPathConfs
  | pathClose pa =>
      simp only [PathManager.step, PathManager.handlePathClose]
      split_ifs
      · exact del.removePath pa
      · exact del
  | pathSourceReady pa =>
      simp only [PathManager.step]; split_ifs
      · exact del.emit fun _ => rfl
      · exact del
  | pathSourceNotReady pa =>
      simp only [PathManager.step]; split_ifs
      · exact del.emit fun _ => rfl
      · exact del
  | getPathConf name publish credentials =>
      simp only [PathManager.step, PathManager.handleGetPathConf]
      split
      · exact del.emit fun _ => rfl
      · split <;> exact del.emit fun _ => rfl
  | describe pathName credentials => exact del.handlePathRequest pathName false false credentials
  | readerAdd pathName skipAuth credentials =>
      exact del.handlePathRequest pathName false skipAuth credentials
  | publisherAdd pathName skipAuth credentials =>
      exact del.handlePathRequest pathName true skipAuth credentials
  | hlsManagerSet set => exact ⟨⟨del.sorted, del.member_lt, del.delivered_lt⟩, del.last⟩
  | apiPathsGet name =>
      simp only [PathManager.step]
      split <;> exact del.emit fun _ => rfl

theorem newPathManager (pathConfs : PathConfs) : Delivered (PathManager.newPathManager pathConfs) := by
  have empty : Delivered ⟨pathConfs, fun _ => none, fun _ => none, false, 0, []⟩ :=
    ⟨⟨by simp [pathsOf], by simp [pathsOf], by simp [deliveries]⟩, by simp⟩
  have step : ∀ (entries : List (String × PathConf)) (pm : PathManager),
      Delivered pm → pm.pathConfs = pathConfs → (∀ entry ∈ entries, entry ∈ pathConfs.entries) →
      Delivered (entries.foldl (fun pm entry =>
        if entry.2.regexp = none then pm.createPath entry.1 entry.2 entry.1 [] else pm) pm) := by
    intro entries
    induction entries with
    | nil => exact fun _ del _ _ => del
    | cons entry entries ih =>
        intro pm del confs sub
        refine ih _ ?_ (by dsimp only; split_ifs <;> exact confs) fun other mem => sub other (.tail _ mem)
        dsimp only
        split_ifs
        · exact del.createPath (confs ▸ PathConfs.get_eq_some_iff.mpr (sub entry (by simp))) _ _
        · exact del
  exact step _ _ empty rfl fun _ mem => mem

end Delivered

variable (lib : PathManagerLib)

/-- Every reachable state of the path manager is delivered. -/
theorem Run.delivered {pm : PathManager} (run : Run lib pm) : Delivered pm := by
  induction run with
  | start pathConfs => exact Delivered.newPathManager pathConfs
  | step event previous ih => exact ih.step (Run.bound lib previous).toRegistry event

/-- A path that takes the configurations handed to it in the order the goroutines were spawned
ends with its entry's configuration, and so does the last configuration it forwards to a static
source. -/
theorem run_reloadConf_in_order {pm : PathManager} (run : Run lib pm) {name : String}
    {pa : PathRef} (found : pm.paths name = some pa) {allowed : Path → Event → Prop}
    {events : List Event} {path : Path}
    (handled : Path.Steps allowed (Path.newPath pa.confName pa.conf pa.name).start events path)
    (inOrder : Path.reloads events = deliveries pa pm.out) :
    pm.pathConfs.get pa.confName = some path.conf ∧
      (pa.conf.HasStaticSource = true →
        pm.pathConfs.get pa.confName = some ((forwardedConfs path.out).getLastD pa.conf)) := by
  have last := (run.delivered lib).last name pa found
  obtain ⟨conf, forwarded⟩ :=
    handled.conf_forwarded (Path.shapeInvariant_start pa.confName pa.conf pa.name)
  simp only [Path.start_conf, Path.forwardedConfs_start, List.nil_append] at conf forwarded
  simp only [Path.newPath] at conf forwarded
  refine ⟨by rw [conf, inOrder]; exact last, fun static => ?_⟩
  rw [forwarded, if_pos static, inOrder]
  exact last

/-- A camera path, reloaded once with a new brightness, takes that configuration. -/
theorem run_reloadConf_in_order_camera :
    (((newPathManager ⟨[("cam", PathConf.ofSource (.static "rpiCamera") false "" fun empty =>
        absurd rfl empty)], by decide⟩).step ⟨fun _ => none, fun _ _ => none, fun _ _ _ _ => none⟩
        (.confReload ⟨[("cam", { PathConf.ofSource (.static "rpiCamera") false ""
          (fun empty => absurd rfl empty) with rpiCameraBrightness := 1 })], by decide⟩)).pathConfs.get
        "cam" =
      some (((Path.newPath "cam" (PathConf.ofSource (.static "rpiCamera") false "" fun empty =>
        absurd rfl empty) "cam").start.reloadConf { PathConf.ofSource (.static "rpiCamera") false ""
          (fun empty => absurd rfl empty) with rpiCameraBrightness := 1 }).conf)) ∧
    ((PathConf.ofSource (.static "rpiCamera") false "" fun empty => absurd rfl empty).HasStaticSource =
        true →
      ((newPathManager ⟨[("cam", PathConf.ofSource (.static "rpiCamera") false "" fun empty =>
        absurd rfl empty)], by decide⟩).step ⟨fun _ => none, fun _ _ => none, fun _ _ _ _ => none⟩
        (.confReload ⟨[("cam", { PathConf.ofSource (.static "rpiCamera") false ""
          (fun empty => absurd rfl empty) with rpiCameraBrightness := 1 })], by decide⟩)).pathConfs.get
        "cam" =
      some ((forwardedConfs ((Path.newPath "cam" (PathConf.ofSource (.static "rpiCamera") false ""
        fun empty => absurd rfl empty) "cam").start.reloadConf { PathConf.ofSource (.static "rpiCamera")
          false "" (fun empty => absurd rfl empty) with rpiCameraBrightness := 1 }).out).getLastD
        (PathConf.ofSource (.static "rpiCamera") false "" fun empty => absurd rfl empty))) :=
  @run_reloadConf_in_order ⟨fun _ => none, fun _ _ => none, fun _ _ _ _ => none⟩ _
    ((Run.start ⟨[("cam", PathConf.ofSource (.static "rpiCamera") false "" fun empty =>
        absurd rfl empty)], by decide⟩).step
      (.confReload ⟨[("cam", { PathConf.ofSource (.static "rpiCamera") false ""
          (fun empty => absurd rfl empty) with rpiCameraBrightness := 1 })], by decide⟩))
    "cam" ⟨0, "cam", "cam", PathConf.ofSource (.static "rpiCamera") false "" fun empty =>
      absurd rfl empty, []⟩ rfl Path.anyOrder
    [.reloadConf { PathConf.ofSource (.static "rpiCamera") false "" (fun empty => absurd rfl empty) with
      rpiCameraBrightness := 1 }] _ (.cons rfl trivial rfl (.nil _)) rfl

/-- A camera path whose entry is reloaded twice, with brightness 1 and then 2: the loop spawns one
goroutine for each, and a path that takes the second first ends with brightness 1, while its
entry has brightness 2; so does the last configuration it forwards to its static source. -/
theorem reloadConf_out_of_order :
    ∃ (pm : PathManager) (pa : PathRef) (events : List Event) (path : Path),
      Run ⟨fun _ => none, fun _ _ => none, fun _ _ _ _ => none⟩ pm ∧ pm.paths "cam" = some pa ∧
      (Path.reloads events).Perm (deliveries pa pm.out) ∧
      Path.Steps Path.anyOrder (Path.newPath pa.confName pa.conf pa.name).start events path ∧
      pm.pathConfs.get pa.confName ≠ some path.conf ∧
      pm.pathConfs.get pa.confName ≠ some ((forwardedConfs path.out).getLastD pa.conf) :=
  ⟨_, ⟨0, "cam", "cam", PathConf.ofSource (.static "rpiCamera") false "" fun empty =>
      absurd rfl empty, []⟩,
    [.reloadConf { PathConf.ofSource (.static "rpiCamera") false "" (fun empty => absurd rfl empty) with
        rpiCameraBrightness := 2 },
      .reloadConf { PathConf.ofSource (.static "rpiCamera") false "" (fun empty => absurd rfl empty) with
        rpiCameraBrightness := 1 }], _,
    ((Run.start ⟨[("cam", PathConf.ofSource (.static "rpiCamera") false "" fun empty =>
        absurd rfl empty)], by decide⟩).step
      (.confReload ⟨[("cam", { PathConf.ofSource (.static "rpiCamera") false ""
          (fun empty => absurd rfl empty) with rpiCameraBrightness := 1 })], by decide⟩)).step
      (.confReload ⟨[("cam", { PathConf.ofSource (.static "rpiCamera") false ""
          (fun empty => absurd rfl empty) with rpiCameraBrightness := 2 })], by decide⟩),
    rfl, .swap _ _ _, .cons rfl trivial rfl (.cons rfl trivial rfl (.nil _)),
    by decide, by decide⟩

end PathManager
end RtspSimpleServer
