import RtspSimpleServer.PathManager.Basic
import Mathlib.Data.List.Nodup
import Mathlib.Data.List.Perm.Basic

/-!
# Resolving a path name against the configuration map

`getPathConfInternal` looks a name up as a literal key first, then walks the `~` entries in the
order the map is visited and takes the first one whose pattern matches.  A literal hit and a name
matched by at most one `~` entry give the same result in every iteration order; a name matched by
two `~` entries does not.
-/

namespace RtspSimpleServer

/-- `findSome?` does not see the order of a list in which at most one element gives a result. -/
theorem findSome?_perm_of_unique {α β : Type} {f : α → Option β} {first second : List α}
    (perm : first.Perm second)
    (unique : ∀ a ∈ first, ∀ b ∈ first, (f a).isSome → (f b).isSome → a = b) :
    first.findSome? f = second.findSome? f := by
  induction perm with
  | nil => rfl
  | cons x _ ih =>
      simp only [List.findSome?_cons]
      rw [ih fun a ma b mb => unique a (.tail _ ma) b (.tail _ mb)]
  | swap x y l =>
      simp only [List.findSome?_cons]
      cases fy : f y <;> cases fx : f x
      all_goals try rfl
      have same := unique y (by simp) x (by simp) (by simp [fy]) (by simp [fx])
      subst same
      simp_all
  | trans perm _ ih₁ ih₂ =>
      rw [ih₁ unique]
      exact ih₂ fun a ma b mb => unique a (perm.mem_iff.mpr ma) b (perm.mem_iff.mpr mb)

/-- `findSome?` finds the only element that gives a result. -/
theorem findSome?_eq_some_of_unique {α β : Type} {f : α → Option β} {l : List α} {a : α} {b : β}
    (mem : a ∈ l) (found : f a = some b) (unique : ∀ x ∈ l, (f x).isSome → x = a) :
    l.findSome? f = some b := by
  induction l with
  | nil => simp at mem
  | cons x xs ih =>
      simp only [List.findSome?_cons]
      cases fx : f x with
      | some b' =>
          have same := unique x (by simp) (by simp [fx])
          subst same
          simp_all
      | none =>
          have other : x ≠ a := fun same => by simp_all
          exact ih (by simpa [other.symm] using mem) fun y my => unique y (.tail _ my)

namespace PathConfs

/-- `lookup` is the first entry with the key. -/
theorem lookup_eq_findSome? {β : Type} (entries : List (String × β)) (name : String) :
    entries.lookup name = entries.findSome? fun entry => if entry.1 = name then some entry.2 else none := by
  induction entries with
  | nil => rfl
  | cons entry entries ih =>
      obtain ⟨key, value⟩ := entry
      by_cases same : key = name
      · simp [List.lookup_cons, same]
      · have differ : (name == key) = false := beq_false_of_ne (Ne.symm same)
        simp [List.lookup_cons, same, differ, ih]

/-- A literal lookup does not see the iteration order. -/
theorem get_perm {pathConfs other : PathConfs} (perm : pathConfs.entries.Perm other.entries)
    (name : String) : pathConfs.get name = other.get name := by
  simp only [get, lookup_eq_findSome?]
  refine findSome?_perm_of_unique perm fun a ma b mb ha hb => ?_
  have keys : a.1 = b.1 := by
    split_ifs at ha hb with ka kb <;> simp_all
  exact List.inj_on_of_nodup_map pathConfs.nodup ma mb keys

/-- A map's value at a key is the value of its entry with that key. -/
theorem get_eq_some_iff {pathConfs : PathConfs} {name : String} {pathConf : PathConf} :
    pathConfs.get name = some pathConf ↔ (name, pathConf) ∈ pathConfs.entries := by
  simp only [get, lookup_eq_findSome?]
  constructor
  · intro found
    obtain ⟨entry, mem, some_⟩ := List.exists_of_findSome?_eq_some found
    split_ifs at some_ with key
    · cases some_
      simpa [← key] using mem
  · intro mem
    refine findSome?_eq_some_of_unique mem (by simp) fun entry other some_ => ?_
    have key : entry.1 = name := by
      split_ifs at some_ with key
      · exact key
      · simp at some_
    exact List.inj_on_of_nodup_map pathConfs.nodup other mem key

end PathConfs

section

variable (lib : PathManagerLib)

/-- What `getPathConfInternal` resolves a name to is an entry of the map that matches the name:
a literal entry of that name, or a `~` entry whose pattern matches it. -/
theorem getPathConfInternal_ok {pathConfs : PathConfs} {name confName : String}
    {pathConf : PathConf} {pathMatches : List String}
    (resolved : getPathConfInternal lib pathConfs name = .ok (confName, pathConf, pathMatches)) :
    pathConfs.get confName = some pathConf ∧
      (confName = name ∨ ∃ re, pathConf.regexp = some re ∧ (lib.findStringSubmatch re name).isSome) := by
  simp only [getPathConfInternal] at resolved
  split at resolved
  · cases resolved
  · split at resolved
    · rename_i literal
      cases resolved
      exact ⟨literal, .inl rfl⟩
    · split at resolved
      · rename_i result found
        cases resolved
        obtain ⟨⟨entryName, entryConf⟩, mem, some_⟩ := List.exists_of_findSome?_eq_some found
        simp only [regexpMatch, Option.bind_eq_some, Option.map_eq_some'] at some_
        obtain ⟨re, re_, result, found, same⟩ := some_
        cases same
        exact ⟨PathConfs.get_eq_some_iff.mpr mem, .inr ⟨re, re_, by simp [found]⟩⟩
      · cases resolved

/-- The same map visited in two orders resolves a name the same way when it has a literal entry
for it or when at most one `~` entry matches it. -/
theorem getPathConfInternal_perm {pathConfs other : PathConfs}
    (perm : pathConfs.entries.Perm other.entries) (name : String)
    (unique : pathConfs.get name = none → ∀ a ∈ pathConfs.entries, ∀ b ∈ pathConfs.entries,
      (regexpMatch lib name a).isSome → (regexpMatch lib name b).isSome → a = b) :
    getPathConfInternal lib pathConfs name = getPathConfInternal lib other name := by
  simp only [getPathConfInternal, ← PathConfs.get_perm perm name]
  cases literal : pathConfs.get name with
  | some pathConf => rfl
  | none => rw [findSome?_perm_of_unique perm (unique literal)]

/-- A literal entry and one `~` entry, visited in the two orders, resolve `cam2` alike. -/
theorem getPathConfInternal_perm_single_regexp :
    getPathConfInternal ⟨fun _ => none, fun _ name => some [name], fun _ _ _ _ => none⟩
        ⟨[("cam1", PathConf.ofSource .publisher false "" fun _ => rfl),
          ("~^cam.*$", { PathConf.ofSource .publisher false "" (fun _ => rfl) with
            regexp := some "^cam.*$" })], by decide⟩ "cam2" =
      getPathConfInternal ⟨fun _ => none, fun _ name => some [name], fun _ _ _ _ => none⟩
        ⟨[("~^cam.*$", { PathConf.ofSource .publisher false "" (fun _ => rfl) with
            regexp := some "^cam.*$" }),
          ("cam1", PathConf.ofSource .publisher false "" fun _ => rfl)], by decide⟩ "cam2" :=
  getPathConfInternal_perm _ (by decide) "cam2" (by decide)

/-- Two `~` entries whose patterns both match `cam1`, under a regular-expression engine in which
every pattern matches every name with no group (as Go's `regexp` does for `^.*$` and `^cam.*$` on
`cam1`): the map visited in one order resolves `cam1` to one entry, in the other order to the
other. -/
theorem getPathConfInternal_iteration_order :
    (getPathConfInternal ⟨fun _ => none, fun _ name => some [name], fun _ _ _ _ => none⟩
        ⟨[("~^.*$", { PathConf.ofSource .publisher false "" (fun _ => rfl) with regexp := some "^.*$" }),
          ("~^cam.*$", { PathConf.ofSource .publisher false "" (fun _ => rfl) with
            regexp := some "^cam.*$" })], by decide⟩ "cam1").map Prod.fst = .ok "~^.*$" ∧
    (getPathConfInternal ⟨fun _ => none, fun _ name => some [name], fun _ _ _ _ => none⟩
        ⟨[("~^cam.*$", { PathConf.ofSource .publisher false "" (fun _ => rfl) with
            regexp := some "^cam.*$" }),
          ("~^.*$", { PathConf.ofSource .publisher false "" (fun _ => rfl) with regexp := some "^.*$" })],
          by decide⟩ "cam1").map Prod.fst = .ok "~^cam.*$" :=
  ⟨rfl, rfl⟩

end

end RtspSimpleServer
