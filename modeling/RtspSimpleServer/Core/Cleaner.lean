import RtspSimpleServer.PathManager.Basic
import Mathlib.Data.List.Nodup
import Mathlib.Data.String.Basic

/-!
# The entries of the record cleaner

`gatherCleanerEntries` sorts the record settings of the paths by `RecordPath`, then
`RecordDeleteAfter`.  The result is the same set of entries for every iteration order of the
paths, but two entries that differ only in their format come out in iteration order.
-/

namespace RtspSimpleServer

/-- `record.CleanerEntry`. -/
structure CleanerEntry where
  recordPath : String
  recordFormat : String
  recordDeleteAfter : Nat
  deriving DecidableEq, Repr

/-- The comparison `gatherCleanerEntries` hands `sort.Slice`: `RecordPath`, then
`RecordDeleteAfter`. -/
def CleanerEntry.less (a b : CleanerEntry) : Bool :=
  if a.recordPath ≠ b.recordPath then decide (a.recordPath < b.recordPath)
  else decide (a.recordDeleteAfter < b.recordDeleteAfter)

section sortSlice

variable {α : Type} (less : α → α → Bool)

/-- One pass of `insertionSortLessFunc`: `x` moves left past every element of the sorted prefix
that it is `less` than.  The prefix is held last element first. -/
def insertLess (x : α) : List α → List α
  | [] => [x]
  | y :: ys => if less x y then y :: insertLess x ys else x :: y :: ys

/-- `sort.Slice` on a slice of at most twelve elements, where it runs `insertionSortLessFunc`:
each element in turn moves left past the elements before it that it is `less` than. -/
def sortSlice (data : List α) : List α :=
  (data.foldl (fun sorted x => insertLess less x sorted) []).reverse

theorem insertLess_perm (x : α) (sorted : List α) : (insertLess less x sorted).Perm (x :: sorted) := by
  induction sorted with
  | nil => rfl
  | cons y ys ih =>
      simp only [insertLess]
      split_ifs
      · exact (ih.cons y).trans (List.Perm.swap x y ys)
      · rfl

theorem foldl_insertLess_perm (data sorted : List α) :
    (data.foldl (fun sorted x => insertLess less x sorted) sorted).Perm (data.reverse ++ sorted) := by
  induction data generalizing sorted with
  | nil => rfl
  | cons x xs ih =>
      simp only [List.foldl_cons, List.reverse_cons, List.append_assoc, List.singleton_append]
      exact (ih _).trans ((insertLess_perm less x sorted).append_left _)

/-- `sort.Slice` permutes the slice. -/
theorem sortSlice_perm (data : List α) : (sortSlice less data).Perm data :=
  (List.reverse_perm _).trans ((foldl_insertLess_perm less data []).trans (by simp [List.reverse_perm]))

end sortSlice

section eraseDups

variable {α : Type} [DecidableEq α]

theorem mem_eraseDups_loop (a : α) (as bs : List α) :
    a ∈ List.eraseDups.loop as bs ↔ a ∈ as ∨ a ∈ bs := by
  induction as generalizing bs with
  | nil => simp [List.eraseDups.loop]
  | cons b as ih =>
      simp only [List.eraseDups.loop]
      split <;> rename_i found
      · rw [ih]
        have : b ∈ bs := List.elem_iff.mp found
        by_cases same : a = b <;> simp_all
      · rw [ih]
        simp only [List.mem_cons]
        tauto

theorem nodup_eraseDups_loop (as : List α) {bs : List α} (nodup : bs.Nodup) :
    (List.eraseDups.loop as bs).Nodup := by
  induction as generalizing bs with
  | nil => simpa [List.eraseDups.loop] using nodup
  | cons b as ih =>
      simp only [List.eraseDups.loop]
      split <;> rename_i found
      · exact ih nodup
      · exact ih (List.nodup_cons.mpr ⟨fun mem => by simp_all, nodup⟩)

theorem mem_eraseDups (a : α) (as : List α) : a ∈ as.eraseDups ↔ a ∈ as := by
  simp [List.eraseDups, mem_eraseDups_loop]

theorem nodup_eraseDups (as : List α) : as.eraseDups.Nodup :=
  nodup_eraseDups_loop as List.nodup_nil

end eraseDups

/-- The record settings of a path that records. -/
def cleanerEntry (pathConf : PathConf) : Option CleanerEntry :=
  if pathConf.record then
    some ⟨pathConf.recordPath, pathConf.recordFormat, pathConf.recordDeleteAfter⟩
  else none

/-- `gatherCleanerEntries`: the keys of `out`, visited in the order they were first inserted, then
sorted. -/
def gatherCleanerEntries (paths : PathConfs) : List CleanerEntry :=
  sortSlice CleanerEntry.less (paths.entries.filterMap fun entry => cleanerEntry entry.2).eraseDups

/-- The entries are the record settings of the paths that record. -/
theorem mem_gatherCleanerEntries (paths : PathConfs) (entry : CleanerEntry) :
    entry ∈ gatherCleanerEntries paths ↔ ∃ path ∈ paths.entries, cleanerEntry path.2 = some entry := by
  simp [gatherCleanerEntries, (sortSlice_perm _ _).mem_iff, mem_eraseDups]

/-- Each record setting is there once. -/
theorem nodup_gatherCleanerEntries (paths : PathConfs) : (gatherCleanerEntries paths).Nodup :=
  (sortSlice_perm _ _).nodup_iff.mpr (nodup_eraseDups _)

/-- Two iteration orders of one map give the same entries, possibly in another order. -/
theorem gatherCleanerEntries_perm {paths other : PathConfs} (perm : paths.entries.Perm other.entries) :
    (gatherCleanerEntries paths).Perm (gatherCleanerEntries other) :=
  (List.perm_ext_iff_of_nodup (nodup_gatherCleanerEntries _) (nodup_gatherCleanerEntries _)).mpr
    fun entry => by simp only [mem_gatherCleanerEntries, perm.mem_iff]

end RtspSimpleServer
