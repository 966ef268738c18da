import RtspSimpleServer.Path.Shape

/-!
# The configurations a path takes

`chReloadConf` is the only select case that changes a path's configuration, and it hands every
configuration it takes to a static source.  Over any sequence of select cases, the path's
configuration is the last one it took, and the configurations forwarded to a static source are
those it took, in the same order.
-/

namespace RtspSimpleServer
namespace Path

/-- `Steps allowed pa events next`: from `pa`, the loop takes the select cases `events` in order,
each enabled and allowed, and is still running in `next`. -/
inductive Steps (allowed : Path → Event → Prop) : Path → List Event → Path → Prop where
  | nil (pa : Path) : Steps allowed pa [] pa
  | cons {pa mid next : Path} {event : Event} {events : List Event} :
      pa.Enabled event → allowed pa event → pa.step event = .running mid →
      Steps allowed mid events next → Steps allowed pa (event :: events) next

/-- The configurations handed to the path by a sequence of select cases, in order. -/
def reloads (events : List Event) : List PathConf := events.filterMap Event.newConf

@[simp] theorem reloads_nil : reloads [] = [] := rfl

@[simp] theorem reloads_cons (event : Event) (events : List Event) :
    reloads (event :: events) = event.newConf.toList ++ reloads events := by
  cases newConf : event.newConf <;> simp only [reloads, List.filterMap_cons, newConf] <;> rfl

variable {allowed : Path → Event → Prop}

/-- A run goes on through the select cases it takes. -/
theorem Steps.run {pa next : Path} {events : List Event} (run : Run allowed pa)
    (steps : Steps allowed pa events next) : Run allowed next := by
  induction steps with
  | nil => exact run
  | cons enabled allowed stepped _ ih => exact ih (run.step _ enabled allowed stepped)

/-- A reload keeps whether the path has a static source. -/
theorem hasStaticSource_reloadConf {pa : Path} {newConf : PathConf}
    (enabled : pa.Enabled (.reloadConf newConf)) :
    (pa.reloadConf newConf).conf.HasStaticSource = pa.conf.HasStaticSource :=
  (sameOutsideCamera_of_canBeUpdated enabled).hasStaticSource

/-- Across the select cases it takes, a path's configuration is the last one handed to it, and
it forwards to a static source every configuration it takes, in the order it takes them. -/
theorem Steps.conf_forwarded {pa next : Path} {events : List Event} (inv : ShapeInvariant pa)
    (steps : Steps allowed pa events next) :
    next.conf = (reloads events).getLastD pa.conf ∧
      forwardedConfs next.out =
        forwardedConfs pa.out ++ if pa.conf.HasStaticSource then reloads events else [] := by
  induction steps with
  | nil => simp
  | @cons pa mid next event events enabled _ stepped _ ih =>
      have midInv : ShapeInvariant mid := by simpa [stepped] using inv.step enabled
      obtain ⟨conf, forwarded⟩ := ih midInv
      cases reload : event.newConf with
      | none =>
          have frame : ShapeFrame pa mid := by simpa [stepped] using ShapeFrame.step inv enabled reload
          simp [reload, conf, forwarded, frame.conf, frame.forwarded]
      | some newConf =>
          cases event <;> simp only [Event.newConf, reduceCtorEq, Option.some.injEq] at reload
          subst reload
          cases stepped
          refine ⟨?_, ?_⟩
          · simpa only [reloads_cons, Event.newConf, Option.toList_some, List.singleton_append,
              List.getLastD_cons, reloadConf_conf] using conf
          · rw [forwarded, hasStaticSource_reloadConf enabled]
            split_ifs <;> simp [Event.newConf, Output.forwardedConf, *]

@[simp] theorem start_conf (pa : Path) : pa.start.conf = pa.conf := by
  simp only [start]
  split
  · rfl
  · split_ifs <;> rfl
  · rfl

/-- `start` forwards nothing. -/
@[simp] theorem forwardedConfs_start (confName : String) (conf : PathConf) (name : String) :
    forwardedConfs (newPath confName conf name).start.out = [] := by
  simp only [start]
  split
  · rfl
  · split_ifs <;> simp [emit, newPath, Output.forwardedConf]
  · rfl

end Path
end RtspSimpleServer
