import Mathlib.Logic.Basic

/-!
# The restart loop of the record agent

A state says where `Agent.run` is and counts the instances created and closed; a step is one
select case, or `Close` closing `terminate`.  In every reachable state no instance is closed twice
or left open behind, and once `run` has returned every instance is closed.
-/

namespace RtspSimpleServer
namespace Record

/-- Where `Agent.run` is. -/
inductive AgentPhase where
  /-- In the first `select`, on the current instance's `done` and on `terminate`. -/
  | waiting
  /-- In the second `select`, on the restart pause and on `terminate`. -/
  | pausing
  /-- Returned, `done` closed. -/
  | returned
  deriving DecidableEq, Repr

/-- The agent as its loop sees it. -/
structure AgentState where
  /-- Where `run` is. -/
  phase : AgentPhase
  /-- `terminate` is closed. -/
  terminated : Bool
  /-- Instances created and initialized. -/
  created : Nat
  /-- Instances closed. -/
  closed : Nat
  deriving DecidableEq, Repr

/-- The agent after `Agent.Initialize`: the first instance exists and `run` waits on it. -/
def AgentState.initial : AgentState := ⟨.waiting, false, 1, 0⟩

/-- One step of the agent. -/
inductive AgentStep : AgentState → AgentState → Prop where
  /-- `Close` closes `terminate` (a second `Close` would panic on the closed channel). -/
  | close (s : AgentState) : s.terminated = false → AgentStep s { s with terminated := true }
  /-- The current instance is done: `run` closes it and starts the pause. -/
  | instanceDone (s : AgentState) : s.phase = .waiting →
      AgentStep s { s with phase := .pausing, closed := s.closed + 1 }
  /-- `terminate` while `run` waits on the instance: `run` closes it and returns. -/
  | terminateWaiting (s : AgentState) : s.phase = .waiting → s.terminated = true →
      AgentStep s { s with phase := .returned, closed := s.closed + 1 }
  /-- The restart pause elapses: `run` creates and initializes a new instance. -/
  | pauseElapsed (s : AgentState) : s.phase = .pausing →
      AgentStep s { s with phase := .waiting, created := s.created + 1 }
  /-- `terminate` during the pause: `run` returns. -/
  | terminatePausing (s : AgentState) : s.phase = .pausing → s.terminated = true →
      AgentStep s { s with phase := .returned }

/-- The states of the agent, over every interleaving of its steps. -/
inductive AgentState.Run : AgentState → Prop where
  | start : Run AgentState.initial
  | step {s s' : AgentState} : Run s → AgentStep s s' → Run s'

/-- The instances created are those closed and, while `run` waits on one, the current one; and
`run` returns only once `terminate` is closed. -/
structure AgentState.Accounted (s : AgentState) : Prop where
  instances : s.created = s.closed + if s.phase = .waiting then 1 else 0
  returned : s.phase = .returned → s.terminated = true

theorem AgentState.Accounted.step {s s' : AgentState} (accounted : s.Accounted)
    (step : AgentStep s s') : s'.Accounted := by
  obtain ⟨instances, returned⟩ := accounted
  cases step with
  | close open_ => exact ⟨instances, fun phase => rfl⟩
  | instanceDone waiting =>
    simp only [waiting, if_true] at instances
    exact ⟨by simp [instances], by simp⟩
  | terminateWaiting waiting terminated =>
    simp only [waiting, if_true] at instances
    exact ⟨by simp [instances], fun _ => terminated⟩
  | pauseElapsed pausing =>
    simp only [pausing, reduceCtorEq, if_false] at instances
    exact ⟨by simp [instances], by simp⟩
  | terminatePausing pausing terminated =>
    simp only [pausing, reduceCtorEq, if_false] at instances
    exact ⟨by simp [instances], fun _ => terminated⟩

theorem AgentState.Run.accounted {s : AgentState} (run : s.Run) : s.Accounted := by
  induction run with
  | start => exact ⟨rfl, by simp [AgentState.initial]⟩
  | step _ step ih => exact ih.step step

/-- Once `run` has returned, every instance the agent created is closed, and the agent takes no
further step: no instance is created or closed after `Close` returns. -/
theorem run_returned {s : AgentState} (run : s.Run) (returned : s.phase = .returned) :
    s.created = s.closed ∧ ∀ s', ¬AgentStep s s' := by
  obtain ⟨instances, terminated⟩ := run.accounted
  refine ⟨by simpa [returned] using instances, fun s' step => ?_⟩
  cases step <;> simp_all

/-- An instance that fails once and is restarted, then `Close`. -/
theorem run_returned_restarted :
    let s : AgentState := ⟨.returned, true, 2, 2⟩
    s.Run ∧ s.phase = .returned ∧ (s.created = s.closed ∧ ∀ s', ¬AgentStep s s') := by
  intro s
  have run : s.Run :=
    .step (.step (.step (.step .start (.instanceDone _ rfl)) (.pauseElapsed _ rfl))
      (.close _ rfl)) (.terminateWaiting _ rfl rfl)
  exact ⟨run, rfl, run_returned run rfl⟩

end Record
end RtspSimpleServer
