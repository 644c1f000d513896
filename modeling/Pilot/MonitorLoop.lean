import Pilot.Monitor

/-! The loop of `configsMonitor.Start` and `run`: the ticker channel, whose buffer holds one
tick, the stop channel, and the `select` between them under every scheduling. -/

namespace Pilot

variable {α : Type} [DecidableEq α]

/-- The loop of `run` with its channels. `stopReceived` records that an iteration has
received from `stop`, and `ticksAfterStop` counts the ticks served after that. -/
structure RunLoop (α : Type) where
  monitor : ConfigsMonitor α
  dispatched : List (Dispatch α)
  tickerRunning : Bool
  tickBuffered : Bool
  stopClosed : Bool
  stopReceived : Bool
  ticksAfterStop : Nat

def RunLoop.start (m : ConfigsMonitor α) : RunLoop α := ⟨m, [], true, false, false, false, 0⟩

def RunLoop.serveTick (s : RunLoop α) (m' : ConfigsMonitor α) (out : List (Dispatch α)) :
    RunLoop α :=
  { s with
    monitor := m', dispatched := s.dispatched ++ out, tickBuffered := false,
    ticksAfterStop := if s.stopReceived then s.ticksAfterStop + 1 else s.ticksAfterStop }

/-- One move of the loop or of its environment. The `select` takes any ready case. -/
inductive RunStep (types : List String) : RunLoop α → RunLoop α → Prop
  | fire (s : RunLoop α) (h : s.tickerRunning = true) :
      RunStep types s { s with tickBuffered := true }
  | close (s : RunLoop α) : RunStep types s { s with stopClosed := true }
  | recvStop (s : RunLoop α) (h : s.stopClosed = true) :
      RunStep types s { s with tickerRunning := false, stopReceived := true }
  | recvTick (s : RunLoop α) (store : Listing α) (m' : ConfigsMonitor α) (out : List (Dispatch α))
      (h : s.tickBuffered = true) (hu : updateConfigRecord store types s.monitor = some (m', out)) :
      RunStep types s (s.serveTick m' out)

theorem buffered_tick_served_after_stop :
    ∃ s t : RunLoop String,
      Relation.ReflTransGen (RunStep ["route-rule"]) (RunLoop.start newConfigsMonitor) s ∧
      s.stopReceived = true ∧ RunStep ["route-rule"] s t ∧
      t.dispatched.length = s.dispatched.length + 1 ∧ t.ticksAfterStop = 1 :=
  ⟨_, _, .tail (.tail (.tail .refl (.fire _ rfl)) (.close _)) (.recvStop _ rfl), rfl,
    .recvTick _ (fun _ => .ok [⟨"route-rule", "reviews", "1", "v1"⟩])
      (newConfigsMonitor.setRecord "route-rule" [⟨"route-rule", "reviews", "1", "v1"⟩])
      [("route-rule", ⟨"route-rule", "reviews", "1", "v1"⟩, .add)] rfl
      (by simp [updateConfigRecord, compareToCache_eq_mergeDiff, normalize, mergeDiff,
        RunLoop.start, newConfigsMonitor]), rfl, rfl⟩

/-- A tick buffered before `stop` is closed is served after the loop has received from
`stop`, and its `UpdateConfigRecord` hands an add to the handlers. -/
theorem run_dispatches_after_stop :
    ∃ s t : RunLoop String,
      Relation.ReflTransGen (RunStep ["route-rule"]) (RunLoop.start newConfigsMonitor) s ∧
      s.stopReceived = true ∧ RunStep ["route-rule"] s t ∧
      s.dispatched.length < t.dispatched.length := by
  obtain ⟨s, t, hs, hr, ht, hl, -⟩ := buffered_tick_served_after_stop
  exact ⟨s, t, hs, hr, ht, by omega⟩

end Pilot
