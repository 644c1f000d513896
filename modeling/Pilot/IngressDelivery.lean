import Pilot.IngressQueue

/-! What the registered functions of the ingress controller see: the calls replayed into a
key-to-rule view, and the order in which the tasks of one ingress reach them. -/

namespace Pilot

variable {σ ρ : Type}

def callsTo (h : Nat) (delivered : List (Nat × Delivery ρ)) : List (Config ρ × Event) :=
  delivered.filterMap fun d => if d.2.handler = h then some (d.2.config, d.2.event) else none

def twoPathEnv : IngressEnv Bool String :=
  ⟨"ingress-rule", fun _ => true,
    fun i => if i.spec then ⟨[("default/a-0-0", "r1"), ("default/a-0-1", "r2")], by decide⟩
      else ⟨[("default/a-0-0", "r1")], List.nodup_singleton _⟩,
    fun _ => some ("a", "default"), fun n ns => ns ++ "/" ++ n⟩

/-- After sync, adding an ingress with two rules and then editing it down to one leaves the
removed rule in the view that the calls replay to, while `List` no longer has it: the update
is handed out as an update of the remaining rule only. -/
theorem ingress_update_keeps_removed_rule :
    ∃ s, Relation.ReflTransGen (IngressStep twoPathEnv 1) IngressController.init s ∧
      (replay (fun _ => none) (callsTo 0 s.delivered) "default/a-0-1").map (·.content) =
        some "r2" ∧
      ∃ cs, twoPathEnv.list s.store twoPathEnv.ingressRuleType = .ok cs ∧
        ∀ c ∈ cs, c.key ≠ "default/a-0-1" := by
  refine ⟨_, .tail (.tail (.tail (.tail (.tail .refl (.sync _ rfl))
    (.add _ ⟨"a", "default", "1", true⟩ rfl rfl)) (.process _ _ _ rfl rfl rfl))
    (.update _ ⟨"a", "default", "1", true⟩ ⟨"a", "default", "2", false⟩ ?_ rfl))
    (.process _ _ _ rfl rfl rfl), ?_⟩
  · simp [StringMap.lookup_insert_self]
  · refine ⟨rfl, _, rfl, ?_⟩
    decide

/-- An add that fails the sync gate is pushed again after an edit of the same ingress has
been notified and handled: the registered function sees the edit first and the stale add last,
although the informer's store holds the edited ingress. -/
theorem ingress_retry_delivers_stale_state :
    ∃ s, Relation.ReflTransGen (IngressStep nameKeyedEnv 1) IngressController.init s ∧
      s.delivered.map (·.1) = [1, 0] ∧
      s.delivered.getLast?.map (·.2.config.content) = some "v1" ∧
      s.store.lookup "default/a" = some ⟨"a", "default", "2", "v2"⟩ := by
  refine ⟨_, .tail (.tail (.tail (.tail (.tail (.tail (.tail .refl
    (.add _ ⟨"a", "default", "1", "v1"⟩ rfl rfl)) (.process _ _ _ rfl rfl rfl)) (.sync _ rfl))
    (.update _ ⟨"a", "default", "1", "v1"⟩ ⟨"a", "default", "2", "v2"⟩ ?_ rfl))
    (.process _ _ _ rfl rfl rfl)) (.retry _ [] [] _ rfl)) (.process _ _ _ rfl rfl rfl), ?_⟩
  · simp [StringMap.lookup_insert_self]
  · exact ⟨rfl, rfl, rfl⟩

open IngressController

def FifoFrom (s t : IngressController σ ρ) : Prop :=
  t.synced = true ∧ t.retrying = [] ∧
    (t.crashed = false → ∃ done new, t.completed = s.completed ++ done ∧
      t.notified = s.notified ++ new ∧ s.queue ++ new = done ++ t.queue)

theorem FifoFrom.push {s t : IngressController σ ρ} (h : FifoFrom s t) (obj : InformerObject σ)
    (event : Event) : FifoFrom s (t.push obj event) := by
  obtain ⟨hs, hr, hq⟩ := h
  refine ⟨hs, hr, fun hc => ?_⟩
  obtain ⟨done, new, hd, hn, he⟩ := hq hc
  refine ⟨done, new ++ [⟨t.notified.length, obj, event⟩], hd, ?_, ?_⟩
  · simp [IngressController.push, hn]
  · simp [IngressController.push, ← List.append_assoc, he]

variable [DecidableEq σ] {env : IngressEnv σ ρ} {n : Nat}

theorem IngressStep.fifoFrom {s t u : IngressController σ ρ} (h : IngressStep env n t u)
    (hf : FifoFrom s t) : FifoFrom s u := by
  cases h with
  | add => exact hf.push _ _
  | update _ old cur =>
    dsimp only
    split
    · exact hf
    · exact hf.push _ _
  | delete => exact hf.push _ _
  | deleteTombstone => exact hf.push _ _
  | sync => exact ⟨rfl, hf.2.1, hf.2.2⟩
  | retry pre post task h => simp [hf.2.1] at h
  | process task rest hq hc =>
    obtain ⟨hs, hr, hfifo⟩ := hf
    obtain ⟨done, new, hd, hn, he⟩ := hfifo hc
    simp only [IngressController.process]
    split
    · refine ⟨hs, hr, fun _ => ⟨done ++ [task], new, by simp [hd], hn, ?_⟩⟩
      simp [he, hq]
    · next msg hst => simp [(env.chainApply_chain_error hst).1] at hs
    · exact ⟨hs, hr, fun h => by simp at h⟩
  | shutdown => exact hf

/-- Once the informer has synced and no retry timer is armed, no task fails again, and until a
panic the worker completes tasks first in, first out: the queue at that point followed by the
tasks notified since equals the tasks completed since followed by the queue. -/
theorem completed_fifo_after_sync {s t : IngressController σ ρ} (hs : s.synced = true)
    (hr : s.retrying = []) (h : Relation.ReflTransGen (IngressStep env n) s t)
    (hc : t.crashed = false) :
    t.retrying = [] ∧
      s.queue ++ t.notified.drop s.notified.length = t.completed.drop s.completed.length ++ t.queue := by
  have hf : FifoFrom s t := by
    clear hc
    induction h with
    | refl => exact ⟨hs, hr, fun _ => ⟨[], [], by simp, by simp, by simp⟩⟩
    | tail _ hst ih => exact hst.fifoFrom ih
  obtain ⟨done, new, hd, hn, he⟩ := hf.2.2 hc
  exact ⟨hf.2.1, by simp [hd, hn, he]⟩

def syncedStart : IngressController String String := { IngressController.init with synced := true }

theorem completed_fifo_after_sync_one_add :
    ∃ t, syncedStart.synced = true ∧ syncedStart.retrying = [] ∧
      Relation.ReflTransGen (IngressStep nameKeyedEnv 1) syncedStart t ∧
      t.crashed = false ∧ t.completed.length = 1 ∧
      (t.retrying = [] ∧ syncedStart.queue ++ t.notified.drop syncedStart.notified.length =
        t.completed.drop syncedStart.completed.length ++ t.queue) := by
  have h : Relation.ReflTransGen (IngressStep nameKeyedEnv 1) syncedStart _ :=
    .tail (.tail .refl (.add _ ⟨"a", "default", "1", "v1"⟩ rfl rfl)) (.process _ _ _ rfl rfl rfl)
  exact ⟨_, rfl, rfl, h, rfl, rfl, completed_fifo_after_sync rfl rfl h rfl⟩

end Pilot
