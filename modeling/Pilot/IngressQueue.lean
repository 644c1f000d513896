import Pilot.IngressStore

/-! The push path of the ingress controller: informer notifications become tasks on
`kube.Queue`, and one worker applies to each the `kube.ChainHandler` made of the sync gate of
`NewController` and one step per `RegisterEventHandler`. -/

namespace Pilot

variable {σ ρ δ : Type}

inductive InformerObject (σ : Type) where
  | ingress (obj : Ingress σ)
  | tombstone (key : String) (obj : Ingress σ)

inductive HandlerResult (δ : Type) where
  | ok (calls : List δ)
  | error (msg : String)
  | panic

abbrev Handler (σ δ : Type) := InformerObject σ → Event → HandlerResult δ

inductive ChainStatus where
  | ok
  | error (msg : String)
  | panic
  deriving DecidableEq, Repr

/-- Modelled from the spec: `kube.ChainHandler.Apply`, not in the repository. The steps run in
order and the first error ends the chain; the calls made before it stand. -/
def chainApply (obj : InformerObject σ) (event : Event) :
    List (Handler σ δ) → List δ × ChainStatus
  | [] => ([], .ok)
  | f :: fs =>
    match f obj event with
    | .ok calls => ((calls ++ (chainApply obj event fs).1), (chainApply obj event fs).2)
    | .error msg => ([], .error msg)
    | .panic => ([], .panic)

structure Delivery (ρ : Type) where
  handler : Nat
  config : Config ρ
  event : Event

def syncGate (hasSynced : Bool) : Handler σ δ := fun _ _ =>
  if !hasSynced then .error "waiting till full synchronization" else .ok []

namespace IngressEnv

variable (env : IngressEnv σ ρ)

def ruleCalls (h : Nat) (ingress : Ingress σ) (event : Event) : List (Delivery ρ) :=
  if env.shouldProcessIngress ingress then
    (env.convertIngress ingress).entries.map fun r => ⟨h, ⟨env.ingressRuleType, r.1, "", r.2⟩, event⟩
  else []

def registeredHandler (h : Nat) : Handler σ (Delivery ρ)
  | .tombstone _ _, _ => .panic
  | .ingress ingress, event => .ok (env.ruleCalls h ingress event)

def chain (hasSynced : Bool) (n : Nat) : List (Handler σ (Delivery ρ)) :=
  syncGate hasSynced :: (List.range n).map env.registeredHandler

theorem chainApply_unsynced (obj : InformerObject σ) (event : Event) (n : Nat) :
    chainApply obj event (env.chain false n) = ([], .error "waiting till full synchronization") :=
  rfl

theorem chainApply_registered_ingress (obj : Ingress σ) (event : Event) (l : List Nat) :
    chainApply (.ingress obj) event (l.map env.registeredHandler) =
      (l.flatMap fun h => env.ruleCalls h obj event, .ok) := by
  induction l with
  | nil => rfl
  | cons h l ih => simp [chainApply, registeredHandler, ih]

theorem chainApply_synced_ingress (obj : Ingress σ) (event : Event) (n : Nat) :
    chainApply (.ingress obj) event (env.chain true n) =
      ((List.range n).flatMap fun h => env.ruleCalls h obj event, .ok) := by
  simp [chain, chainApply, syncGate, chainApply_registered_ingress]

theorem chainApply_synced_tombstone (key : String) (obj : Ingress σ) (event : Event) {n : Nat}
    (hn : 0 < n) : chainApply (.tombstone key obj) event (env.chain true n) = ([], .panic) := by
  obtain ⟨n, rfl⟩ := Nat.exists_eq_add_of_lt hn
  simp [chain, chainApply, syncGate, List.range_succ_eq_map, registeredHandler]

theorem handler_of_mem_ruleCalls {h : Nat} {obj : Ingress σ} {event : Event} {d : Delivery ρ}
    (hd : d ∈ env.ruleCalls h obj event) : d.handler = h := by
  unfold ruleCalls at hd
  split at hd
  · obtain ⟨_, _, rfl⟩ := List.mem_map.mp hd
    rfl
  · simp at hd

theorem chainApply_chain_error {synced : Bool} {obj : InformerObject σ} {event : Event} {n : Nat}
    {msg : String} (h : (chainApply obj event (env.chain synced n)).2 = .error msg) :
    synced = false ∧ (chainApply obj event (env.chain synced n)).1 = [] := by
  cases synced
  · exact ⟨rfl, rfl⟩
  · cases obj with
    | ingress obj => simp [chainApply_synced_ingress] at h
    | tombstone key obj =>
      rcases Nat.eq_zero_or_pos n with rfl | hn
      · simp [chain, chainApply, syncGate] at h
      · simp [chainApply_synced_tombstone _ _ _ _ hn] at h

theorem ruleCalls_nodup (obj : Ingress σ) (event : Event) (n : Nat) :
    (((List.range n).flatMap fun h => env.ruleCalls h obj event).map
      fun d => (d.handler, d.config.key)).Nodup := by
  rw [List.map_flatMap]
  refine List.nodup_flatMap.mpr ⟨fun h _ => ?_, List.nodup_range n |>.imp fun hne => ?_⟩
  · unfold ruleCalls
    split
    · simpa [Function.comp_def] using
        (env.convertIngress obj).nodup.map (Prod.mk.inj_left h)
    · exact List.nodup_nil
  · intro x hx hy
    obtain ⟨d, hd, rfl⟩ := List.mem_map.mp hx
    obtain ⟨d', hd', he⟩ := List.mem_map.mp hy
    exact hne ((env.handler_of_mem_ruleCalls hd).symm.trans
      ((congrArg Prod.fst he).symm.trans (env.handler_of_mem_ruleCalls hd')))

theorem chainApply_chain_nodup (synced : Bool) (obj : InformerObject σ) (event : Event) (n : Nat) :
    ((chainApply obj event (env.chain synced n)).1.map fun d => (d.handler, d.config.key)).Nodup := by
  cases synced
  · exact List.nodup_nil
  · cases obj with
    | ingress obj => simpa [chainApply_synced_ingress] using env.ruleCalls_nodup obj event n
    | tombstone key obj =>
      rcases Nat.eq_zero_or_pos n with rfl | hn
      · simp [chain, chainApply, syncGate]
      · simp [chainApply_synced_tombstone _ _ _ _ hn]

end IngressEnv

structure Task (σ : Type) where
  id : Nat
  obj : InformerObject σ
  event : Event

/-- The ingress controller with its informer and queue: tasks waiting in the queue, tasks
whose retry timer is armed, the calls made to registered functions (with the task they came
from), the tasks pushed by the informer and completed by the worker, in order, and whether
the process panicked or `Run`'s stop channel was closed. -/
structure IngressController (σ ρ : Type) where
  store : StringMap (Ingress σ)
  synced : Bool
  queue : List (Task σ)
  retrying : List (Task σ)
  delivered : List (Nat × Delivery ρ)
  notified : List (Task σ)
  completed : List (Task σ)
  crashed : Bool
  stopped : Bool

namespace IngressController

def init : IngressController σ ρ := ⟨⟨[], List.nodup_nil⟩, false, [], [], [], [], [], false, false⟩

def push (s : IngressController σ ρ) (obj : InformerObject σ) (event : Event) :
    IngressController σ ρ :=
  { s with
    queue := s.queue ++ [⟨s.notified.length, obj, event⟩]
    notified := s.notified ++ [⟨s.notified.length, obj, event⟩] }

/-- Modelled from the spec: one iteration of `kube.Queue.Run`, not in the repository. The
single worker pops `task` and applies the chain; a failed task is requeued after the retry
delay (the `retry` step), a panic stops the process. -/
def process (env : IngressEnv σ ρ) (n : Nat) (s : IngressController σ ρ) (task : Task σ)
    (rest : List (Task σ)) : IngressController σ ρ :=
  let r := chainApply task.obj task.event (env.chain s.synced n)
  let s' := { s with queue := rest, delivered := s.delivered ++ r.1.map (task.id, ·) }
  match r.2 with
  | .ok => { s' with completed := s.completed ++ [task] }
  | .error _ => { s' with retrying := s.retrying ++ [task] }
  | .panic => { s' with crashed := true }

@[simp] theorem push_store (s : IngressController σ ρ) (obj : InformerObject σ) (event : Event) :
    (s.push obj event).store = s.store := rfl

@[simp] theorem push_stopped (s : IngressController σ ρ) (obj : InformerObject σ) (event : Event) :
    (s.push obj event).stopped = s.stopped := rfl

@[simp] theorem process_stopped (env : IngressEnv σ ρ) (n : Nat) (s : IngressController σ ρ)
    (task : Task σ) (rest : List (Task σ)) : (s.process env n task rest).stopped = s.stopped := by
  simp only [IngressController.process]
  split <;> rfl

@[simp] theorem process_store (env : IngressEnv σ ρ) (n : Nat) (s : IngressController σ ρ)
    (task : Task σ) (rest : List (Task σ)) : (s.process env n task rest).store = s.store := by
  simp only [IngressController.process]
  split <;> rfl

end IngressController

structure Bookkeeping (pending : List (Task σ)) (delivered : List (Nat × Delivery ρ))
    (next : Nat) : Prop where
  pending_lt : ∀ t ∈ pending, t.id < next
  pending_nodup : (pending.map (·.id)).Nodup
  pending_fresh : ∀ t ∈ pending, ∀ d ∈ delivered, d.1 ≠ t.id
  delivered_lt : ∀ d ∈ delivered, d.1 < next
  delivered_nodup : (delivered.map fun d => (d.1, d.2.handler, d.2.config.key)).Nodup

namespace Bookkeeping

variable {pending pending' : List (Task σ)} {delivered : List (Nat × Delivery ρ)} {next : Nat}

theorem perm (h : Bookkeeping pending delivered next) (hp : pending.Perm pending') :
    Bookkeeping pending' delivered next :=
  ⟨fun t ht => h.pending_lt t (hp.mem_iff.mpr ht), (hp.map _).nodup_iff.mp h.pending_nodup,
    fun t ht => h.pending_fresh t (hp.mem_iff.mpr ht), h.delivered_lt, h.delivered_nodup⟩

theorem push (h : Bookkeeping pending delivered next) (obj : InformerObject σ) (event : Event) :
    Bookkeeping (⟨next, obj, event⟩ :: pending) delivered (next + 1) where
  pending_lt t ht := by
    rcases List.mem_cons.mp ht with rfl | ht
    · exact Nat.lt_succ_self _
    · exact Nat.lt_succ_of_lt (h.pending_lt t ht)
  pending_nodup := List.nodup_cons.mpr ⟨fun hm => by
    obtain ⟨t, ht, he⟩ := List.mem_map.mp hm
    exact absurd (h.pending_lt t ht) (by simp [he]), h.pending_nodup⟩
  pending_fresh t ht d hd := by
    rcases List.mem_cons.mp ht with rfl | ht
    · exact Nat.ne_of_lt (h.delivered_lt d hd)
    · exact h.pending_fresh t ht d hd
  delivered_lt d hd := Nat.lt_succ_of_lt (h.delivered_lt d hd)
  delivered_nodup := h.delivered_nodup

theorem deliver {task : Task σ} (h : Bookkeeping (task :: pending) delivered next)
    {calls : List (Delivery ρ)} (hc : (calls.map fun d => (d.handler, d.config.key)).Nodup) :
    Bookkeeping pending (delivered ++ calls.map (task.id, ·)) next where
  pending_lt t ht := h.pending_lt t (List.mem_cons_of_mem _ ht)
  pending_nodup := (List.nodup_cons.mp h.pending_nodup).2
  pending_fresh t ht d hd := by
    rcases List.mem_append.mp hd with hd | hd
    · exact h.pending_fresh t (List.mem_cons_of_mem _ ht) d hd
    · obtain ⟨c, -, rfl⟩ := List.mem_map.mp hd
      exact fun he => (List.nodup_cons.mp h.pending_nodup).1 (List.mem_map.mpr ⟨t, ht, he.symm⟩)
  delivered_lt d hd := by
    rcases List.mem_append.mp hd with hd | hd
    · exact h.delivered_lt d hd
    · obtain ⟨c, -, rfl⟩ := List.mem_map.mp hd
      exact h.pending_lt task (List.mem_cons_self _ _)
  delivered_nodup := by
    rw [List.map_append, List.nodup_append, List.map_map]
    refine ⟨h.delivered_nodup, ?_, ?_⟩
    · simpa [Function.comp_def] using hc.map (fun a b hab => by simpa using hab)
    · intro x hx hy
      obtain ⟨d, hd, rfl⟩ := List.mem_map.mp hx
      obtain ⟨c, -, he⟩ := List.mem_map.mp hy
      exact h.pending_fresh task (List.mem_cons_self _ _) d hd (congrArg Prod.fst he).symm

end Bookkeeping

open IngressController in
/-- One move of the informer, of a retry timer or of the worker. The informer keys its store
by `kube.KeyFunc` of name and namespace; a fired retry timer pushes its task to the tail of the
queue, as the spec describes `kube.Queue`. Closing the stop channel of `Run` stops the informer
and the worker: after `shutdown` nothing is notified or processed, while a retry timer armed
before still pushes its task. -/
inductive IngressStep [DecidableEq σ] (env : IngressEnv σ ρ) (n : Nat) :
    IngressController σ ρ → IngressController σ ρ → Prop
  | add (s : IngressController σ ρ) (obj : Ingress σ)
      (h : s.store.lookup (env.keyFunc obj.name obj.«namespace») = none)
      (hrun : s.stopped = false) :
      IngressStep env n s
        ({ s with store := s.store.insert (env.keyFunc obj.name obj.«namespace») obj }.push
          (.ingress obj) .add)
  | update (s : IngressController σ ρ) (old cur : Ingress σ)
      (h : s.store.lookup (env.keyFunc cur.name cur.«namespace») = some old)
      (hrun : s.stopped = false) :
      IngressStep env n s
        (let s' := { s with store := s.store.insert (env.keyFunc cur.name cur.«namespace») cur }
         if old = cur then s' else s'.push (.ingress cur) .update)
  | delete (s : IngressController σ ρ) (obj : Ingress σ)
      (h : s.store.lookup (env.keyFunc obj.name obj.«namespace») = some obj)
      (hrun : s.stopped = false) :
      IngressStep env n s
        ({ s with store := s.store.erase (env.keyFunc obj.name obj.«namespace») }.push
          (.ingress obj) .delete)
  | deleteTombstone (s : IngressController σ ρ) (obj : Ingress σ)
      (h : s.store.lookup (env.keyFunc obj.name obj.«namespace») = some obj)
      (hrun : s.stopped = false) :
      IngressStep env n s
        ({ s with store := s.store.erase (env.keyFunc obj.name obj.«namespace») }.push
          (.tombstone (env.keyFunc obj.name obj.«namespace») obj) .delete)
  | sync (s : IngressController σ ρ) (hrun : s.stopped = false) :
      IngressStep env n s { s with synced := true }
  | retry (s : IngressController σ ρ) (pre post : List (Task σ)) (task : Task σ)
      (h : s.retrying = pre ++ task :: post) :
      IngressStep env n s { s with retrying := pre ++ post, queue := s.queue ++ [task] }
  | process (s : IngressController σ ρ) (task : Task σ) (rest : List (Task σ))
      (hq : s.queue = task :: rest) (hc : s.crashed = false) (hrun : s.stopped = false) :
      IngressStep env n s (s.process env n task rest)
  | shutdown (s : IngressController σ ρ) : IngressStep env n s { s with stopped := true }

namespace IngressController

def TaskInv (s : IngressController σ ρ) : Prop :=
  Bookkeeping (s.queue ++ s.retrying) s.delivered s.notified.length ∧
    (s.synced = false → s.delivered = [])

theorem taskInv_init : TaskInv (init : IngressController σ ρ) :=
  ⟨⟨by simp [init], by simp [init], by simp [init], by simp [init], by simp [init]⟩, fun _ => rfl⟩

theorem TaskInv.push {s : IngressController σ ρ} (hi : TaskInv s) (obj : InformerObject σ)
    (event : Event) : TaskInv (s.push obj event) := by
  refine ⟨?_, hi.2⟩
  simp only [IngressController.push, List.length_append, List.length_singleton, List.append_assoc,
    List.singleton_append]
  exact (hi.1.push obj event).perm List.perm_middle.symm

theorem process_delivered (env : IngressEnv σ ρ) (n : Nat) (s : IngressController σ ρ)
    (task : Task σ) (rest : List (Task σ)) :
    (s.process env n task rest).delivered =
      s.delivered ++ (chainApply task.obj task.event (env.chain s.synced n)).1.map (task.id, ·) := by
  simp only [IngressController.process]
  split <;> rfl

theorem TaskInv.process (env : IngressEnv σ ρ) (n : Nat) {s : IngressController σ ρ}
    {task : Task σ} {rest : List (Task σ)} (hi : TaskInv s) (hq : s.queue = task :: rest) :
    TaskInv (s.process env n task rest) := by
  have hb : Bookkeeping (task :: (rest ++ s.retrying)) s.delivered s.notified.length := by
    simpa [hq] using hi.1
  have hnd := env.chainApply_chain_nodup s.synced task.obj task.event n
  have hquiet : s.synced = false →
      (chainApply task.obj task.event (env.chain s.synced n)) = ([], .error _) := fun h => by
    rw [h]; exact env.chainApply_unsynced task.obj task.event n
  simp only [IngressController.process]
  split
  case h_2 msg hst =>
    obtain ⟨hs, h1⟩ := env.chainApply_chain_error hst
    refine ⟨?_, fun _ => by simp [h1, hi.2 hs]⟩
    rw [h1, List.map_nil, List.append_nil, ← List.append_assoc]
    exact hb.perm (List.perm_append_singleton _ _).symm
  all_goals next hst => exact ⟨hb.deliver hnd, fun hs => by simp [hquiet hs] at hst⟩

end IngressController

open IngressController

variable [DecidableEq σ] {env : IngressEnv σ ρ} {n : Nat}

theorem IngressStep.taskInv {s t : IngressController σ ρ} (h : IngressStep env n s t)
    (hi : TaskInv s) : TaskInv t := by
  cases h with
  | add => exact TaskInv.push hi _ _
  | update _ old cur =>
    dsimp only
    split
    · exact hi
    · exact TaskInv.push hi _ _
  | delete => exact TaskInv.push hi _ _
  | deleteTombstone => exact TaskInv.push hi _ _
  | sync => exact ⟨hi.1, fun h => by simp at h⟩
  | retry pre post task h =>
    refine ⟨hi.1.perm ?_, hi.2⟩
    rw [h, List.append_assoc, List.singleton_append]
    exact List.perm_middle.append_left s.queue
  | process task rest hq => exact hi.process env n hq
  | shutdown => exact hi

theorem IngressStep.synced_of_delivered_ne {s t : IngressController σ ρ} (h : IngressStep env n s t)
    (hd : t.delivered ≠ s.delivered) : s.synced = true := by
  by_contra hs
  apply hd
  cases h with
  | update => dsimp only; split <;> rfl
  | process task rest =>
    rw [process_delivered, Bool.eq_false_iff.mpr hs, IngressEnv.chainApply_unsynced]
    simp
  | _ => rfl

/-- In every run of the controller, under any interleaving of notifications, sync, retries
and worker steps, no registered function is called before the informer has synced, and each
pushed task calls each registered function at most once per derived rule. -/
theorem registered_calls_gated_and_unique {s : IngressController σ ρ}
    (hs : Relation.ReflTransGen (IngressStep env n) init s) :
    (∀ t, IngressStep env n s t → t.delivered ≠ s.delivered → s.synced = true) ∧
      (s.delivered.map fun d => (d.1, d.2.handler, d.2.config.key)).Nodup := by
  have hi : TaskInv s := by
    induction hs with
    | refl => exact taskInv_init
    | tail _ hst ih => exact hst.taskInv ih
  exact ⟨fun _ h hd => h.synced_of_delivered_ne hd, hi.1.delivered_nodup⟩

theorem registered_calls_gated_and_unique_after_add :
    ∃ s, Relation.ReflTransGen (IngressStep nameKeyedEnv 1) init s ∧ s.delivered.length = 1 ∧
      (∀ t, IngressStep nameKeyedEnv 1 s t → t.delivered ≠ s.delivered → s.synced = true) ∧
        (s.delivered.map fun d => (d.1, d.2.handler, d.2.config.key)).Nodup := by
  have hs : Relation.ReflTransGen (IngressStep nameKeyedEnv 1) init _ :=
    .tail (.tail (.tail .refl (.add _ ⟨"a", "default", "7", "backend"⟩ rfl rfl)) (.sync _ rfl))
      (.process _ _ _ rfl rfl rfl)
  exact ⟨_, hs, rfl, registered_calls_gated_and_unique hs⟩

theorem StringMap.lookup_insert_self {β : Type} (m : StringMap β) (key : String) (v : β) :
    (m.insert key v).lookup key = some v := by
  simp [StringMap.insert, StringMap.lookup, List.find?_append, List.find?_filter]

/-- Once synced, a deletion that the watch missed, handed to `DeleteFunc` as a tombstone, makes
the first registered function's type assertion panic and stops the process. -/
theorem tombstone_delete_crashes (env : IngressEnv σ ρ) (obj : Ingress σ) :
    ∃ s, Relation.ReflTransGen (IngressStep env 1) init s ∧ s.crashed = true := by
  refine ⟨_, .tail (.tail (.tail (.tail (.tail .refl (.add _ obj rfl rfl)) (.sync _ rfl))
    (.process _ _ _ rfl rfl rfl)) (.deleteTombstone _ obj ?_ rfl))
    (.process _ _ _ rfl ?_ rfl), ?_⟩
  · simp [IngressController.process, IngressController.push, StringMap.lookup_insert_self,
      IngressEnv.chainApply_synced_ingress]
  · simp [IngressController.process, IngressController.push, IngressEnv.chainApply_synced_ingress,
      IngressController.init]
  · simp [IngressController.process, IngressController.push, IngressEnv.chainApply_synced_ingress,
      IngressEnv.chainApply_synced_tombstone]

end Pilot
