import Pilot.DiffSpec

/-! The polling monitor of `adapter/config/memory`: its cache of snapshots, one tick of
`UpdateConfigRecord`, and runs of ticks from `NewConfigsMonitor`. -/

namespace Pilot

variable {α : Type}

/-- `Configs.normalize`, a `sort.Slice` by key. That sort is not stable; merge sort is one of
its results, and the only one when the keys are distinct. -/
def normalize (list : List (Config α)) : List (Config α) :=
  list.mergeSort (fun a b => a.key ≤ b.key)

structure ConfigsMonitor (α : Type) where
  configCachedRecord : String → List (Config α)

def newConfigsMonitor : ConfigsMonitor α := ⟨fun _ => []⟩

def ConfigsMonitor.setRecord (m : ConfigsMonitor α) (typ : String)
    (newRecord : List (Config α)) : ConfigsMonitor α :=
  ⟨Function.update m.configCachedRecord typ newRecord⟩

abbrev Listing (α : Type) := String → Except String (List (Config α))

abbrev Dispatch (α : Type) := String × Config α × Event

section

variable [DecidableEq α]

/-- `UpdateConfigRecord`, over the type names of `model.IstioConfigTypes`: the calls to
`applyHandlers` in order and the state after, or `none` for a runtime panic. A failed `List`
returns from the whole tick. -/
def updateConfigRecord (store : Listing α) :
    List String → ConfigsMonitor α → Option (ConfigsMonitor α × List (Dispatch α))
  | [], m => some (m, [])
  | typ :: rest, m =>
    match store typ with
    | .error _ => some (m, [])
    | .ok configs => do
      let newRecord := normalize configs
      let evs ← compareToCache (m.configCachedRecord typ) newRecord
      let (m', out) ← updateConfigRecord store rest (m.setRecord typ newRecord)
      pure (m', evs.map (typ, ·) ++ out)

def runTicks (types : List String) (m : ConfigsMonitor α) :
    List (Listing α) → Option (ConfigsMonitor α × List (Dispatch α))
  | [] => some (m, [])
  | store :: ticks => do
    let (m', out) ← updateConfigRecord store types m
    let (m'', out') ← runTicks types m' ticks
    pure (m'', out ++ out')

end

def dispatchedFor (k : String) (log : List (Dispatch α)) : List (Config α × Event) :=
  log.filterMap (fun d => if d.1 = k then some d.2 else none)

def DistinctKeys (store : Listing α) : Prop :=
  ∀ typ configs, store typ = .ok configs → (configs.map (·.key)).Nodup

def CacheReplays (m : ConfigsMonitor α) (log : List (Dispatch α)) : Prop :=
  ∀ k, KeySorted (m.configCachedRecord k) ∧
    replay (fun _ => none) (dispatchedFor k log) = lookupKey (m.configCachedRecord k)

@[simp] theorem setRecord_same (m : ConfigsMonitor α) (typ : String) (r : List (Config α)) :
    (m.setRecord typ r).configCachedRecord typ = r :=
  Function.update_same _ _ _

theorem setRecord_ne (m : ConfigsMonitor α) {typ k : String} (h : k ≠ typ) (r : List (Config α)) :
    (m.setRecord typ r).configCachedRecord k = m.configCachedRecord k :=
  Function.update_noteq h _ _

@[simp] theorem dispatchedFor_append (k : String) (l r : List (Dispatch α)) :
    dispatchedFor k (l ++ r) = dispatchedFor k l ++ dispatchedFor k r :=
  List.filterMap_append _ _ _

theorem dispatchedFor_map (k typ : String) (evs : List (Config α × Event)) :
    dispatchedFor k (evs.map (typ, ·)) = if typ = k then evs else [] := by
  split <;> simp [dispatchedFor, List.filterMap_map, Function.comp_def, *]

theorem normalize_sorted {configs : List (Config α)} (h : (configs.map (·.key)).Nodup) :
    KeySorted (normalize configs) := by
  have hle := @List.sorted_mergeSort _ (fun a b : Config α => decide (a.key ≤ b.key))
    (fun _ _ _ h₁ h₂ => by simp only [decide_eq_true_eq] at *; exact le_trans h₁ h₂)
    (fun a b => by simpa using le_total a.key b.key) configs
  have hp : (normalize configs).Perm configs := List.mergeSort_perm _ _
  have hne : (normalize configs).Pairwise (fun a b => a.key ≠ b.key) :=
    List.pairwise_map.mp ((hp.map Config.key).nodup_iff.mpr h)
  exact (hle.and hne).imp fun ⟨h₁, h₂⟩ => lt_of_le_of_ne (of_decide_eq_true h₁) h₂

/-- On a listing with distinct keys, every permutation sorted by key is `normalize`'s result:
`sort.Slice`, which is not stable, returns the same snapshot as the merge sort. -/
theorem eq_normalize_of_perm_keySorted {configs sorted : List (Config α)}
    (h : (configs.map (·.key)).Nodup) (hp : sorted.Perm configs) (hs : KeySorted sorted) :
    sorted = normalize configs :=
  haveI : IsAntisymm (Config α) (fun a b => a.key < b.key) :=
    ⟨fun _ _ h₁ h₂ => absurd (h₁.trans h₂) (lt_irrefl _)⟩
  List.eq_of_perm_of_sorted (hp.trans (List.mergeSort_perm _ _).symm) hs (normalize_sorted h)

theorem eq_normalize_of_perm_keySorted_two :
    (([⟨"route-rule", "b", "1", "v"⟩, ⟨"route-rule", "a", "1", "v"⟩] : List (Config String)).map
        (·.key)).Nodup ∧
      ([⟨"route-rule", "a", "1", "v"⟩, ⟨"route-rule", "b", "1", "v"⟩] : List (Config String)).Perm
        [⟨"route-rule", "b", "1", "v"⟩, ⟨"route-rule", "a", "1", "v"⟩] ∧
      KeySorted ([⟨"route-rule", "a", "1", "v"⟩, ⟨"route-rule", "b", "1", "v"⟩] :
        List (Config String)) ∧
      [⟨"route-rule", "a", "1", "v"⟩, ⟨"route-rule", "b", "1", "v"⟩] =
        normalize ([⟨"route-rule", "b", "1", "v"⟩, ⟨"route-rule", "a", "1", "v"⟩] :
          List (Config String)) := by
  have hs : KeySorted ([⟨"route-rule", "a", "1", "v"⟩, ⟨"route-rule", "b", "1", "v"⟩] :
      List (Config String)) := by
    simp only [KeySorted, List.pairwise_pair, String.lt_iff_toList_lt]; decide
  exact ⟨by decide, by decide, hs, eq_normalize_of_perm_keySorted (by decide) (by decide) hs⟩

section

variable [DecidableEq α]

theorem cacheReplays_setRecord {m : ConfigsMonitor α} {log : List (Dispatch α)}
    (hi : CacheReplays m log) (typ : String) {newRecord : List (Config α)}
    (hn : KeySorted newRecord) :
    CacheReplays (m.setRecord typ newRecord)
      (log ++ (mergeDiff (m.configCachedRecord typ) newRecord).map (typ, ·)) := by
  intro k
  by_cases hk : k = typ
  · subst hk
    obtain ⟨hs, hr⟩ := hi k
    rw [setRecord_same, dispatchedFor_append, dispatchedFor_map, if_pos rfl, replay_append, hr]
    exact ⟨hn, replay_mergeDiff _ _ hs hn⟩
  · rw [setRecord_ne m hk, dispatchedFor_append, dispatchedFor_map, if_neg (Ne.symm hk),
      List.append_nil]
    exact hi k

theorem updateConfigRecord_preserves (P : ConfigsMonitor α → List (Dispatch α) → Prop)
    (hstep : ∀ {m log newRecord} (typ : String), P m log → KeySorted newRecord →
      P (m.setRecord typ newRecord)
        (log ++ (mergeDiff (m.configCachedRecord typ) newRecord).map (typ, ·)))
    {store : Listing α} (hs : DistinctKeys store) (types : List String)
    {m : ConfigsMonitor α} {log : List (Dispatch α)} (hi : P m log) :
    ∃ m' out, updateConfigRecord store types m = some (m', out) ∧ P m' (log ++ out) := by
  induction types generalizing m log with
  | nil => exact ⟨m, [], rfl, by rwa [List.append_nil]⟩
  | cons typ rest ih =>
    cases h : store typ with
    | error err => exact ⟨m, [], by simp [updateConfigRecord, h], by rwa [List.append_nil]⟩
    | ok configs =>
      obtain ⟨m', out, hu, hi'⟩ := ih (hstep typ hi (normalize_sorted (hs typ configs h)))
      refine ⟨m', (mergeDiff (m.configCachedRecord typ) (normalize configs)).map (typ, ·) ++ out,
        ?_, by rwa [← List.append_assoc]⟩
      simp [updateConfigRecord, h, compareToCache_eq_mergeDiff, hu]

theorem runTicks_preserves (P : ConfigsMonitor α → List (Dispatch α) → Prop)
    (hstep : ∀ {m log newRecord} (typ : String), P m log → KeySorted newRecord →
      P (m.setRecord typ newRecord)
        (log ++ (mergeDiff (m.configCachedRecord typ) newRecord).map (typ, ·)))
    (types : List String) {ticks : List (Listing α)} (hs : ∀ store ∈ ticks, DistinctKeys store)
    {m : ConfigsMonitor α} {log : List (Dispatch α)} (hi : P m log) :
    ∃ m' out, runTicks types m ticks = some (m', out) ∧ P m' (log ++ out) := by
  induction ticks generalizing m log with
  | nil => exact ⟨m, [], rfl, by rwa [List.append_nil]⟩
  | cons store ticks ih =>
    obtain ⟨m₁, out₁, hu, hi₁⟩ :=
      updateConfigRecord_preserves P hstep (hs store (List.mem_cons_self _ _)) types hi
    obtain ⟨m₂, out₂, hr, hi₂⟩ := ih (fun s hs' => hs s (List.mem_cons_of_mem _ hs')) hi₁
    exact ⟨m₂, out₁ ++ out₂, by simp [runTicks, hu, hr], by rwa [← List.append_assoc]⟩

/-- Every run of the monitor from `NewConfigsMonitor`, over ticks whose successful listings
have distinct keys, completes; afterwards every cached snapshot is strictly sorted by key, and
replaying over the empty map the events handed to `applyHandlers` for its type gives the
snapshot's key-to-record map. -/
theorem runTicks_replay_eq_cache (types : List String) (ticks : List (Listing α))
    (hs : ∀ store ∈ ticks, DistinctKeys store) :
    ∃ m log, runTicks types newConfigsMonitor ticks = some (m, log) ∧
      ∀ k, KeySorted (m.configCachedRecord k) ∧
        replay (fun _ => none) (dispatchedFor k log) = lookupKey (m.configCachedRecord k) := by
  obtain ⟨m, log, h, hi⟩ := runTicks_preserves CacheReplays
    (fun typ hi hn => cacheReplays_setRecord hi typ hn) types hs
    (show CacheReplays (newConfigsMonitor (α := α)) [] from fun _ => ⟨List.Pairwise.nil, rfl⟩)
  rw [List.nil_append] at hi
  exact ⟨m, log, h, hi⟩

theorem runTicks_replay_eq_cache_two_ticks :
    (∀ store ∈ [(fun _ => .ok [⟨"route-rule", "a", "1", "v1"⟩]), (fun _ => .ok [])],
      DistinctKeys (α := String) store) ∧
    ∃ m log, runTicks ["route-rule"] newConfigsMonitor
        [(fun _ => .ok [⟨"route-rule", "a", "1", "v1"⟩]), (fun _ => .ok [])] = some (m, log) ∧
      ∀ k, KeySorted (m.configCachedRecord k) ∧
        replay (fun _ => none) (dispatchedFor k log) = lookupKey (m.configCachedRecord k) := by
  have hs : ∀ store ∈ [(fun _ => .ok [⟨"route-rule", "a", "1", "v1"⟩]), (fun _ => .ok [])],
      DistinctKeys (α := String) store := by
    simp only [List.mem_cons, List.mem_singleton, List.not_mem_nil, or_false]
    rintro store (rfl | rfl) typ configs h <;> cases h <;> simp
  exact ⟨hs, runTicks_replay_eq_cache _ _ hs⟩

theorem updateConfigRecord_of_error {store : Listing α} (typ err : String)
    (h : store typ = .error err) (rest : List String) (m : ConfigsMonitor α) :
    updateConfigRecord store (typ :: rest) m = some (m, []) := by
  simp [updateConfigRecord, h]

/-- With `route-rule` failing and `destination-policy` listing one record, the tick hands out
nothing and caches nothing for `destination-policy`, though the diff of its snapshot is one add. -/
theorem updateConfigRecord_skips_kinds_after_failure :
    updateConfigRecord
        (fun typ => if typ = "route-rule" then .error "unavailable"
          else if typ = "destination-policy" then
            .ok [{ type := "destination-policy", key := "reviews", revision := "1", content := "v1" }]
          else .ok [])
        ["route-rule", "ingress-rule", "destination-policy"] newConfigsMonitor =
      some (newConfigsMonitor, []) ∧
    compareToCache [] (normalize
        [({ type := "destination-policy", key := "reviews", revision := "1", content := "v1" } :
          Config String)]) =
      some [({ type := "destination-policy", key := "reviews", revision := "1", content := "v1" },
        .add)] :=
  ⟨updateConfigRecord_of_error "route-rule" "unavailable" (by simp) _ _,
    by simp [compareToCache_eq_mergeDiff, normalize, mergeDiff]⟩

end

end Pilot
