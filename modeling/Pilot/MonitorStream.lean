import Pilot.Monitor

/-! What a handler of the polling monitor can rely on: each event applies to the map the
earlier events of its type built, so a consumer keeping that map never receives an add for a
key it holds, an update that changes nothing, or a delete of a record it does not hold. -/

namespace Pilot

variable {α : Type}

/-- An event a consumer holding the key-to-record map `m` can take as announced: an add at a
free key, an update that changes the record held, a delete of exactly the record held. -/
def Applicable (m : String → Option (Config α)) : Config α × Event → Prop
  | (c, .add) => m c.key = none
  | (c, .update) => ∃ o, m c.key = some o ∧ o ≠ c
  | (c, .delete) => m c.key = some c

def Coherent (m : String → Option (Config α)) : List (Config α × Event) → Prop
  | [] => True
  | e :: es => Applicable m e ∧ Coherent (applyEvent m e) es

theorem applicable_congr {m m' : String → Option (Config α)} {e : Config α × Event}
    (h : m e.1.key = m' e.1.key) (ha : Applicable m e) : Applicable m' e := by
  obtain ⟨c, _ | _ | _⟩ := e <;> simpa only [Applicable, ← h] using ha

theorem coherent_append (m : String → Option (Config α)) (l r : List (Config α × Event)) :
    Coherent m (l ++ r) ↔ Coherent m l ∧ Coherent (replay m l) r := by
  induction l generalizing m with
  | nil => simp [Coherent]
  | cons e l ih => simp [Coherent, ih, and_assoc]

theorem coherent_of_pairwise {m : String → Option (Config α)} {evs : List (Config α × Event)}
    (hd : evs.Pairwise (fun a b => a.1.key ≠ b.1.key)) (ha : ∀ e ∈ evs, Applicable m e) :
    Coherent m evs := by
  induction evs generalizing m with
  | nil => trivial
  | cons e es ih =>
    obtain ⟨hne, hd⟩ := List.pairwise_cons.mp hd
    exact ⟨ha e (List.mem_cons_self _ _), ih hd fun e' he' => applicable_congr
      (Function.update_noteq (hne e' he').symm _ _).symm (ha e' (List.mem_cons_of_mem _ he'))⟩

section

variable [DecidableEq α]

theorem applicable_of_keyEvent {oldRec newRec : List (Config α)} {k : String}
    {e : Config α × Event} (h : keyEvent oldRec newRec k = some e) :
    Applicable (lookupKey oldRec) e := by
  have hk := (keyEvent_spec h).1
  unfold keyEvent at h
  split at h
  · next o ho _ =>
    cases h
    show lookupKey oldRec o.key = some o
    rwa [show o.key = k from hk]
  · next n ho _ =>
    cases h
    show lookupKey oldRec n.key = none
    rwa [show n.key = k from hk]
  · next o n ho _ =>
    split at h
    · cases h
    · next hne =>
      cases h
      exact ⟨o, (show n.key = k from hk) ▸ ho, hne⟩
  · cases h

theorem coherent_mergeDiff {os ns : List (Config α)} (hos : KeySorted os) (hns : KeySorted ns) :
    Coherent (lookupKey os) (mergeDiff os ns) :=
  coherent_of_pairwise ((mergeDiff_sorted os ns hos hns).imp ne_of_lt)
    fun _ he => applicable_of_keyEvent ((mem_mergeDiff_iff hos hns).mp he)

def StreamsCoherent (m : ConfigsMonitor α) (log : List (Dispatch α)) : Prop :=
  CacheReplays m log ∧ ∀ k, Coherent (fun _ => none) (dispatchedFor k log)

theorem streamsCoherent_setRecord {m : ConfigsMonitor α} {log : List (Dispatch α)}
    (hi : StreamsCoherent m log) (typ : String) {newRecord : List (Config α)}
    (hn : KeySorted newRecord) :
    StreamsCoherent (m.setRecord typ newRecord)
      (log ++ (mergeDiff (m.configCachedRecord typ) newRecord).map (typ, ·)) := by
  refine ⟨cacheReplays_setRecord hi.1 typ hn, fun k => ?_⟩
  rw [dispatchedFor_append, dispatchedFor_map, coherent_append]
  refine ⟨hi.2 k, ?_⟩
  split_ifs with hk
  · subst hk
    obtain ⟨hs, hr⟩ := hi.1 typ
    rw [hr]
    exact coherent_mergeDiff hs hn
  · trivial

/-- In every run of the monitor from `NewConfigsMonitor` over listings with distinct keys, the
handlers of each type receive a coherent stream: every add is at a key not held, every update
replaces a different record, and every delete carries exactly the record held, where "held" is
what the earlier events of that type leave. -/
theorem runTicks_streams_coherent (types : List String) (ticks : List (Listing α))
    (hs : ∀ store ∈ ticks, DistinctKeys store) :
    ∃ m log, runTicks types newConfigsMonitor ticks = some (m, log) ∧
      ∀ k, Coherent (fun _ => none) (dispatchedFor k log) := by
  obtain ⟨m, log, h, hi⟩ := runTicks_preserves StreamsCoherent
    (fun typ hi hn => streamsCoherent_setRecord hi typ hn) types hs
    (show StreamsCoherent (newConfigsMonitor (α := α)) [] from
      ⟨fun _ => ⟨List.Pairwise.nil, rfl⟩, fun _ => trivial⟩)
  exact ⟨m, log, h, hi.2⟩

theorem runTicks_streams_coherent_add_then_update :
    (∀ store ∈ [(fun _ => .ok [⟨"route-rule", "a", "1", "v1"⟩]),
        (fun _ => .ok [⟨"route-rule", "a", "2", "v2"⟩])], DistinctKeys (α := String) store) ∧
    ∃ m log, runTicks ["route-rule"] newConfigsMonitor
        [(fun _ => .ok [⟨"route-rule", "a", "1", "v1"⟩]),
          (fun _ => .ok [⟨"route-rule", "a", "2", "v2"⟩])] = some (m, log) ∧
      ∀ k, Coherent (fun _ => none) (dispatchedFor k log) := by
  have hs : ∀ store ∈ [(fun _ => .ok [⟨"route-rule", "a", "1", "v1"⟩]),
      (fun _ => .ok [⟨"route-rule", "a", "2", "v2"⟩])], DistinctKeys (α := String) store := by
    simp only [List.mem_cons, List.mem_singleton, List.not_mem_nil, or_false]
    rintro store (rfl | rfl) typ configs h <;> cases h <;> simp
  exact ⟨hs, runTicks_streams_coherent _ _ hs⟩

end

end Pilot
