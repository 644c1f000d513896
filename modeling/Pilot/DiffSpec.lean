import Pilot.CompareToCache
import Mathlib.Data.Finset.Sort

/-! The diff contract of the polling monitor, key by key: what a pair of snapshots says
about each key, and that the three-way merge says exactly that, in key order. -/

namespace Pilot

variable {α : Type} [DecidableEq α]

def keyEvent (oldRec newRec : List (Config α)) (k : String) : Option (Config α × Event) :=
  match lookupKey oldRec k, lookupKey newRec k with
  | some o, none => some (o, .delete)
  | none, some n => some (n, .add)
  | some o, some n => if o = n then none else some (n, .update)
  | none, none => none

def keyUnion (oldRec newRec : List (Config α)) : List String :=
  ((oldRec ++ newRec).map (·.key)).toFinset.sort (· ≤ ·)

/-- One event per key of either snapshot, in ascending key order. -/
def diffSpec (oldRec newRec : List (Config α)) : List (Config α × Event) :=
  (keyUnion oldRec newRec).filterMap (keyEvent oldRec newRec)

theorem keyEvent_cons_old {o : Config α} {os ns : List (Config α)} {k : String}
    (h : o.key ≠ k) : keyEvent (o :: os) ns k = keyEvent os ns k := by
  simp only [keyEvent, lookupKey_cons_of_ne h]

theorem keyEvent_cons_new {n : Config α} {os ns : List (Config α)} {k : String}
    (h : n.key ≠ k) : keyEvent os (n :: ns) k = keyEvent os ns k := by
  simp only [keyEvent, lookupKey_cons_of_ne h]

theorem filter_mergeDiff (os ns : List (Config α)) (hos : KeySorted os) (hns : KeySorted ns)
    (k : String) : (mergeDiff os ns).filter (fun e => e.1.key = k) = (keyEvent os ns k).toList := by
  induction os, ns using mergeDiff.induct with
  | case1 ns =>
    rw [mergeDiff, filter_map_key_eq ns hns]
    cases h : lookupKey ns k <;> simp [keyEvent, h]
  | case2 o os =>
    rw [mergeDiff_nil_right, filter_map_key_eq _ hos]
    cases h : lookupKey (o :: os) k <;> simp [keyEvent, h]
  | case3 os n ns ih =>
    rw [mergeDiff, if_pos rfl, ih hos.of_cons hns.of_cons]
    by_cases hk : n.key = k
    · subst hk
      simp [keyEvent, lookupKey_eq_none_of_lt hos le_rfl, lookupKey_eq_none_of_lt hns le_rfl]
    · rw [keyEvent_cons_old hk, keyEvent_cons_new hk]
  | case4 o os n ns he hk ih =>
    rw [mergeDiff, if_neg he, if_pos hk, List.filter_cons, ih hos.of_cons hns.of_cons]
    by_cases hnk : n.key = k
    · subst hnk
      have ho : lookupKey (o :: os) n.key = some o := hk ▸ lookupKey_cons_self o os
      simp [keyEvent, ho, he, lookupKey_eq_none_of_lt hos hk.ge,
        lookupKey_eq_none_of_lt hns le_rfl]
    · simp [hnk, keyEvent_cons_old (hk ▸ hnk : o.key ≠ k), keyEvent_cons_new hnk]
  | case5 o os n ns he hk hl ih =>
    rw [mergeDiff, if_neg he, if_neg hk, if_pos hl, List.filter_cons, ih hos.of_cons hns]
    by_cases hok : o.key = k
    · subst hok
      simp [keyEvent, lookupKey_eq_none_of_lt hos le_rfl, lookupKey_eq_none_of_lt_head hns hl]
    · simp [hok, keyEvent_cons_old hok]
  | case6 o os n ns he hk hl ih =>
    have hlt : n.key < o.key := lt_of_le_of_ne (not_lt.mp hl) (Ne.symm hk)
    rw [mergeDiff, if_neg he, if_neg hk, if_neg hl, List.filter_cons, ih hos hns.of_cons]
    by_cases hnk : n.key = k
    · subst hnk
      simp [keyEvent, lookupKey_eq_none_of_lt hns le_rfl, lookupKey_eq_none_of_lt_head hos hlt]
    · simp [hnk, keyEvent_cons_new hnk]

theorem keyEvent_eq_some {oldRec newRec : List (Config α)} {k : String} {e : Config α × Event}
    (h : keyEvent oldRec newRec k = some e) :
    (lookupKey oldRec k = some e.1 ∧ lookupKey newRec k = none ∧ e.2 = .delete) ∨
      (lookupKey newRec k = some e.1 ∧ e.2 ≠ .delete) := by
  unfold keyEvent at h
  split at h
  · cases h; exact .inl ⟨‹_›, ‹_›, rfl⟩
  · cases h; exact .inr ⟨‹_›, nofun⟩
  · split at h
    · cases h
    · cases h; exact .inr ⟨‹_›, nofun⟩
  · cases h

theorem keyEvent_spec {oldRec newRec : List (Config α)} {k : String} {e : Config α × Event}
    (h : keyEvent oldRec newRec k = some e) :
    e.1.key = k ∧ ((∃ c ∈ oldRec, c.key = k) ∨ ∃ c ∈ newRec, c.key = k) := by
  rcases keyEvent_eq_some h with ⟨ho, -⟩ | ⟨hn, -⟩
  · have := lookupKey_spec ho; exact ⟨this.2, .inl ⟨_, this⟩⟩
  · have := lookupKey_spec hn; exact ⟨this.2, .inr ⟨_, this⟩⟩

theorem mem_mergeDiff_iff {os ns : List (Config α)} (hos : KeySorted os) (hns : KeySorted ns)
    {e : Config α × Event} : e ∈ mergeDiff os ns ↔ keyEvent os ns e.1.key = some e := by
  have h := congrArg (e ∈ ·) (filter_mergeDiff os ns hos hns e.1.key)
  simpa using h

theorem lt_key_of_mem_mergeDiff {os ns : List (Config α)} (hos : KeySorted os)
    (hns : KeySorted ns) {k : String} (ho : ∀ c ∈ os, k < c.key) (hn : ∀ c ∈ ns, k < c.key)
    {e : Config α × Event} (he : e ∈ mergeDiff os ns) : k < e.1.key := by
  obtain ⟨-, ⟨c, hc, hce⟩ | ⟨c, hc, hce⟩⟩ := keyEvent_spec ((mem_mergeDiff_iff hos hns).mp he)
  · exact hce ▸ ho c hc
  · exact hce ▸ hn c hc

theorem mergeDiff_sorted (os ns : List (Config α)) (hos : KeySorted os) (hns : KeySorted ns) :
    (mergeDiff os ns).Pairwise (fun a b => a.1.key < b.1.key) := by
  induction os, ns using mergeDiff.induct with
  | case1 ns => rw [mergeDiff]; exact List.pairwise_map.mpr hns
  | case2 o os => rw [mergeDiff_nil_right]; exact List.pairwise_map.mpr hos
  | case3 os n ns ih => rw [mergeDiff, if_pos rfl]; exact ih hos.of_cons hns.of_cons
  | case4 o os n ns he hk ih =>
    rw [mergeDiff, if_neg he, if_pos hk]
    refine List.pairwise_cons.mpr ⟨fun e he' => ?_, ih hos.of_cons hns.of_cons⟩
    exact lt_key_of_mem_mergeDiff hos.of_cons hns.of_cons
      (fun c hc => hk ▸ List.rel_of_pairwise_cons hos hc) (fun c hc => List.rel_of_pairwise_cons hns hc) he'
  | case5 o os n ns he hk hl ih =>
    rw [mergeDiff, if_neg he, if_neg hk, if_pos hl]
    refine List.pairwise_cons.mpr ⟨fun e he' => ?_, ih hos.of_cons hns⟩
    exact lt_key_of_mem_mergeDiff hos.of_cons hns (fun c hc => List.rel_of_pairwise_cons hos hc)
      (fun c hc => (List.mem_cons.mp hc).elim (fun h => h ▸ hl)
        (fun hc => hl.trans (List.rel_of_pairwise_cons hns hc))) he'
  | case6 o os n ns he hk hl ih =>
    have hlt : n.key < o.key := lt_of_le_of_ne (not_lt.mp hl) (Ne.symm hk)
    rw [mergeDiff, if_neg he, if_neg hk, if_neg hl]
    refine List.pairwise_cons.mpr ⟨fun e he' => ?_, ih hos hns.of_cons⟩
    exact lt_key_of_mem_mergeDiff hos hns.of_cons
      (fun c hc => (List.mem_cons.mp hc).elim (fun h => h ▸ hlt)
        (fun hc => hlt.trans (List.rel_of_pairwise_cons hos hc)))
      (fun c hc => List.rel_of_pairwise_cons hns hc) he'

theorem eq_of_pairwise_key_lt {β : Type} {f : β → String} {l₁ l₂ : List β}
    (h₁ : l₁.Pairwise (fun a b => f a < f b)) (h₂ : l₂.Pairwise (fun a b => f a < f b))
    (h : ∀ x, x ∈ l₁ ↔ x ∈ l₂) : l₁ = l₂ := by
  have nodup {l : List β} (hl : l.Pairwise (fun a b => f a < f b)) : l.Nodup :=
    hl.imp fun hab => ne_of_apply_ne f (ne_of_lt hab)
  have : IsAntisymm β (fun a b => f a < f b) := ⟨fun _ _ hab hba => (lt_asymm hab hba).elim⟩
  exact List.eq_of_perm_of_sorted ((List.perm_ext_iff_of_nodup (nodup h₁) (nodup h₂)).mpr h) h₁ h₂

theorem diffSpec_sorted (oldRec newRec : List (Config α)) :
    (diffSpec oldRec newRec).Pairwise (fun a b => a.1.key < b.1.key) :=
  List.Pairwise.filterMap _ (fun _ _ h _ hb _ hb' => by
    rw [(keyEvent_spec hb).1, (keyEvent_spec hb').1]; exact h) (Finset.sort_sorted_lt _)

theorem mem_diffSpec_iff {oldRec newRec : List (Config α)} {e : Config α × Event} :
    e ∈ diffSpec oldRec newRec ↔ keyEvent oldRec newRec e.1.key = some e := by
  simp only [diffSpec, List.mem_filterMap]
  constructor
  · rintro ⟨k, -, hk⟩
    rwa [(keyEvent_spec hk).1]
  · intro h
    refine ⟨e.1.key, ?_, h⟩
    have hm : e.1.key ∈ (oldRec ++ newRec).map (·.key) := by
      obtain ⟨-, ⟨c, hc, hce⟩ | ⟨c, hc, hce⟩⟩ := keyEvent_spec h <;>
        exact List.mem_map.mpr ⟨c, by simp [hc], hce⟩
    simpa [keyUnion] using hm

/-- On strictly sorted snapshots, `compareToCache` hands to `applyHandlers` exactly one event
per key of either snapshot whose record changed, in ascending key order, and nothing else. -/
theorem compareToCache_eq_diffSpec (oldRec newRec : List (Config α))
    (ho : KeySorted oldRec) (hn : KeySorted newRec) :
    compareToCache oldRec newRec = some (diffSpec oldRec newRec) ∧
      ∀ k, ((diffSpec oldRec newRec).filter (fun e => e.1.key = k)).length ≤ 1 := by
  have h : mergeDiff oldRec newRec = diffSpec oldRec newRec :=
    eq_of_pairwise_key_lt (mergeDiff_sorted _ _ ho hn) (diffSpec_sorted _ _) fun e => by
      rw [mem_mergeDiff_iff ho hn, mem_diffSpec_iff]
  refine ⟨by rw [compareToCache_eq_mergeDiff, h], fun k => ?_⟩
  rw [← h, filter_mergeDiff _ _ ho hn]
  cases keyEvent oldRec newRec k <;> simp

theorem compareToCache_eq_diffSpec_interleaved :
    KeySorted [(⟨"route-rule", "a", "1", 1⟩ : Config Nat), ⟨"route-rule", "c", "1", 3⟩] ∧
    KeySorted [(⟨"route-rule", "b", "1", 2⟩ : Config Nat), ⟨"route-rule", "c", "1", 3⟩] ∧
    compareToCache [⟨"route-rule", "a", "1", 1⟩, ⟨"route-rule", "c", "1", 3⟩]
        [⟨"route-rule", "b", "1", 2⟩, ⟨"route-rule", "c", "1", 3⟩] =
      some (diffSpec [⟨"route-rule", "a", "1", 1⟩, ⟨"route-rule", "c", "1", 3⟩]
        [⟨"route-rule", "b", "1", 2⟩, ⟨"route-rule", "c", "1", 3⟩]) ∧
    ∀ k, ((diffSpec [⟨"route-rule", "a", "1", 1⟩, ⟨"route-rule", "c", "1", 3⟩]
        [⟨"route-rule", "b", "1", 2⟩, ⟨"route-rule", "c", "1", 3⟩]).filter
          (fun e => e.1.key = k)).length ≤ 1 := by
  have ho : KeySorted [(⟨"route-rule", "a", "1", 1⟩ : Config Nat), ⟨"route-rule", "c", "1", 3⟩] := by
    simp only [KeySorted, List.pairwise_pair, String.lt_iff_toList_lt]; decide
  have hn : KeySorted [(⟨"route-rule", "b", "1", 2⟩ : Config Nat), ⟨"route-rule", "c", "1", 3⟩] := by
    simp only [KeySorted, List.pairwise_pair, String.lt_iff_toList_lt]; decide
  exact ⟨ho, hn, compareToCache_eq_diffSpec _ _ ho hn⟩

theorem keyEvent_eq_none {oldRec newRec : List (Config α)} {k : String}
    (h : keyEvent oldRec newRec k = none) : lookupKey oldRec k = lookupKey newRec k := by
  unfold keyEvent at h
  split at h <;> simp_all

theorem effect_of_keyEvent {oldRec newRec : List (Config α)} {k : String} {e : Config α × Event}
    (h : keyEvent oldRec newRec k = some e) : effect e = lookupKey newRec k := by
  obtain ⟨c, ev⟩ := e
  rcases keyEvent_eq_some h with ⟨-, hn, rfl⟩ | ⟨hn, hev⟩
  · rw [hn]; rfl
  · cases ev <;> simp_all [effect]

theorem replay_mergeDiff (os ns : List (Config α)) (hos : KeySorted os) (hns : KeySorted ns) :
    replay (lookupKey os) (mergeDiff os ns) = lookupKey ns := by
  funext k
  cases h : keyEvent os ns k with
  | none =>
    have hne : ∀ e ∈ mergeDiff os ns, e.1.key ≠ k := fun e he hk => by
      have := (mem_mergeDiff_iff hos hns).mp he
      rw [hk, h] at this
      cases this
    rw [replay_of_forall_ne _ hne, keyEvent_eq_none h]
  | some e =>
    have hk := (keyEvent_spec h).1
    have hd := (mergeDiff_sorted os ns hos hns).imp (fun h => ne_of_lt h)
    rw [← hk, replay_of_mem _ hd ((mem_mergeDiff_iff hos hns).mpr (hk ▸ h)), effect_of_keyEvent h, hk]

end Pilot
