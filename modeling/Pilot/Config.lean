import Mathlib.Data.String.Basic
import Mathlib.Logic.Function.Basic

/-! The configuration record of `model.Config`, its change events, and the
key-indexed view that a stream of events is replayed into. -/

namespace Pilot

inductive Event where
  | add
  | update
  | delete
  deriving DecidableEq, Repr

structure Config (α : Type) where
  type : String
  key : String
  revision : String
  content : α
  deriving DecidableEq, Repr

variable {α : Type}

def KeySorted (l : List (Config α)) : Prop :=
  l.Pairwise (fun a b => a.key < b.key)

theorem KeySorted.of_cons {c : Config α} {l : List (Config α)} (h : KeySorted (c :: l)) :
    KeySorted l :=
  List.Pairwise.of_cons h

def lookupKey (l : List (Config α)) (k : String) : Option (Config α) :=
  l.find? (fun c => c.key = k)

def effect : Config α × Event → Option (Config α)
  | (c, .add) => some c
  | (c, .update) => some c
  | (_, .delete) => none

def applyEvent (m : String → Option (Config α)) (e : Config α × Event) :
    String → Option (Config α) :=
  Function.update m e.1.key (effect e)

def replay (m : String → Option (Config α)) (evs : List (Config α × Event)) :
    String → Option (Config α) :=
  evs.foldl applyEvent m

@[simp] theorem replay_nil (m : String → Option (Config α)) : replay m [] = m := rfl

@[simp] theorem replay_cons (m : String → Option (Config α)) (e : Config α × Event)
    (evs : List (Config α × Event)) : replay m (e :: evs) = replay (applyEvent m e) evs := rfl

theorem replay_append (m : String → Option (Config α)) (l r : List (Config α × Event)) :
    replay m (l ++ r) = replay (replay m l) r :=
  List.foldl_append _ _ _ _

theorem replay_of_forall_ne {k : String} (m : String → Option (Config α))
    {evs : List (Config α × Event)} (h : ∀ e ∈ evs, e.1.key ≠ k) : replay m evs k = m k := by
  induction evs generalizing m with
  | nil => rfl
  | cons x xs ih =>
    rw [replay_cons, ih _ (fun e he => h e (List.mem_cons_of_mem x he))]
    exact Function.update_noteq (h x (List.mem_cons_self x xs)).symm _ _

theorem replay_of_mem (m : String → Option (Config α)) {evs : List (Config α × Event)}
    (hd : evs.Pairwise (fun a b => a.1.key ≠ b.1.key)) {e : Config α × Event} (he : e ∈ evs) :
    replay m evs e.1.key = effect e := by
  induction evs generalizing m with
  | nil => simp at he
  | cons x xs ih =>
    have hx := List.pairwise_cons.mp hd
    rw [replay_cons]
    rcases List.mem_cons.mp he with rfl | he
    · rw [replay_of_forall_ne _ (fun y hy => (hx.1 y hy).symm)]
      exact Function.update_same _ _ _
    · exact ih _ hx.2 he

theorem lookupKey_eq_none {l : List (Config α)} {k : String} :
    lookupKey l k = none ↔ ∀ c ∈ l, c.key ≠ k := by
  simp [lookupKey]

theorem lookupKey_spec {l : List (Config α)} {k : String} {c : Config α}
    (h : lookupKey l k = some c) : c ∈ l ∧ c.key = k :=
  ⟨List.mem_of_find?_eq_some h, by simpa using List.find?_some h⟩

theorem lookupKey_cons_of_ne {c : Config α} {l : List (Config α)} {k : String}
    (h : c.key ≠ k) : lookupKey (c :: l) k = lookupKey l k := by
  simp [lookupKey, h]

theorem lookupKey_eq_none_of_lt {c : Config α} {l : List (Config α)} {k : String}
    (hs : KeySorted (c :: l)) (hk : k ≤ c.key) : lookupKey l k = none :=
  lookupKey_eq_none.mpr fun _ hx => ne_of_gt (lt_of_le_of_lt hk (List.rel_of_pairwise_cons hs hx))

theorem lookupKey_eq_none_of_lt_head {c : Config α} {l : List (Config α)} {k : String}
    (hs : KeySorted (c :: l)) (hk : k < c.key) : lookupKey (c :: l) k = none := by
  rw [lookupKey_cons_of_ne (ne_of_gt hk), lookupKey_eq_none_of_lt hs hk.le]

@[simp] theorem lookupKey_nil (k : String) : lookupKey ([] : List (Config α)) k = none := rfl

@[simp] theorem lookupKey_cons_self (c : Config α) (l : List (Config α)) :
    lookupKey (c :: l) c.key = some c := by
  simp [lookupKey]

theorem filter_key_eq_lookupKey {l : List (Config α)} (hs : KeySorted l) (k : String) :
    l.filter (fun c => c.key = k) = (lookupKey l k).toList := by
  induction l with
  | nil => rfl
  | cons x xs ih =>
    by_cases hx : x.key = k
    · subst hx
      have hn := lookupKey_eq_none.mp (lookupKey_eq_none_of_lt hs le_rfl)
      simpa [lookupKey] using hn
    · simp [hx, ih (List.pairwise_cons.mp hs).2, lookupKey_cons_of_ne hx]

theorem filter_map_key_eq (l : List (Config α)) (hs : KeySorted l) (ev : Event) (k : String) :
    (l.map (·, ev)).filter (fun e => e.1.key = k) = ((lookupKey l k).map (·, ev)).toList := by
  rw [List.filter_map, Function.comp_def, filter_key_eq_lookupKey hs k]
  cases lookupKey l k <;> rfl

end Pilot
