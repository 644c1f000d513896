import Pilot.Config

/-! The cursor loop of `configsMonitor.compareToCache` as the source writes it, and the
three-way merge that it computes on every pair of snapshots. -/

namespace Pilot

variable {α β : Type} [DecidableEq α]

/-- Go's `xs[i]` at an `int` index; `none` is the index-out-of-range panic. -/
def goIndex (xs : List β) (i : Int) : Option β :=
  if 0 ≤ i then xs[i.toNat]? else none

def readFrom (xs : List β) (i : Int) : Option (List β) :=
  if 0 ≤ i then some (xs.drop i.toNat) else none

def compareRecords (o n : Config α) (i j : Int) : Option (Config α × Event) × Int × Int :=
  if o = n then
    (none, i + 1, j + 1)
  else if o.key = n.key then
    (some (n, .update), i + 1, j + 1)
  else if o.key < n.key then
    (some (o, .delete), i + 1, j - 1 + 1)
  else
    (some (n, .add), i - 1 + 1, j + 1)

def compareStep (oldRec newRec : List (Config α)) (i j : Int) :
    Option (Option (Config α × Event) × Int × Int) := do
  let o ← goIndex oldRec i
  let n ← goIndex newRec j
  pure (compareRecords o n i j)

def compareLoop (oldRec newRec : List (Config α)) :
    Nat → Int → Int → Option (List (Config α × Event) × Int × Int)
  | fuel, i, j =>
    if i < oldRec.length ∧ j < newRec.length then
      match fuel with
      | 0 => none
      | fuel + 1 => do
        let (e, i', j') ← compareStep oldRec newRec i j
        let (es, i'', j'') ← compareLoop oldRec newRec fuel i' j'
        pure (e.toList ++ es, i'', j'')
    else some ([], i, j)

def drainRest (oldRec newRec : List (Config α)) :
    List (Config α × Event) × Int × Int → Option (List (Config α × Event))
  | (es, i, j) => do
    let dels ← readFrom oldRec i
    let adds ← readFrom newRec j
    pure (es ++ dels.map (·, .delete) ++ adds.map (·, .add))

/-- `configsMonitor.compareToCache`: the `(config, event)` pairs handed to `applyHandlers`,
in order, or `none` for a runtime panic. The first loop is given `len(oldRec) + len(newRec)`
passes. -/
def compareToCache (oldRec newRec : List (Config α)) :
    Option (List (Config α × Event)) :=
  (compareLoop oldRec newRec (oldRec.length + newRec.length) 0 0).bind (drainRest oldRec newRec)

/-- The three-way merge of two snapshots: equal records are skipped, a shared key is an
update, and otherwise the smaller key is deleted (old side) or added (new side). -/
def mergeDiff : List (Config α) → List (Config α) → List (Config α × Event)
  | [], newRec => newRec.map (·, .add)
  | o :: os, [] => (o :: os).map (·, .delete)
  | o :: os, n :: ns =>
    if o = n then mergeDiff os ns
    else if o.key = n.key then (n, .update) :: mergeDiff os ns
    else if o.key < n.key then (o, .delete) :: mergeDiff os (n :: ns)
    else (n, .add) :: mergeDiff (o :: os) ns
termination_by os ns => os.length + ns.length

@[simp] theorem mergeDiff_nil_right (oldRec : List (Config α)) :
    mergeDiff oldRec [] = oldRec.map (·, .delete) := by
  cases oldRec <;> simp [mergeDiff]

theorem goIndex_natCast (xs : List β) {i : Nat} (h : i < xs.length) :
    goIndex xs (i : Int) = some xs[i] := by
  simp [goIndex, h, Int.natCast_nonneg]

section compareRecords

variable {o n : Config α} {i j : Int}

theorem compareRecords_same (h : o = n) : compareRecords o n i j = (none, i + 1, j + 1) :=
  if_pos h

theorem compareRecords_update (h : o ≠ n) (hk : o.key = n.key) :
    compareRecords o n i j = (some (n, .update), i + 1, j + 1) := by
  rw [compareRecords, if_neg h, if_pos hk]

theorem compareRecords_delete (h : o ≠ n) (hk : o.key ≠ n.key) (hl : o.key < n.key) :
    compareRecords o n i j = (some (o, .delete), i + 1, j) := by
  rw [compareRecords, if_neg h, if_neg hk, if_pos hl, Int.sub_add_cancel]

theorem compareRecords_add (h : o ≠ n) (hk : o.key ≠ n.key) (hl : ¬o.key < n.key) :
    compareRecords o n i j = (some (n, .add), i, j + 1) := by
  rw [compareRecords, if_neg h, if_neg hk, if_neg hl, Int.sub_add_cancel]

end compareRecords

theorem compareStep_natCast (oldRec newRec : List (Config α)) {i j : Nat}
    (hi : i < oldRec.length) (hj : j < newRec.length) :
    compareStep oldRec newRec i j = some (compareRecords oldRec[i] newRec[j] i j) := by
  simp only [compareStep, goIndex_natCast _ hi, goIndex_natCast _ hj, Option.some_bind]
  rfl

@[simp] theorem readFrom_natCast (xs : List β) (i : Nat) : readFrom xs (i : Int) = some (xs.drop i) := by
  simp [readFrom, Int.natCast_nonneg]

theorem compareStep_spec (oldRec newRec : List (Config α)) {i j : Nat}
    (hi : i < oldRec.length) (hj : j < newRec.length) :
    ∃ (e : Option (Config α × Event)) (i' j' : Nat),
      compareStep oldRec newRec i j = some (e, (i' : Int), (j' : Int)) ∧
      i' ≤ oldRec.length ∧ j' ≤ newRec.length ∧
      oldRec.length - i' + (newRec.length - j') < oldRec.length - i + (newRec.length - j) ∧
      e.toList ++ mergeDiff (oldRec.drop i') (newRec.drop j') =
        mergeDiff (oldRec.drop i) (newRec.drop j) := by
  have hdo := List.drop_eq_getElem_cons hi
  have hdn := List.drop_eq_getElem_cons hj
  rw [compareStep_natCast _ _ hi hj, hdo, hdn, mergeDiff]
  by_cases he : oldRec[i] = newRec[j]
  · refine ⟨none, i + 1, j + 1, ?_, hi, hj, by omega, by rw [if_pos he]; rfl⟩
    rw [compareRecords_same he]; push_cast; rfl
  by_cases hk : oldRec[i].key = newRec[j].key
  · refine ⟨some (newRec[j], .update), i + 1, j + 1, ?_, hi, hj, by omega, ?_⟩
    · rw [compareRecords_update he hk]; push_cast; rfl
    · rw [if_neg he, if_pos hk]; rfl
  by_cases hl : oldRec[i].key < newRec[j].key
  · refine ⟨some (oldRec[i], .delete), i + 1, j, ?_, hi, hj.le, by omega, ?_⟩
    · rw [compareRecords_delete he hk hl]; push_cast; rfl
    · rw [if_neg he, if_neg hk, if_pos hl, hdn]; rfl
  · refine ⟨some (newRec[j], .add), i, j + 1, ?_, hi.le, hj, by omega, ?_⟩
    · rw [compareRecords_add he hk hl]; push_cast; rfl
    · rw [if_neg he, if_neg hk, if_neg hl, hdo]; rfl

theorem compareLoop_spec (oldRec newRec : List (Config α)) (fuel : Nat) {i j : Nat}
    (hi : i ≤ oldRec.length) (hj : j ≤ newRec.length)
    (hf : oldRec.length - i + (newRec.length - j) ≤ fuel) :
    ∃ (es : List (Config α × Event)) (i' j' : Nat),
      compareLoop oldRec newRec fuel i j = some (es, (i' : Int), (j' : Int)) ∧
      (i' = oldRec.length ∨ j' = newRec.length) ∧ i' ≤ oldRec.length ∧ j' ≤ newRec.length ∧
      es ++ mergeDiff (oldRec.drop i') (newRec.drop j') =
        mergeDiff (oldRec.drop i) (newRec.drop j) := by
  induction fuel generalizing i j with
  | zero =>
    have hx : ¬((i : Int) < oldRec.length ∧ (j : Int) < newRec.length) := by omega
    exact ⟨[], i, j, by rw [compareLoop, if_neg hx], by omega, hi, hj, rfl⟩
  | succ fuel ih =>
    by_cases hx : (i : Int) < oldRec.length ∧ (j : Int) < newRec.length
    · obtain ⟨e, i', j', hs, hi', hj', hm, he⟩ := compareStep_spec oldRec newRec
        (i := i) (j := j) (by omega) (by omega)
      obtain ⟨es, i'', j'', hl, hend, hi'', hj'', hes⟩ := ih hi' hj' (by omega)
      refine ⟨e.toList ++ es, i'', j'', ?_, hend, hi'', hj'', ?_⟩
      · rw [compareLoop, if_pos hx]
        simp [hs, hl]
      · rw [List.append_assoc, hes, he]
    · exact ⟨[], i, j, by rw [compareLoop, if_neg hx], by omega, hi, hj, rfl⟩

theorem compareToCache_eq_mergeDiff (oldRec newRec : List (Config α)) :
    compareToCache oldRec newRec = some (mergeDiff oldRec newRec) := by
  obtain ⟨es, i, j, hl, hend, -, -, hes⟩ := compareLoop_spec oldRec newRec
    (oldRec.length + newRec.length) (i := 0) (j := 0) (Nat.zero_le _) (Nat.zero_le _) (by omega)
  change compareLoop oldRec newRec _ 0 0 = _ at hl
  rw [compareToCache, hl]
  rcases hend with rfl | rfl
  · simpa [drainRest, mergeDiff] using hes
  · simpa [drainRest] using hes

/-- The states of the first loop of `compareToCache`: after `k` passes from `io = in = 0` the
cursors are `i` and `j`. A pass runs only while both cursors are below the lengths, and reads
`oldRec[i]` and `newRec[j]`. -/
inductive CursorReach (oldRec newRec : List (Config α)) : Nat → Int → Int → Prop
  | start : CursorReach oldRec newRec 0 0 0
  | pass {k : Nat} {i j i' j' : Int} {e : Option (Config α × Event)} :
      CursorReach oldRec newRec k i j → i < oldRec.length → j < newRec.length →
      compareStep oldRec newRec i j = some (e, i', j') → CursorReach oldRec newRec (k + 1) i' j'

theorem compareStep_cursors {oldRec newRec : List (Config α)} {i j i' j' : Int}
    {e : Option (Config α × Event)} (h : compareStep oldRec newRec i j = some (e, i', j')) :
    i ≤ i' ∧ i' ≤ i + 1 ∧ j ≤ j' ∧ j' ≤ j + 1 ∧ i + j < i' + j' := by
  simp only [compareStep, Option.bind_eq_bind, Option.bind_eq_some, Option.pure_def,
    Option.some.injEq] at h
  obtain ⟨o, -, n, -, h⟩ := h
  unfold compareRecords at h
  split_ifs at h <;> simp only [Prod.mk.injEq] at h <;> omega

theorem cursorReach_bounds {oldRec newRec : List (Config α)} {k : Nat} {i j : Int}
    (h : CursorReach oldRec newRec k i j) :
    0 ≤ i ∧ i ≤ oldRec.length ∧ 0 ≤ j ∧ j ≤ newRec.length ∧ k ≤ i + j := by
  induction h with
  | start => omega
  | pass _ hi hj hs ih =>
    have := compareStep_cursors hs
    omega

/-- On every pair of snapshots, sorted or not, the first loop of `compareToCache` keeps both
cursors within `0` and the lengths, so that each read `oldRec[io]`, `newRec[in]` of a pass (made
under the guard) and of the two draining loops is in range; it makes at most
`len(oldRec) + len(newRec)` passes; and the whole function hands out the three-way merge. -/
theorem compareToCache_reads_in_range_eq_mergeDiff (oldRec newRec : List (Config α)) :
    (∀ k i j, CursorReach oldRec newRec k i j →
      0 ≤ i ∧ i ≤ oldRec.length ∧ 0 ≤ j ∧ j ≤ newRec.length ∧
        k ≤ oldRec.length + newRec.length) ∧
    compareToCache oldRec newRec = some (mergeDiff oldRec newRec) := by
  refine ⟨fun k i j h => ?_, compareToCache_eq_mergeDiff oldRec newRec⟩
  have := cursorReach_bounds h
  omega

end Pilot
