import Pilot.Config
import Mathlib.Data.List.Nodup

/-! The read path of the ingress controller of `adapter/config/ingress`: the informer's
store of ingress objects and the rules derived from them, read by `Get` and `List`. -/

namespace Pilot

structure StringMap (β : Type) where
  entries : List (String × β)
  nodup : (entries.map Prod.fst).Nodup

variable {β σ ρ : Type}

def StringMap.lookup (m : StringMap β) (key : String) : Option β :=
  (m.entries.find? (fun e => e.1 = key)).map Prod.snd

def StringMap.insert (m : StringMap β) (key : String) (v : β) : StringMap β :=
  ⟨m.entries.filter (fun e => e.1 ≠ key) ++ [(key, v)], by
    rw [List.map_append, List.nodup_append]
    refine ⟨(List.filter_sublist _).map _ |>.nodup m.nodup, List.nodup_singleton _, ?_⟩
    simp [List.disjoint_singleton, List.mem_map]⟩

def StringMap.erase (m : StringMap β) (key : String) : StringMap β :=
  ⟨m.entries.filter (fun e => e.1 ≠ key), (List.filter_sublist _).map _ |>.nodup m.nodup⟩

theorem StringMap.lookup_eq_some_iff (m : StringMap β) {key : String} {v : β} :
    m.lookup key = some v ↔ (key, v) ∈ m.entries := by
  obtain ⟨l, hl⟩ := m
  simp only [StringMap.lookup, Option.map_eq_some']
  constructor
  · rintro ⟨e, he, rfl⟩
    have hk : e.1 = key := by simpa using List.find?_some he
    exact hk ▸ List.mem_of_find?_eq_some he
  · intro hm
    induction l with
    | nil => simp at hm
    | cons x xs ih =>
      have hx := List.nodup_cons.mp hl
      rcases List.mem_cons.mp hm with rfl | hm
      · exact ⟨(key, v), by simp, rfl⟩
      · have hne : x.1 ≠ key := fun h => hx.1 (h ▸ List.mem_map_of_mem _ hm)
        simpa [List.find?_cons, hne] using ih hx.2 hm

structure Ingress (σ : Type) where
  name : String
  «namespace» : String
  resourceVersion : String
  spec : σ
  deriving DecidableEq, Repr

/-- The collaborators of the controller defined outside this repository: the type name
`model.IngressRule.Type`, `shouldProcessIngress(c.mesh, ·)`, `convertIngress(·, c.domainSuffix)`,
`decodeIngressRuleName` (its name and namespace; `Get` drops the rule and path indices) and
`kube.KeyFunc`. -/
structure IngressEnv (σ ρ : Type) where
  ingressRuleType : String
  shouldProcessIngress : Ingress σ → Bool
  convertIngress : Ingress σ → StringMap ρ
  decodeIngressRuleName : String → Option (String × String)
  keyFunc : String → String → String

def errUnsupportedOp : String :=
  "unsupported operation: the ingress config store is a read-only view"

namespace IngressEnv

variable (env : IngressEnv σ ρ)

def get (store : StringMap (Ingress σ)) (typ key : String) : Option ρ × Bool × String :=
  if typ ≠ env.ingressRuleType then (none, false, "") else
  match env.decodeIngressRuleName key with
  | none => (none, false, "")
  | some (ingressName, ingressNamespace) =>
    match store.lookup (env.keyFunc ingressName ingressNamespace) with
    | none => (none, false, "")
    | some ingress =>
      if !env.shouldProcessIngress ingress then (none, false, "") else
      let rules := env.convertIngress ingress
      (rules.lookup key, (rules.lookup key).isSome, ingress.resourceVersion)

def ingressConfigs (ingress : Ingress σ) : List (Config ρ) :=
  if env.shouldProcessIngress ingress then
    (env.convertIngress ingress).entries.map fun r =>
      ⟨env.ingressRuleType, r.1, ingress.resourceVersion, r.2⟩
  else []

def list (store : StringMap (Ingress σ)) (typ : String) : Except String (List (Config ρ)) :=
  if typ ≠ env.ingressRuleType then .error errUnsupportedOp else
  .ok (store.entries.flatMap fun e => env.ingressConfigs e.2)

theorem get_eq_some_iff (store : StringMap (Ingress σ)) (typ key : String) (rule : ρ)
    (rev : String) :
    env.get store typ key = (some rule, true, rev) ↔ typ = env.ingressRuleType ∧
      ∃ name ns ingress, env.decodeIngressRuleName key = some (name, ns) ∧
        store.lookup (env.keyFunc name ns) = some ingress ∧ env.shouldProcessIngress ingress ∧
        (env.convertIngress ingress).lookup key = some rule ∧ ingress.resourceVersion = rev := by
  refine ⟨fun h => ?_, ?_⟩
  · unfold get at h
    split_ifs at h with ht
    · simp at h
    split at h
    · simp at h
    rename_i name ns hd
    split at h
    · simp at h
    rename_i ingress hl
    split_ifs at h with hp
    · simp at h
    simp only [Prod.mk.injEq] at h
    exact ⟨by simpa using ht, name, ns, ingress, hd, hl, by simpa using hp, h.1, h.2.2⟩
  · rintro ⟨rfl, name, ns, ingress, hd, hl, hp, hr, rfl⟩
    simp [get, hd, hl, hp, hr]

/-- When every rule key of a stored ingress decodes to that ingress's name and namespace,
and `kube.KeyFunc` of these is its store key, `Get` returns a rule with its revision exactly
when `List` lists a record with that key, rule and revision. -/
theorem get_eq_iff_mem_list (store : StringMap (Ingress σ)) (k : String)
    (hkey : ∀ sk ingress rule, (sk, ingress) ∈ store.entries →
      (k, rule) ∈ (env.convertIngress ingress).entries →
      env.decodeIngressRuleName k = some (ingress.name, ingress.«namespace») ∧
        env.keyFunc ingress.name ingress.«namespace» = sk)
    (rule : ρ) (rev : String) :
    env.get store env.ingressRuleType k = (some rule, true, rev) ↔
      ∃ cs, env.list store env.ingressRuleType = .ok cs ∧
        ∃ c ∈ cs, c.key = k ∧ c.content = rule ∧ c.revision = rev := by
  simp only [get_eq_some_iff, list, ne_eq, not_true_eq_false, if_false, Except.ok.injEq,
    exists_eq_left', List.mem_flatMap, ingressConfigs]
  constructor
  · rintro ⟨-, name, ns, ingress, -, hl, hp, hr, rfl⟩
    refine ⟨⟨env.ingressRuleType, k, ingress.resourceVersion, rule⟩,
      ⟨(_, ingress), (store.lookup_eq_some_iff).mp hl, ?_⟩, rfl, rfl, rfl⟩
    simp only [hp, if_true]
    exact List.mem_map.mpr ⟨(k, rule), (StringMap.lookup_eq_some_iff _).mp hr, rfl⟩
  · rintro ⟨c, ⟨⟨sk, ingress⟩, hmem, hc⟩, rfl, rfl, rfl⟩
    split at hc
    · rename_i hp
      obtain ⟨⟨k', r'⟩, hr, rfl⟩ := List.mem_map.mp hc
      obtain ⟨hdec, hsk⟩ := hkey sk ingress r' hmem hr
      exact ⟨trivial, _, _, ingress, hdec, hsk ▸ (store.lookup_eq_some_iff).mpr hmem, hp,
        (StringMap.lookup_eq_some_iff _).mpr hr, rfl⟩
    · simp at hc

end IngressEnv

def nameKeyedEnv : IngressEnv String String :=
  ⟨"ingress-rule", fun _ => true, fun i => ⟨[(i.name, i.spec)], List.nodup_singleton _⟩,
    fun k => some (k, "default"), fun n ns => ns ++ "/" ++ n⟩

def oneIngressStore : StringMap (Ingress String) :=
  ⟨[("default/a", ⟨"a", "default", "7", "backend"⟩)], List.nodup_singleton _⟩

theorem get_eq_iff_mem_list_one_ingress :
    (∀ sk ingress rule, (sk, ingress) ∈ oneIngressStore.entries →
      ("a", rule) ∈ (nameKeyedEnv.convertIngress ingress).entries →
      nameKeyedEnv.decodeIngressRuleName "a" = some (ingress.name, ingress.«namespace») ∧
        nameKeyedEnv.keyFunc ingress.name ingress.«namespace» = sk) ∧
    (nameKeyedEnv.get oneIngressStore nameKeyedEnv.ingressRuleType "a" = (some "backend", true, "7") ↔
      ∃ cs, nameKeyedEnv.list oneIngressStore nameKeyedEnv.ingressRuleType = .ok cs ∧
        ∃ c ∈ cs, c.key = "a" ∧ c.content = "backend" ∧ c.revision = "7") := by
  have hkey : ∀ sk ingress rule, (sk, ingress) ∈ oneIngressStore.entries →
      ("a", rule) ∈ (nameKeyedEnv.convertIngress ingress).entries →
      nameKeyedEnv.decodeIngressRuleName "a" = some (ingress.name, ingress.«namespace») ∧
        nameKeyedEnv.keyFunc ingress.name ingress.«namespace» = sk := by
    intro sk ingress rule hs _
    simp only [oneIngressStore, List.mem_singleton, Prod.mk.injEq] at hs
    obtain ⟨rfl, rfl⟩ := hs
    exact ⟨rfl, rfl⟩
  exact ⟨hkey, nameKeyedEnv.get_eq_iff_mem_list oneIngressStore "a" hkey "backend" "7"⟩

def post (_ : ρ) : Except String String := .error errUnsupportedOp

def put (_ : ρ) (_ : String) : Except String String := .error errUnsupportedOp

def delete (_ _ : String) : Except String Unit := .error errUnsupportedOp

end Pilot
