import Mathlib.Data.List.Nodup
import Mathlib.Data.List.FinRange

/-! `ConfigDescriptor.Validate` of `model/validation.go`: the checks on each registered kind,
with the type and message names seen so far kept in two maps. -/

namespace Pilot

def dns1123LabelMaxLength : Nat := 63

def isLabelAlnum (c : Char) : Bool :=
  ('a' ≤ c && c ≤ 'z') || ('0' ≤ c && c ≤ '9')

def dns1123LabelRex (value : String) : Bool :=
  match value.toList with
  | [] => false
  | c :: cs =>
    isLabelAlnum c && cs.all (fun d => isLabelAlnum d || d == '-') && cs.getLast?.all isLabelAlnum

/-- `IsDNS1123Label`; Go's `len` counts bytes. -/
def isDNS1123Label (value : String) : Bool :=
  decide (value.utf8ByteSize ≤ dns1123LabelMaxLength) && dns1123LabelRex value

structure ProtoSchema (κ : Type) where
  type : String
  plural : String
  messageName : String
  key : Option κ

abbrev ConfigDescriptor (κ : Type) := List (ProtoSchema κ)

inductive DescriptorError where
  | missingKey (type : String)
  | invalidType (type : String)
  | invalidPlural (type : String)
  | unknownMessage (messageName : String)
  | duplicateType (type : String)
  | duplicateMessage (messageName : String)
  deriving DecidableEq, Repr

/-- Go's `%q` for strings without quotes, backslashes or unprintable characters. -/
def goQuote (s : String) : String := "\"" ++ s ++ "\""

def DescriptorError.message : DescriptorError → String
  | .missingKey t => "missing the required key function for type: " ++ goQuote t
  | .invalidType t => "invalid type: " ++ goQuote t
  | .invalidPlural t => "invalid plural: " ++ goQuote t
  | .unknownMessage m => "cannot discover proto message type: " ++ goQuote m
  | .duplicateType t => "duplicate type: " ++ goQuote t
  | .duplicateMessage m => "duplicate message type: " ++ goQuote m

variable {κ : Type} (messageType : String → Bool)

def validateEntry (types messages : List String) (v : ProtoSchema κ) : List DescriptorError :=
  (if v.key.isNone then [.missingKey v.type] else []) ++
  (if !isDNS1123Label v.type then [.invalidType v.type] else []) ++
  (if !isDNS1123Label v.plural then [.invalidPlural v.type] else []) ++
  (if !messageType v.messageName then [.unknownMessage v.messageName] else []) ++
  (if v.type ∈ types then [.duplicateType v.type] else []) ++
  (if v.messageName ∈ messages then [.duplicateMessage v.messageName] else [])

def validateFrom : List String → List String → List (ProtoSchema κ) → List DescriptorError
  | _, _, [] => []
  | types, messages, v :: rest =>
    validateEntry messageType types messages v ++
      validateFrom (types ++ [v.type]) (messages ++ [v.messageName]) rest

def ConfigDescriptor.validate (descriptor : ConfigDescriptor κ) : List DescriptorError :=
  validateFrom messageType [] [] descriptor

def entryErrors (descriptor : ConfigDescriptor κ) (i : Fin descriptor.length) :
    List DescriptorError :=
  validateEntry messageType ((descriptor.take i).map (·.type))
    ((descriptor.take i).map (·.messageName)) descriptor[i]

def KindValid (v : ProtoSchema κ) : Prop :=
  v.key.isSome ∧ isDNS1123Label v.type ∧ isDNS1123Label v.plural ∧ messageType v.messageName

theorem validateEntry_eq_nil_iff (types messages : List String) (v : ProtoSchema κ) :
    validateEntry messageType types messages v = [] ↔
      KindValid messageType v ∧ v.type ∉ types ∧ v.messageName ∉ messages := by
  simp only [validateEntry, List.append_eq_nil, KindValid]
  cases v.key <;> simp [Bool.not_eq_true', and_assoc]

theorem duplicateType_mem_validateEntry (types messages : List String) (v : ProtoSchema κ) :
    .duplicateType v.type ∈ validateEntry messageType types messages v ↔ v.type ∈ types := by
  simp [validateEntry]

theorem duplicateMessage_mem_validateEntry (types messages : List String) (v : ProtoSchema κ) :
    .duplicateMessage v.messageName ∈ validateEntry messageType types messages v ↔
      v.messageName ∈ messages := by
  simp [validateEntry]

theorem validateFrom_eq_flatMap (pre descriptor : List (ProtoSchema κ)) :
    validateFrom messageType (pre.map (·.type)) (pre.map (·.messageName)) descriptor =
      (List.finRange descriptor.length).flatMap fun i =>
        validateEntry messageType ((pre ++ descriptor.take i).map (·.type))
          ((pre ++ descriptor.take i).map (·.messageName)) descriptor[i] := by
  induction descriptor generalizing pre with
  | nil => rfl
  | cons v rest ih =>
    have h := ih (pre ++ [v])
    simp only [List.map_append, List.map_singleton] at h
    simp [validateFrom, List.finRange_succ, List.flatMap_map, h]

theorem validateFrom_eq_nil_iff (types messages : List String) (descriptor : List (ProtoSchema κ)) :
    validateFrom messageType types messages descriptor = [] ↔
      (∀ v ∈ descriptor, KindValid messageType v ∧ v.type ∉ types ∧ v.messageName ∉ messages) ∧
        (descriptor.map (·.type)).Nodup ∧ (descriptor.map (·.messageName)).Nodup := by
  induction descriptor generalizing types messages with
  | nil => simp [validateFrom]
  | cons v rest ih =>
    simp only [validateFrom, List.append_eq_nil, validateEntry_eq_nil_iff, ih, List.mem_append,
      List.mem_singleton, List.forall_mem_cons, List.map_cons, List.nodup_cons, List.mem_map,
      not_or, not_exists, not_and, imp_and, forall_and]
    tauto

theorem mem_map_take_iff {β : Type} (f : ProtoSchema κ → β) (descriptor : ConfigDescriptor κ)
    (i : Fin descriptor.length) :
    f descriptor[i] ∈ (descriptor.take i).map f ↔
      ∃ j : Fin descriptor.length, j < i ∧ f descriptor[j] = f descriptor[i] := by
  simp only [List.mem_map, List.mem_take_iff_getElem]
  constructor
  · rintro ⟨_, ⟨j, hj, rfl⟩, he⟩
    exact ⟨⟨j, by omega⟩, Fin.lt_def.2 (by simp only; omega), he⟩
  · rintro ⟨j, hj, he⟩
    exact ⟨_, ⟨j, by rw [Fin.lt_def] at hj; omega, rfl⟩, he⟩

/-- `Validate` accepts exactly the descriptors whose kinds each pass their own checks and
have pairwise distinct types and message names; its errors are the blocks of the kinds in
order, and each kind reports a duplicate exactly when an earlier kind has the same name. -/
theorem validate_eq_nil_iff_and_reports_duplicates (descriptor : ConfigDescriptor κ) :
    (descriptor.validate messageType = [] ↔
      (∀ v ∈ descriptor, KindValid messageType v) ∧
        (descriptor.map (·.type)).Nodup ∧ (descriptor.map (·.messageName)).Nodup) ∧
    descriptor.validate messageType =
      (List.finRange descriptor.length).flatMap (entryErrors messageType descriptor) ∧
    ∀ i : Fin descriptor.length,
      (.duplicateType descriptor[i].type ∈ entryErrors messageType descriptor i ↔
        ∃ j : Fin descriptor.length, j < i ∧ descriptor[j].type = descriptor[i].type) ∧
      (.duplicateMessage descriptor[i].messageName ∈ entryErrors messageType descriptor i ↔
        ∃ j : Fin descriptor.length, j < i ∧
          descriptor[j].messageName = descriptor[i].messageName) := by
  refine ⟨?_, validateFrom_eq_flatMap messageType [] descriptor, fun i => ⟨?_, ?_⟩⟩
  · simp [ConfigDescriptor.validate, validateFrom_eq_nil_iff]
  · rw [entryErrors, duplicateType_mem_validateEntry, mem_map_take_iff]
  · rw [entryErrors, duplicateMessage_mem_validateEntry, mem_map_take_iff (·.messageName)]

example : ConfigDescriptor.validate (fun _ => true)
    [⟨"route-rule", "route-rules", "RouteRule", some ()⟩,
      ⟨"route-rule", "Rules", "RouteRule", none⟩] =
    [.missingKey "route-rule", .invalidPlural "route-rule", .duplicateType "route-rule",
      .duplicateMessage "RouteRule"] := by
  decide

inductive ConfigObject (μ : Type) where
  | nil
  | other
  | message (v : μ)
  deriving DecidableEq, Repr

/-- Modelled from the spec: `GetByType`, the kind registered for a type (the first one, should a
descriptor that fails `Validate` register a type twice). -/
def getByType (descriptor : ConfigDescriptor κ) (typ : String) : Option (ProtoSchema κ) :=
  descriptor.find? (·.type == typ)

theorem getByType_eq_some_iff {descriptor : ConfigDescriptor κ}
    (hd : (descriptor.map (·.type)).Nodup) (typ : String) (t : ProtoSchema κ) :
    getByType descriptor typ = some t ↔ t ∈ descriptor ∧ t.type = typ := by
  refine ⟨fun h => ⟨List.mem_of_find?_eq_some h, by simpa using List.find?_some h⟩, ?_⟩
  rintro ⟨hm, rfl⟩
  obtain ⟨t', ht'⟩ := Option.isSome_iff_exists.mp
    (List.find?_isSome.mpr ⟨t, hm, by simp⟩ : (getByType descriptor t.type).isSome)
  have he : t'.type = t.type := by simpa using List.find?_some ht'
  rw [getByType, ht', List.inj_on_of_nodup_map hd (List.mem_of_find?_eq_some ht') hm he]

section ValidateConfig

/- `proto.MessageName` of a message, and the `Validate` function of a kind, which `ProtoSchema`
holds as a field. -/
variable {μ : Type} (messageName : μ → String) (kindValidate : ProtoSchema κ → μ → List String)

def validateConfig (descriptor : ConfigDescriptor κ) (typ : String) :
    ConfigObject μ → List String
  | .nil => ["invalid nil configuration object"]
  | obj =>
    match getByType descriptor typ, obj with
    | none, _ => ["undeclared type: " ++ goQuote typ]
    | some t, .message v =>
      if messageName v ≠ t.messageName then
        ["mismatched message type " ++ goQuote (messageName v) ++ " and type " ++
          goQuote t.messageName]
      else kindValidate t v
    | some _, _ => ["cannot cast to a proto message"]

/-- For a descriptor that passes `Validate`, `ValidateConfig` accepts exactly a message whose
name is the one registered for the type, and that the type's own `Validate` accepts. -/
theorem validateConfig_eq_nil_iff {descriptor : ConfigDescriptor κ}
    (hd : descriptor.validate messageType = []) (typ : String) (obj : ConfigObject μ) :
    validateConfig messageName kindValidate descriptor typ obj = [] ↔
      ∃ t v, t ∈ descriptor ∧ t.type = typ ∧ obj = .message v ∧
        messageName v = t.messageName ∧ kindValidate t v = [] := by
  have hnd : (descriptor.map (·.type)).Nodup := by
    rw [ConfigDescriptor.validate, validateFrom_eq_nil_iff] at hd
    exact hd.2.1
  have hget := getByType_eq_some_iff hnd typ
  rcases obj with _ | _ | v
  · simp [validateConfig]
  · simp only [validateConfig]
    split <;> simp_all
  · cases hg : getByType descriptor typ with
    | none =>
      refine iff_of_false (by simp [validateConfig, hg]) ?_
      rintro ⟨t, -, hm, ht, -⟩
      simp [(hget t).mpr ⟨hm, ht⟩] at hg
    | some t =>
      have huniq : ∀ t', t' ∈ descriptor ∧ t'.type = typ ↔ t' = t := fun t' => by
        rw [← hget t', hg, Option.some.injEq, eq_comm]
      simp only [validateConfig, hg, ConfigObject.message.injEq, ← and_assoc, huniq]
      by_cases hn : messageName v = t.messageName <;> simp [hn, and_assoc]

theorem validateConfig_eq_nil_iff_one_kind :
    ConfigDescriptor.validate (fun _ => true)
      [(⟨"route-rule", "route-rules", "RouteRule", some ()⟩ : ProtoSchema Unit)] = [] ∧
    (validateConfig id (fun _ _ => []) [⟨"route-rule", "route-rules", "RouteRule", some ()⟩]
        "route-rule" (.message "RouteRule") = [] ↔
      ∃ t v, t ∈ [(⟨"route-rule", "route-rules", "RouteRule", some ()⟩ : ProtoSchema Unit)] ∧
        t.type = "route-rule" ∧ ConfigObject.message "RouteRule" = .message v ∧
        id v = t.messageName ∧ ([] : List String) = []) :=
  ⟨by decide, validateConfig_eq_nil_iff (fun _ => true) _ _ (by decide) _ _⟩

end ValidateConfig

end Pilot
