import Pilot.Address
import Mathlib.Algebra.Ring.Int.Defs

/-! Route rule validation of `model/validation.go`: `ValidateDestinationWeight`,
`ValidateWeights` and `ValidateRouteRule`, with Go's `int32` weights summed in a 64-bit `int`. -/

namespace Pilot

/-- Go's `int` on a 64-bit platform: arithmetic wraps into `[-2^63, 2^63)`. -/
def goInt (x : Int) : Int := x.bmod (2 ^ 64)

theorem goInt_of_mem {x : Int} (h1 : -2 ^ 63 ≤ x) (h2 : x < 2 ^ 63) : goInt x = x := by
  unfold goInt Int.bmod
  push_cast
  split <;> omega

theorem toInt_mem_int32 (w : BitVec 32) : -2 ^ 31 ≤ w.toInt ∧ w.toInt < 2 ^ 31 := by
  rw [BitVec.toInt_eq_toNat_bmod]
  have h1 := Int.le_bmod (x := (w.toNat : Int)) (m := 2 ^ 32) (by decide)
  have h2 := Int.bmod_lt (x := (w.toNat : Int)) (m := 2 ^ 32) (by decide)
  push_cast at h1 h2 ⊢
  omega

structure DestinationWeight where
  destination : String
  tags : List (String × String)
  weight : BitVec 32
  deriving DecidableEq, Repr

def tagRegexp (s : String) : Bool :=
  s.all fun c => c.isAlphanum || c == '-' || c == '_' || c == '.' || c == '/'

def validateTags (tags : List (String × String)) : List String :=
  tags.flatMap fun (k, v) =>
    (if !tagRegexp k then ["invalid tag key: " ++ goQuote k] else []) ++
    (if !tagRegexp v then ["invalid tag value: " ++ goQuote v] else [])

def validatePercent (val : BitVec 32) : Option String :=
  if val.toInt < 0 ∨ val.toInt > 100 then some "must be in range 0..100" else none

/-- `multierror.Prefix(err, p)`: every error's text after `p` and a space. -/
def prefixed (p : String) (errs : List String) : List String :=
  errs.map (p ++ " " ++ ·)

@[simp] theorem prefixed_eq_nil (p : String) (errs : List String) :
    prefixed p errs = [] ↔ errs = [] :=
  List.map_eq_nil_iff

def validateDestinationWeight (dw : DestinationWeight) : List String :=
  (if dw.destination ≠ "" then (validateFQDN dw.destination).toList else []) ++
  validateTags dw.tags ++
  prefixed "weight invalid: " (validatePercent dw.weight).toList

def weightSum (routes : List DestinationWeight) : Int :=
  routes.foldl (fun sum dw => goInt (sum + dw.weight.toInt)) 0

theorem foldl_goInt_eq_sum (l : List DestinationWeight) (acc : Int)
    (h1 : -2 ^ 63 + 2 ^ 31 * l.length ≤ acc) (h2 : acc + 2 ^ 31 * l.length < 2 ^ 63) :
    l.foldl (fun sum dw => goInt (sum + dw.weight.toInt)) acc =
      acc + (l.map (·.weight.toInt)).sum := by
  induction l generalizing acc with
  | nil => simp
  | cons dw l ih =>
    have hw := toInt_mem_int32 dw.weight
    simp only [List.length_cons] at h1 h2
    rw [List.foldl_cons, goInt_of_mem (by omega) (by omega), ih _ (by omega) (by omega)]
    simp [Int.add_assoc]

theorem weightSum_eq_sum {routes : List DestinationWeight} (h : routes.length < 2 ^ 32) :
    weightSum routes = (routes.map (·.weight.toInt)).sum := by
  rw [weightSum, foldl_goInt_eq_sum _ _ (by omega) (by omega), Int.zero_add]

/-- `ValidateWeights`; its `defaultDestination` argument is unused. -/
def validateWeights (routes : List DestinationWeight) : List String :=
  let sum := weightSum routes
  if routes.length = 1 ∧ sum = 0 then [] else
  if sum ≠ 100 then ["Route weights total " ++ toString sum ++ " (must total 100)"] else []

structure UriAuthority where
  uri : String
  authority : String
  deriving DecidableEq, Repr

structure RouteRule (μ τ ρ φ ψ : Type) where
  name : String
  destination : String
  «match» : Option μ
  rewrite : Option UriAuthority
  redirect : Option UriAuthority
  route : Option (List DestinationWeight)
  httpReqTimeout : Option τ
  httpReqRetries : Option ρ
  httpFault : Option φ
  l4Fault : Option ψ

/-- The validators `ValidateRouteRule` calls on nested messages: `ValidateMatchCondition`,
`ValidateHTTPTimeout`, `ValidateHTTPRetries`, `ValidateHTTPFault` and `ValidateL4Fault`. -/
structure RuleValidators (μ τ ρ φ ψ : Type) where
  validateMatchCondition : μ → List String
  validateHTTPTimeout : τ → List String
  validateHTTPRetries : ρ → List String
  validateHTTPFault : φ → List String
  validateL4Fault : ψ → List String

variable {μ τ ρ φ ψ : Type}

def validateRouteRule (v : RuleValidators μ τ ρ φ ψ) (value : RouteRule μ τ ρ φ ψ) :
    List String :=
  (if value.name = "" then ["route rule must have a name"] else []) ++
  (if !isDNS1123Label value.name then ["route rule name must be a host name label"] else []) ++
  (if value.destination = "" then ["route rule must have a destination service"] else []) ++
  (validateFQDN value.destination).toList ++
  (value.«match».map v.validateMatchCondition).getD [] ++
  (match value.rewrite with
    | some rw =>
      if rw.uri = "" ∧ rw.authority = "" then ["rewrite must specify path, host, or both"] else []
    | none => []) ++
  (match value.redirect with
    | some rd =>
      (if (value.route.map List.length).getD 0 > 0 then
        ["rule cannot contain both route and redirect"] else []) ++
      (if value.httpFault.isSome then ["rule cannot contain both fault and redirect"] else []) ++
      (if rd.authority = "" ∧ rd.uri = "" then
        ["redirect must specify path, host, or both"] else [])
    | none => []) ++
  (if value.redirect.isSome ∧ value.rewrite.isSome then
    ["rule cannot contain both rewrite and redirect"] else []) ++
  (match value.route with
    | some routes => routes.flatMap validateDestinationWeight ++ validateWeights routes
    | none => []) ++
  (value.httpReqTimeout.map v.validateHTTPTimeout).getD [] ++
  (value.httpReqRetries.map v.validateHTTPRetries).getD [] ++
  (value.httpFault.map v.validateHTTPFault).getD [] ++
  (value.l4Fault.map fun f => v.validateL4Fault f ++ ["L4 faults are not implemented"]).getD []

theorem validateWeights_eq_nil_iff (routes : List DestinationWeight) :
    validateWeights routes = [] ↔
      routes.length = 1 ∧ weightSum routes = 0 ∨ weightSum routes = 100 := by
  unfold validateWeights
  dsimp only
  split_ifs <;> simp_all

theorem validateDestinationWeight_weight {dw : DestinationWeight}
    (h : validateDestinationWeight dw = []) : 0 ≤ dw.weight.toInt ∧ dw.weight.toInt ≤ 100 := by
  simp only [validateDestinationWeight, List.append_eq_nil, prefixed_eq_nil, option_toList_eq_nil,
    validatePercent, ite_eq_right_iff, reduceCtorEq, imp_false] at h
  omega

theorem validateRouteRule_route {v : RuleValidators μ τ ρ φ ψ} {r : RouteRule μ τ ρ φ ψ}
    {routes : List DestinationWeight} (hr : r.route = some routes)
    (h : validateRouteRule v r = []) :
    (∀ dw ∈ routes, validateDestinationWeight dw = []) ∧ validateWeights routes = [] := by
  simp only [validateRouteRule, hr, List.append_eq_nil, List.flatMap_eq_nil_iff] at h
  tauto

/-- On fewer than `2^32` destination weights, the `int` sum in `ValidateWeights` never wraps,
the check errs exactly when the list is neither one weight summing to `0` nor weights summing
to `100`, and a route rule with this route passes `ValidateRouteRule` only if every weight lies
in `0..100` and the route is one destination of weight `0` or the weights sum to `100`. -/
theorem validateWeights_sum_exact (routes : List DestinationWeight)
    (hlen : routes.length < 2 ^ 32) :
    (∀ k, weightSum (routes.take k) = ((routes.take k).map (·.weight.toInt)).sum) ∧
    (validateWeights routes ≠ [] ↔
      ¬(routes.length = 1 ∧ (routes.map (·.weight.toInt)).sum = 0) ∧
        (routes.map (·.weight.toInt)).sum ≠ 100) ∧
    ∀ {μ τ ρ φ ψ : Type} (v : RuleValidators μ τ ρ φ ψ) (r : RouteRule μ τ ρ φ ψ),
      r.route = some routes → validateRouteRule v r = [] →
        (∀ dw ∈ routes, 0 ≤ dw.weight.toInt ∧ dw.weight.toInt ≤ 100) ∧
        ((∃ dw, routes = [dw] ∧ dw.weight.toInt = 0) ∨
          (routes.map (·.weight.toInt)).sum = 100) := by
  have hsum := weightSum_eq_sum hlen
  refine ⟨fun k => weightSum_eq_sum ((List.length_take_le' k routes).trans_lt hlen), ?_,
    fun v r hr h => ?_⟩
  · rw [Ne, validateWeights_eq_nil_iff, hsum]
    tauto
  · obtain ⟨hdw, hw⟩ := validateRouteRule_route hr h
    refine ⟨fun dw hm => validateDestinationWeight_weight (hdw dw hm), ?_⟩
    rw [validateWeights_eq_nil_iff, hsum] at hw
    rcases hw with ⟨h1, h0⟩ | h100
    · obtain ⟨dw, rfl⟩ := List.length_eq_one.mp h1
      exact .inl ⟨dw, rfl, by simpa using h0⟩
    · exact .inr h100

theorem validateWeights_sum_exact_split_route :
    [(⟨"reviews", [], 60#32⟩ : DestinationWeight), ⟨"reviews", [], 40#32⟩].length < 2 ^ 32 ∧
    (∀ k, weightSum ([(⟨"reviews", [], 60#32⟩ : DestinationWeight), ⟨"reviews", [], 40#32⟩].take k) =
      (([(⟨"reviews", [], 60#32⟩ : DestinationWeight), ⟨"reviews", [], 40#32⟩].take k).map
        (·.weight.toInt)).sum) ∧
    (validateWeights [⟨"reviews", [], 60#32⟩, ⟨"reviews", [], 40#32⟩] ≠ [] ↔
      ¬([(⟨"reviews", [], 60#32⟩ : DestinationWeight), ⟨"reviews", [], 40#32⟩].length = 1 ∧
          ([(⟨"reviews", [], 60#32⟩ : DestinationWeight), ⟨"reviews", [], 40#32⟩].map
            (·.weight.toInt)).sum = 0) ∧
        ([(⟨"reviews", [], 60#32⟩ : DestinationWeight), ⟨"reviews", [], 40#32⟩].map
          (·.weight.toInt)).sum ≠ 100) ∧
    ∀ {μ τ ρ φ ψ : Type} (v : RuleValidators μ τ ρ φ ψ) (r : RouteRule μ τ ρ φ ψ),
      r.route = some [⟨"reviews", [], 60#32⟩, ⟨"reviews", [], 40#32⟩] →
      validateRouteRule v r = [] →
        (∀ dw ∈ [(⟨"reviews", [], 60#32⟩ : DestinationWeight), ⟨"reviews", [], 40#32⟩],
          0 ≤ dw.weight.toInt ∧ dw.weight.toInt ≤ 100) ∧
        ((∃ dw, [(⟨"reviews", [], 60#32⟩ : DestinationWeight), ⟨"reviews", [], 40#32⟩] = [dw] ∧
            dw.weight.toInt = 0) ∨
          ([(⟨"reviews", [], 60#32⟩ : DestinationWeight), ⟨"reviews", [], 40#32⟩].map
            (·.weight.toInt)).sum = 100) :=
  ⟨by decide, validateWeights_sum_exact _ (by decide)⟩

example : validateWeights [⟨"reviews", [], 60#32⟩, ⟨"ratings", [], 30#32⟩] =
    ["Route weights total 90 (must total 100)"] := by
  decide

end Pilot
