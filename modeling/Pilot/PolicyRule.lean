import Pilot.RuleValidators

/-! `ValidateIngressRule` and `ValidateDestinationPolicy` of `model/validation.go`, with the
circuit breaker and load balancing checks of a destination policy. -/

namespace Pilot

structure IngressRule where
  name : String
  destination : String
  deriving DecidableEq, Repr

def validateIngressRule (value : IngressRule) : List String :=
  (if value.name = "" then ["ingress rule must have a name"] else []) ++
  (if !isDNS1123Label value.name then ["ingress rule name must be a host name label"] else []) ++
  (if value.destination = "" then ["ingress rule must have a destination service"] else []) ++
  (validateFQDN value.destination).toList

structure SimpleCircuitBreakerPolicy where
  maxConnections : BitVec 32
  httpMaxPendingRequests : BitVec 32
  httpMaxRequests : BitVec 32
  sleepWindow : Option ProtoDuration
  httpConsecutiveErrors : BitVec 32
  httpDetectionInterval : Option ProtoDuration
  httpMaxRequestsPerConnection : BitVec 32
  httpMaxEjectionPercent : BitVec 32
  deriving DecidableEq, Repr

structure CircuitBreaker where
  simpleCb : Option SimpleCircuitBreakerPolicy
  deriving DecidableEq, Repr

def validateDurationField (pd : Option ProtoDuration) (msg : String) : List String :=
  if (validateDuration pd).isSome then [msg] else []

/-- `ValidateCircuitBreaker`. The first message says `circuitBreak`, and the duration messages
say `[0..]` while `ValidateDuration` asks for at least a millisecond. -/
def validateCircuitBreaker (cb : CircuitBreaker) : List String :=
  match cb.simpleCb with
  | some simple =>
    validateNonNegative simple.maxConnections.toInt
      "circuitBreak maxConnections must be in range [0..]" ++
    validateNonNegative simple.httpMaxPendingRequests.toInt
      "circuitBreaker maxPendingRequests must be in range [0..]" ++
    validateNonNegative simple.httpMaxRequests.toInt
      "circuitBreaker maxRequests must be in range [0..]" ++
    validateDurationField simple.sleepWindow
      "circuitBreaker sleepWindow must be in range [0..]" ++
    validateNonNegative simple.httpConsecutiveErrors.toInt
      "circuitBreaker httpConsecutiveErrors must be in range [0..]" ++
    validateDurationField simple.httpDetectionInterval
      "circuitBreaker httpDetectionInterval must be in range [0..]" ++
    validateNonNegative simple.httpMaxRequestsPerConnection.toInt
      "circuitBreaker httpMaxRequestsPerConnection must be in range [0..]" ++
    prefixed "circuitBreaker httpMaxEjectionPercent invalid: "
      (validatePercent simple.httpMaxEjectionPercent).toList
  | none => []

structure LoadBalancing where
  deriving DecidableEq, Repr

def validateLoadBalancing (_ : LoadBalancing) : List String := []

structure DestinationVersionPolicy where
  tags : List (String × String)
  loadBalancing : Option LoadBalancing
  circuitBreaker : Option CircuitBreaker
  deriving DecidableEq, Repr

structure DestinationPolicy where
  destination : String
  policy : List DestinationVersionPolicy
  deriving DecidableEq, Repr

def validateDestinationPolicy (value : DestinationPolicy) : List String :=
  (if value.destination = "" then
    ["destination policy should have a valid service name in its destination field"]
  else (validateFQDN value.destination).toList) ++
  value.policy.flatMap fun policy =>
    validateTags policy.tags ++ (policy.loadBalancing.map validateLoadBalancing).getD [] ++
      (policy.circuitBreaker.map validateCircuitBreaker).getD []

end Pilot
