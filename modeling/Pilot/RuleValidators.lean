import Pilot.Duration

/-! The validators `ValidateRouteRule` calls on the nested messages of a route rule:
`ValidateMatchCondition`, `ValidateHTTPTimeout`, `ValidateHTTPRetries`, `ValidateHTTPFault` and
`ValidateL4Fault`, with the checks below them. Together they instantiate `RuleValidators`. -/

namespace Pilot

def validateNonNegative (val : Int) (msg : String) : List String :=
  if val < 0 then [msg] else []

/-- `ValidateFloatPercent`, on a `float32` read as a `Float`: comparing with `0.0` and `100.0`
gives the same answer on both widths. A NaN passes. -/
def validateFloatPercent (val : Float) : Option String :=
  if val < 0.0 ∨ val > 100.0 then some "must be in range 0..100" else none

/-! ### Match conditions -/

inductive StringMatchType where
  | exact (exact : String)
  | prefixMatch (value : String)
  | regex (regex : String)
  deriving DecidableEq, Repr

def StringMatchType.value : StringMatchType → String
  | .exact s => s
  | .prefixMatch s => s
  | .regex s => s

structure L4MatchAttributes where
  sourceSubnet : List String
  destinationSubnet : List String
  deriving DecidableEq, Repr

structure StringMatch where
  matchType : Option StringMatchType
  deriving DecidableEq, Repr

/-- The fields of a `proxyconfig.MatchCondition` that validation reads; the maps are lists of
their entries in iteration order, and a header's value is a non-nil `*StringMatch`. -/
structure MatchCondition where
  source : String
  sourceTags : List (String × String)
  tcp : Option L4MatchAttributes
  udp : Option L4MatchAttributes
  httpHeaders : List (String × StringMatch)
  deriving DecidableEq, Repr

section MatchCondition

/- `HeaderURI` of package `model`, and Go's `strings.ToLower`, whose Unicode case tables are not
modelled. -/
variable (headerURI : String) (toLower : String → String)

def validateHTTPHeaderName (name : String) : Option String :=
  if toLower name ≠ name then some "must be in lower case" else none

/-- `ValidateStringMatch`: the oneof must be set. `%q` of an empty `StringMatch` prints `""`. -/
def validateStringMatch (m : StringMatch) : Option String :=
  if m.matchType.isSome then none else some "unrecognized string match \"\""

def validateL4MatchAttributes (ma : L4MatchAttributes) : List String :=
  ma.sourceSubnet.flatMap validateSubnet ++ ma.destinationSubnet.flatMap validateSubnet

def validateURIHeader (value : StringMatch) : List String :=
  match value.matchType with
  | some (.exact s) =>
    if s = "" then ["exact header value for " ++ goQuote headerURI ++ " must be non-empty"] else []
  | some (.prefixMatch s) =>
    if s = "" then ["prefix header value for " ++ goQuote headerURI ++ " must be non-empty"] else []
  | some (.regex s) =>
    if s = "" then ["regex header value for " ++ goQuote headerURI ++ " must be non-empty"] else []
  | none => []

def validateHeader (name : String) (value : StringMatch) : List String :=
  prefixed ("header name " ++ goQuote name ++ " invalid: ")
    (validateHTTPHeaderName toLower name).toList ++
  prefixed ("header " ++ goQuote name ++ " value invalid: ") (validateStringMatch value).toList ++
  (if name = headerURI then validateURIHeader headerURI value else [])

def validateMatchCondition (mc : MatchCondition) : List String :=
  (if mc.source ≠ "" then (validateFQDN mc.source).toList else []) ++
  validateTags mc.sourceTags ++
  (mc.tcp.map validateL4MatchAttributes).getD [] ++
  (match mc.udp with
    | some ma => validateL4MatchAttributes ma ++ ["Istio does not support UDP protocol yet"]
    | none => []) ++
  mc.httpHeaders.flatMap fun (name, value) => validateHeader headerURI toLower name value

end MatchCondition

/-! ### Timeouts and retries -/

structure HTTPTimeout where
  simpleTimeout : Option (Option ProtoDuration)
  deriving DecidableEq, Repr

def validateHTTPTimeout (timeout : HTTPTimeout) : List String :=
  match timeout.simpleTimeout with
  | some t => prefixed "httpTimeout invalid: " (validateDuration t).toList
  | none => []

structure SimpleRetryPolicy where
  attempts : BitVec 32
  perTryTimeout : Option ProtoDuration
  deriving DecidableEq, Repr

structure HTTPRetry where
  simpleRetry : Option SimpleRetryPolicy
  deriving DecidableEq, Repr

def validateHTTPRetries (retry : HTTPRetry) : List String :=
  match retry.simpleRetry with
  | some simple =>
    validateNonNegative simple.attempts.toInt "attempts must be in range [0..]" ++
    prefixed "perTryTimeout invalid: " (validateDuration simple.perTryTimeout).toList
  | none => []

/-! ### Faults -/

inductive HTTPDelayType where
  | fixedDelay (d : Option ProtoDuration)
  | exponentialDelay (d : Option ProtoDuration)
  deriving DecidableEq, Repr

structure Delay where
  percent : Float
  httpDelayType : Option HTTPDelayType

def Delay.fixedDelay (delay : Delay) : Option ProtoDuration :=
  match delay.httpDelayType with
  | some (.fixedDelay d) => d
  | _ => none

def Delay.exponentialDelay (delay : Delay) : Option ProtoDuration :=
  match delay.httpDelayType with
  | some (.exponentialDelay d) => d
  | _ => none

/-- `ValidateDelay`. The fixed delay is checked whatever the oneof holds. -/
def validateDelay (delay : Delay) : List String :=
  prefixed "percent invalid: " (validateFloatPercent delay.percent).toList ++
  prefixed "fixedDelay invalid:" (validateDuration delay.fixedDelay).toList ++
  match delay.exponentialDelay with
  | some d =>
    prefixed "exponentialDelay invalid: " (validateDuration (some d)).toList ++
      ["Istio does not support exponentialDelay yet"]
  | none => []

inductive AbortErrorType where
  | grpcStatus (status : String)
  | http2Error (error : String)
  | httpStatus (status : BitVec 32)
  deriving DecidableEq, Repr

structure Abort where
  percent : Float
  errorType : Option AbortErrorType

def validateAbortHTTPStatus (httpStatus : BitVec 32) : List String :=
  if httpStatus.toInt < 0 ∨ httpStatus.toInt > 600 then
    ["invalid abort http status " ++ toString httpStatus.toInt]
  else []

def validateAbort (abort : Abort) : List String :=
  prefixed "percent invalid: " (validateFloatPercent abort.percent).toList ++
  match abort.errorType with
  | some (.grpcStatus _) => ["Istio does not support gRPC fault injection yet"]
  | some (.http2Error _) => []
  | some (.httpStatus s) => validateAbortHTTPStatus s
  | none => []

structure HTTPFaultInjection where
  delay : Option Delay
  abort : Option Abort

def validateHTTPFault (fault : HTTPFaultInjection) : List String :=
  (fault.delay.map validateDelay).getD [] ++ (fault.abort.map validateAbort).getD []

structure Terminate where
  percent : Float

inductive ThrottleAfter where
  | throttleAfterPeriod (d : Option ProtoDuration)
  | throttleAfterBytes (bytes : Float)

structure Throttle where
  percent : Float
  downstreamLimitBps : BitVec 64
  upstreamLimitBps : BitVec 64
  throttleAfter : Option ThrottleAfter

def Throttle.throttleAfterPeriod (throttle : Throttle) : Option ProtoDuration :=
  match throttle.throttleAfter with
  | some (.throttleAfterPeriod d) => d
  | _ => none

def Throttle.throttleAfterBytes (throttle : Throttle) : Float :=
  match throttle.throttleAfter with
  | some (.throttleAfterBytes b) => b
  | _ => 0.0

def validateTerminate (terminate : Terminate) : List String :=
  prefixed "terminate percent invalid: " (validateFloatPercent terminate.percent).toList

/-- `ValidateThrottle`. The period is checked whatever the oneof holds, and its error replaced. -/
def validateThrottle (throttle : Throttle) : List String :=
  prefixed "throttle percent invalid: " (validateFloatPercent throttle.percent).toList ++
  validateNonNegative throttle.downstreamLimitBps.toInt "downstreamLimitBps invalid" ++
  validateNonNegative throttle.upstreamLimitBps.toInt "upstreamLimitBps invalid" ++
  (if (validateDuration throttle.throttleAfterPeriod).isSome then ["throttleAfterPeriod invalid"]
  else []) ++
  (if throttle.throttleAfterBytes < 0.0 then ["throttleAfterBytes invalid"] else [])

structure L4FaultInjection where
  throttle : Option Throttle
  terminate : Option Terminate

def validateL4Fault (fault : L4FaultInjection) : List String :=
  (match fault.terminate with
    | some t => validateTerminate t ++ ["Istio does not support the terminate fault yet"]
    | none => []) ++
  (fault.throttle.map validateThrottle).getD []

def ruleValidators (headerURI : String) (toLower : String → String) :
    RuleValidators MatchCondition HTTPTimeout HTTPRetry HTTPFaultInjection L4FaultInjection :=
  ⟨validateMatchCondition headerURI toLower, validateHTTPTimeout, validateHTTPRetries,
    validateHTTPFault, validateL4Fault⟩

end Pilot
