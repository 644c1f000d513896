import Pilot.PolicyRule

/-! `Service.Validate` and `ServiceInstance.Validate` of `model/validation.go`, over the
fields of `model.Service`, `model.Port` and `model.ServiceInstance` they read. -/

namespace Pilot

structure Port where
  name : String
  port : Int
  protocol : String
  deriving DecidableEq, Repr

structure Service where
  hostname : String
  ports : List Port
  deriving DecidableEq, Repr

structure NetworkEndpoint where
  port : Int
  servicePort : Option Port
  deriving DecidableEq, Repr

structure ServiceInstance where
  endpoint : NetworkEndpoint
  service : Option Service
  tags : List (String × String)
  deriving DecidableEq, Repr

def validateServicePort (count : Nat) (port : Port) : List String :=
  (if port.name = "" then
    (if count > 1 then ["empty port names are not allowed for services with multiple ports"]
    else [])
  else if !isDNS1123Label port.name then ["invalid name: " ++ goQuote port.name] else []) ++
  ((validatePort port.port).map fun err => "invalid service port value " ++ toString port.port ++
    " for " ++ goQuote port.name ++ ": " ++ err).toList

/-- `Service.Validate`. An empty hostname also splits into one empty, invalid part. -/
def validateService (s : Service) : List String :=
  (if s.hostname.utf8ByteSize = 0 then ["invalid empty hostname"] else []) ++
  (goSplit s.hostname '.').flatMap (fun part =>
    if !isDNS1123Label part then ["invalid hostname part: " ++ goQuote part] else []) ++
  (if s.ports.length = 0 then ["service must have at least one declared port"] else []) ++
  s.ports.flatMap (validateServicePort s.ports.length)

section Instance

/- `PortList.Get` of package `model`, not in the repository: the port a service declares
under a name. -/
variable (portsGet : List Port → String → Option Port)

def validateServicePortMatch (svc : Service) (port : Port) : List String :=
  match portsGet svc.ports port.name with
  | none => ["missing service port " ++ goQuote port.name]
  | some expected =>
    (if expected.port ≠ port.port then
      ["unexpected service port value " ++ toString port.port ++ ", expected " ++
        toString expected.port] else []) ++
    (if expected.protocol ≠ port.protocol then
      ["unexpected service protocol " ++ port.protocol ++ ", expected " ++ expected.protocol]
    else [])

def validateServiceInstance (inst : ServiceInstance) : List String :=
  (match inst.service with
    | none => ["missing service in the instance"]
    | some svc => validateService svc) ++
  validateTags inst.tags ++
  (validatePort inst.endpoint.port).toList ++
  match inst.endpoint.servicePort with
  | none => ["missing service port"]
  | some port =>
    match inst.service with
    | none => []
    | some svc => validateServicePortMatch portsGet svc port

end Instance

end Pilot
