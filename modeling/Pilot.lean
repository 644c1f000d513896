import Pilot.Config
import Pilot.CompareToCache
import Pilot.DiffSpec
import Pilot.Monitor
import Pilot.MonitorLoop
import Pilot.MonitorStream
import Pilot.IngressStore
import Pilot.IngressQueue
import Pilot.IngressDelivery
import Pilot.Descriptor
import Pilot.Address
import Pilot.RouteRule
import Pilot.Duration
import Pilot.MeshConfig
import Pilot.RuleValidators
import Pilot.PolicyRule
import Pilot.Service
