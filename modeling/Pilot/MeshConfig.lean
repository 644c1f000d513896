import Pilot.Duration

/-! `ValidateProxyMeshConfig` of `model/validation.go`: the addresses, ports, durations and
authentication settings of the proxy mesh config, each error prefixed with the field it
concerns. -/

namespace Pilot

structure ProxyMeshConfig where
  egressProxyAddress : String
  discoveryAddress : String
  mixerAddress : String
  statsdUdpAddress : String
  proxyListenPort : BitVec 32
  proxyAdminPort : BitVec 32
  drainDuration : Option ProtoDuration
  parentShutdownDuration : Option ProtoDuration
  discoveryRefreshDelay : Option ProtoDuration
  connectTimeout : Option ProtoDuration
  istioServiceCluster : String
  authPolicy : BitVec 32
  authCertsPath : String
  deriving DecidableEq, Repr

def authPolicyName (p : BitVec 32) : String :=
  if p.toInt = 0 then "NONE" else if p.toInt = 1 then "MUTUAL_TLS" else toString p.toInt

def validateOptionalAddress (label addr : String) : List String :=
  if addr ≠ "" then prefixed label (validateProxyAddress addr).toList else []

def validateProxyMeshConfig (mesh : ProxyMeshConfig) : List String :=
  validateOptionalAddress "invalid egress proxy address:" mesh.egressProxyAddress ++
  (if mesh.discoveryAddress = "" then
    ["discovery address must be set to the proxy discovery service"]
  else prefixed "invalid discovery address:" (validateProxyAddress mesh.discoveryAddress).toList) ++
  validateOptionalAddress "invalid Mixer address:" mesh.mixerAddress ++
  validateOptionalAddress "invalid statsd udp address:" mesh.statsdUdpAddress ++
  prefixed "invalid proxy listen port:" (validatePort mesh.proxyListenPort.toInt).toList ++
  prefixed "invalid proxy admin port:" (validatePort mesh.proxyAdminPort.toInt).toList ++
  (if mesh.istioServiceCluster = "" then ["Istio service cluster must be set"] else []) ++
  prefixed "invalid parent and drain time combination"
    (validateParentAndDrain mesh.drainDuration mesh.parentShutdownDuration) ++
  prefixed "invalid refresh delay:" (validateRefreshDelay mesh.discoveryRefreshDelay).toList ++
  prefixed "invalid connect timeout:" (validateConnectTimeout mesh.connectTimeout).toList ++
  (if mesh.authCertsPath = "" then ["invalid auth certificates path"] else []) ++
  (if mesh.authPolicy.toInt = 0 ∨ mesh.authPolicy.toInt = 1 then []
  else ["unrecognized auth policy " ++ goQuote (authPolicyName mesh.authPolicy)])

theorem validateOptionalAddress_eq_nil_iff (label addr : String) :
    validateOptionalAddress label addr = [] ↔ addr = "" ∨ validateProxyAddress addr = none := by
  unfold validateOptionalAddress
  split_ifs with h
  · simp [h, option_toList_eq_nil]
  · simp only [not_not] at h
    simp [h]

structure MeshConfigValid (mesh : ProxyMeshConfig) : Prop where
  egress : mesh.egressProxyAddress = "" ∨ validateProxyAddress mesh.egressProxyAddress = none
  discovery : mesh.discoveryAddress ≠ "" ∧ validateProxyAddress mesh.discoveryAddress = none
  mixer : mesh.mixerAddress = "" ∨ validateProxyAddress mesh.mixerAddress = none
  statsd : mesh.statsdUdpAddress = "" ∨ validateProxyAddress mesh.statsdUdpAddress = none
  listenPort : 1 ≤ mesh.proxyListenPort.toInt ∧ mesh.proxyListenPort.toInt ≤ 65535
  adminPort : 1 ≤ mesh.proxyAdminPort.toInt ∧ mesh.proxyAdminPort.toInt ≤ 65535
  cluster : mesh.istioServiceCluster ≠ ""
  drainAndParent : ∃ dr pa, mesh.drainDuration = some dr ∧
    mesh.parentShutdownDuration = some pa ∧ WellFormedDuration dr ∧ WellFormedDuration pa ∧
    0 < dr.totalNanos ∧ dr.totalNanos % 1000000000 = 0 ∧ pa.totalNanos % 1000000000 = 0 ∧
    dr.totalNanos < pa.totalNanos ∧ pa.totalNanos ≤ parentShutdownTimeMax
  refreshDelay : ∃ d, mesh.discoveryRefreshDelay = some d ∧ WellFormedDuration d ∧
    discoveryRefreshDelayMin ≤ d.totalNanos ∧ d.totalNanos ≤ discoveryRefreshDelayMax ∧
    d.totalNanos % 1000000 = 0
  connectTimeout : ∃ d, mesh.connectTimeout = some d ∧ WellFormedDuration d ∧
    connectTimeoutMin ≤ d.totalNanos ∧ d.totalNanos ≤ connectTimeoutMax ∧
    d.totalNanos % 1000000 = 0
  certsPath : mesh.authCertsPath ≠ ""
  authPolicy : mesh.authPolicy.toInt = 0 ∨ mesh.authPolicy.toInt = 1

/-- `ValidateProxyMeshConfig` accepts exactly the mesh configs that meet every condition of
`MeshConfigValid`: both ends of the refresh delay and connect timeout ranges included, drain
and parent shutdown times in whole seconds with the drain time strictly shorter. -/
theorem validateProxyMeshConfig_eq_nil_iff (mesh : ProxyMeshConfig) :
    validateProxyMeshConfig mesh = [] ↔ MeshConfigValid mesh := by
  have hr := validateDurationIn_eq_none_iff (by decide : 1000000 ≤ discoveryRefreshDelayMin)
    (by decide : discoveryRefreshDelayMax < 2 ^ 63) mesh.discoveryRefreshDelay
  have hc := validateDurationIn_eq_none_iff (by decide : 1000000 ≤ connectTimeoutMin)
    (by decide : connectTimeoutMax < 2 ^ 63) mesh.connectTimeout
  by_cases hd : mesh.discoveryAddress = ""
  · exact iff_of_false (by simp [validateProxyMeshConfig, hd]) fun h => h.discovery.1 hd
  simp only [validateProxyMeshConfig, hd, if_false, List.append_eq_nil,
    validateOptionalAddress_eq_nil_iff, prefixed_eq_nil, option_toList_eq_nil,
    validatePort_eq_none_iff, validateParentAndDrain_eq_nil_iff, validateRefreshDelay,
    validateConnectTimeout, hr, hc, ite_eq_right_iff, ite_eq_left_iff, List.cons_ne_nil,
    imp_false, not_not, and_assoc]
  constructor
  · rintro ⟨he, hd', hm, hs, hl, hl', ha, ha', hcl, hpd, hrd, hct, hcp, hap⟩
    exact ⟨he, ⟨hd, hd'⟩, hm, hs, ⟨hl, hl'⟩, ⟨ha, ha'⟩, hcl, hpd, hrd, hct, hcp, hap⟩
  · rintro ⟨he, ⟨-, hd'⟩, hm, hs, ⟨hl, hl'⟩, ⟨ha, ha'⟩, hcl, hpd, hrd, hct, hcp, hap⟩
    exact ⟨he, hd', hm, hs, hl, hl', ha, ha', hcl, hpd, hrd, hct, hcp, hap⟩

end Pilot
