import CandyCloud.Primitives

/-! # Tables the route contract reads but does not own

Accounts, devices, sites, nodes and attachments. They change under the route
publisher's feet (device lifecycle, the control bridge, administration), so a
whole `Topology` is replaced by an environment step and every query over it is
answered from the value current at that moment. Joins on a primary key are
lookups by that key.
-/

namespace CandyCloud

inductive AccountStatus where
  | active
  | suspended
  | deleted
deriving DecidableEq, Repr

inductive DeviceStatus where
  | pending
  | active
  | suspended
  | revoked
deriving DecidableEq, Repr

inductive DeviceKeyStatus where
  | pending
  | active
  | retiring
  | revoked
  | compromised
  | expired
deriving DecidableEq, Repr

/-- `segments.state`, `sites.state` and the state of a control resource. -/
inductive ResourceState where
  | active
  | disabled
  | deleted
deriving DecidableEq, Repr

inductive AttachmentState where
  | active
  | standby
  | disabled
  | revoked
deriving DecidableEq, Repr

inductive PrincipalKind where
  | device
  | node
deriving DecidableEq, Repr

inductive NodeStatus where
  | pending
  | active
  | draining
  | revoked
deriving DecidableEq, Repr

inductive SiteKind where
  | edge
  | privateCloud
deriving DecidableEq, Repr

inductive TransportPreset where
  | current
  | bbrV1
  | aggressive
deriving DecidableEq, Repr

/-- `organizations`. -/
structure OrganizationRow where
  id : Uuid
  status : AccountStatus
deriving DecidableEq, Repr

structure TenantRow where
  id : Uuid
  organizationId : Uuid
  status : AccountStatus
deriving DecidableEq, Repr

/-- `devices`. -/
structure DeviceRow where
  id : Uuid
  tenantId : Uuid
  displayName : String
  status : DeviceStatus
  lastSeenAt : Option Instant
deriving DecidableEq, Repr

/-- `device_keys`. -/
structure DeviceKeyRow where
  id : Uuid
  tenantId : Uuid
  deviceId : Uuid
  status : DeviceKeyStatus
deriving DecidableEq, Repr

/-- `sites`. -/
structure SiteRow where
  id : Uuid
  tenantId : Uuid
  name : String
  kind : SiteKind
  state : ResourceState
deriving DecidableEq, Repr

/-- A block that a site owns. -/
structure SitePrefixRow where
  id : Uuid
  tenantId : Uuid
  siteId : Uuid
  network : BitVec 32
  prefixLen : Nat
  active : Bool
deriving DecidableEq, Repr

/-- `isPrivate` is `service_class = 'PRIVATE'`. -/
structure NodePoolRow where
  id : Uuid
  tenantId : Option Uuid
  isPrivate : Bool
  name : String
  active : Bool
  createdAt : Instant
deriving DecidableEq, Repr

/-- `live` is `status IN ('TRIAL','ACTIVE')`. -/
structure SubscriptionRow where
  id : Uuid
  tenantId : Uuid
  live : Bool
deriving DecidableEq, Repr

/-- The two rates are the document in `quota_json`. -/
structure EntitlementRow where
  id : Uuid
  tenantId : Uuid
  subscriptionId : Uuid
  nodePoolId : Uuid
  servicePermission : String
  uploadRateBps : Nat
  downloadRateBps : Nat
  active : Bool
deriving DecidableEq, Repr

/-- `nodes`. -/
structure NodeRow where
  id : Uuid
  tenantId : Option Uuid
  nodePoolId : Uuid
  nodeId : String
  deviceId : Option Uuid
  deviceKeyId : Option Uuid
  status : NodeStatus
deriving DecidableEq, Repr

/-- `quic` is the one non-null value of `node_endpoints.transport`. -/
structure NodeEndpointRow where
  id : Uuid
  nodeId : Uuid
  endpoint : String
  region : String
  quic : Bool
  serverName : Option String
  serverCertSha256 : Option Hash
  transportPreset : Option TransportPreset
  active : Bool
deriving DecidableEq, Repr

/-- A principal attached to a segment. -/
structure AttachmentRow where
  id : Uuid
  tenantId : Uuid
  segmentId : Uuid
  siteId : Option Uuid
  principalKind : PrincipalKind
  deviceId : Option Uuid
  deviceKeyId : Option Uuid
  overlayRouterIpv4 : BitVec 32
  state : AttachmentState
  epochFloor : Nat
deriving DecidableEq, Repr

/-- The tables that say who exists: accounts, devices, sites and attachments. -/
structure Topology where
  organizations : List OrganizationRow
  tenants : List TenantRow
  devices : List DeviceRow
  deviceKeys : List DeviceKeyRow
  sites : List SiteRow
  sitePrefixes : List SitePrefixRow
  nodePools : List NodePoolRow
  subscriptions : List SubscriptionRow
  entitlements : List EntitlementRow
  nodes : List NodeRow
  nodeEndpoints : List NodeEndpointRow
  attachments : List AttachmentRow
deriving DecidableEq, Repr

namespace AttachmentRow

/-- `principal_kind = 'DEVICE' AND state IN ('ACTIVE','STANDBY')`. -/
def routed (a : AttachmentRow) : Bool :=
  a.principalKind == .device && (a.state == .active || a.state == .standby)

end AttachmentRow

namespace Topology

def activeTenant (topology : Topology) (tenantId : Uuid) : Bool :=
  topology.tenants.any fun t =>
    t.id == tenantId && t.status == .active &&
      topology.organizations.any fun org => org.id == t.organizationId && org.status == .active

def activeSite (topology : Topology) (tenantId : Uuid) (siteId : Option Uuid) : Bool :=
  topology.sites.any fun s => some s.id == siteId && s.tenantId == tenantId && s.state == .active

def activeDevice (topology : Topology) (tenantId : Uuid) (deviceId : Option Uuid) : Bool :=
  topology.devices.any fun d =>
    some d.id == deviceId && d.tenantId == tenantId && d.status == .active

def activeDeviceKey (topology : Topology) (tenantId : Uuid) (deviceId keyId : Option Uuid) :
    Bool :=
  topology.deviceKeys.any fun k =>
    some k.id == keyId && k.tenantId == tenantId && some k.deviceId == deviceId &&
      k.status == .active

end Topology

end CandyCloud
