import CandyCloud.Control.Mutate

/-! # Transport identities of a node

Provisioning replaces the endpoints of a node's service identity, withdrawing disables them;
both enqueue a tunnel generation for every segment that depends on the control node.
-/

namespace CandyCloud

open Foundation

def hexText (n : Nat) : String := String.ofList (Nat.toDigits 16 n)

def ipv4Text (ip : BitVec 32) : String :=
  ".".intercalate ([24, 16, 8, 0].map fun shift => Nat.repr ((ip.toNat >>> shift) % 256))

/-- The first longest run of zero groups: its start and its length. -/
def longestZeros (groups : List Nat) : Nat × Nat :=
  let scan := groups.zipIdx.foldl (fun (state : (Nat × Nat) × (Nat × Nat)) (group, i) =>
    if group = 0 then
      let current := if state.1.2 = 0 then (i, 1) else (state.1.1, state.1.2 + 1)
      (current, if state.2.2 < current.2 then current else state.2)
    else ((0, 0), state.2)) ((0, 0), (0, 0))
  scan.2

def ipv6Text (ip : BitVec 128) : String :=
  let groups := [112, 96, 80, 64, 48, 32, 16, 0].map fun shift => (ip.toNat >>> shift) % 65536
  let text (part : List Nat) := ":".intercalate (part.map hexText)
  if ip.toNat >>> 32 = 65535 then "::ffff:" ++ ipv4Text (BitVec.ofNat 32 ip.toNat)
  else
    let (start, length) := longestZeros groups
    if 1 < length then text (groups.take start) ++ "::" ++ text (groups.drop (start + length))
    else text groups

namespace SocketAddr

def port : SocketAddr → Nat
  | .v4 _ port | .v6 _ port _ _ => port

def text : SocketAddr → String
  | .v4 ip port => ipv4Text ip ++ ":" ++ Nat.repr port
  | .v6 ip port _ scopeId =>
      "[" ++ ipv6Text ip ++ (if scopeId = 0 then "" else "%" ++ Nat.repr scopeId) ++ "]:" ++
        Nat.repr port

/-- The fields in the order in which they are compared: family, address, port,
    flow and scope. -/
def key : SocketAddr → List Nat
  | .v4 ip port => [4, ip.toNat, port]
  | .v6 ip port flowinfo scopeId => [6, ip.toNat, port, flowinfo, scopeId]

def fieldsLe : List Nat → List Nat → Bool
  | [], _ => true
  | _ :: _, [] => false
  | a :: rest, b :: rest' => decide (a < b) || (a == b && fieldsLe rest rest')

end SocketAddr

def transportPresetValue : TransportPreset → String
  | .current => "CURRENT"
  | .bbrV1 => "BBR_V1"
  | .aggressive => "AGGRESSIVE"

structure TransportIdentityProvision where
  endpoint : SocketAddr
  serverCertSha256 : Hash
  transportPreset : TransportPreset
deriving DecidableEq, Repr

def requestIdByte (byte : UInt8) : Bool :=
  asciiAlphanumeric byte || byte == 46 || byte == 95 || byte == 45

def validateProvision (tenantId controlNodeId : Uuid) (requestId : String)
    (provisions : List TransportIdentityProvision) : Except ControlStoreError Unit :=
  reject (isNil tenantId || isNil controlNodeId || (utf8 requestId).isEmpty ||
    decide (120 < (utf8 requestId).length) || !(utf8 requestId).all requestIdByte ||
    provisions.isEmpty || decide (8 < provisions.length) ||
    provisions.any fun provision =>
      provision.endpoint.port == 0 || provision.serverCertSha256 == zeroHash) .invalidRequest

/-- The provisions in the order of their endpoints. -/
def canonicalProvisions (provisions : List TransportIdentityProvision) :
    List TransportIdentityProvision :=
  provisions.insertionSort fun a b =>
    SocketAddr.fieldsLe a.endpoint.key b.endpoint.key = true

def provisionBytes (canonical : List TransportIdentityProvision) : Bytes :=
  utf8 "candy/runtime-transport-identity-v1\x00" ++ bigEndian 8 canonical.length ++
    canonical.flatMap fun provision =>
      bigEndian 8 (utf8 provision.endpoint.text).length ++ utf8 provision.endpoint.text ++
        hashBytes provision.serverCertSha256 ++
        utf8 (transportPresetValue provision.transportPreset)

def provisionHash (sha256 : Bytes → Hash) (canonical : List TransportIdentityProvision) : Hash :=
  sha256 (provisionBytes canonical)

def serverName (deviceId : Uuid) : String :=
  "device-" ++ uuidText deviceId ++ ".sdwan.candy.internal"

/-- Active private pools of the tenant that an active entitlement on a live
    subscription opens for tunnels, one per joined row. -/
def Topology.privatePools (topology : Topology) (tenantId : Uuid) : List Uuid :=
  (topology.nodePools.filter fun pool =>
    pool.tenantId == some tenantId && pool.isPrivate && pool.active).flatMap fun pool =>
    (topology.entitlements.filter fun entitlement =>
      entitlement.nodePoolId == pool.id && entitlement.tenantId == tenantId &&
        entitlement.servicePermission == "private.tun.connect" && entitlement.active &&
        topology.subscriptions.any fun subscription =>
          subscription.id == entitlement.subscriptionId &&
            subscription.tenantId == entitlement.tenantId && subscription.live).map fun _ => pool.id

def NodeRow.identity (node : NodeRow) (tenantId deviceId deviceKeyId : Uuid) : Bool :=
  node.tenantId == some tenantId && node.deviceId == some deviceId &&
    node.deviceKeyId == some deviceKeyId

/-- Primary key, `uq_nodes_node_id` and `uq_nodes_device_identity`. -/
def NodeRow.conflict (a b : NodeRow) : Bool :=
  a.id == b.id || a.nodeId == b.nodeId ||
    (a.tenantId.isSome && a.deviceId.isSome && a.deviceKeyId.isSome && a.tenantId == b.tenantId &&
      a.deviceId == b.deviceId && a.deviceKeyId == b.deviceKeyId)

/-- Primary key and `uq_node_endpoint`. -/
def NodeEndpointRow.conflict (a b : NodeEndpointRow) : Bool :=
  a.id == b.id || (a.nodeId == b.nodeId && a.endpoint == b.endpoint)

/-- The node's service identity, activated in the pool or created. -/
def activateServiceNode (nodes : List NodeRow) (fresh tenantId nodePoolId : Uuid)
    (controlNode : NodeV1) : Except ControlStoreError (Uuid × List NodeRow) :=
  match nodes.find? fun node =>
    node.identity tenantId controlNode.deviceId controlNode.deviceKeyId with
  | some node => .ok (node.id, updateWhere (fun row => row.id == node.id)
      (fun row => { row with nodePoolId, status := .active }) nodes)
  | none => do
      let nodes ← orElse .database (insertRow NodeRow.conflict nodes
        { id := fresh
          tenantId := some tenantId
          nodePoolId
          nodeId := "candy:device:" ++ uuidText controlNode.deviceId
          deviceId := some controlNode.deviceId
          deviceKeyId := some controlNode.deviceKeyId
          status := .active })
      return (fresh, nodes)

def disableEndpoints (nodeId : Uuid) (endpoints : List NodeEndpointRow) : List NodeEndpointRow :=
  updateWhere (fun row => row.nodeId == nodeId) (fun row => { row with active := false }) endpoints

def provisionEndpoint (fresh : SocketAddr → Uuid) (serviceNodeId : Uuid) (name : String)
    (endpoints : List NodeEndpointRow) (provision : TransportIdentityProvision) :
    Except ControlStoreError (List NodeEndpointRow) :=
  match endpoints.find? fun row =>
    row.nodeId == serviceNodeId && row.endpoint == provision.endpoint.text with
  | some row => .ok (updateWhere (fun candidate => candidate.id == row.id)
      (fun candidate => { candidate with
        quic := true
        serverName := some name
        serverCertSha256 := some provision.serverCertSha256
        transportPreset := some provision.transportPreset
        active := true }) endpoints)
  | none => orElse .database (insertRow NodeEndpointRow.conflict endpoints
      { id := fresh provision.endpoint
        nodeId := serviceNodeId
        endpoint := provision.endpoint.text
        region := "tenant-managed"
        quic := true
        serverName := some name
        serverCertSha256 := some provision.serverCertSha256
        transportPreset := some provision.transportPreset
        active := true })

/-- The topology with the node's endpoints replaced. -/
def provisionTopology (topology : Topology) (freshNode : Uuid) (freshEndpoint : SocketAddr → Uuid)
    (tenantId : Uuid) (controlNode : NodeV1) (canonical : List TransportIdentityProvision) :
    Except ControlStoreError Topology := do
  reject (!(topology.activeDevice tenantId (some controlNode.deviceId) &&
    topology.activeDeviceKey tenantId (some controlNode.deviceId)
      (some controlNode.deviceKeyId))) .referenceConflict
  let nodePoolId ← orElse .referenceConflict
    (match topology.privatePools tenantId with
      | [pool] => some pool
      | _ => none)
  let (serviceNodeId, nodes) ←
    activateServiceNode topology.nodes freshNode tenantId nodePoolId controlNode
  let nodeEndpoints ← updateEach
    (provisionEndpoint freshEndpoint serviceNodeId (serverName controlNode.deviceId))
    (disableEndpoints serviceNodeId topology.nodeEndpoints) canonical
  return { topology with nodes, nodeEndpoints }

def TransportRequestRow.of (row : TransportRequestRow) (tenantId deviceId : Uuid)
    (requestId : String) : Bool :=
  row.tenantId == tenantId && row.deviceId == deviceId && row.requestId == requestId

/-- The writing part of the provisioning transaction. -/
def applyProvision (cloud : Cloud) (tenantId controlNodeId : Uuid) (requestId : String)
    (controlNode : NodeV1) (canonical : List TransportIdentityProvision) (requestHash : Hash)
    (freshNode : Uuid) (freshEndpoint : SocketAddr → Uuid) (fresh : Uuid → Uuid)
    (clock : Instant) : Except ControlStoreError (ProvisionedTransportIdentity × Cloud) := do
  let topology ← provisionTopology cloud.route.topology freshNode freshEndpoint tenantId
    controlNode canonical
  let response : ProvisionedTransportIdentity :=
    { nodeId := controlNodeId
      endpoints := canonical.map fun provision =>
        ⟨provision.endpoint, serverName controlNode.deviceId⟩
      replayed := false }
  let transportRequests ← orElse .database (insertRow
    (fun a b => b.of a.tenantId a.deviceId a.requestId) cloud.control.transportRequests
    ⟨tenantId, controlNode.deviceId, requestId, requestHash, response⟩)
  let queue ← enqueueGenerations cloud.queue fresh clock tenantId
    (cloud.control.dependentSegments tenantId .node controlNodeId) requestHash false
  return (response,
    { control := { cloud.control with transportRequests }
      queue
      route := { cloud.route with topology } })

def provisionPrivateTransportIdentity (sha256 : Bytes → Hash) (cloud : Cloud)
    (tenantId controlNodeId : Uuid) (requestId : String)
    (provisions : List TransportIdentityProvision) (freshNode : Uuid)
    (freshEndpoint : SocketAddr → Uuid) (fresh : Uuid → Uuid) (clock : Instant) :
    Except ControlStoreError (ProvisionedTransportIdentity × Cloud) := do
  validateProvision tenantId controlNodeId requestId provisions
  let canonical := canonicalProvisions provisions
  reject (!decide (canonical.map (·.endpoint)).Nodup) .invalidRequest
  let resource ← cloud.control.loadControlResource tenantId .node controlNodeId
  let controlNode ← orElse .referenceConflict resource.resource.node?
  let requestHash := provisionHash sha256 canonical
  match cloud.control.transportRequests.find? fun row =>
    row.of tenantId controlNode.deviceId requestId with
  | some row =>
      reject (row.requestHash != requestHash) .idempotencyConflict
      return ({ row.response with replayed := true }, cloud)
  | none =>
      applyProvision cloud tenantId controlNodeId requestId controlNode canonical requestHash
        freshNode freshEndpoint fresh clock

def withdrawBytes (deviceId : Uuid) : Bytes :=
  utf8 "candy/runtime-transport-withdraw-v1\x00" ++ uuidBytes deviceId

def withdrawHash (sha256 : Bytes → Hash) (deviceId : Uuid) : Hash :=
  sha256 (withdrawBytes deviceId)

def ControlStore.nodeOfDevice (store : ControlStore) (tenantId deviceId deviceKeyId : Uuid) :
    Option ResourceRow :=
  store.resources.find? fun row =>
    row.tenantId == tenantId && row.kind == .node && row.state == .active &&
      row.document.resource.node?.any fun node =>
        node.deviceId == deviceId && node.deviceKeyId == deviceKeyId

/-- `UPDATE node_endpoints … JOIN nodes … SET ne.status = 'DISABLED'`. -/
def Topology.withdraw (topology : Topology) (tenantId deviceId deviceKeyId : Uuid) : Topology :=
  { topology with
    nodeEndpoints := updateWhere (fun endpoint => topology.nodes.any fun node =>
        node.id == endpoint.nodeId && node.identity tenantId deviceId deviceKeyId)
      (fun endpoint => { endpoint with active := false }) topology.nodeEndpoints }

def withdrawPrivateTransportIdentityForDevice (sha256 : Bytes → Hash) (cloud : Cloud)
    (tenantId deviceId deviceKeyId : Uuid) (fresh : Uuid → Uuid) (clock : Instant) :
    Except ControlStoreError Cloud := do
  reject (isNil tenantId || isNil deviceId || isNil deviceKeyId) .invalidRequest
  let node ← orElse .notFound (cloud.control.nodeOfDevice tenantId deviceId deviceKeyId)
  let queue ← enqueueGenerations cloud.queue fresh clock tenantId
    (cloud.control.dependentSegments tenantId .node node.id) (withdrawHash sha256 deviceId) false
  let topology := cloud.route.topology.withdraw tenantId deviceId deviceKeyId
  return { cloud with queue, route := { cloud.route with topology } }

end CandyCloud
