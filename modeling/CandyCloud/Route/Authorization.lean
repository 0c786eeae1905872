import CandyCloud.Route.Profile

/-! # `AuthorizationRepository`

What a grant is issued from: the account behind a device key and, for a tunnel entitlement, the
one route policy the device may run.
-/

namespace CandyCloud

open Foundation

/-- The device key and the pool that it asks for. -/
structure AuthorizationLookup where
  tenantId : Uuid
  deviceId : Uuid
  deviceKeyId : Uuid
  nodePoolId : Uuid
deriving DecidableEq, Repr

/-- Exact signed route policy that a runtime asks for. -/
structure AuthorizationPolicyRef where
  policyId : Uuid
  generation : Nat
  contentHash : Hash
deriving DecidableEq, Repr

/-- The projection that a grant binds a device to. -/
structure AuthorizationRoutePolicy where
  segmentId : Uuid
  attachmentId : Uuid
  siteId : Uuid
  projectionId : Uuid
  projectionGeneration : Nat
  projectionContentHash : Hash
  segmentGeneration : Nat
  segmentContentHash : Hash
deriving DecidableEq, Repr

/-- The service class and the two statuses are kept as far as they are looked
    at: is it `PRIVATE`, is it `ACTIVE`, is it one of `TRIAL`, `ACTIVE` and
    `GRACE`. -/
structure AuthorizationRecord where
  organizationId : Uuid
  tenantId : Uuid
  subscriptionId : Uuid
  deviceId : Uuid
  deviceStatus : DeviceStatus
  deviceKeyId : Uuid
  devicePublicKey : Bytes
  assuranceLevel : Nat
  nodePoolId : Uuid
  isPrivate : Bool
  entitlementId : Uuid
  servicePermission : String
  entitlementActive : Bool
  entitlementGeneration : Nat
  subscriptionPermits : Bool
  policyGeneration : Nat
  revocationGeneration : Nat
  authorizationGeneration : Nat
  quotaJson : String
  routePolicy : Option AuthorizationRoutePolicy
deriving DecidableEq, Repr

inductive AuthorizationRepositoryError where
  | invalidAuthorizationScope
  | routePolicyResyncRequired
  | invalidGrantScope
  | database
deriving DecidableEq, Repr

/-- A row of `policies`, `revocation_generations` or `authorization_generations`. -/
structure GenerationRow where
  tenantId : Uuid
  generation : Nat
deriving DecidableEq, Repr

/-- Tables that only authorization reads, and its columns of the other tables
    by their primary keys. -/
structure AuthorizationTables where
  policies : List GenerationRow
  revocationGenerations : List GenerationRow
  authorizationGenerations : List GenerationRow
  publicKey : Uuid → Bytes
  assuranceLevel : Uuid → Nat
  inGrace : Uuid → Bool
  entitlementGeneration : Uuid → Nat
  quotaJson : Uuid → String

def privateTunConnect : String := "private.tun.connect"

def AuthorizationLookup.validate (lookup : AuthorizationLookup) : Except AuthorizationRepositoryError Unit :=
  reject (isNil lookup.tenantId || isNil lookup.deviceId || isNil lookup.deviceKeyId ||
    isNil lookup.nodePoolId) .invalidAuthorizationScope

def AuthorizationPolicyRef.malformed (policy : AuthorizationPolicyRef) : Bool :=
  isNil policy.policyId || policy.generation == 0 || policy.contentHash == zeroHash

/-- The generation of the tenant in a table with one row for each tenant. -/
def generationOf (rows : List GenerationRow) (tenantId : Uuid) : Nat :=
  ((rows.filter (·.tenantId == tenantId)).map (·.generation)).max?.getD 0

namespace RouteStore

variable (store : RouteStore)

def authorizationRows (tables : AuthorizationTables) (lookup : AuthorizationLookup) :
    List AuthorizationRecord :=
  (store.activeTenants lookup.tenantId).flatMap fun tenant =>
    (store.topology.devices.filter fun device =>
      device.tenantId == tenant.id && device.id == lookup.deviceId).flatMap fun device =>
    (store.topology.deviceKeys.filter fun key =>
      key.tenantId == tenant.id && key.deviceId == device.id && key.id == lookup.deviceKeyId &&
        key.status == .active).flatMap fun key =>
    (store.topology.entitlements.filter fun entitlement =>
      entitlement.tenantId == tenant.id &&
        entitlement.nodePoolId == lookup.nodePoolId).flatMap fun entitlement =>
    (store.topology.subscriptions.filter fun subscription =>
      subscription.tenantId == tenant.id &&
        subscription.id == entitlement.subscriptionId).flatMap fun subscription =>
    (store.topology.nodePools.filter fun pool =>
      pool.id == entitlement.nodePoolId && pool.active).flatMap fun pool =>
    (tables.authorizationGenerations.filter (·.tenantId == tenant.id)).map fun authorization =>
      { organizationId := tenant.organizationId
        tenantId := tenant.id
        subscriptionId := entitlement.subscriptionId
        deviceId := device.id
        deviceStatus := device.status
        deviceKeyId := key.id
        devicePublicKey := tables.publicKey key.id
        assuranceLevel := tables.assuranceLevel key.id
        nodePoolId := pool.id
        isPrivate := pool.isPrivate
        entitlementId := entitlement.id
        servicePermission := entitlement.servicePermission
        entitlementActive := entitlement.active
        entitlementGeneration := tables.entitlementGeneration entitlement.id
        subscriptionPermits := subscription.live || tables.inGrace subscription.id
        policyGeneration := generationOf tables.policies tenant.id
        revocationGeneration := generationOf tables.revocationGenerations tenant.id
        authorizationGeneration := authorization.generation
        quotaJson := tables.quotaJson entitlement.id
        routePolicy := none }

/-- Attachments of the device key with an active segment and site, joined with
    the rollout of the segment's current generation. -/
def rolloutAttachments (lookup : AuthorizationLookup) :
    List (AttachmentRow × SegmentRow × RolloutRow) :=
  (store.topology.attachments.filter fun a =>
    a.tenantId == lookup.tenantId && a.deviceId == some lookup.deviceId &&
      a.deviceKeyId == some lookup.deviceKeyId && a.routed &&
      store.topology.activeSite a.tenantId a.siteId).flatMap fun a =>
    (store.activeSegments a.tenantId a.segmentId).flatMap fun segment =>
      (store.rollouts.filter fun rollout =>
        rollout.of segment.tenantId segment.id segment.currentGeneration).map fun rollout =>
          (a, segment, rollout)

/-- The projections of an attachment's own device key and site. -/
def attachmentVersions (a : AttachmentRow) : List ProjectionRow :=
  store.projections.filter fun p =>
    p.tenantId == a.tenantId && p.segmentId == a.segmentId && some p.siteId == a.siteId &&
      p.attachmentId == a.id && some p.deviceId == a.deviceId && some p.deviceKeyId == a.deviceKeyId

/-- Memberships of a projection with the publications they belong to that are
    neither expired nor stale. -/
def livePublications (now : Instant) (p : ProjectionRow) : List (MemberRow × PublicationRow) :=
  (store.members.filter fun member =>
    member.tenantId == p.tenantId && member.projectionPublicationId == p.id &&
      member.attachmentId == p.attachmentId && member.projectionId == p.projectionId).flatMap
    fun member =>
      (store.publications.filter fun publication =>
        publication.id == member.segmentPublicationId && publication.tenantId == p.tenantId &&
          publication.segmentId == p.segmentId && publication.generation == p.segmentGeneration &&
          publication.contentHash == p.segmentContentHash &&
          decide (unixTimestamp now ≤ publication.expiresAt) &&
          decide (unixTimestamp now ≤ publication.staleUntil)).map fun publication =>
        (member, publication)

/-- The attachment has a projection of the previous generation. -/
def projectedBefore (segment : SegmentRow) (p : ProjectionRow) : Bool :=
  store.projections.any fun previous =>
    previous.tenantId == p.tenantId && previous.segmentId == p.segmentId &&
      previous.attachmentId == p.attachmentId && previous.deviceId == p.deviceId &&
      previous.deviceKeyId == p.deviceKeyId &&
      previous.segmentGeneration == segment.currentGeneration - 1

def defaultChoice (segment : SegmentRow) (rollout : RolloutRow) (p : ProjectionRow)
    (member : MemberRow) : Bool :=
  (rollout.state == .blocked || decide (rollout.allowedOrdinal < member.rolloutOrdinal)) &&
      decide (1 < segment.currentGeneration) &&
      p.segmentGeneration == segment.currentGeneration - 1 ||
    rollout.state != .blocked && decide (member.rolloutOrdinal ≤ rollout.allowedOrdinal) &&
      p.segmentGeneration == segment.currentGeneration ||
    rollout.state == .blocked && decide (member.rolloutOrdinal ≤ rollout.allowedOrdinal) &&
      p.segmentGeneration == segment.currentGeneration && !store.projectedBefore segment p

end RouteStore

/-- The columns of the segment, the attachment and the site are those that the
    projection is joined on. -/
def ProjectionRow.routePolicy (p : ProjectionRow) (publication : PublicationRow) :
    AuthorizationRoutePolicy where
  segmentId := p.segmentId
  attachmentId := p.attachmentId
  siteId := p.siteId
  projectionId := p.projectionId
  projectionGeneration := p.projectionGeneration
  projectionContentHash := p.contentHash
  segmentGeneration := publication.generation
  segmentContentHash := publication.contentHash

def AuthorizationPolicyRef.names (requested : AuthorizationPolicyRef) (p : ProjectionRow) : Bool :=
  p.projectionId == requested.policyId && p.projectionGeneration == requested.generation &&
    p.contentHash == requested.contentHash

namespace RouteStore

variable (store : RouteStore)

def defaultPolicies (now : Instant) (lookup : AuthorizationLookup) :
    List AuthorizationRoutePolicy :=
  (store.rolloutAttachments lookup).flatMap fun row =>
    (store.attachmentVersions row.1).flatMap fun p =>
      ((store.livePublications now p).filter fun live =>
        store.defaultChoice row.2.1 row.2.2 p live.1).map fun live => p.routePolicy live.2

/-- Projections of the current generation, from whichever site. -/
def targets (a : AttachmentRow) (generation : Nat) : List ProjectionRow :=
  store.projections.filter fun target =>
    target.tenantId == a.tenantId && target.segmentId == a.segmentId &&
      target.attachmentId == a.id && some target.deviceId == a.deviceId &&
      some target.deviceKeyId == a.deviceKeyId && target.segmentGeneration == generation

/-- `status.active_projection_publication_id` of the attachment's device key. -/
def activePointer (a : AttachmentRow) : Option Uuid := do
  let status ← store.statuses.find? fun status =>
    status.tenantId == a.tenantId && some status.deviceId == a.deviceId &&
      some status.deviceKeyId == a.deviceKeyId
  status.activeProjectionPublicationId

/-- The current target, or the version that the device runs. -/
def requestedChoice (policyIsolation : Bool) (a : AttachmentRow) (segment : SegmentRow)
    (rollout : RolloutRow) (target p : ProjectionRow) (member : MemberRow) : Bool :=
  p.id == target.id && decide (member.rolloutOrdinal ≤ rollout.allowedOrdinal) ||
    some p.id == store.activePointer a && decide (p.segmentGeneration < segment.currentGeneration) &&
      (p.segmentGeneration == segment.currentGeneration - 1 ||
        policyIsolation &&
          decide (segment.currentGeneration - min segment.currentGeneration 32
            ≤ p.segmentGeneration) &&
          store.onlyPolicySince p segment.currentGeneration)

def requestedPolicies (policyIsolation : Bool) (now : Instant) (lookup : AuthorizationLookup)
    (requested : AuthorizationPolicyRef) : List AuthorizationRoutePolicy :=
  (store.rolloutAttachments lookup).flatMap fun row =>
    (store.targets row.1 row.2.1.currentGeneration).flatMap fun target =>
      ((store.attachmentVersions row.1).filter requested.names).flatMap fun p =>
        ((store.livePublications now p).filter fun live =>
          live.2.id == p.publicationId &&
            store.requestedChoice policyIsolation row.1 row.2.1 row.2.2 target p live.1).map
          fun live => p.routePolicy live.2

/-- The version that the device runs and asks for has left the window. -/
def retiredVersions (lookup : AuthorizationLookup) (requested : AuthorizationPolicyRef) :
    List ProjectionRow :=
  (store.topology.attachments.filter fun a =>
    a.tenantId == lookup.tenantId && a.deviceId == some lookup.deviceId &&
      a.deviceKeyId == some lookup.deviceKeyId && (a.state == .active || a.state == .standby) &&
      store.topology.activeSite a.tenantId a.siteId).flatMap fun a =>
    (store.activeSegments a.tenantId a.segmentId).flatMap fun segment =>
      store.projections.filter fun p =>
        some p.id == store.activePointer a && p.tenantId == a.tenantId && p.attachmentId == a.id &&
          some p.deviceId == a.deviceId && some p.deviceKeyId == a.deviceKeyId &&
          requested.names p &&
          decide (p.segmentGeneration
            < segment.currentGeneration - min segment.currentGeneration 32)

def routePolicies (policyIsolation : Bool) (now : Instant) (lookup : AuthorizationLookup) :
    Option AuthorizationPolicyRef → List AuthorizationRoutePolicy
  | some requested => store.requestedPolicies policyIsolation now lookup requested
  | none => store.defaultPolicies now lookup

def policyRefusal (policyIsolation : Bool) (lookup : AuthorizationLookup) :
    Option AuthorizationPolicyRef → AuthorizationRepositoryError
  | some requested =>
      if policyIsolation && (store.retiredVersions lookup requested).length == 1 then
        .routePolicyResyncRequired
      else .invalidAuthorizationScope
  | none => .invalidAuthorizationScope

end RouteStore

def AuthorizationRecord.entitled (record : AuthorizationRecord) : Bool :=
  record.deviceStatus == .active && record.entitlementActive && record.subscriptionPermits

/-- The grant record for a device, or nothing where it is not entitled. -/
def loadForPolicy (store : RouteStore) (tables : AuthorizationTables) (policyIsolation : Bool)
    (now : Instant) (lookup : AuthorizationLookup) (requested : Option AuthorizationPolicyRef) :
    Except AuthorizationRepositoryError (Option AuthorizationRecord) := do
  lookup.validate
  reject (requested.any (·.malformed)) .invalidAuthorizationScope
  match (store.authorizationRows tables lookup).head? with
  | none => return none
  | some record =>
      if !record.entitled then return none
      else if record.servicePermission == privateTunConnect then
        match store.routePolicies policyIsolation now lookup requested with
        | [policy] => return some { record with routePolicy := some policy }
        | _ => .error (store.policyRefusal policyIsolation lookup requested)
      else return some record

end CandyCloud
