import CandyCloud.Route.Configuration

/-! # `runtime_device_profile`

What a device is told about itself: its site and its segment when it is attached, and the other
sites of the segment.
-/

namespace CandyCloud

open Foundation

structure RuntimePeerSiteProfile where
  siteId : Uuid
  siteName : String
deriving DecidableEq, Repr

structure RuntimeDeviceProfile where
  organizationId : Uuid
  tenantId : Uuid
  deviceId : Uuid
  deviceKeyId : Uuid
  deviceName : String
  siteId : Option Uuid
  siteName : Option String
  segmentId : Option Uuid
  segmentName : Option String
  attachmentId : Option Uuid
  peerSites : List RuntimePeerSiteProfile
deriving DecidableEq, Repr

/-- `LEFT JOIN`: the rows, or one row of `NULL`s. -/
def leftJoin {α : Type} (rows : List α) : List (Option α) :=
  if rows.isEmpty then [none] else rows.map some

/-- A row of the first query. -/
structure ProfileRow where
  tenant : TenantRow
  device : DeviceRow
  key : DeviceKeyRow
  attachment : Option AttachmentRow
  site : Option SiteRow
  segment : Option SegmentRow
deriving DecidableEq, Repr

namespace RouteStore

variable (store : RouteStore)

/-- `tenants t JOIN organizations org`. -/
def activeTenants (tenantId : Uuid) : List TenantRow :=
  (store.topology.tenants.filter fun tenant =>
    tenant.id == tenantId && tenant.status == .active).flatMap fun tenant =>
      (store.topology.organizations.filter fun org =>
        org.id == tenant.organizationId && org.status == .active).map fun _ => tenant

/-- `devices d JOIN device_keys dk`. -/
def activeDeviceKeys (lookup : RuntimeConfigurationLookup) : List (DeviceRow × DeviceKeyRow) :=
  (store.topology.devices.filter fun device =>
    device.tenantId == lookup.tenantId && device.id == lookup.deviceId &&
      device.status == .active).flatMap fun device =>
    (store.topology.deviceKeys.filter fun key =>
      key.tenantId == lookup.tenantId && key.deviceId == device.id &&
        key.id == lookup.deviceKeyId && key.status == .active).map fun key => (device, key)

def deviceAttachments (lookup : RuntimeConfigurationLookup) : List AttachmentRow :=
  store.topology.attachments.filter fun a =>
    a.tenantId == lookup.tenantId && a.deviceId == some lookup.deviceId &&
      a.deviceKeyId == some lookup.deviceKeyId && a.routed

def profileSites (tenantId : Uuid) (attachment : Option AttachmentRow) : List SiteRow :=
  store.topology.sites.filter fun site =>
    site.tenantId == tenantId && some site.id == attachment.bind (·.siteId) &&
      site.state == .active

def profileSegments (tenantId : Uuid) (attachment : Option AttachmentRow) : List SegmentRow :=
  store.segments.filter fun segment =>
    segment.tenantId == tenantId && some segment.id == attachment.map (·.segmentId) &&
      segment.state == .active

/-- The first query. Its order by attachment is left out: more than one row is
    refused. -/
def profileRows (lookup : RuntimeConfigurationLookup) : List ProfileRow :=
  (store.activeTenants lookup.tenantId).flatMap fun tenant =>
    (store.activeDeviceKeys lookup).flatMap fun held =>
      (leftJoin (store.deviceAttachments lookup)).flatMap fun attachment =>
        (leftJoin (store.profileSites lookup.tenantId attachment)).flatMap fun site =>
          (leftJoin (store.profileSegments lookup.tenantId attachment)).map fun segment =>
            ⟨tenant, held.1, held.2, attachment, site, segment⟩

/-- `ORDER BY s.name, a.site_id`. -/
def peerSiteOrder (a b : RuntimePeerSiteProfile) : Prop :=
  a.siteName < b.siteName ∨ a.siteName = b.siteName ∧ a.siteId ≤ b.siteId

instance : DecidableRel peerSiteOrder := fun a b =>
  inferInstanceAs (Decidable (a.siteName < b.siteName ∨
    a.siteName = b.siteName ∧ a.siteId ≤ b.siteId))

/-- The other sites with an attachment in the segment, at most one more than
    are allowed. -/
def peerSites (tenantId segmentId siteId : Uuid) : List RuntimePeerSiteProfile :=
  (((store.topology.attachments.filter fun a =>
    a.tenantId == tenantId && a.segmentId == segmentId && a.siteId != some siteId &&
      (a.state == .active || a.state == .standby)).flatMap fun a =>
    (store.topology.sites.filter fun site =>
      site.tenantId == a.tenantId && some site.id == a.siteId && site.state == .active).map
      fun site => ({ siteId := site.id, siteName := site.name } : RuntimePeerSiteProfile)
    ).dedup.insertionSort peerSiteOrder).take (maxProjections + 1)

end RouteStore

def ProfileRow.profile (row : ProfileRow) (peerSites : List RuntimePeerSiteProfile) :
    RuntimeDeviceProfile where
  organizationId := row.tenant.organizationId
  tenantId := row.tenant.id
  deviceId := row.device.id
  deviceKeyId := row.key.id
  deviceName := row.device.displayName
  siteId := row.attachment.bind (·.siteId)
  siteName := row.site.map (·.name)
  segmentId := row.attachment.map (·.segmentId)
  segmentName := row.segment.map (·.name)
  attachmentId := row.attachment.map (·.id)
  peerSites

def onlyProfileRow : List ProfileRow → Except RuntimeConfigurationError ProfileRow
  | [] => .error .invalidScope
  | [row] => .ok row
  | _ => .error .ambiguousConfiguration

def runtimeDeviceProfile (store : RouteStore) (lookup : RuntimeConfigurationLookup) :
    Except RuntimeConfigurationError RuntimeDeviceProfile := do
  lookup.validate
  let row ← onlyProfileRow (store.profileRows lookup)
  let peers := match row.attachment.bind (·.siteId), row.attachment.map (·.segmentId) with
    | some siteId, some segmentId => store.peerSites lookup.tenantId segmentId siteId
    | _, _ => []
  reject (decide (maxProjections < peers.length)) .invalidScope
  return row.profile peers

/-- The primary keys of the tables that the queries join. -/
structure RouteStore.PrimaryKeys (store : RouteStore) : Prop where
  organizations : (store.topology.organizations.map (·.id)).Nodup
  tenants : (store.topology.tenants.map (·.id)).Nodup
  devices : (store.topology.devices.map (·.id)).Nodup
  deviceKeys : (store.topology.deviceKeys.map (·.id)).Nodup
  sites : (store.topology.sites.map (·.id)).Nodup
  segments : (store.segments.map (·.id)).Nodup

theorem leftJoin_le_one {α : Type} {rows : List α} (single : rows.length ≤ 1) :
    (leftJoin rows).length ≤ 1 := by
  unfold leftJoin
  split
  · exact Nat.le_refl 1
  · rw [List.length_map]
    exact single

section Profile

variable {store : RouteStore} {lookup : RuntimeConfigurationLookup}

theorem activeSegments_le_one (unique : (store.segments.map (·.id)).Nodup)
    (tenantId segmentId : Uuid) : (store.activeSegments tenantId segmentId).length ≤ 1 := by
  refine length_filter_key_le_one unique segmentId ?_
  intro segment _ selected
  simp only [SegmentRow.of, Bool.and_eq_true, beq_iff_eq] at selected
  exact selected.1.2

section

variable (keys : store.PrimaryKeys) (single : (store.deviceAttachments lookup).length ≤ 1)

include keys single

theorem profileRows_le_one : (store.profileRows lookup).length ≤ 1 := by
  have tenants : (store.activeTenants lookup.tenantId).length ≤ 1 := by
    refine length_flatMap_le_one ?_ ?_
    · refine length_filter_key_le_one keys.tenants lookup.tenantId ?_
      intro tenant _ selected
      simp only [Bool.and_eq_true, beq_iff_eq] at selected
      exact selected.1
    · intro tenant _
      rw [List.length_map]
      refine length_filter_key_le_one keys.organizations tenant.organizationId ?_
      intro org _ selected
      simp only [Bool.and_eq_true, beq_iff_eq] at selected
      exact selected.1
  have held : (store.activeDeviceKeys lookup).length ≤ 1 := by
    refine length_flatMap_le_one ?_ ?_
    · refine length_filter_key_le_one keys.devices lookup.deviceId ?_
      intro device _ selected
      simp only [Bool.and_eq_true, beq_iff_eq] at selected
      exact selected.1.2
    · intro device _
      rw [List.length_map]
      refine length_filter_key_le_one keys.deviceKeys lookup.deviceKeyId ?_
      intro key _ selected
      simp only [Bool.and_eq_true, beq_iff_eq] at selected
      exact selected.1.2
  refine length_flatMap_le_one tenants fun tenant _ => length_flatMap_le_one held fun _ _ =>
    length_flatMap_le_one (leftJoin_le_one single) ?_
  intro attachment _
  have site : (store.profileSites lookup.tenantId attachment).length ≤ 1 := by
    cases named : attachment.bind (·.siteId) with
    | none => simp [RouteStore.profileSites, named]
    | some siteId =>
        refine length_filter_key_le_one keys.sites siteId ?_
        intro site _ selected
        simp only [named, Bool.and_eq_true, beq_iff_eq, Option.some.injEq] at selected
        exact selected.1.2
  have segment : (store.profileSegments lookup.tenantId attachment).length ≤ 1 := by
    cases named : attachment.map (·.segmentId) with
    | none => simp [RouteStore.profileSegments, named]
    | some segmentId =>
        refine length_filter_key_le_one keys.segments segmentId ?_
        intro segment _ selected
        simp only [named, Bool.and_eq_true, beq_iff_eq, Option.some.injEq] at selected
        exact selected.1.2
  refine length_flatMap_le_one (leftJoin_le_one site) ?_
  intro site _
  rw [List.length_map]
  exact leftJoin_le_one segment

theorem profile_unambiguous :
    Avoids .ambiguousConfiguration (runtimeDeviceProfile store lookup) := by
  have rows := profileRows_le_one keys single
  have only : Avoids .ambiguousConfiguration (onlyProfileRow (store.profileRows lookup)) := by
    cases found : store.profileRows lookup with
    | nil =>
        intro failed
        cases failed
    | cons row rest =>
        cases rest with
        | nil => exact avoids_ok row
        | cons next rest => simp [found] at rows
  refine Avoids.bind (avoids_reject (by simp)) ?_
  intro _
  refine only.bind ?_
  intro row
  refine Avoids.bind (avoids_reject (by simp)) ?_
  intro _
  exact avoids_ok _

/-- With one attachment of the device key the first query of a configuration
    has at most one row as well. -/
theorem currentAttachments_le_one : (store.currentAttachments lookup).length ≤ 1 := by
  refine (List.length_filter_le _ _).trans (length_flatMap_le_one ?_ ?_)
  · refine le_trans (List.Sublist.length_le (List.monotone_filter_right _ ?_)) single
    intro attachment selected
    simp only [Bool.and_eq_true] at selected ⊢
    exact selected.1.1
  · intro attachment _
    rw [List.length_map]
    exact activeSegments_le_one keys.segments attachment.tenantId attachment.segmentId

end

theorem configuration_unambiguous (now : Instant) (policyIsolation : Bool)
    (single : (store.currentAttachments lookup).length ≤ 1) (unpublished : store.projections = []) :
    Avoids .ambiguousConfiguration
      (loadCurrentRuntimeConfiguration store now policyIsolation lookup) := by
  unfold loadCurrentRuntimeConfiguration
  split
  · exact avoids_ok _
  · have undelivered : store.rolloutPositions lookup = [] := by
      simp [RouteStore.rolloutPositions, RouteStore.deliveries, unpublished]
    unfold loadAssigned
    rw [undelivered]
    intro failed
    cases failed
  · rename_i several other
    exfalso
    cases found : store.currentAttachments lookup with
    | nil => exact several found
    | cons pair rest =>
        cases rest with
        | nil => exact other pair found
        | cons next rest => simp [found] at single

end Profile

end CandyCloud
