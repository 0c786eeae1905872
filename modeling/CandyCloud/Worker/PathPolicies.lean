import CandyCloud.Control.CrossResource
import CandyCloud.Worker.RemoteRoutes

/-! # Path policies of a projection

A projection has one path policy, that of the Peer its first path leads over.
-/

namespace CandyCloud

open Foundation

def PeerV1.Joins (peer : PeerV1) (siteA siteB : Uuid) : Prop :=
  peer.siteAId = siteA ∧ peer.siteBId = siteB ∨ peer.siteAId = siteB ∧ peer.siteBId = siteA

/-- The Peer between two sites has the policy, and the policy allows the kind. -/
structure SegmentView.Agreed (view : SegmentView) (siteA siteB : Uuid)
    (pathPolicy : PeerPathPolicyV1) (kind : PathCandidateKindV1) : Prop where
  joined : ∃ row ∈ view.peers, row.2.Joins siteA siteB
  policy : ∀ row ∈ view.peers, row.2.Joins siteA siteB → row.2.pathPolicy = pathPolicy
  allowed : Cloud.policyMatches pathPolicy kind = true

instance (peer : PeerV1) (siteA siteB : Uuid) : Decidable (peer.Joins siteA siteB) :=
  inferInstanceAs (Decidable (peer.siteAId = siteA ∧ peer.siteBId = siteB ∨
    peer.siteAId = siteB ∧ peer.siteBId = siteA))

instance (view : SegmentView) (siteA siteB : Uuid) (pathPolicy : PeerPathPolicyV1)
    (kind : PathCandidateKindV1) : Decidable (view.Agreed siteA siteB pathPolicy kind) :=
  decidable_of_iff (((view.peers.any fun row => decide (row.2.Joins siteA siteB)) &&
      (view.peers.all fun row => !decide (row.2.Joins siteA siteB) ||
        decide (row.2.pathPolicy = pathPolicy)) && Cloud.policyMatches pathPolicy kind) = true) <| by
    simp only [Bool.and_eq_true, List.any_eq_true, List.all_eq_true, decide_eq_true_eq,
      Bool.or_eq_true, Bool.not_eq_true', decide_eq_false_iff_not, ← imp_iff_not_or]
    exact ⟨fun facts => ⟨facts.1.1, facts.1.2, facts.2⟩,
      fun agreed => ⟨⟨agreed.joined, agreed.policy⟩, agreed.allowed⟩⟩

/-- The policy of a projection holds for all of its paths. -/
def SegmentView.Follows (view : SegmentView) (siteId : Uuid)
    (projection : DeviceProjectionInput) : Prop :=
  ∀ path ∈ projection.peerPaths,
    view.Agreed siteId path.peerSiteId projection.pathPolicy path.kind

/-- An active candidate with a transport leaves an attachment for another, and both
    take part. -/
structure SegmentControlSnapshot.Leads (snapshot : SegmentControlSnapshot)
    (core : List SegmentAttachmentV1) (source : Uuid)
    (entry : ResourceMetadataV1 × PathCandidateV1) : Prop where
  listed : entry ∈ (segmentView snapshot.segmentId snapshot.resources).activePaths
  connects : pathConnectsParticipants
    ((segmentView snapshot.segmentId snapshot.resources).participants core) entry.2 = true
  source : entry.2.sourceAttachmentId = source
  bound : ∃ transports, snapshot.transportBindings.lookup entry.1.id = some transports ∧
    transports ≠ []

/-- For every participating attachment some policy is that of the Peers to all sites its
    candidates lead to, and none of the candidates is of a kind that it refuses. -/
def SegmentControlSnapshot.PeersAgree (snapshot : SegmentControlSnapshot) : Prop :=
  let view := segmentView snapshot.segmentId snapshot.resources
  ∀ core, view.coreAttachments = .ok core →
    ∀ entry ∈ view.activeAttachments, entry.1.id ∈ view.participants core →
      ∃ policy, ∀ path, snapshot.Leads core entry.1.id path →
        ∀ target ∈ view.attachments, target.1.id = path.2.destinationAttachmentId →
          view.Agreed entry.2.siteId target.2.siteId policy path.2.kind

theorem policyFor_ok {view : SegmentView} {siteA siteB : Uuid} {policy : PeerPathPolicyV1}
    (found : policyFor view siteA siteB = .ok policy) :
    ∃ row ∈ view.peers, row.2.Joins siteA siteB ∧ row.2.pathPolicy = policy := by
  simp only [policyFor, bind_ok, orElse_ok, pure_ok] at found
  obtain ⟨row, located, rfl⟩ := found
  have selects := List.find?_some (p := fun row : Uuid × PeerV1 =>
    (row.2.siteAId == siteA && row.2.siteBId == siteB) ||
      (row.2.siteAId == siteB && row.2.siteBId == siteA)) located
  simp only [Bool.or_eq_true, Bool.and_eq_true, beq_iff_eq] at selects
  exact ⟨row, List.mem_of_find?_eq_some located, selects, rfl⟩

section Projections

variable {env : BuildEnvironment} {store : RouteStore} {snapshot : SegmentControlSnapshot}
  {core : List SegmentAttachmentV1} {frame : PublicationFrame} {input : RoutePublicationInput}

theorem Builds.leads (parts : Builds env store snapshot core frame input) {source : Uuid}
    {entry : ResourceMetadataV1 × PathCandidateV1} : snapshot.Leads core source entry ↔
      entry ∈ frame.paths ∧ entry.2.sourceAttachmentId = source ∧ ∃ transports,
        snapshot.transportBindings.lookup entry.1.id = some transports ∧ transports ≠ [] := by
  rw [parts.paths, List.mem_filter, parts.participants, parts.view]
  constructor
  · intro leads
    exact ⟨⟨leads.listed, leads.connects⟩, leads.source, leads.bound⟩
  · intro leads
    exact ⟨leads.1.1, leads.1.2, leads.2.1, leads.2.2⟩

theorem Builds.follows_iff (parts : Builds env store snapshot core frame input)
    (keys : (snapshot.resources.map ControlResourceV1.key).Nodup)
    {metadata : ResourceMetadataV1} {attachment : AttachmentV1}
    {projection : DeviceProjectionInput}
    (made : buildProjection env store frame metadata attachment = .ok projection) :
    frame.view.Follows attachment.siteId projection ↔
      ∃ policy, ∀ path, snapshot.Leads core metadata.id path →
        ∀ target ∈ frame.view.attachments, target.1.id = path.2.destinationAttachmentId →
          frame.view.Agreed attachment.siteId target.2.siteId policy path.2.kind := by
  constructor
  · intro follows
    refine ⟨projection.pathPolicy, ?_⟩
    intro path leads target present destination
    obtain ⟨listed, source, bound⟩ := parts.leads.mp leads
    obtain ⟨peerPath, member, site, -, kind⟩ := (parts.leads_iff keys made).mpr
      ⟨path, listed, source, rfl, rfl, ⟨target, present, destination, rfl⟩, bound⟩
    rw [← site, ← kind]
    exact follows peerPath member
  · intro agreed
    obtain ⟨policy, agreed⟩ := agreed
    have each : ∀ path ∈ projection.peerPaths,
        frame.view.Agreed attachment.siteId path.peerSiteId policy path.kind := by
      intro path member
      obtain ⟨entry, listed, source, destination, kind, ⟨target, present, named, site⟩, bound⟩ :=
        (parts.leads_iff keys made).mp ⟨path, member, rfl, rfl, rfl⟩
      rw [← site, ← kind]
      exact agreed entry (parts.leads.mpr ⟨listed, source, bound⟩) target present
        (named.trans destination.symm)
    -- The first path has lent the projection the policy of its Peer.
    obtain ⟨-, -, -, outbound, first, -, -, head, chosen⟩ := buildProjection_ok made
    obtain ⟨row, present, joins, same⟩ := policyFor_ok chosen
    have own := (each first (List.mem_of_mem_head? head)).policy row present joins
    rw [same] at own
    rw [SegmentView.Follows, own]
    exact each

end Projections

/-- The path policy of a projection holds for every Peer exactly when the Peers of each
    participating attachment agree on one that allows its candidates. -/
theorem path_policies_hold_iff (env : BuildEnvironment) (store : RouteStore)
    (snapshot : SegmentControlSnapshot) {input : RoutePublicationInput}
    (keys : (snapshot.resources.map ControlResourceV1.key).Nodup)
    (built : buildInput env store snapshot = .ok input) :
    (∀ projection ∈ input.projections,
      ∀ entry ∈ (segmentView snapshot.segmentId snapshot.resources).attachments,
        entry.1.id = projection.attachmentId →
          (segmentView snapshot.segmentId snapshot.resources).Follows entry.2.siteId projection) ↔
      snapshot.PeersAgree := by
  obtain ⟨core, frame, parts⟩ := buildInput_builds built
  have converted := parts.converted
  have participants : frame.participants = frame.view.participants core := parts.participants
  simp only [SegmentControlSnapshot.PeersAgree, ← parts.view]
  constructor
  · intro follows core' same entry attached participates
    cases converted.symm.trans same
    rw [SegmentView.activeAttachments, List.mem_filter, beq_iff_eq] at attached
    rw [← participants] at participates
    obtain ⟨projection, member, made⟩ := mapM_mem parts.projections (List.mem_filter.mpr
      ⟨attached.1, by simp [attached.2, participates]⟩)
    exact (parts.follows_iff keys made).mp (follows projection member entry attached.1
      (buildProjection_ok made).1.symm)
  · intro agree projection member entry listed named
    obtain ⟨other, chosen, made⟩ := mem_mapM parts.projections member
    simp only [List.mem_filter, Bool.and_eq_true, beq_iff_eq, List.contains_iff_mem] at chosen
    obtain ⟨present, active, participates⟩ := chosen
    have same : entry = other := eq_of_key (parts.attachment_ids keys) listed present
      (named.trans (buildProjection_ok made).1)
    subst same
    refine (parts.follows_iff keys made).mpr (agree core converted entry ?_ ?_)
    · exact List.mem_filter.mpr ⟨listed, beq_iff_eq.mpr active⟩
    · rw [← participants]
      exact participates

/-- The candidates of the sample are direct. Its Peer is then made to require a relay. -/
def changedPeer : Except ControlStoreError SegmentControlSnapshot :=
  segmentSnapshot (run controlStep sampleCloud (egressGraph .localEgress ++
    [sampleReplace 75 1 .active (.peer ⟨3, 31, 32, .relayRequired⟩)])) egressTopology 1 3 9

def RoutePublicationInput.follow (input : RoutePublicationInput) (view : SegmentView) : Bool :=
  input.projections.all fun projection => view.attachments.all fun entry =>
    decide (entry.1.id ≠ projection.attachmentId) || projection.peerPaths.all fun path =>
      decide (view.Agreed entry.2.siteId path.peerSiteId projection.pathPolicy path.kind)

theorem follow_iff {input : RoutePublicationInput} {view : SegmentView} :
    input.follow view = true ↔ ∀ projection ∈ input.projections, ∀ entry ∈ view.attachments,
      entry.1.id = projection.attachmentId → view.Follows entry.2.siteId projection := by
  simp only [RoutePublicationInput.follow, List.all_eq_true, Bool.or_eq_true, decide_eq_true_eq,
    ne_eq, ← imp_iff_not_or, SegmentView.Follows]

/-- Whether the policies of a build are followed, and what they meet. -/
structure PolicyBuild where
  distinct : Bool
  policies : Except InputError (Bool × List (PeerPathPolicyV1 × List PathCandidateKindV1))
deriving DecidableEq

def policyBuild (snapshot : SegmentControlSnapshot) : PolicyBuild where
  distinct := decide (snapshot.resources.map ControlResourceV1.key).Nodup
  policies := (buildInput egressEnvironment egressStore snapshot).map fun input =>
    (input.follow (segmentView snapshot.segmentId snapshot.resources),
      input.projections.map fun projection =>
        (projection.pathPolicy, projection.peerPaths.map (·.kind)))

/-- A Peer that now requires a relay still gets its direct candidates. -/
theorem changed_peer_unfollowed :
    ∃ snapshot input, changedPeer = .ok snapshot ∧
      (snapshot.resources.map ControlResourceV1.key).Nodup ∧
      buildInput egressEnvironment egressStore snapshot = .ok input ∧
      input.projections.map (fun projection =>
        (projection.pathPolicy, projection.peerPaths.map (·.kind))) =
          [(.relayRequired, [.direct]), (.relayRequired, [.direct])] ∧
      ¬ ∀ projection ∈ input.projections,
        ∀ entry ∈ (segmentView snapshot.segmentId snapshot.resources).attachments,
          entry.1.id = projection.attachmentId → (segmentView snapshot.segmentId
            snapshot.resources).Follows entry.2.siteId projection := by
  have read : changedPeer.map policyBuild =
      .ok ⟨true, .ok (false, [(.relayRequired, [.direct]), (.relayRequired, [.direct])])⟩ := by
    decide +kernel
  obtain ⟨snapshot, taken, facts⟩ := map_ok.mp read
  simp only [policyBuild, PolicyBuild.mk.injEq, decide_eq_true_eq] at facts
  obtain ⟨keys, policies⟩ := facts
  obtain ⟨input, built, listed⟩ := map_ok.mp policies
  obtain ⟨unfollowed, kinds⟩ := Prod.mk.inj listed
  refine ⟨snapshot, input, taken, keys, built, kinds, ?_⟩
  rw [← follow_iff, unfollowed]
  decide

theorem direct_peer_agrees :
    ∃ snapshot input, egressSnapshot .localEgress = .ok snapshot ∧
      buildInput egressEnvironment egressStore snapshot = .ok input ∧ snapshot.PeersAgree := by
  have read : (egressSnapshot .localEgress).map policyBuild =
      .ok ⟨true, .ok (true, [(.directOnly, [.direct]), (.directOnly, [.direct])])⟩ := by
    decide +kernel
  obtain ⟨snapshot, taken, facts⟩ := map_ok.mp read
  simp only [policyBuild, PolicyBuild.mk.injEq, decide_eq_true_eq] at facts
  obtain ⟨keys, policies⟩ := facts
  obtain ⟨input, built, listed⟩ := map_ok.mp policies
  exact ⟨snapshot, input, taken, built, (path_policies_hold_iff egressEnvironment egressStore
    snapshot keys built).mp (follow_iff.mp (Prod.mk.inj listed).1)⟩

end CandyCloud
