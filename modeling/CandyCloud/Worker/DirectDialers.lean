import CandyCloud.Worker.Input

/-! # The dialers of direct peers

What the direct paths of a publication have to satisfy, said without the map in which
the check gathers their peers.
-/

namespace CandyCloud

open Foundation

/-- Both attachments are known, and the transport node is a known node at one end. -/
def EndpointNode (view : SegmentView) (path : PathCandidateV1) : Prop :=
  ∃ source destination, view.attachment path.sourceAttachmentId = some source ∧
    view.attachment path.destinationAttachmentId = some destination ∧
    (path.transportNodeId = source.nodeId ∨ path.transportNodeId = destination.nodeId) ∧
    (view.nodes path.transportNodeId).isSome

/-- The source dials: its own node is not the transport node. -/
def Dials (view : SegmentView) (path : PathCandidateV1) : Prop :=
  ∃ source, view.attachment path.sourceAttachmentId = some source ∧
    path.transportNodeId ≠ source.nodeId

theorem checkDirectPath_ok {view : SegmentView} {path : PathCandidateV1} {dials : Bool} :
    checkDirectPath view path = .ok dials ↔
      EndpointNode view path ∧ (dials = true ↔ Dials view path) := by
  simp only [checkDirectPath, orElse_bind_ok, unit_bind_ok, reject_ok, pure_ok]
  constructor
  · rintro ⟨source, from_, destination, to_, atEnd, known, rfl⟩
    refine ⟨⟨source, destination, from_, to_, ?_, by simpa using known⟩, ?_⟩
    · by_contra neither
      simp_all
    · simp [Dials, from_]
  · rintro ⟨⟨source, destination, from_, to_, atEnd, known⟩, dialing⟩
    refine ⟨source, from_, destination, to_, ?_, by simpa using known, ?_⟩
    · cases atEnd with
      | inl same => simp [same]
      | inr same => simp [same]
    · cases dials <;> simp_all [Dials]

def DirectOf (peerId : Uuid) (path : PathCandidateV1) : Prop :=
  path.kind = .direct ∧ path.peerId = peerId

/-- The direct paths end at known nodes, those of one peer share their transport node,
    and one of them dials. -/
structure DirectDialers (view : SegmentView) (paths : List PathCandidateV1) : Prop where
  endpoint : ∀ path ∈ paths, path.kind = .direct → EndpointNode view path
  oneNode : ∀ path ∈ paths, ∀ other ∈ paths, path.kind = .direct → DirectOf path.peerId other →
    other.transportNodeId = path.transportNodeId
  dialed : ∀ path ∈ paths, path.kind = .direct →
    ∃ dialing ∈ paths, DirectOf path.peerId dialing ∧ Dials view dialing

theorem DirectDialers.of_mem {view : SegmentView} {paths others : List PathCandidateV1}
    (same : ∀ path, path ∈ paths ↔ path ∈ others) (holds : DirectDialers view paths) :
    DirectDialers view others := by
  constructor
  · intro path member
    exact holds.endpoint path ((same path).mpr member)
  · intro path member other otherMember
    exact holds.oneNode path ((same path).mpr member) other ((same other).mpr otherMember)
  · intro path member direct
    obtain ⟨dialing, found, rest⟩ := holds.dialed path ((same path).mpr member) direct
    exact ⟨dialing, (same dialing).mp found, rest⟩

/-- What the map says after some paths: the peers of the direct ones, their transport
    node and whether a path seen so far dials. -/
structure Gathered (view : SegmentView) (seen : List PathCandidateV1)
    (peers : List (Uuid × Uuid × Bool)) : Prop where
  endpoint : ∀ path ∈ seen, path.kind = .direct → EndpointNode view path
  known : ∀ path ∈ seen, path.kind = .direct →
    ∃ dials, (path.peerId, path.transportNodeId, dials) ∈ peers
  oneNode : ∀ {peerId nodeId dials}, (peerId, nodeId, dials) ∈ peers →
    ∀ path ∈ seen, DirectOf peerId path → path.transportNodeId = nodeId
  dialed : ∀ {peerId nodeId dials}, (peerId, nodeId, dials) ∈ peers →
    (dials = true ↔ ∃ path ∈ seen, DirectOf peerId path ∧ Dials view path)
  seenPeer : ∀ {peerId nodeId dials}, (peerId, nodeId, dials) ∈ peers →
    ∃ path ∈ seen, DirectOf peerId path

namespace Gathered

variable {view : SegmentView} {seen : List PathCandidateV1} {peers : List (Uuid × Uuid × Bool)}
  {path : PathCandidateV1}

theorem nil : Gathered view [] [] := by
  constructor <;> simp

theorem skip (holds : Gathered view seen peers) (other : path.kind ≠ .direct) :
    Gathered view (seen ++ [path]) peers := by
  constructor
  · intro earlier member direct
    rcases mem_concat.mp member with member | rfl
    · exact holds.endpoint earlier member direct
    · exact absurd direct other
  · intro earlier member direct
    rcases mem_concat.mp member with member | rfl
    · exact holds.known earlier member direct
    · exact absurd direct other
  · intro peerId nodeId dials row earlier member direct
    rcases mem_concat.mp member with member | rfl
    · exact holds.oneNode row earlier member direct
    · exact absurd direct.1 other
  · intro peerId nodeId dials row
    rw [holds.dialed row]
    simp [DirectOf, or_and_right, exists_or, other]
  · intro peerId nodeId dials row
    obtain ⟨earlier, member, direct⟩ := holds.seenPeer row
    exact ⟨earlier, List.mem_append_left [path] member, direct⟩

theorem add {dials : Bool} (holds : Gathered view seen peers) (direct : path.kind = .direct)
    (checked : EndpointNode view path) (dialing : dials = true ↔ Dials view path)
    (fresh : ∀ nodeId other, (path.peerId, nodeId, other) ∉ peers) :
    Gathered view (seen ++ [path]) (peers ++ [(path.peerId, path.transportNodeId, dials)]) := by
  -- no path seen so far is a direct one of this peer
  have unseen : ∀ earlier ∈ seen, ¬ DirectOf path.peerId earlier := by
    intro earlier member of
    obtain ⟨other, row⟩ := holds.known earlier member of.1
    exact fresh _ other (of.2 ▸ row)
  have apart : ∀ {peerId nodeId other}, (peerId, nodeId, other) ∈ peers →
      ¬ DirectOf peerId path := by
    intro peerId nodeId other row of
    exact fresh nodeId other (of.2.symm ▸ row)
  constructor
  · intro earlier member kind
    rcases mem_concat.mp member with before | last
    · exact holds.endpoint earlier before kind
    · exact last ▸ checked
  · intro earlier member kind
    rcases mem_concat.mp member with before | last
    · obtain ⟨other, row⟩ := holds.known earlier before kind
      exact ⟨other, List.mem_append_left _ row⟩
    · exact ⟨dials, by simp [last]⟩
  · intro peerId nodeId other row earlier member of
    simp only [List.mem_append, List.mem_singleton, Prod.mk.injEq] at row member
    cases row with
    | inl old =>
        cases member with
        | inl before => exact holds.oneNode old earlier before of
        | inr last => exact absurd (last ▸ of) (apart old)
    | inr new =>
        obtain ⟨rfl, rfl, rfl⟩ := new
        cases member with
        | inl before => exact absurd of (unseen earlier before)
        | inr last => rw [last]
  · intro peerId nodeId other row
    simp only [List.mem_append, List.mem_singleton, Prod.mk.injEq] at row
    cases row with
    | inl old =>
        rw [holds.dialed old]
        simp [or_and_right, exists_or, apart old]
    | inr new =>
        obtain ⟨rfl, rfl, rfl⟩ := new
        rw [dialing]
        constructor
        · intro dialed
          exact ⟨path, by simp, ⟨direct, rfl⟩, dialed⟩
        · rintro ⟨earlier, member, of, dialed⟩
          rcases mem_concat.mp member with before | last
          · exact absurd of (unseen earlier before)
          · exact last ▸ dialed
  · intro peerId nodeId other row
    simp only [List.mem_append, List.mem_singleton, Prod.mk.injEq] at row
    cases row with
    | inl old =>
        obtain ⟨earlier, before, of⟩ := holds.seenPeer old
        exact ⟨earlier, List.mem_append_left [path] before, of⟩
    | inr new => exact ⟨path, by simp, direct, new.1.symm⟩

theorem update {dials : Bool} (holds : Gathered view seen peers) (direct : path.kind = .direct)
    (checked : EndpointNode view path) (dialing : dials = true ↔ Dials view path)
    (row : ∃ other, (path.peerId, path.transportNodeId, other) ∈ peers) :
    Gathered view (seen ++ [path]) (peers.map fun (peerId, nodeId, hasDialer) =>
      (peerId, nodeId, hasDialer || (peerId == path.peerId && dials))) := by
  obtain ⟨other, row⟩ := row
  -- the row and the earlier paths of the peer agree on the node
  have sameNode : ∀ {nodeId hasDialer}, (path.peerId, nodeId, hasDialer) ∈ peers →
      nodeId = path.transportNodeId := by
    intro nodeId hasDialer found
    obtain ⟨earlier, before, of⟩ := holds.seenPeer row
    rw [← holds.oneNode row earlier before of, holds.oneNode found earlier before of]
  constructor
  · intro earlier member kind
    rcases mem_concat.mp member with before | last
    · exact holds.endpoint earlier before kind
    · exact last ▸ checked
  · intro earlier member kind
    rcases mem_concat.mp member with before | last
    · obtain ⟨hasDialer, found⟩ := holds.known earlier before kind
      exact ⟨_, List.mem_map_of_mem found⟩
    · exact ⟨_, last ▸ List.mem_map_of_mem row⟩
  · intro peerId nodeId hasDialer updated earlier member of
    obtain ⟨⟨_, _, _⟩, old, same⟩ := List.mem_map.mp updated
    simp only [Prod.mk.injEq] at same
    obtain ⟨rfl, rfl, -⟩ := same
    rcases mem_concat.mp member with before | last
    · exact holds.oneNode old earlier before of
    · subst last
      rw [← of.2] at old
      exact (sameNode old).symm
  · intro peerId nodeId hasDialer updated
    obtain ⟨⟨_, _, earlierDialer⟩, old, same⟩ := List.mem_map.mp updated
    simp only [Prod.mk.injEq] at same
    obtain ⟨rfl, rfl, rfl⟩ := same
    rw [Bool.or_eq_true, holds.dialed old, Bool.and_eq_true, beq_iff_eq, dialing]
    constructor
    · rintro (⟨earlier, before, found⟩ | ⟨named, dialed⟩)
      · exact ⟨earlier, List.mem_append_left [path] before, found⟩
      · exact ⟨path, by simp, ⟨direct, named.symm⟩, dialed⟩
    · rintro ⟨earlier, member, of, dialed⟩
      rcases mem_concat.mp member with before | last
      · exact .inl ⟨earlier, before, of, dialed⟩
      · exact .inr (last ▸ ⟨of.2.symm, dialed⟩)
  · intro peerId nodeId hasDialer updated
    obtain ⟨⟨_, _, _⟩, old, same⟩ := List.mem_map.mp updated
    simp only [Prod.mk.injEq] at same
    obtain ⟨rfl, rfl, -⟩ := same
    obtain ⟨earlier, before, of⟩ := holds.seenPeer old
    exact ⟨earlier, List.mem_append_left [path] before, of⟩

theorem directPeer {peers' : List (Uuid × Uuid × Bool)} (holds : Gathered view seen peers)
    (done : directPeer view peers path = .ok peers') : Gathered view (seen ++ [path]) peers' := by
  unfold CandyCloud.directPeer at done
  split at done
  · next other =>
      cases done
      exact holds.skip other
  · next direct =>
      simp only [bind_ok, ne_eq, not_not] at done direct
      obtain ⟨dials, checked, done⟩ := done
      obtain ⟨atEnd, dialing⟩ := checkDirectPath_ok.mp checked
      split at done
      · next absent =>
          cases done
          refine holds.add direct atEnd dialing ?_
          intro nodeId other row
          simpa using List.find?_eq_none.mp absent _ row
      · next peerId nodeId hasDialer found =>
          simp only [unit_bind_ok, reject_ok, bne_eq_false_iff_eq, pure_ok] at done
          obtain ⟨rfl, rfl⟩ := done
          have named : peerId = path.peerId := by simpa using List.find?_some found
          subst named
          exact holds.update direct atEnd dialing ⟨hasDialer, List.mem_of_find?_eq_some found⟩

theorem directPeer_succeeds (holds : Gathered view seen peers)
    (checked : path.kind = .direct → EndpointNode view path)
    (agrees : path.kind = .direct → ∀ earlier ∈ seen, DirectOf path.peerId earlier →
      earlier.transportNodeId = path.transportNodeId) :
    ∃ peers', CandyCloud.directPeer view peers path = .ok peers' := by
  unfold CandyCloud.directPeer
  split
  · exact ⟨peers, rfl⟩
  · next direct =>
      simp only [ne_eq, not_not] at direct
      obtain ⟨dials, dialing⟩ : ∃ dials : Bool, dials = true ↔ Dials view path := by
        by_cases dialing : Dials view path
        · exact ⟨true, by simp [dialing]⟩
        · exact ⟨false, by simp [dialing]⟩
      have accepted : checkDirectPath view path = .ok dials :=
        checkDirectPath_ok.mpr ⟨checked direct, dialing⟩
      simp only [accepted, bind, Except.bind]
      split
      · exact ⟨_, rfl⟩
      · next peerId nodeId hasDialer found =>
          have named : peerId = path.peerId := by simpa using List.find?_some found
          have stored := List.mem_of_find?_eq_some found
          subst named
          obtain ⟨earlier, before, of⟩ := holds.seenPeer stored
          have same : nodeId = path.transportNodeId := by
            rw [← holds.oneNode stored earlier before of, agrees direct earlier before of]
          have agreed : (nodeId != path.transportNodeId) = false := by simp [same]
          exact ⟨_, by simp only [agreed]; rfl⟩

end Gathered

section Validate

variable {view : SegmentView} {paths : List PathCandidateV1}

theorem gathered_of_ok {peers : List (Uuid × Uuid × Bool)}
    (done : updateEach (directPeer view) [] paths = .ok peers) : Gathered view paths peers :=
  updateEach_processed (P := Gathered view) (fun _ _ _ _ _ _ holds step => holds.directPeer step)
    Gathered.nil done

theorem DirectDialers.gathers (holds : DirectDialers view paths) :
    ∃ peers, updateEach (directPeer view) [] paths = .ok peers ∧ Gathered view paths peers := by
  refine updateEach_succeeds (P := Gathered view) ?_ Gathered.nil
  intro seen path rest peers split gathered
  have member : path ∈ paths := by simp [split]
  have earlier : ∀ other ∈ seen, other ∈ paths := by
    intro other before
    simp [split, before]
  obtain ⟨peers', step⟩ := gathered.directPeer_succeeds (holds.endpoint path member)
    fun direct other before of => holds.oneNode path member other (earlier other before) direct of
  exact ⟨peers', step, gathered.directPeer step⟩

theorem Gathered.complete {peers : List (Uuid × Uuid × Bool)} (holds : Gathered view paths peers) :
    (∀ row ∈ peers, row.2.2 = true) ↔ DirectDialers view paths := by
  constructor
  · intro all
    refine ⟨holds.endpoint, ?_, ?_⟩
    · intro path member other otherMember direct of
      obtain ⟨dials, row⟩ := holds.known path member direct
      exact holds.oneNode row other otherMember of
    · intro path member direct
      obtain ⟨dials, row⟩ := holds.known path member direct
      exact (holds.dialed row).mp (all _ row)
  · rintro dialers ⟨peerId, nodeId, dials⟩ row
    obtain ⟨path, member, direct, rfl⟩ := holds.seenPeer row
    exact (holds.dialed row).mpr (dialers.dialed path member direct)

theorem validateDirectDialers_ok :
    validateDirectDialers view paths = .ok () ↔ DirectDialers view paths := by
  simp only [validateDirectDialers, bind_ok, reject_ok, List.any_eq_false, Bool.not_eq_true',
    Bool.not_eq_false]
  constructor
  · rintro ⟨peers, done, all⟩
    exact (gathered_of_ok done).complete.mp fun row member => by simpa using all row member
  · intro holds
    obtain ⟨peers, done, gathered⟩ := holds.gathers
    exact ⟨peers, done, fun row member => by simpa using gathered.complete.mpr holds row member⟩

end Validate

/-- The check accepts exactly the lists whose direct paths end at known nodes, share a
    node for each peer and have a dialer for each peer, in whatever order they stand. -/
theorem validateDirectDialers_iff (view : SegmentView) (paths : List PathCandidateV1) :
    (validateDirectDialers view paths = .ok () ↔ DirectDialers view paths) ∧
    ∀ others, paths.Perm others →
      (validateDirectDialers view others = .ok () ↔ validateDirectDialers view paths = .ok ()) := by
  refine ⟨validateDirectDialers_ok, fun others order => ?_⟩
  rw [validateDirectDialers_ok, validateDirectDialers_ok]
  constructor
  · exact DirectDialers.of_mem fun path => order.mem_iff.symm
  · exact DirectDialers.of_mem fun path => order.mem_iff

def dialerView : SegmentView where
  segment := none
  attachments := [(⟨1, 3, 1, 1, .active⟩, ⟨1, 1, 5, 0, 0⟩), (⟨1, 4, 1, 1, .active⟩, ⟨1, 1, 6, 0, 0⟩)]
  prefixes := []
  peers := []
  paths := []
  relays _ := none
  nodes id := if id = 5 ∨ id = 6 then some ⟨1, 1, 1, "node", .linux, "x86_64"⟩ else none
  egresses _ := none

def directPath (source destination transportNode : Uuid) : PathCandidateV1 :=
  ⟨1, 2, source, destination, .direct, none, transportNode, 100⟩

def fullDuplex : List PathCandidateV1 := [directPath 3 4 6, directPath 4 3 6]

example : validateDirectDialers dialerView [directPath 3 4 5, directPath 4 3 6] ≠ .ok () := by
  decide

theorem fullDuplex_dialers :
    DirectDialers dialerView fullDuplex ∧
      validateDirectDialers dialerView fullDuplex.reverse = .ok () := by
  have checked := validateDirectDialers_iff dialerView fullDuplex
  have accepted : validateDirectDialers dialerView fullDuplex = .ok () := by decide
  exact ⟨checked.1.mp accepted, (checked.2 _ fullDuplex.reverse_perm.symm).mpr accepted⟩

end CandyCloud
