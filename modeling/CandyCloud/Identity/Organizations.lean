import CandyCloud.Identity.Calls

/-! # Owners and invitations

Every organization has one owner, who is active: the statements on members skip the owner's row,
an invitation cannot offer the role, and a transfer moves it in one transaction.
-/

namespace CandyCloud.Identity

open Foundation

def MembershipRow.owns (organizationId : Uuid) (row : MembershipRow) : Bool :=
  row.organizationId == organizationId && row.role == .organizationOwner

def owners (organizationId : Uuid) (memberships : List MembershipRow) : List MembershipRow :=
  memberships.filter (·.owns organizationId)

structure Governed (organizations : List OrganizationRow) (memberships : List MembershipRow) :
    Prop where
  ids : (organizations.map (·.id)).Nodup
  keys : (memberships.map (·.key)).Nodup
  placed : ∀ row ∈ memberships, ∃ organization ∈ organizations,
    organization.id = row.organizationId
  owned : ∀ organization ∈ organizations, ∃ owner,
    owners organization.id memberships = [owner] ∧ owner.status = .active

variable {row owner : MembershipRow} {organizationId userId : Uuid} {organization : OrganizationRow}
  {set : InvitationRow → InvitationRow}

theorem owns_iff :
    row.owns organizationId = true ↔
      row.organizationId = organizationId ∧ row.role = .organizationOwner := by
  simp only [MembershipRow.owns, Bool.and_eq_true, beq_iff_eq]

theorem not_owns (organizationId : Uuid) (other : row.role ≠ .organizationOwner)
    : row.owns organizationId = false := by
  rw [MembershipRow.owns, Bool.and_eq_false_iff, beq_eq_false_iff_ne, beq_eq_false_iff_ne]
  exact .inr other

theorem owners_concat (memberships : List MembershipRow) (other : row.owns organizationId = false) :
    owners organizationId (memberships ++ [row]) = owners organizationId memberships := by
  rw [owners, owners, List.filter_append, List.filter_singleton, other, cond_false,
    List.append_nil]

theorem transferred_keys (organizationId currentOwner newOwner : Uuid)
    (memberships : List MembershipRow) :
    (transferredMemberships organizationId currentOwner newOwner memberships).map (·.key) =
      memberships.map (·.key) := by
  rw [transferredMemberships, map_updateWhere, map_updateWhere]
  · intro row
    rfl
  · intro row
    rfl

namespace Governed

variable {organizations : List OrganizationRow} {memberships : List MembershipRow}
  (governed : Governed organizations memberships)

include governed

theorem register (fresh : ∀ old ∈ organizations, old.id ≠ organization.id)
    (own : owner.owns organization.id = true) (active : owner.status = .active) :
    Governed (organizations ++ [organization]) (memberships ++ [owner]) := by
  obtain ⟨home, role⟩ := owns_iff.mp own
  have unplaced : ∀ row ∈ memberships, row.organizationId ≠ organization.id := by
    intro row member same
    obtain ⟨old, present, named⟩ := governed.placed row member
    exact fresh old present (named.trans same)
  constructor
  · exact nodup_concat_key governed.ids fun old member => (fresh old member).symm
  · refine nodup_concat_key governed.keys ?_
    intro old member same
    exact unplaced old member ((Prod.mk.inj same).1.symm.trans home)
  · intro row member
    rcases mem_concat.mp member with old | new
    · obtain ⟨known, present, named⟩ := governed.placed row old
      exact ⟨known, List.mem_append_left _ present, named⟩
    · rw [new]
      exact ⟨organization, List.mem_concat_self, home.symm⟩
  · intro known member
    rcases mem_concat.mp member with old | new
    · obtain ⟨previous, single, status⟩ := governed.owned known old
      refine ⟨previous, ?_, status⟩
      have elsewhere : owner.owns known.id = false := by
        rw [MembershipRow.owns, Bool.and_eq_false_iff, beq_eq_false_iff_ne]
        exact .inl fun same => fresh known old (same.symm.trans home)
      exact (owners_concat memberships elsewhere).trans single
    · rw [new]
      refine ⟨owner, ?_, active⟩
      have none : memberships.filter (·.owns organization.id) = [] := by
        rw [List.filter_eq_nil_iff]
        intro row present owns
        exact unplaced row present (owns_iff.mp owns).1
      rw [owners, List.filter_append, none, List.filter_singleton, own]
      rfl

theorem join (known : ∃ organization ∈ organizations, organization.id = row.organizationId)
    (fresh : ∀ old ∈ memberships, old.key ≠ row.key) (other : row.role ≠ .organizationOwner) :
    Governed organizations (memberships ++ [row]) := by
  constructor
  · exact governed.ids
  · exact nodup_concat_key governed.keys fun old member => (fresh old member).symm
  · intro old member
    rcases mem_concat.mp member with present | new
    · exact governed.placed old present
    · rw [new]
      exact known
  · intro organization member
    obtain ⟨owner, single, status⟩ := governed.owned organization member
    refine ⟨owner, ?_, status⟩
    exact (owners_concat memberships (not_owns organization.id other)).trans single

theorem update {selected : MembershipRow → Bool} {set : MembershipRow → MembershipRow}
    (kept : ∀ row, (set row).key = row.key)
    (before : ∀ row, selected row = true → row.role ≠ .organizationOwner)
    (after : ∀ row, selected row = true → (set row).role ≠ .organizationOwner) :
    Governed organizations (updateWhere selected set memberships) := by
  constructor
  · exact governed.ids
  · rw [map_updateWhere kept]
    exact governed.keys
  · intro row member
    obtain ⟨old, present, same⟩ := mem_of_map_eq (map_updateWhere kept memberships) member
    obtain ⟨organization, known, named⟩ := governed.placed old present
    exact ⟨organization, known, named.trans (Prod.mk.inj same).1⟩
  · intro organization member
    obtain ⟨owner, single, status⟩ := governed.owned organization member
    refine ⟨owner, ?_, status⟩
    rw [owners, filter_updateWhere_unwanted]
    · exact single
    · exact fun row chosen => not_owns _ (before row chosen)
    · exact fun row chosen => not_owns _ (after row chosen)

theorem drop {selected : MembershipRow → Bool}
    (before : ∀ row, selected row = true → row.role ≠ .organizationOwner) :
    Governed organizations (memberships.filter fun row => !selected row) := by
  constructor
  · exact governed.ids
  · exact governed.keys.sublist (List.Sublist.map _ List.filter_sublist)
  · intro row member
    exact governed.placed row (List.mem_of_mem_filter member)
  · intro organization member
    obtain ⟨owner, single, status⟩ := governed.owned organization member
    refine ⟨owner, ?_, status⟩
    rw [owners, List.filter_filter, ← single, owners]
    apply List.filter_congr
    intro row _
    cases owns : row.owns organization.id with
    | false => rfl
    | true =>
        have unselected : selected row = false := by
          cases chosen : selected row with
          | false => rfl
          | true => exact absurd (owns_iff.mp owns).2 (before row chosen)
        rw [unselected]
        rfl

theorem transfer {currentOwner newOwner : Uuid} (different : currentOwner ≠ newOwner)
    {target : MembershipRow} (targetMember : target ∈ memberships)
    (targetKey : target.key = (organizationId, newOwner)) (active : target.status = .active)
    (ownerMember : owner ∈ memberships) (ownerKey : owner.key = (organizationId, currentOwner))
    (owns : owner.role = .organizationOwner) :
    Governed organizations
      (transferredMemberships organizationId currentOwner newOwner memberships) := by
  have keys := transferred_keys organizationId currentOwner newOwner memberships
  have unique : ((transferredMemberships organizationId currentOwner newOwner memberships).map
      (·.key)).Nodup := keys ▸ governed.keys
  constructor
  · exact governed.ids
  · exact unique
  · intro row member
    obtain ⟨old, present, same⟩ := mem_of_map_eq keys member
    obtain ⟨organization, known, named⟩ := governed.placed old present
    exact ⟨organization, known, named.trans (Prod.mk.inj same).1⟩
  · intro organization member
    obtain ⟨previous, single, status⟩ := governed.owned organization member
    by_cases home : organization.id = organizationId
    · refine ⟨{ target with role := .organizationOwner }, ?_, active⟩
      have untouched : (target.key == (organizationId, currentOwner)) = false := by
        rw [beq_eq_false_iff_ne, targetKey]
        exact fun same => different (Prod.mk.inj same).2.symm
      refine filter_of_key unique ?_ ?_
      · refine mem_updateWhere.mpr ⟨target, mem_updateWhere.mpr ⟨target, targetMember, ?_⟩, ?_⟩
        · rw [untouched, Bool.false_and, if_neg Bool.false_ne_true]
        · rw [targetKey, beq_self_eq_true, if_pos rfl]
      · intro row listed
        obtain ⟨between, demoted, rfl⟩ := mem_updateWhere.mp listed
        by_cases promoted : between.key = (organizationId, newOwner)
        · rw [if_pos (beq_iff_eq.mpr promoted), owns_iff]
          constructor
          · intro _
            exact promoted.trans targetKey.symm
          · intro _
            exact ⟨(Prod.mk.inj promoted).1.trans home.symm, rfl⟩
        · rw [if_neg fun same => promoted (beq_iff_eq.mp same), owns_iff]
          constructor
          · intro ⟨place, role⟩
            obtain ⟨old, present, rfl⟩ := mem_updateWhere.mp demoted
            split at role
            · cases role
            · rename_i kept
              rw [if_neg kept] at place
              -- the only owner is the one who was demoted
              have ownerOf : ∀ row ∈ memberships, row.owns organization.id = true →
                  row = previous := by
                intro row member own
                have listed : row ∈ owners organization.id memberships :=
                  List.mem_filter.mpr ⟨member, own⟩
                rw [single] at listed
                exact List.mem_singleton.mp listed
              have both : old = owner := (ownerOf old present (owns_iff.mpr ⟨place, role⟩)).trans
                (ownerOf owner ownerMember (owns_iff.mpr
                  ⟨(Prod.mk.inj ownerKey).1.trans home.symm, owns⟩)).symm
              refine absurd ?_ kept
              rw [both, ownerKey, owns, beq_self_eq_true, beq_self_eq_true]
              rfl
          · intro same
            exact absurd (same.trans targetKey) promoted
    · refine ⟨previous, ?_, status⟩
      have elsewhere : ∀ (row : MembershipRow) (user : Uuid),
          row.key = (organizationId, user) → row.owns organization.id = false := by
        intro row user same
        rw [MembershipRow.owns, Bool.and_eq_false_iff, beq_eq_false_iff_ne]
        exact .inl fun place => home (place.symm.trans (Prod.mk.inj same).1)
      rw [owners, transferredMemberships, filter_updateWhere_unwanted,
        filter_updateWhere_unwanted]
      · exact single
      · intro row chosen
        exact elsewhere row currentOwner (beq_iff_eq.mp (Bool.and_eq_true_iff.mp chosen).1)
      · intro row chosen
        exact elsewhere _ currentOwner (beq_iff_eq.mp (Bool.and_eq_true_iff.mp chosen).1)
      · intro row chosen
        exact elsewhere row newOwner (beq_iff_eq.mp chosen)
      · intro row chosen
        exact elsewhere _ newOwner (beq_iff_eq.mp chosen)

end Governed

structure Offered (collate : Collation) (invitations : List InvitationRow) : Prop where
  ids : (invitations.map (·.id)).Nodup
  hashes : (invitations.map (·.tokenHash)).Nodup
  oneOpen : ∀ organizationId email,
    (invitations.filter (InvitationRow.openFor collate organizationId email)).length ≤ 1

/-- A statement that accepts or revokes invitations. -/
structure Closes (set : InvitationRow → InvitationRow) : Prop where
  id : ∀ row, (set row).id = row.id
  tokenHash : ∀ row, (set row).tokenHash = row.tokenHash
  pending : ∀ row, (set row).pending = false

theorem closes_revoked (clock : Instant) : Closes fun row => { row with revokedAt := some clock } := by
  refine ⟨fun _ => rfl, fun _ => rfl, ?_⟩
  intro row
  simp [InvitationRow.pending]

theorem closes_accepted (now : Instant) : Closes fun row => { row with acceptedAt := some now } := by
  refine ⟨fun _ => rfl, fun _ => rfl, ?_⟩
  intro row
  simp [InvitationRow.pending]

theorem not_openFor {collate : Collation} {email : String} {row : InvitationRow}
    (closed : row.pending = false) :
    row.openFor collate organizationId email = false := by
  rw [InvitationRow.openFor, closed, Bool.and_false]

theorem filter_closed (closes : Closes set) (collate : Collation) (organizationId : Uuid)
    (email : String) (selected : InvitationRow → Bool) (invitations : List InvitationRow) :
    (updateWhere selected set invitations).filter
        (InvitationRow.openFor collate organizationId email) =
      invitations.filter fun row => row.openFor collate organizationId email && !selected row :=
  filter_updateWhere_removed (fun row _ => not_openFor (closes.pending row)) invitations

namespace Offered

variable {collate : Collation} {invitations : List InvitationRow}

theorem close (offered : Offered collate invitations) (closes : Closes set)
    (selected : InvitationRow → Bool) :
    Offered collate (updateWhere selected set invitations) := by
  constructor
  · rw [map_updateWhere closes.id]
    exact offered.ids
  · rw [map_updateWhere closes.tokenHash]
    exact offered.hashes
  · intro organizationId email
    rw [filter_closed closes]
    refine Nat.le_trans (List.Sublist.length_le ?_) (offered.oneOpen organizationId email)
    apply List.monotone_filter_right
    intro row both
    exact (Bool.and_eq_true_iff.mp both).1

theorem offer (offered : Offered collate invitations) {row : InvitationRow} {clock : Instant}
    (fresh : ∀ old ∈ invitations, old.id ≠ row.id ∧ old.tokenHash ≠ row.tokenHash) :
    Offered collate (updateWhere (InvitationRow.openFor collate row.organizationId row.email)
      (fun old => { old with revokedAt := some clock }) invitations ++ [row]) := by
  have closed := offered.close (closes_revoked clock)
    (InvitationRow.openFor collate row.organizationId row.email)
  constructor
  · refine nodup_concat_key closed.ids ?_
    intro old member
    obtain ⟨previous, present, same⟩ := mem_of_map_eq
      (map_updateWhere (closes_revoked clock).id invitations) member
    exact same ▸ (fresh previous present).1.symm
  · refine nodup_concat_key closed.hashes ?_
    intro old member
    obtain ⟨previous, present, same⟩ := mem_of_map_eq
      (map_updateWhere (closes_revoked clock).tokenHash invitations) member
    exact same ▸ (fresh previous present).2.symm
  · intro organizationId email
    rw [List.filter_append, List.length_append]
    cases mine : row.openFor collate organizationId email with
    | false =>
        rw [List.filter_singleton, mine]
        exact closed.oneOpen organizationId email
    | true =>
        have none : (updateWhere (InvitationRow.openFor collate row.organizationId row.email)
            (fun old => { old with revokedAt := some clock }) invitations).filter
            (InvitationRow.openFor collate organizationId email) = [] := by
          rw [filter_closed (closes_revoked clock), List.filter_eq_nil_iff]
          intro old _ both
          simp only [InvitationRow.openFor, Bool.and_eq_true, beq_iff_eq] at mine
          have same : old.openFor collate row.organizationId row.email =
              old.openFor collate organizationId email := by
            rw [InvitationRow.openFor, InvitationRow.openFor, mine.1.1, mine.1.2]
          rw [same, Bool.and_not_self] at both
          cases both
        rw [none, List.filter_singleton, mine]
        exact Nat.le_refl 1

end Offered

/-- Every organization has one owner, and an address at most one open invitation to it. -/
structure Organized (collate : Collation) (store : IdentityStore) : Prop where
  governed : Governed store.organizations store.memberships
  offered : Offered collate store.invitations

variable {collate : Collation} {store store' : IdentityStore} {call : IdentityCall}
  {answer : IdentityAnswer}

theorem Organized.accept (inv : Organized collate store) {invitation : InvitationRow}
    {tokenHash : Hash} {now : Instant}
    (acceptable : Acceptable store invitation tokenHash userId now) (clock : Instant) :
    Governed store.organizations (store.memberships ++ [invitation.joined userId clock]) ∧
      Offered collate (acceptedInvitations invitation now store.invitations) := by
  constructor
  · refine inv.governed.join ?_ acceptable.fresh ?_
    · obtain ⟨organization, member, same⟩ := List.any_eq_true.mp acceptable.organization
      exact ⟨organization, member, beq_iff_eq.mp same⟩
    · cases role : invitation.role <;> simp [InvitationRow.joined, role, InvitedRole.membership]
  · exact inv.offered.close (closes_accepted now) _

theorem changeable_other (chosen : row.changeable organizationId userId = true)
    : row.role ≠ .organizationOwner := by
  rw [MembershipRow.changeable, Bool.and_eq_true, bne_iff_ne] at chosen
  exact chosen.2

theorem IdentityChange.organized (change : IdentityChange collate store call answer store')
    (inv : Organized collate store) : Organized collate store' := by
  cases change with
  | quiet => exact inv
  | registered fresh unique =>
      refine ⟨inv.governed.register fresh ?_ rfl, inv.offered⟩
      exact owns_iff.mpr ⟨rfl, rfl⟩
  | @invited invitation tokenHash invitedBy clock now role audits assignable fresh =>
      exact ⟨inv.governed, @Offered.offer _ _ inv.offered
        (invitationRow invitation role tokenHash invitedBy) clock fresh⟩
  | accepted acceptable =>
      obtain ⟨governed, offered⟩ := inv.accept acceptable _
      exact ⟨governed, offered⟩
  | registeredInvited acceptable named =>
      obtain ⟨governed, offered⟩ := inv.accept acceptable _
      exact ⟨governed, offered⟩
  | uninvited => exact ⟨inv.governed, inv.offered.close (closes_revoked _) _⟩
  | @roleChanged organizationId actorId userId role now audits assignable =>
      refine ⟨inv.governed.update (fun _ => rfl) (fun _ => changeable_other) ?_, inv.offered⟩
      intro row _ owner
      have reserved : role = .organizationOwner := owner
      rw [reserved] at assignable
      cases assignable
  | statusChanged =>
      exact ⟨inv.governed.update (fun _ => rfl) (fun _ => changeable_other)
        (fun _ => changeable_other), inv.offered⟩
  | removed => exact ⟨inv.governed.drop fun _ => changeable_other, inv.offered⟩
  | transferred other target owner =>
      obtain ⟨row, member, key, active⟩ := target
      obtain ⟨previous, present, ownerKey, owns⟩ := owner
      exact ⟨inv.governed.transfer other member key active present ownerKey owns, inv.offered⟩
  | opened | replaced | exchanged | reused | sessionRevoked | currentRevoked | passwordChanged
  | verified => exact ⟨inv.governed, inv.offered⟩

theorem Organized.step (inv : Organized collate store) (call : IdentityCall) :
    Organized collate (identityStep collate store call) := by
  obtain ⟨answer, change⟩ := identityStep_change collate inv.governed.keys call
  exact change.organized inv

theorem Organized.run (inv : Organized collate store) (calls : List IdentityCall) :
    Organized collate (Foundation.run (identityStep collate) store calls) :=
  run_invariant (fun _ call inv => inv.step call) inv calls

end CandyCloud.Identity
