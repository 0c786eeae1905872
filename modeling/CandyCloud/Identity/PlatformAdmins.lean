import CandyCloud.Identity.Membership

/-! # Platform administrators

No call makes a platform administrator: the role cannot be given by its arguments.
-/

namespace CandyCloud.Identity

open Foundation

def platformAdmins (memberships : List MembershipRow) :
    List ((Uuid × Uuid) × MembershipStatus) :=
  (memberships.filter (·.role == .platformAdmin)).map fun row => (row.key, row.status)

/-- The same members are platform administrators. -/
def SameAdmins (memberships memberships' : List MembershipRow) : Prop :=
  ∀ entry, entry ∈ platformAdmins memberships' ↔ entry ∈ platformAdmins memberships

variable {memberships a b : List MembershipRow} {row : MembershipRow}
  {selected : MembershipRow → Bool} {organizationId actorId userId currentOwner newOwner : Uuid}
  {role : MembershipRole} {now : Instant} {active : Bool} {call : IdentityCall}

theorem mem_platformAdmins {entry : (Uuid × Uuid) × MembershipStatus} :
    entry ∈ platformAdmins memberships ↔
      ∃ row ∈ memberships, row.role = .platformAdmin ∧ (row.key, row.status) = entry := by
  simp only [platformAdmins, List.mem_map, List.mem_filter, beq_iff_eq, and_assoc]

theorem sameAdmins_refl (memberships : List MembershipRow) : SameAdmins memberships memberships :=
  fun _ => Iff.rfl

theorem SameAdmins.trans {c : List MembershipRow} (first : SameAdmins a b) (second : SameAdmins b c)
    : SameAdmins a c :=
  fun entry => (second entry).trans (first entry)

theorem SameAdmins.symm (same : SameAdmins a b) : SameAdmins b a :=
  fun entry => (same entry).symm

theorem sameAdmins_append (memberships : List MembershipRow) (other : row.role ≠ .platformAdmin)
    : SameAdmins memberships (memberships ++ [row]) := by
  intro entry
  rw [platformAdmins, platformAdmins, List.filter_append, List.filter_singleton,
    beq_false_of_ne other, cond_false, List.append_nil]

theorem sameAdmins_update {memberships : List MembershipRow} {selected : MembershipRow → Bool}
    {set : MembershipRow → MembershipRow} (keys : (memberships.map (·.key)).Nodup)
    (kept : ∀ row, (set row).key = row.key) :
    SameAdmins memberships (updateWhere selected set memberships) ↔
      ∀ row ∈ memberships, selected row = true →
        ((set row).role = .platformAdmin ↔ row.role = .platformAdmin) ∧
        (row.role = .platformAdmin → (set row).status = row.status) := by
  constructor
  · intro same row member chosen
    have image : set row ∈ updateWhere selected set memberships :=
      mem_updateWhere.mpr ⟨row, member, if_pos chosen⟩
    -- the row of a key is found on both sides
    have back : (set row).role = .platformAdmin →
        row.role = .platformAdmin ∧ row.status = (set row).status := by
      intro admin
      obtain ⟨old, present, role, entry⟩ := mem_platformAdmins.mp
        ((same _).mp (mem_platformAdmins.mpr ⟨set row, image, admin, rfl⟩))
      obtain ⟨key, status⟩ := Prod.mk.inj entry
      rw [eq_of_key keys present member (key.trans (kept row))] at role status
      exact ⟨role, status⟩
    have forth : row.role = .platformAdmin →
        (set row).role = .platformAdmin ∧ (set row).status = row.status := by
      intro admin
      obtain ⟨new, present, role, entry⟩ := mem_platformAdmins.mp
        ((same _).mpr (mem_platformAdmins.mpr ⟨row, member, admin, rfl⟩))
      obtain ⟨key, status⟩ := Prod.mk.inj entry
      have unique : ((updateWhere selected set memberships).map (·.key)).Nodup := by
        rw [map_updateWhere kept]
        exact keys
      rw [eq_of_key unique present image (key.trans (kept row).symm)] at role status
      exact ⟨role, status⟩
    exact ⟨⟨fun admin => (back admin).1, fun admin => (forth admin).1⟩,
      fun admin => (forth admin).2⟩
  · intro each entry
    rw [mem_platformAdmins, mem_platformAdmins]
    constructor
    · intro ⟨row, member, role, named⟩
      obtain ⟨old, present, rfl⟩ := mem_updateWhere.mp member
      by_cases chosen : selected old = true
      · rw [if_pos chosen] at role named
        obtain ⟨roles, statuses⟩ := each old present chosen
        have admin := roles.mp role
        rw [kept, statuses admin] at named
        exact ⟨old, present, admin, named⟩
      · rw [if_neg chosen] at role named
        exact ⟨old, present, role, named⟩
    · intro ⟨row, member, role, named⟩
      by_cases chosen : selected row = true
      · obtain ⟨roles, statuses⟩ := each row member chosen
        refine ⟨set row, mem_updateWhere.mpr ⟨row, member, if_pos chosen⟩, roles.mpr role, ?_⟩
        rw [kept, statuses role]
        exact named
      · exact ⟨row, mem_updateWhere.mpr ⟨row, member, if_neg chosen⟩, role, named⟩

theorem sameAdmins_filter (keys : (memberships.map (·.key)).Nodup) :
    SameAdmins memberships (memberships.filter fun row => !selected row) ↔
      ∀ row ∈ memberships, selected row = true → row.role ≠ .platformAdmin := by
  constructor
  · intro same row member chosen admin
    obtain ⟨left, present, role, entry⟩ := mem_platformAdmins.mp
      ((same _).mpr (mem_platformAdmins.mpr ⟨row, member, admin, rfl⟩))
    obtain ⟨stored, unselected⟩ := List.mem_filter.mp present
    rw [eq_of_key keys stored member (Prod.mk.inj entry).1, chosen] at unselected
    cases unselected
  · intro each entry
    rw [mem_platformAdmins, mem_platformAdmins]
    constructor
    · intro ⟨row, member, admin⟩
      exact ⟨row, List.mem_of_mem_filter member, admin⟩
    · intro ⟨row, member, admin, named⟩
      refine ⟨row, List.mem_filter.mpr ⟨member, ?_⟩, admin, named⟩
      cases chosen : selected row with
      | false => rfl
      | true => exact absurd admin (each row member chosen)

def IsPlatformAdmin (store : IdentityStore) (organizationId userId : Uuid) : Prop :=
  ∃ row ∈ store.memberships, row.key = (organizationId, userId) ∧ row.role = .platformAdmin

def IdentityCall.memberArguments : IdentityCall → Bool
  | .updateRole organizationId actorId userId role _ =>
      !(isNil organizationId || isNil actorId || isNil userId || role.reserved)
  | .setActive organizationId actorId userId _ _ | .remove organizationId actorId userId _ =>
      !(isNil organizationId || isNil actorId || isNil userId)
  | .transfer organizationId currentOwner newOwner _ =>
      !(isNil organizationId || isNil currentOwner || isNil newOwner || currentOwner == newOwner)
  | _ => true

/-- A role change or a removal of an administrator, another status for one, or a
    transfer by the owner to an active one. -/
def NamesPlatformAdmin (store : IdentityStore) : IdentityCall → Prop
  | .updateRole organizationId _ userId _ _ | .remove organizationId _ userId _ =>
      IsPlatformAdmin store organizationId userId
  | .setActive organizationId _ userId active _ =>
      ∃ row ∈ store.memberships, row.key = (organizationId, userId) ∧
        row.role = .platformAdmin ∧ row.status ≠ if active then .active else .suspended
  | .transfer organizationId currentOwner newOwner _ =>
      Owns store organizationId currentOwner ∧
        ∃ row ∈ store.memberships, row.key = (organizationId, newOwner) ∧
          row.role = .platformAdmin ∧ row.status = .active
  | _ => False

/-- The call does not reach a platform administrator. -/
def Spares (store : IdentityStore) (call : IdentityCall) : Prop :=
  call.memberArguments = true → ¬ NamesPlatformAdmin store call

variable {collate : Collation} {store store' : IdentityStore}

def SoleOwners (memberships : List MembershipRow) : Prop :=
  ∀ a ∈ memberships, ∀ b ∈ memberships, a.organizationId = b.organizationId →
    a.role = .organizationOwner → b.role = .organizationOwner → a = b

theorem Governed.sole {organizations : List OrganizationRow}
    (governed : Governed organizations memberships) : SoleOwners memberships := by
  intro a memberA b memberB home ownsA ownsB
  obtain ⟨organization, known, named⟩ := governed.placed a memberA
  obtain ⟨owner, single, -⟩ := governed.owned organization known
  have only : ∀ row ∈ memberships, row.organizationId = organization.id →
      row.role = .organizationOwner → row = owner := by
    intro row member place role
    have listed : row ∈ owners organization.id memberships :=
      List.mem_filter.mpr ⟨member, owns_iff.mpr ⟨place, role⟩⟩
    rw [single] at listed
    exact List.mem_singleton.mp listed
  rw [only a memberA named.symm ownsA, only b memberB (home.symm.trans named.symm) ownsB]

theorem updateMemberships_done {set : MembershipRow → MembershipRow}
    (sole : SoleOwners (updateWhere selected set store.memberships)) :
    store.updateMemberships selected set =
      .ok { store with memberships := updateWhere selected set store.memberships } := by
  have unconflicted : ((updateWhere selected set store.memberships).any fun a =>
      (updateWhere selected set store.memberships).any fun b =>
        a.key != b.key && a.conflict b) = false := by
    rw [List.any_eq_false]
    intro a memberA clash
    obtain ⟨b, memberB, both⟩ := List.any_eq_true.mp clash
    simp only [MembershipRow.conflict, Bool.and_eq_true, Bool.or_eq_true, bne_iff_ne,
      beq_iff_eq] at both
    obtain ⟨apart, same | ⟨⟨home, ownsA⟩, ownsB⟩⟩ := both
    · exact apart same
    · exact apart (congrArg MembershipRow.key (sole a memberA b memberB home ownsA ownsB))
  simp only [IdentityStore.updateMemberships, unconflicted, reject, Bool.false_eq_true, if_false,
    bind, Except.bind, pure, Except.pure]

theorem changeMember_done
    (statement : IdentityStore → Except IdentityRepositoryError IdentityStore)
    {after : IdentityStore} (done : statement store = .ok after)
    (organizationId actorId userId : Uuid) (action : String) (now : Instant) :
    ∃ applied after', changeMember store statement organizationId actorId userId action now =
      .ok (applied, after') ∧ after'.memberships = after.memberships := by
  simp only [changeMember, done, bind, Except.bind]
  split
  · exact ⟨true, _, rfl, rfl⟩
  · exact ⟨false, _, rfl, rfl⟩

theorem roleStep (inv : Organized collate store)
    (valid : (IdentityCall.updateRole organizationId actorId userId role now).memberArguments =
      true) :
    (identityStep collate store (.updateRole organizationId actorId userId role now)).memberships =
      updateWhere (MembershipRow.changeable organizationId userId) (fun row => { row with role })
        store.memberships := by
  rw [IdentityCall.memberArguments, Bool.not_eq_true'] at valid
  have other : role ≠ .organizationOwner := by
    intro same
    rw [same] at valid
    simp [MembershipRole.reserved] at valid
  have governed : Governed store.organizations (updateWhere
      (MembershipRow.changeable organizationId userId) (fun row => { row with role })
      store.memberships) :=
    inv.governed.update (fun _ => rfl) (fun _ => changeable_other) fun _ _ => other
  obtain ⟨applied, after, done, same⟩ := changeMember_done
    (·.updateMemberships (MembershipRow.changeable organizationId userId)
      fun row => { row with role })
    (updateMemberships_done governed.sole) organizationId actorId userId
    "ORGANIZATION_MEMBER_ROLE_CHANGED" now
  have stepped : identityStep collate store (.updateRole organizationId actorId userId role now) =
      after := by
    simp only [identityStep, transact, updateMemberRoleAndRevokeSessions, valid, reject,
      Bool.false_eq_true, if_false, bind, Except.bind, done]
    rfl
  rw [stepped, same]

theorem statusStep (inv : Organized collate store)
    (valid : (IdentityCall.setActive organizationId actorId userId active now).memberArguments =
      true) :
    (identityStep collate store (.setActive organizationId actorId userId active now)).memberships =
      updateWhere (MembershipRow.changeable organizationId userId)
        (fun row => { row with status := if active then .active else .suspended })
        store.memberships := by
  rw [IdentityCall.memberArguments, Bool.not_eq_true'] at valid
  have governed : Governed store.organizations (updateWhere
      (MembershipRow.changeable organizationId userId)
      (fun row => { row with status := if active then .active else .suspended })
      store.memberships) :=
    inv.governed.update (fun _ => rfl) (fun _ => changeable_other) fun _ => changeable_other
  obtain ⟨applied, after, done, same⟩ := changeMember_done
    (·.updateMemberships (MembershipRow.changeable organizationId userId)
      fun row => { row with status := if active then .active else .suspended })
    (updateMemberships_done governed.sole) organizationId actorId userId
    (if active then "ORGANIZATION_MEMBER_REACTIVATED" else "ORGANIZATION_MEMBER_SUSPENDED") now
  have stepped : identityStep collate store (.setActive organizationId actorId userId active now) =
      after := by
    simp only [identityStep, transact, setMemberActiveAndRevokeSessions, valid, reject,
      Bool.false_eq_true, if_false, bind, Except.bind, done]
    rfl
  rw [stepped, same]

theorem removeStep
    (valid : (IdentityCall.remove organizationId actorId userId now).memberArguments = true) :
    (identityStep collate store (.remove organizationId actorId userId now)).memberships =
      store.memberships.filter fun row => !row.changeable organizationId userId := by
  rw [IdentityCall.memberArguments, Bool.not_eq_true'] at valid
  obtain ⟨applied, after, done, same⟩ := @changeMember_done store
    (fun store => .ok (store.deleteMemberships (MembershipRow.changeable organizationId userId)))
    _ rfl organizationId actorId userId "ORGANIZATION_MEMBER_REMOVED" now
  have stepped : identityStep collate store (.remove organizationId actorId userId now) =
      after := by
    simp only [identityStep, transact, removeMemberAndRevokeSessions, valid, reject,
      Bool.false_eq_true, if_false, bind, Except.bind, done]
    rfl
  rw [stepped, same]
  rfl

theorem transferStep (inv : Organized collate store)
    (valid : (IdentityCall.transfer organizationId currentOwner newOwner now).memberArguments =
      true) {target : MembershipRow} (member : target ∈ store.memberships)
    (key : target.key = (organizationId, newOwner)) (active : target.status = .active)
    (owns : Owns store organizationId currentOwner) :
    (identityStep collate store (.transfer organizationId currentOwner newOwner now)).memberships =
      transferredMemberships organizationId currentOwner newOwner store.memberships := by
  rw [IdentityCall.memberArguments, Bool.not_eq_true'] at valid
  obtain ⟨owner, present, ownerKey, role⟩ := owns
  have different : currentOwner ≠ newOwner := by
    intro same
    rw [same, beq_self_eq_true, Bool.or_true] at valid
    cases valid
  have targeted : (store.memberships.any fun row =>
      row.key == (organizationId, newOwner) && row.status == .active) = true :=
    List.any_eq_true.mpr ⟨target, member, by rw [key, active]; simp⟩
  have one : (store.memberships.filter fun row => row.key == (organizationId, currentOwner) &&
      row.role == .organizationOwner) = [owner] := by
    refine filter_of_key inv.governed.keys present ?_
    intro row listed
    rw [Bool.and_eq_true, beq_iff_eq, beq_iff_eq, ownerKey]
    constructor
    · exact fun both => both.1
    · intro same
      refine ⟨same, ?_⟩
      rw [eq_of_key inv.governed.keys listed present (same.trans ownerKey.symm)]
      exact role
  -- the demotion leaves no owner but those of other organizations
  have demoted : SoleOwners (updateWhere (fun row => row.key == (organizationId, currentOwner) &&
      row.role == .organizationOwner) (fun row => { row with role := .tenantAdmin })
      store.memberships) := by
    intro a memberA b memberB home ownsA ownsB
    refine inv.governed.sole a (owns_update ?_ memberA ownsA) b (owns_update ?_ memberB ownsB)
      home ownsA ownsB
    · intro _ _ contrary
      cases contrary
    · intro _ _ contrary
      cases contrary
  have governed := inv.governed.transfer different member key active present ownerKey role
  have first := updateMemberships_done demoted
  have second : IdentityStore.updateMemberships
      { store with
        memberships := updateWhere (fun row => row.key == (organizationId, currentOwner) &&
          row.role == .organizationOwner) (fun row => { row with role := .tenantAdmin })
          store.memberships }
      (fun row => row.key == (organizationId, newOwner))
      (fun row => { row with role := .organizationOwner }) =
      .ok { store with
        memberships := transferredMemberships organizationId currentOwner newOwner
          store.memberships } := updateMemberships_done governed.sole
  simp only [identityStep, transact, transferOrganizationOwnership, valid, reject, targeted, one,
    Bool.false_eq_true, Bool.not_true, if_false, bind, Except.bind, first, second,
    List.length_singleton, ne_eq, not_true_eq_false]
  rfl

theorem refusedStep (invalid : call.memberArguments = false) :
    identityStep collate store call = store := by
  cases call with
  | updateRole organizationId actorId userId role now =>
      rw [IdentityCall.memberArguments, Bool.not_eq_false'] at invalid
      simp only [identityStep, transact, updateMemberRoleAndRevokeSessions, invalid, reject,
        if_true, bind, Except.bind]
      rfl
  | setActive organizationId actorId userId active now =>
      rw [IdentityCall.memberArguments, Bool.not_eq_false'] at invalid
      simp only [identityStep, transact, setMemberActiveAndRevokeSessions, invalid, reject,
        if_true, bind, Except.bind]
      rfl
  | remove organizationId actorId userId now =>
      rw [IdentityCall.memberArguments, Bool.not_eq_false'] at invalid
      simp only [identityStep, transact, removeMemberAndRevokeSessions, invalid, reject, if_true,
        bind, Except.bind]
      rfl
  | transfer organizationId currentOwner newOwner now =>
      rw [IdentityCall.memberArguments, Bool.not_eq_false'] at invalid
      simp only [identityStep, transact, transferOrganizationOwnership, invalid, reject, if_true,
        bind, Except.bind]
      rfl
  | _ => cases invalid

theorem joined_other (invitation : InvitationRow) (userId : Uuid) (clock : Instant) :
    (invitation.joined userId clock).role ≠ .platformAdmin := by
  cases role : invitation.role <;> simp [InvitationRow.joined, role, InvitedRole.membership]

theorem otherStep_sameAdmins (inv : Organized collate store) (other : affected call = []) :
    SameAdmins store.memberships (identityStep collate store call).memberships := by
  obtain ⟨answer, change⟩ := identityStep_change collate inv.governed.keys call
  generalize identityStep collate store call = after at change
  cases change with
  | registered fresh unique => exact sameAdmins_append _ (by simp [RegistrationWrite.owner])
  | accepted acceptable => exact sameAdmins_append _ (joined_other _ _ _)
  | registeredInvited acceptable named => exact sameAdmins_append _ (joined_other _ _ _)
  | roleChanged | statusChanged | removed | transferred => cases other
  | quiet | invited | uninvited | opened | replaced | exchanged | reused | sessionRevoked
  | currentRevoked | passwordChanged | verified => exact sameAdmins_refl _

theorem changeable_admin (key : row.key = (organizationId, userId))
    (admin : row.role = .platformAdmin) :
    row.changeable organizationId userId = true := by
  rw [MembershipRow.changeable, key, admin, beq_self_eq_true]
  rfl

theorem changeable_key (chosen : row.changeable organizationId userId = true)
    : row.key = (organizationId, userId) :=
  beq_iff_eq.mp (Bool.and_eq_true_iff.mp chosen).1

theorem roleStep_sameAdmins (inv : Organized collate store)
    (valid : (IdentityCall.updateRole organizationId actorId userId role now).memberArguments =
      true) :
    SameAdmins store.memberships (identityStep collate store
        (.updateRole organizationId actorId userId role now)).memberships ↔
      ¬ IsPlatformAdmin store organizationId userId := by
  have given : role ≠ .platformAdmin := by
    intro same
    rw [IdentityCall.memberArguments, same] at valid
    simp [MembershipRole.reserved] at valid
  have kept : ∀ row : MembershipRow, { row with role }.key = row.key := fun _ => rfl
  rw [roleStep inv valid, sameAdmins_update inv.governed.keys kept]
  constructor
  · intro each ⟨row, member, key, admin⟩
    exact given ((each row member (changeable_admin key admin)).1.mpr admin)
  · intro none row member chosen
    have other : row.role ≠ .platformAdmin :=
      fun admin => none ⟨row, member, changeable_key chosen, admin⟩
    exact ⟨⟨fun admin => absurd admin given, fun admin => absurd admin other⟩, fun _ => rfl⟩

theorem statusStep_sameAdmins (inv : Organized collate store)
    (valid : (IdentityCall.setActive organizationId actorId userId active now).memberArguments =
      true) :
    SameAdmins store.memberships (identityStep collate store
        (.setActive organizationId actorId userId active now)).memberships ↔
      ¬ NamesPlatformAdmin store (.setActive organizationId actorId userId active now) := by
  have kept : ∀ row : MembershipRow,
      { row with status := if active then .active else .suspended }.key = row.key := fun _ => rfl
  rw [statusStep inv valid, sameAdmins_update inv.governed.keys kept]
  constructor
  · intro each ⟨row, member, key, admin, status⟩
    exact status ((each row member (changeable_admin key admin)).2 admin).symm
  · intro none row member chosen
    refine ⟨Iff.rfl, ?_⟩
    intro admin
    by_contra status
    exact none ⟨row, member, changeable_key chosen, admin, fun same => status same.symm⟩

theorem removeStep_sameAdmins (inv : Organized collate store)
    (valid : (IdentityCall.remove organizationId actorId userId now).memberArguments = true) :
    SameAdmins store.memberships (identityStep collate store
        (.remove organizationId actorId userId now)).memberships ↔
      ¬ IsPlatformAdmin store organizationId userId := by
  rw [removeStep valid, sameAdmins_filter inv.governed.keys]
  constructor
  · intro each ⟨row, member, key, admin⟩
    exact each row member (changeable_admin key admin) admin
  · intro none row member chosen admin
    exact none ⟨row, member, changeable_key chosen, admin⟩

theorem transferred_sameAdmins (keys : (memberships.map (·.key)).Nodup)
    (organizationId currentOwner newOwner : Uuid) :
    SameAdmins memberships
        (transferredMemberships organizationId currentOwner newOwner memberships) ↔
      ∀ row ∈ memberships, row.key = (organizationId, newOwner) → row.role ≠ .platformAdmin := by
  have demotes : ∀ row : MembershipRow, { row with role := .tenantAdmin }.key = row.key :=
    fun _ => rfl
  have promotes : ∀ row : MembershipRow,
      { row with role := .organizationOwner }.key = row.key := fun _ => rfl
  have demoted : SameAdmins memberships (updateWhere (fun row =>
      row.key == (organizationId, currentOwner) && row.role == .organizationOwner)
      (fun row => { row with role := .tenantAdmin }) memberships) := by
    rw [sameAdmins_update keys demotes]
    intro row _ chosen
    have owner : row.role = .organizationOwner := beq_iff_eq.mp (Bool.and_eq_true_iff.mp chosen).2
    simp [owner]
  have unique : ((updateWhere (fun row => row.key == (organizationId, currentOwner) &&
      row.role == .organizationOwner) (fun row => { row with role := .tenantAdmin })
      memberships).map (·.key)).Nodup := by
    rw [map_updateWhere demotes]
    exact keys
  have promoted := @sameAdmins_update _ (fun row => row.key == (organizationId, newOwner))
    (fun row => { row with role := .organizationOwner }) unique promotes
  constructor
  · intro same row member key admin
    have untouched : (row.key == (organizationId, currentOwner) &&
        row.role == .organizationOwner) = false := by
      rw [admin]
      simp
    have listed : row ∈ updateWhere (fun row => row.key == (organizationId, currentOwner) &&
        row.role == .organizationOwner) (fun row => { row with role := .tenantAdmin })
        memberships := mem_updateWhere.mpr ⟨row, member, by rw [untouched]; rfl⟩
    have both := promoted.mp (demoted.symm.trans same) row listed (beq_iff_eq.mpr key)
    cases both.1.mpr admin
  · intro none
    refine demoted.trans (promoted.mpr ?_)
    intro row listed chosen
    have other : row.role ≠ .platformAdmin := by
      obtain ⟨old, present, rfl⟩ := mem_updateWhere.mp listed
      split
      · intro admin
        cases admin
      · rename_i kept
        rw [if_neg kept] at chosen
        exact none old present (beq_iff_eq.mp chosen)
    simp [other]

theorem transferStep_sameAdmins (inv : Organized collate store)
    (valid : (IdentityCall.transfer organizationId currentOwner newOwner now).memberArguments =
      true) :
    SameAdmins store.memberships (identityStep collate store
        (.transfer organizationId currentOwner newOwner now)).memberships ↔
      ¬ NamesPlatformAdmin store (.transfer organizationId currentOwner newOwner now) := by
  constructor
  · intro same ⟨owns, row, member, key, admin, active⟩
    rw [transferStep inv valid member key active owns,
      transferred_sameAdmins inv.governed.keys] at same
    exact same row member key admin
  · intro none
    obtain ⟨answer, change⟩ := identityStep_change collate inv.governed.keys
      (.transfer organizationId currentOwner newOwner now)
    generalize identityStep collate store (.transfer organizationId currentOwner newOwner now) =
      after at change
    cases change with
    | quiet silent => exact sameAdmins_refl _
    | transferred different target owner =>
        refine (transferred_sameAdmins inv.governed.keys _ _ _).mpr ?_
        obtain ⟨row, member, key, active⟩ := target
        intro other present same admin
        rw [eq_of_key inv.governed.keys present member (same.trans key.symm)] at admin
        exact none ⟨owner, row, member, key, admin, active⟩

theorem step_sameAdmins (inv : Organized collate store) (call : IdentityCall) :
    SameAdmins store.memberships (identityStep collate store call).memberships ↔
      Spares store call := by
  cases valid : call.memberArguments with
  | false =>
      rw [refusedStep valid]
      refine ⟨fun _ contrary => ?_, fun _ => sameAdmins_refl _⟩
      rw [valid] at contrary
      cases contrary
  | true =>
      have spares : Spares store call ↔ ¬ NamesPlatformAdmin store call :=
        ⟨fun spared => spared valid, fun none _ => none⟩
      rw [spares]
      cases call with
      | updateRole => exact roleStep_sameAdmins inv valid
      | setActive => exact statusStep_sameAdmins inv valid
      | remove => exact removeStep_sameAdmins inv valid
      | transfer => exact transferStep_sameAdmins inv valid
      | _ => exact ⟨fun _ named => named, fun _ => otherStep_sameAdmins inv rfl⟩

/-- The platform administrators are the same throughout a run exactly when no
    call of it reaches one. -/
theorem platform_admins_unreached (collate : Collation) (start : IdentityStore)
    (inv : Organized collate start) (calls : List IdentityCall) :
    (∀ before after, calls = before ++ after →
      SameAdmins start.memberships (identityRun collate start before).memberships) ↔
      Along (identityStep collate) Spares start calls := by
  refine @everywhere_iff_along _ _ (identityStep collate) (Organized collate)
    (fun store => SameAdmins start.memberships store.memberships) (fun _ _ => True) Spares
    ?_ ?_ start inv (sameAdmins_refl _) calls ?_
  · exact fun _ call organized _ => organized.step call
  · intro store call organized _ same
    rw [← step_sameAdmins organized call]
    exact ⟨fun later => same.symm.trans later, fun later => same.trans later⟩
  · exact along_iff_split.mpr fun _ _ _ _ => trivial

def adminStart : IdentityStore :=
  let workspace := identityRun asciiCollation emptyStore (workspaceCalls.take 3)
  { workspace with
    memberships := updateWhere (MembershipRow.changeable 2 9)
      (fun row => { row with role := .platformAdmin }) workspace.memberships }

theorem adminStart_organized : Organized asciiCollation adminStart := by
  have inv := (emptyStore_organized asciiCollation).run (workspaceCalls.take 3)
  refine ⟨?_, inv.offered⟩
  refine @Governed.update _ _ inv.governed (MembershipRow.changeable 2 9)
    (fun row => { row with role := .platformAdmin }) (fun _ => rfl) (fun _ => changeable_other) ?_
  intro row _ contrary
  cases contrary

/-- The owner of an organization removes the administrator among its members. -/
theorem administrator_removed :
    Organized asciiCollation adminStart ∧
      ((2, 9), .active) ∈ platformAdmins adminStart.memberships ∧
      ¬ SameAdmins adminStart.memberships
        (identityRun asciiCollation adminStart [.remove 2 1 9 50]).memberships := by
  have before : ((2, 9), .active) ∈ platformAdmins adminStart.memberships := by decide +kernel
  have after : ((2, 9), .active) ∉ platformAdmins
      (identityRun asciiCollation adminStart [.remove 2 1 9 50]).memberships := by decide +kernel
  exact ⟨adminStart_organized, before, fun same => after ((same _).mpr before)⟩

/-- A suspension skips the owner's row and reaches the administrator's. -/
theorem administrator_suspended :
    ¬ (∀ before after, [IdentityCall.setActive 2 1 1 false 50, .setActive 2 1 9 false 51] =
      before ++ after → SameAdmins adminStart.memberships
        (identityRun asciiCollation adminStart before).memberships) := by
  rw [platform_admins_unreached asciiCollation adminStart adminStart_organized]
  intro along
  refine along.2.1 rfl ?_
  exact ⟨⟨2, 9, .platformAdmin, .active, 30⟩, by decide +kernel, rfl, rfl, by decide⟩

end CandyCloud.Identity
