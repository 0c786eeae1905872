import CandyCloud.Worker.EgressPriority
import CandyCloud.Worker.RoutePublication

/-! # The routes of a segment

`compile_routes` goes through the announced prefixes one by one and fails at the first that
overlaps an earlier one it is not the same as.
-/

namespace CandyCloud

open Foundation

structure Announcement where
  attachmentId : Uuid
  siteId : Uuid
  announced : Ipv4PrefixV1
deriving DecidableEq, Repr

def RouteAttachmentV1.announcements (attachment : RouteAttachmentV1) : List Announcement :=
  if attachment.state = .active then
    match attachment.siteId with
    | none => []
    | some siteId => attachment.localPrefixes.map (⟨attachment.attachmentId, siteId, ·⟩)
  else []

/-- The attachment announces the prefix from the site. -/
def RouteAttachmentV1.Announces (attachment : RouteAttachmentV1) (siteId : Uuid)
    (announced : Ipv4PrefixV1) : Prop :=
  attachment.state = .active ∧ attachment.siteId = some siteId ∧
    announced ∈ attachment.localPrefixes

variable {attachment : RouteAttachmentV1} {a b : Ipv4PrefixV1}

theorem mem_announcements {x : Announcement} :
    x ∈ attachment.announcements ↔
      attachment.attachmentId = x.attachmentId ∧ attachment.Announces x.siteId x.announced := by
  unfold RouteAttachmentV1.announcements RouteAttachmentV1.Announces
  split
  · rename_i active
    cases site : attachment.siteId with
    | none => simp
    | some siteId =>
        cases x with
        | mk attachmentId other announced =>
            simp only [List.mem_map, Announcement.mk.injEq, active, true_and, Option.some.injEq]
            constructor
            · rintro ⟨_, member, id, same, rfl⟩
              exact ⟨id, same, member⟩
            · rintro ⟨id, same, member⟩
              exact ⟨announced, member, id, same, rfl⟩
  · rename_i inactive
    simp [inactive]

def announcementsOf (attachments : List RouteAttachmentV1) : List Announcement :=
  attachments.flatMap RouteAttachmentV1.announcements

theorem mem_announcementsOf {attachments : List RouteAttachmentV1} {x : Announcement} :
    x ∈ announcementsOf attachments ↔ ∃ attachment ∈ attachments,
      attachment.attachmentId = x.attachmentId ∧ attachment.Announces x.siteId x.announced := by
  simp only [announcementsOf, List.mem_flatMap, mem_announcements]

def announce (routes : List SegmentRouteV1) (x : Announcement) :
    Except RoutePublicationError (List SegmentRouteV1) :=
  announcePrefix x.attachmentId x.siteId routes x.announced

/-- No prefix is owned by an attachment that is not active. -/
def RouteAttachmentV1.Owns (attachment : RouteAttachmentV1) : Prop :=
  attachment.state ≠ .active → attachment.localPrefixes = []

theorem compileAttachment_ok {routes routes' : List SegmentRouteV1} :
    compileAttachment routes attachment = .ok routes' ↔
      attachment.Owns ∧ updateEach announce routes attachment.announcements = .ok routes' := by
  simp only [compileAttachment, unit_bind_ok, reject_ok, RouteAttachmentV1.Owns,
    RouteAttachmentV1.announcements]
  by_cases active : attachment.state = .active
  · simp only [active, ne_eq, not_true_eq_false, decide_false, Bool.and_false, if_false, if_true,
      true_and, false_implies]
    cases attachment.siteId with
    | none => exact Iff.rfl
    | some siteId =>
        rw [updateEach_map]
        exact Iff.rfl
  · simp only [active, ne_eq, not_false_eq_true, decide_true, Bool.and_true, Bool.not_eq_false',
      List.isEmpty_iff, if_true, if_false, true_implies]
    exact Iff.rfl

theorem compileEach_ok {attachments : List RouteAttachmentV1} {routes routes' : List SegmentRouteV1} :
    updateEach compileAttachment routes attachments = .ok routes' ↔
      (∀ attachment ∈ attachments, attachment.Owns) ∧
        updateEach announce routes (announcementsOf attachments) = .ok routes' := by
  induction attachments generalizing routes with
  | nil => simp [updateEach, announcementsOf]
  | cons attachment rest ih =>
      rw [updateEach, announcementsOf, List.flatMap_cons, updateEach_append, bind_ok, bind_ok,
        List.forall_mem_cons]
      simp only [compileAttachment_ok, ih]
      constructor
      · rintro ⟨middle, ⟨owns, first⟩, others, later⟩
        exact ⟨⟨owns, others⟩, middle, first, later⟩
      · rintro ⟨⟨owns, others⟩, middle, first, later⟩
        exact ⟨middle, ⟨owns, first⟩, others, later⟩

/-- Overlapping prefixes are one prefix, announced from one site. -/
def Announcement.Agrees (x y : Announcement) : Prop :=
  x.announced.overlaps y.announced = true → x.announced = y.announced ∧ x.siteId = y.siteId

theorem Ipv4PrefixV1.overlaps_self (block : Ipv4PrefixV1) : block.overlaps block = true := by
  rw [overlaps, beq_self_eq_true]

instance : Std.Symm Announcement.Agrees where
  symm x y agrees overlap := by
    obtain ⟨block, site⟩ := agrees (by rwa [Ipv4PrefixV1.overlaps_comm])
    exact ⟨block.symm, site.symm⟩

theorem Announcement.Agrees.refl (x : Announcement) : x.Agrees x := fun _ => ⟨rfl, rfl⟩

/-- The routes after some announcements. -/
structure Compiled (announced : List Announcement) (routes : List SegmentRouteV1) : Prop where
  distinct : (routes.map (·.destinationPrefix)).Nodup
  apart : ∀ route ∈ routes, ∀ other ∈ routes,
    route.destinationPrefix.overlaps other.destinationPrefix = true →
      route.destinationPrefix = other.destinationPrefix
  owners : ∀ route ∈ routes, route.ownerAttachmentIds =
    (announced.filter fun x => decide (x.announced = route.destinationPrefix)).map
      (·.attachmentId)
  origin : ∀ route ∈ routes, ∃ x ∈ announced, x.announced = route.destinationPrefix
  owned : ∀ route ∈ routes, ∀ x ∈ announced, x.announced = route.destinationPrefix →
    route.ownerSiteId = some x.siteId
  covered : ∀ x ∈ announced, ∃ route ∈ routes, route.destinationPrefix = x.announced

theorem Compiled.nil : Compiled [] [] := by
  refine ⟨List.nodup_nil, ?_, ?_, ?_, ?_, ?_⟩
  all_goals
    intro _ member
    cases member

namespace Compiled

variable {announced : List Announcement} {routes routes' : List SegmentRouteV1} {x : Announcement}

theorem joins (compiled : Compiled announced routes) {route : SegmentRouteV1}
    (member : route ∈ routes) (named : route.destinationPrefix = x.announced)
    (site : route.ownerSiteId = some x.siteId) :
    Compiled (announced ++ [x]) (routes.map fun other =>
      if other.destinationPrefix = x.announced then
        { other with ownerAttachmentIds := other.ownerAttachmentIds ++ [x.attachmentId] }
      else other) := by
  have kept : ∀ other : SegmentRouteV1, (if other.destinationPrefix = x.announced then
        { other with ownerAttachmentIds := other.ownerAttachmentIds ++ [x.attachmentId] }
      else other).destinationPrefix = other.destinationPrefix := by
    intro other
    split
    · rfl
    · rfl
  have sited : ∀ other : SegmentRouteV1, (if other.destinationPrefix = x.announced then
        { other with ownerAttachmentIds := other.ownerAttachmentIds ++ [x.attachmentId] }
      else other).ownerSiteId = other.ownerSiteId := by
    intro other
    split
    · rfl
    · rfl
  constructor
  · rw [List.map_map]
    have same : (fun route : SegmentRouteV1 => route.destinationPrefix) ∘ (fun other =>
        if other.destinationPrefix = x.announced then
          { other with ownerAttachmentIds := other.ownerAttachmentIds ++ [x.attachmentId] }
        else other) = fun route => route.destinationPrefix := funext kept
    rw [same]
    exact compiled.distinct
  · simp only [List.mem_map, forall_exists_index, and_imp, forall_apply_eq_imp_iff₂, kept]
    exact compiled.apart
  · simp only [List.mem_map, forall_exists_index, and_imp, forall_apply_eq_imp_iff₂, kept]
    intro other listed
    rw [List.filter_append, List.map_append, ← compiled.owners other listed]
    split
    · rename_i same
      simp [same]
    · rename_i different
      rw [List.filter_cons_of_neg (by simpa using fun same => different same.symm)]
      exact (List.append_nil _).symm
  · simp only [List.mem_map, forall_exists_index, and_imp, forall_apply_eq_imp_iff₂, kept]
    intro other listed
    obtain ⟨y, earlier, same⟩ := compiled.origin other listed
    exact ⟨y, List.mem_append_left _ earlier, same⟩
  · simp only [List.mem_map, forall_exists_index, and_imp, forall_apply_eq_imp_iff₂, kept, sited]
    intro other listed y present same
    rcases mem_concat.mp present with earlier | here
    · exact compiled.owned other listed y earlier same
    · obtain rfl := here
      rw [eq_of_key compiled.distinct listed member (same.symm.trans named.symm)]
      exact site
  · intro y present
    have held : ∃ other ∈ routes, other.destinationPrefix = y.announced := by
      rcases mem_concat.mp present with earlier | here
      · exact compiled.covered y earlier
      · obtain rfl := here
        exact ⟨route, member, named⟩
    obtain ⟨other, listed, same⟩ := held
    exact ⟨_, List.mem_map_of_mem listed, (kept other).trans same⟩

theorem opens (compiled : Compiled announced routes)
    (apart : ∀ route ∈ routes, route.destinationPrefix.overlaps x.announced = false) :
    Compiled (announced ++ [x]) (routes ++ [⟨x.announced, some x.siteId, [x.attachmentId]⟩]) := by
  have fresh : ∀ route ∈ routes, route.destinationPrefix ≠ x.announced := by
    intro route member same
    have separate := apart route member
    rw [same, Ipv4PrefixV1.overlaps_self] at separate
    cases separate
  have unannounced : ∀ y ∈ announced, y.announced ≠ x.announced := by
    intro y earlier same
    obtain ⟨route, member, named⟩ := compiled.covered y earlier
    exact fresh route member (named.trans same)
  constructor
  · exact nodup_concat_key compiled.distinct fun old member same => fresh old member same.symm
  · intro route listed other listed' overlap
    rcases List.mem_append.mp listed with old | new
    · rcases mem_concat.mp listed' with old' | rfl
      · exact compiled.apart route old other old' overlap
      · rw [apart route old] at overlap
        cases overlap
    · obtain rfl := List.mem_singleton.mp new
      rcases mem_concat.mp listed' with old' | rfl
      · rw [Ipv4PrefixV1.overlaps_comm, apart other old'] at overlap
        cases overlap
      · rfl
  · intro route listed
    rw [List.filter_append, List.map_append]
    rcases mem_concat.mp listed with old | rfl
    · rw [← compiled.owners route old, List.filter_cons_of_neg
        (by simpa using fun same => fresh route old same.symm)]
      exact (List.append_nil _).symm
    · have none : announced.filter (fun y => decide (y.announced = x.announced)) = [] := by
        rw [List.filter_eq_nil_iff]
        intro y earlier
        simpa using unannounced y earlier
      simp [none]
  · intro route listed
    rcases mem_concat.mp listed with old | rfl
    · obtain ⟨y, earlier, same⟩ := compiled.origin route old
      exact ⟨y, List.mem_append_left _ earlier, same⟩
    · exact ⟨x, List.mem_append_right _ (List.mem_singleton_self x), rfl⟩
  · intro route listed y present same
    rcases mem_concat.mp listed with old | rfl
    · rcases mem_concat.mp present with earlier | here
      · exact compiled.owned route old y earlier same
      · obtain rfl := here
        exact absurd same.symm (fresh route old)
    · rcases mem_concat.mp present with earlier | here
      · exact absurd same (unannounced y earlier)
      · obtain rfl := here
        rfl
  · intro y present
    rcases mem_concat.mp present with earlier | here
    · obtain ⟨route, member, same⟩ := compiled.covered y earlier
      exact ⟨route, List.mem_append_left _ member, same⟩
    · obtain rfl := here
      exact ⟨_, List.mem_append_right _ (List.mem_singleton_self _), rfl⟩

theorem step (compiled : Compiled announced routes) :
    ((∃ routes', announce routes x = .ok routes') ↔ ∀ y ∈ announced, y.Agrees x) ∧
      ∀ routes', announce routes x = .ok routes' → Compiled (announced ++ [x]) routes' := by
  unfold announce announcePrefix
  cases found : routes.find? fun route => decide (route.destinationPrefix = x.announced) with
  | some route =>
      have member := List.mem_of_find?_eq_some found
      have named := List.find?_some found
      rw [decide_eq_true_eq] at named
      obtain ⟨z, present, same⟩ := compiled.origin route member
      have site := compiled.owned route member z present same
      simp only [unit_bind_ok, pure_ok, reject_ok, decide_eq_false_iff_not, ne_eq, not_not]
      constructor
      · constructor
        · rintro ⟨routes', owner, -⟩ y earlier overlap
          obtain ⟨other, listed, named'⟩ := compiled.covered y earlier
          have one : other.destinationPrefix = route.destinationPrefix := by
            refine compiled.apart other listed route member ?_
            rw [named', named]
            exact overlap
          have block : y.announced = route.destinationPrefix := named'.symm.trans one
          refine ⟨block.trans named, ?_⟩
          have owner' := compiled.owned route member y earlier block
          exact Option.some.inj (owner'.symm.trans owner)
        · intro agrees
          have owner := agrees z present (by rw [same, named]; exact Ipv4PrefixV1.overlaps_self _)
          exact ⟨_, by rw [site, owner.2], rfl⟩
      · rintro routes' ⟨owner, rfl⟩
        exact compiled.joins member named owner
  | none =>
      have fresh : ∀ route ∈ routes, route.destinationPrefix ≠ x.announced := by
        intro route member same
        exact List.find?_eq_none.mp found route member (decide_eq_true same)
      simp only [unit_bind_ok, pure_ok, reject_ok, List.any_eq_false, Bool.not_eq_true]
      constructor
      · constructor
        · rintro ⟨routes', apart, -⟩ y earlier overlap
          obtain ⟨route, member, named⟩ := compiled.covered y earlier
          have separate := apart route member
          rw [named, overlap] at separate
          cases separate
        · intro agrees
          refine ⟨_, ?_, rfl⟩
          intro route member
          obtain ⟨y, earlier, same⟩ := compiled.origin route member
          by_contra overlap
          rw [Bool.not_eq_false] at overlap
          refine fresh route member ?_
          rw [← same] at overlap ⊢
          exact (agrees y earlier overlap).1
      · rintro routes' ⟨apart, rfl⟩
        exact compiled.opens apart

theorem run (compiled : Compiled announced routes) (rest : List Announcement) :
    ((∃ routes', updateEach announce routes rest = .ok routes') ↔
        (∀ y ∈ announced, ∀ x ∈ rest, y.Agrees x) ∧ rest.Pairwise Announcement.Agrees) ∧
      ∀ routes', updateEach announce routes rest = .ok routes' →
        Compiled (announced ++ rest) routes' := by
  induction rest generalizing announced routes with
  | nil =>
      simp only [updateEach, Except.ok.injEq, exists_eq', List.not_mem_nil, false_implies,
        implies_true, List.Pairwise.nil, and_self, List.append_nil, true_and]
      rintro routes' rfl
      exact compiled
  | cons x rest ih =>
      obtain ⟨agreed, kept⟩ := compiled.step (x := x)
      simp only [updateEach, bind_ok, List.forall_mem_cons, List.pairwise_cons]
      constructor
      · constructor
        · rintro ⟨routes', middle, first, later⟩
          obtain ⟨others, pairwise⟩ := (ih (kept middle first)).1.mp ⟨routes', later⟩
          have here := others x (List.mem_append_right _ (List.mem_singleton_self x))
          have before := agreed.mp ⟨middle, first⟩
          exact ⟨fun y earlier => ⟨before y earlier, others y (List.mem_append_left _ earlier)⟩,
            here, pairwise⟩
        · rintro ⟨before, here, pairwise⟩
          obtain ⟨middle, first⟩ := agreed.mpr fun y earlier => (before y earlier).1
          have others : ∀ y ∈ announced ++ [x], ∀ z ∈ rest, y.Agrees z := by
            intro y present
            rcases mem_concat.mp present with earlier | same
            · exact (before y earlier).2
            · obtain rfl := same
              exact here
          obtain ⟨routes', later⟩ := (ih (kept middle first)).1.mpr ⟨others, pairwise⟩
          exact ⟨routes', middle, first, later⟩
      · rintro routes' ⟨middle, first, later⟩
        have after := (ih (kept middle first)).2 routes' later
        rwa [List.append_assoc, List.singleton_append] at after

end Compiled

theorem announce_all (announced : List Announcement) :
    ((∃ routes, updateEach announce [] announced = .ok routes) ↔
        ∀ x ∈ announced, ∀ y ∈ announced, x.Agrees y) ∧
      ∀ routes, updateEach announce [] announced = .ok routes → Compiled announced routes := by
  obtain ⟨succeeds, compiled⟩ := Compiled.nil.run announced
  rw [List.nil_append] at compiled
  refine ⟨succeeds.trans ?_, compiled⟩
  constructor
  · rintro ⟨-, pairwise⟩ x member y member'
    exact pairwise.forall_of_forall (fun z _ => Announcement.Agrees.refl z) member member'
  · intro agrees
    refine ⟨fun y none => absurd none List.not_mem_nil, ?_⟩
    exact List.pairwise_of_forall_mem_list agrees

theorem prefixOrder_trans {c : Ipv4PrefixV1} (first : prefixOrder a b) (second : prefixOrder b c)
    : prefixOrder a c := by
  simp only [prefixOrder, BitVec.lt_def, ← BitVec.toNat_inj] at *
  omega

theorem prefixOrder_total (a b : Ipv4PrefixV1) : prefixOrder a b ∨ prefixOrder b a := by
  simp only [prefixOrder, BitVec.lt_def, ← BitVec.toNat_inj]
  omega

theorem prefixOrder_antisymm (first : prefixOrder a b) (second : prefixOrder b a) : a = b := by
  cases a with
  | mk network prefixLen =>
      cases b with
      | mk network' prefixLen' =>
          simp only [prefixOrder, BitVec.lt_def, ← BitVec.toNat_inj] at first second
          rw [Ipv4PrefixV1.mk.injEq, ← BitVec.toNat_inj]
          omega

def routeOrder (a b : SegmentRouteV1) : Prop := prefixOrder a.destinationPrefix b.destinationPrefix

instance : DecidableRel routeOrder := fun a b =>
  inferInstanceAs (Decidable (prefixOrder a.destinationPrefix b.destinationPrefix))

instance : IsTrans SegmentRouteV1 routeOrder where
  trans _ _ _ := prefixOrder_trans

instance : Std.Total routeOrder where
  total _ _ := prefixOrder_total _ _

def SegmentRouteV1.ordered (route : SegmentRouteV1) : SegmentRouteV1 :=
  { route with ownerAttachmentIds := route.ownerAttachmentIds.insertionSort fun a b => a ≤ b }

def finishRoutes (routes : List SegmentRouteV1) : List SegmentRouteV1 :=
  (routes.map SegmentRouteV1.ordered).insertionSort routeOrder

theorem compileRoutes_ok {attachments : List RouteAttachmentV1} {routes : List SegmentRouteV1} :
    compileRoutes attachments = .ok routes ↔ (∀ attachment ∈ attachments, attachment.Owns) ∧
      ∃ found, updateEach announce [] (announcementsOf attachments) = .ok found ∧
        routes = finishRoutes found := by
  have sorted : ∀ found : List SegmentRouteV1,
      (found.insertionSort fun a b => prefixOrder a.destinationPrefix b.destinationPrefix).map
        SegmentRouteV1.ordered = finishRoutes found := by
    intro found
    exact List.map_insertionSort routeOrder routeOrder SegmentRouteV1.ordered found
      fun _ _ _ _ => Iff.rfl
  rw [compileRoutes, bind_ok]
  constructor
  · rintro ⟨found, done, returned⟩
    obtain ⟨owns, done⟩ := compileEach_ok.mp done
    exact ⟨owns, found, done, (Except.ok.inj returned).symm.trans (sorted found)⟩
  · rintro ⟨owns, found, done, rfl⟩
    exact ⟨found, compileEach_ok.mpr ⟨owns, done⟩, congrArg Except.ok (sorted found)⟩

theorem compileRoutes_compiled {attachments : List RouteAttachmentV1}
    {routes : List SegmentRouteV1} (done : compileRoutes attachments = .ok routes) :
    ∃ found, routes = finishRoutes found ∧ Compiled (announcementsOf attachments) found := by
  obtain ⟨-, found, announced, rfl⟩ := compileRoutes_ok.mp done
  exact ⟨found, rfl, (announce_all _).2 found announced⟩

theorem mem_finishRoutes {found : List SegmentRouteV1} {route : SegmentRouteV1} :
    route ∈ finishRoutes found ↔ ∃ raw ∈ found, raw.ordered = route := by
  rw [finishRoutes, List.mem_insertionSort, List.mem_map]

theorem finishRoutes_destinations (found : List SegmentRouteV1) :
    ((finishRoutes found).map (·.destinationPrefix)).Perm (found.map (·.destinationPrefix)) := by
  have same := (List.perm_insertionSort routeOrder (found.map SegmentRouteV1.ordered)).map
    (·.destinationPrefix)
  rwa [List.map_map] at same

theorem ids_sorted {ids ids' : List Uuid} (perm : ids.Perm ids') :
    (ids.insertionSort fun a b => a ≤ b) = ids'.insertionSort fun a b => a ≤ b := by
  have trans : IsTrans Uuid fun a b => a ≤ b := ⟨fun _ _ _ => BitVec.le_trans⟩
  have total : Std.Total fun a b : Uuid => a ≤ b := ⟨fun a b => BitVec.le_total a b⟩
  have sorted := ((List.perm_insertionSort (fun a b : Uuid => a ≤ b) ids).trans perm).trans
    (List.perm_insertionSort (fun a b : Uuid => a ≤ b) ids').symm
  exact sorted.eq_of_pairwise (fun _ _ _ _ => BitVec.le_antisymm)
    (List.pairwise_insertionSort _ ids) (List.pairwise_insertionSort _ ids')

theorem Compiled.perm {announced announced' : List Announcement}
    {found found' : List SegmentRouteV1} (compiled : Compiled announced found)
    (compiled' : Compiled announced' found') (perm : announced.Perm announced') :
    finishRoutes found = finishRoutes found' := by
  have named : ∀ xs : List SegmentRouteV1, (xs.map SegmentRouteV1.ordered).map
      (·.destinationPrefix) = xs.map (·.destinationPrefix) := by
    intro xs
    rw [List.map_map]
    rfl
  have listed : ∀ {xs ys : List Announcement} {found found' : List SegmentRouteV1},
      Compiled xs found → Compiled ys found' → xs.Perm ys →
      ∀ route ∈ found.map SegmentRouteV1.ordered, route ∈ found'.map SegmentRouteV1.ordered := by
    intro xs ys found found' one two perm route member
    obtain ⟨raw, present, rfl⟩ := List.mem_map.mp member
    obtain ⟨x, earlier, origin⟩ := one.origin raw present
    obtain ⟨raw', present', same⟩ := two.covered x (perm.mem_iff.mp earlier)
    have site := one.owned raw present x earlier origin
    have site' := two.owned raw' present' x (perm.mem_iff.mp earlier) same.symm
    have block : raw.destinationPrefix = raw'.destinationPrefix := origin.symm.trans same.symm
    have owners : raw.ordered.ownerAttachmentIds = raw'.ordered.ownerAttachmentIds := by
      change raw.ownerAttachmentIds.insertionSort _ = raw'.ownerAttachmentIds.insertionSort _
      rw [one.owners raw present, two.owners raw' present', block]
      exact ids_sorted ((perm.filter _).map _)
    have equal : raw.ordered = raw'.ordered := by
      cases raw
      cases raw'
      simp only [SegmentRouteV1.ordered, SegmentRouteV1.mk.injEq] at *
      exact ⟨block, site.trans site'.symm, owners⟩
    rw [equal]
    exact List.mem_map_of_mem present'
  have separates : ∀ a b : SegmentRouteV1, routeOrder a b → routeOrder b a →
      a.destinationPrefix = b.destinationPrefix := fun _ _ => prefixOrder_antisymm
  rw [finishRoutes, finishRoutes, insertionSort_eq_iff separates]
  · intro route
    exact ⟨listed compiled compiled' perm route, listed compiled' compiled perm.symm route⟩
  · rw [named]
    exact compiled.distinct
  · rw [named]
    exact compiled'.distinct

theorem announcements_nodup (once : attachment.localPrefixes.Nodup)
    : attachment.announcements.Nodup := by
  unfold RouteAttachmentV1.announcements
  split
  · split
    · exact List.nodup_nil
    · exact once.map fun _ _ same => congrArg Announcement.announced same
  · exact List.nodup_nil

theorem owners_nodup {attachments : List RouteAttachmentV1}
    (ids : (attachments.map (·.attachmentId)).Nodup)
    (once : ∀ attachment ∈ attachments, attachment.localPrefixes.Nodup) (block : Ipv4PrefixV1) :
    (((announcementsOf attachments).filter fun x => decide (x.announced = block)).map
      (·.attachmentId)).Nodup := by
  rw [announcementsOf, List.filter_flatMap, List.map_flatMap, List.nodup_flatMap]
  have named : ∀ attachment : RouteAttachmentV1, ∀ id ∈ (attachment.announcements.filter fun x =>
      decide (x.announced = block)).map (·.attachmentId), id = attachment.attachmentId := by
    intro attachment id member
    obtain ⟨x, listed, rfl⟩ := List.mem_map.mp member
    exact (mem_announcements.mp (List.mem_of_mem_filter listed)).1.symm
  constructor
  · intro attachment member
    refine List.Nodup.map_on ?_ ((announcements_nodup (once attachment member)).filter _)
    intro x listed y listed' _
    rw [List.mem_filter, mem_announcements, decide_eq_true_eq] at listed listed'
    obtain ⟨⟨id, -, site, -⟩, same⟩ := listed
    obtain ⟨⟨id', -, site', -⟩, same'⟩ := listed'
    cases x
    cases y
    rw [Announcement.mk.injEq]
    exact ⟨id.symm.trans id', Option.some.inj (site.symm.trans site'), same.trans same'.symm⟩
  · rw [List.Nodup, List.pairwise_map] at ids
    refine ids.imp ?_
    intro a b different id left right
    exact different ((named a id left).symm.trans (named b id right))

/-- Prefixes of active attachments at sites only overlap where they are one prefix of
    one site. -/
def OwnershipAgrees (attachments : List RouteAttachmentV1) : Prop :=
  ∀ a ∈ attachments, ∀ b ∈ attachments, ∀ siteA siteB blockA blockB,
    a.Announces siteA blockA → b.Announces siteB blockB → blockA.overlaps blockB = true →
      blockA = blockB ∧ siteA = siteB

theorem ownershipAgrees_iff {attachments : List RouteAttachmentV1} :
    OwnershipAgrees attachments ↔ ∀ x ∈ announcementsOf attachments,
      ∀ y ∈ announcementsOf attachments, x.Agrees y := by
  constructor
  · intro agreed x member y member' overlap
    obtain ⟨a, listed, -, announces⟩ := mem_announcementsOf.mp member
    obtain ⟨b, listed', -, announces'⟩ := mem_announcementsOf.mp member'
    exact agreed a listed b listed' _ _ _ _ announces announces' overlap
  · intro agrees a listed b listed' siteA siteB blockA blockB announces announces' overlap
    exact agrees ⟨a.attachmentId, siteA, blockA⟩ (mem_announcementsOf.mpr ⟨a, listed, rfl, announces⟩)
      ⟨b.attachmentId, siteB, blockB⟩ (mem_announcementsOf.mpr ⟨b, listed', rfl, announces'⟩) overlap

/-- What `compile_routes` returns. -/
structure RoutesOf (attachments : List RouteAttachmentV1) (routes : List SegmentRouteV1) : Prop where
  sorted : routes.Pairwise routeOrder
  distinct : (routes.map (·.destinationPrefix)).Nodup
  apart : routes.Pairwise fun a b => a.destinationPrefix.overlaps b.destinationPrefix = false
  announced : ∀ block, block ∈ routes.map (·.destinationPrefix) ↔
    ∃ a ∈ attachments, ∃ siteId, a.Announces siteId block
  owners : ∀ route ∈ routes, ∀ id, id ∈ route.ownerAttachmentIds ↔
    ∃ a ∈ attachments, a.attachmentId = id ∧ ∃ siteId, a.Announces siteId route.destinationPrefix
  sites : ∀ route ∈ routes, ∀ a ∈ attachments, ∀ siteId,
    a.Announces siteId route.destinationPrefix → route.ownerSiteId = some siteId
  ordered : ∀ route ∈ routes, route.ownerAttachmentIds.Pairwise (· < ·)

section Origin

variable {attachments : List RouteAttachmentV1} {found : List SegmentRouteV1}
  {route : SegmentRouteV1}

theorem Compiled.mem_destinations (compiled : Compiled (announcementsOf attachments) found)
    {block : Ipv4PrefixV1} : block ∈ (finishRoutes found).map (·.destinationPrefix) ↔
      ∃ a ∈ attachments, ∃ siteId, a.Announces siteId block := by
  rw [(finishRoutes_destinations found).mem_iff, List.mem_map]
  constructor
  · rintro ⟨raw, present, rfl⟩
    obtain ⟨x, listed, same⟩ := compiled.origin raw present
    obtain ⟨a, member, -, announces⟩ := mem_announcementsOf.mp listed
    exact ⟨a, member, x.siteId, same ▸ announces⟩
  · rintro ⟨a, member, siteId, announces⟩
    exact compiled.covered ⟨a.attachmentId, siteId, block⟩
      (mem_announcementsOf.mpr ⟨a, member, rfl, announces⟩)

theorem Compiled.mem_owners (compiled : Compiled (announcementsOf attachments) found)
    (listed : route ∈ finishRoutes found) {id : Uuid} : id ∈ route.ownerAttachmentIds ↔
      ∃ a ∈ attachments, a.attachmentId = id ∧
        ∃ siteId, a.Announces siteId route.destinationPrefix := by
  obtain ⟨raw, present, rfl⟩ := mem_finishRoutes.mp listed
  change id ∈ raw.ownerAttachmentIds.insertionSort _ ↔ _
  rw [List.mem_insertionSort, compiled.owners raw present, List.mem_map]
  constructor
  · rintro ⟨x, kept, rfl⟩
    rw [List.mem_filter, decide_eq_true_eq] at kept
    obtain ⟨a, member, named, announces⟩ := mem_announcementsOf.mp kept.1
    exact ⟨a, member, named, x.siteId, kept.2 ▸ announces⟩
  · rintro ⟨a, member, rfl, siteId, announces⟩
    refine ⟨⟨a.attachmentId, siteId, raw.destinationPrefix⟩, ?_, rfl⟩
    rw [List.mem_filter, decide_eq_true_eq]
    exact ⟨mem_announcementsOf.mpr ⟨a, member, rfl, announces⟩, rfl⟩

theorem Compiled.site (compiled : Compiled (announcementsOf attachments) found)
    (listed : route ∈ finishRoutes found) {a : RouteAttachmentV1} (member : a ∈ attachments)
    {siteId : Uuid} (announces : a.Announces siteId route.destinationPrefix) :
    route.ownerSiteId = some siteId := by
  obtain ⟨raw, present, rfl⟩ := mem_finishRoutes.mp listed
  exact compiled.owned raw present ⟨a.attachmentId, siteId, raw.destinationPrefix⟩
    (mem_announcementsOf.mpr ⟨a, member, rfl, announces⟩) rfl

end Origin

theorem Compiled.routesOf {attachments : List RouteAttachmentV1} {found : List SegmentRouteV1}
    (ids : (attachments.map (·.attachmentId)).Nodup)
    (once : ∀ attachment ∈ attachments, attachment.localPrefixes.Nodup)
    (compiled : Compiled (announcementsOf attachments) found) :
    RoutesOf attachments (finishRoutes found) := by
  have distinct := (finishRoutes_destinations found).nodup_iff.mpr compiled.distinct
  constructor
  · exact List.pairwise_insertionSort routeOrder _
  · exact distinct
  · rw [List.Nodup, List.pairwise_map] at distinct
    refine distinct.imp_of_mem ?_
    intro a b listed listed' different
    obtain ⟨raw, present, rfl⟩ := mem_finishRoutes.mp listed
    obtain ⟨raw', present', rfl⟩ := mem_finishRoutes.mp listed'
    by_contra overlap
    rw [Bool.not_eq_false] at overlap
    exact different (compiled.apart raw present raw' present' overlap)
  · exact fun block => compiled.mem_destinations
  · exact fun route listed id => compiled.mem_owners listed
  · exact fun route listed a member siteId announces => compiled.site listed member announces
  · intro route listed
    obtain ⟨raw, present, rfl⟩ := mem_finishRoutes.mp listed
    have unique := owners_nodup ids once raw.destinationPrefix
    rw [← compiled.owners raw present] at unique
    have trans : IsTrans Uuid fun a b => a ≤ b := ⟨fun _ _ _ => BitVec.le_trans⟩
    have total : Std.Total fun a b : Uuid => a ≤ b := ⟨fun a b => BitVec.le_total a b⟩
    have sorted := List.pairwise_insertionSort (fun a b : Uuid => a ≤ b) raw.ownerAttachmentIds
    have apart := (List.perm_insertionSort (fun a b : Uuid => a ≤ b)
      raw.ownerAttachmentIds).nodup_iff.mpr unique
    refine (sorted.and apart).imp ?_
    rintro a b ⟨le, different⟩
    rw [BitVec.le_def] at le
    rw [ne_eq, ← BitVec.toNat_inj] at different
    rw [BitVec.lt_def]
    omega

/-- Attachments are compiled exactly when none that is not active owns a prefix and no
    two announced prefixes overlap, except one prefix of one site. Their order does
    not matter. -/
theorem compile_routes (attachments : List RouteAttachmentV1)
    (ids : (attachments.map (·.attachmentId)).Nodup)
    (once : ∀ attachment ∈ attachments, attachment.localPrefixes.Nodup) :
    ((∃ routes, compileRoutes attachments = .ok routes) ↔
      (∀ attachment ∈ attachments, attachment.Owns) ∧ OwnershipAgrees attachments) ∧
    (∀ routes, compileRoutes attachments = .ok routes → RoutesOf attachments routes) ∧
    ∀ other, other.Perm attachments → ∀ routes,
      compileRoutes other = .ok routes ↔ compileRoutes attachments = .ok routes := by
  obtain ⟨succeeds, compiled⟩ := announce_all (announcementsOf attachments)
  have same : ∀ {xs ys : List RouteAttachmentV1}, xs.Perm ys → ∀ routes,
      compileRoutes xs = .ok routes → compileRoutes ys = .ok routes := by
    intro xs ys perm routes done
    obtain ⟨owns, found, announced, rfl⟩ := compileRoutes_ok.mp done
    have perm' : (announcementsOf xs).Perm (announcementsOf ys) := perm.flatMap_right _
    have agrees := (announce_all (announcementsOf xs)).1.mp ⟨found, announced⟩
    obtain ⟨found', announced'⟩ := (announce_all (announcementsOf ys)).1.mpr
      fun x member y member' => agrees x (perm'.mem_iff.mpr member) y (perm'.mem_iff.mpr member')
    refine compileRoutes_ok.mpr ⟨?_, found', announced', ?_⟩
    · exact fun attachment member => owns attachment (perm.mem_iff.mpr member)
    · exact ((announce_all _).2 found announced).perm ((announce_all _).2 found' announced') perm'
  refine ⟨?_, ?_, ?_⟩
  · rw [ownershipAgrees_iff, ← succeeds]
    constructor
    · rintro ⟨routes, done⟩
      obtain ⟨owns, found, announced, -⟩ := compileRoutes_ok.mp done
      exact ⟨owns, found, announced⟩
    · rintro ⟨owns, found, announced⟩
      exact ⟨_, compileRoutes_ok.mpr ⟨owns, found, announced, rfl⟩⟩
  · intro routes done
    obtain ⟨-, found, announced, rfl⟩ := compileRoutes_ok.mp done
    exact (compiled found announced).routesOf ids once
  · exact fun other perm routes => ⟨same perm routes, same perm.symm routes⟩

def sampleAnnouncers : List RouteAttachmentV1 :=
  [⟨12, some 2, .device 22 32, 0x0a000002, [⟨0x0a020000, 24⟩], .active, 0⟩,
    ⟨11, some 1, .device 21 31, 0x0a000001, [⟨0x0a010000, 24⟩], .active, 0⟩,
    ⟨10, some 1, .device 20 30, 0x0a000003, [⟨0x0a010000, 24⟩], .active, 0⟩]

theorem sample_compiled :
    ∃ routes, compileRoutes sampleAnnouncers = .ok routes ∧ RoutesOf sampleAnnouncers routes ∧
      compileRoutes sampleAnnouncers.reverse = .ok routes := by
  have done : compileRoutes sampleAnnouncers =
      .ok [⟨⟨0x0a010000, 24⟩, some 1, [10, 11]⟩, ⟨⟨0x0a020000, 24⟩, some 2, [12]⟩] := by
    decide +kernel
  have facts := compile_routes sampleAnnouncers (by decide) (by decide)
  exact ⟨_, done, facts.2.1 _ done, (facts.2.2 _ (List.reverse_perm _) _).mpr done⟩

end CandyCloud
