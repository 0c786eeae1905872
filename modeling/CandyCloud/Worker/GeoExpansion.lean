import CandyCloud.Worker.CompiledRoutes
import CandyCloud.Worker.GeoRefresh

/-! # Expanded selectors

A rule with a GeoIP selector gets the set of its own prefixes and those of the country files, in
order.
-/

namespace CandyCloud

open Foundation

instance : IsTrans Ipv4PrefixV1 prefixOrder where
  trans _ _ _ := prefixOrder_trans

instance : Std.Total prefixOrder where
  total := prefixOrder_total

variable {blocks others destinations : List Ipv4PrefixV1} {digest : Hash}
  {rule rule' : ServicePolicyRuleV1} {error : GeoProviderError}

theorem NonOverlapping.subset (apart : NonOverlapping blocks) (within : others ⊆ blocks)
    : NonOverlapping others :=
  fun a memberA b memberB => apart a (within memberA) b (within memberB)

theorem nonOverlapping_congr (same : ∀ block, block ∈ blocks ↔ block ∈ others) :
    NonOverlapping blocks ↔ NonOverlapping others :=
  ⟨fun apart => apart.subset fun _ => (same _).mpr, fun apart => apart.subset fun _ => (same _).mp⟩

theorem mergeEgressDestinations_iff (destinations : List Ipv4PrefixV1) (addition : Ipv4PrefixV1) :
    (∃ merged, mergeEgressDestinations destinations addition = .ok merged) ↔
      addition ∈ destinations ∨ ∀ block ∈ destinations, block.overlaps addition = false := by
  constructor
  · rintro ⟨merged, done⟩
    exact (mergeEgressDestinations_ok done).2
  · intro allowed
    unfold mergeEgressDestinations
    split
    · exact ⟨_, rfl⟩
    · rename_i absent
      rw [List.contains_iff_mem] at absent
      have free := allowed.resolve_left absent
      refine ⟨_, unit_bind_ok.mpr ⟨reject_ok.mpr ?_, rfl⟩⟩
      rw [List.any_eq_false]
      intro block member
      simp [free block member]

theorem NonOverlapping.append_singleton {addition : Ipv4PrefixV1}
    (apart : NonOverlapping destinations) :
    NonOverlapping (destinations ++ [addition]) ↔
      addition ∈ destinations ∨ ∀ block ∈ destinations, block.overlaps addition = false := by
  constructor
  · intro together
    by_cases present : addition ∈ destinations
    · exact .inl present
    · right
      intro block member
      apply together block (by simp [member]) addition (by simp)
      rintro rfl
      exact present member
  · intro allowed a memberA b memberB different
    have known : ∀ block ∈ destinations, block ≠ addition → block.overlaps addition = false := by
      intro block member other
      cases allowed with
      | inl present => exact apart block member addition present other
      | inr free => exact free block member
    rw [List.mem_append, List.mem_singleton] at memberA memberB
    cases memberA with
    | inl oldA =>
        cases memberB with
        | inl oldB => exact apart a oldA b oldB different
        | inr newB => exact newB ▸ known a oldA (newB ▸ different)
    | inr newA =>
        cases memberB with
        | inl oldB =>
            rw [Ipv4PrefixV1.overlaps_comm, newA]
            exact known b oldB (newA ▸ different.symm)
        | inr newB => exact absurd (newA.trans newB.symm) different

theorem mergeEach_iff {additions : List Ipv4PrefixV1} (apart : NonOverlapping destinations) :
    (∃ merged, updateEach mergeEgressDestinations destinations additions = .ok merged) ↔
      NonOverlapping (destinations ++ additions) := by
  induction additions generalizing destinations with
  | nil => simp [updateEach, apart]
  | cons addition rest ih =>
      have split : destinations ++ addition :: rest = (destinations ++ [addition]) ++ rest := by
        simp
      cases step : mergeEgressDestinations destinations addition with
      | error error =>
          have refused : ¬ NonOverlapping (destinations ++ [addition]) := by
            rw [apart.append_singleton, ← mergeEgressDestinations_iff, step]
            simp
          constructor
          · rintro ⟨merged, done⟩
            simp [updateEach, step, bind, Except.bind] at done
          · intro together
            rw [split] at together
            exact absurd (together.subset (List.subset_append_left _ _)) refused
      | ok merged =>
          have members := (mergeEgressDestinations_ok step).1
          have joined : NonOverlapping (destinations ++ [addition]) :=
            apart.append_singleton.mpr ((mergeEgressDestinations_iff _ _).mp ⟨merged, step⟩)
          have apart' : NonOverlapping merged :=
            (nonOverlapping_congr fun block => by simp [members]).mp joined
          have next : updateEach mergeEgressDestinations destinations (addition :: rest) =
              updateEach mergeEgressDestinations merged rest := by
            simp [updateEach, step, bind, Except.bind]
          rw [next, ih apart', split]
          exact nonOverlapping_congr fun block => by simp [members, or_assoc]

namespace GeoDirectory

variable (directory : GeoDirectory)

/-- The file of a country can be read and has an entry for the prefix. -/
def Lists (country : String) (announced : Ipv4PrefixV1) : Prop :=
  ∃ entries, directory.readCountry country = .ok entries ∧
    announced ∈ entries.map GeoEntry.announced

/-- The prefixes of a rule and those of the countries of its selector. -/
def Selects (rule : ServicePolicyRuleV1) (selector : PolicyGeoSelectorV1)
    (announced : Ipv4PrefixV1) : Prop :=
  announced ∈ rule.destinationPrefixes ∨
    ∃ country ∈ selector.countries, directory.Lists country announced

def Separate (rule : ServicePolicyRuleV1) (selector : PolicyGeoSelectorV1) : Prop :=
  ∀ a b, directory.Selects rule selector a → directory.Selects rule selector b → a ≠ b →
    a.overlaps b = false

variable {directory} {sha256 : Bytes → Hash} {selector : PolicyGeoSelectorV1}

theorem expansion_ok {explicit : List Ipv4PrefixV1}
    (expanded : directory.expansion sha256 selector explicit = .ok (destinations, digest)) :
    ∃ listed, destinations = sortedSet prefixOrder (explicit ++ listed) ∧
      ∀ announced, announced ∈ listed ↔
        ∃ country ∈ selector.countries, directory.Lists country announced := by
  simp only [expansion, bind_ok, pure_ok, reject_ok] at expanded
  obtain ⟨-, -, -, -, countries, read, -, -, -, -, -, -, same⟩ := expanded
  cases same
  refine ⟨_, rfl, ?_⟩
  intro announced
  rw [List.mem_flatMap]
  constructor
  · rintro ⟨⟨country, entries⟩, row, inside⟩
    obtain ⟨code, selected, entry⟩ := mem_mapM read row
    simp only [bind_ok, pure_ok] at entry
    obtain ⟨found, readable, same⟩ := entry
    cases same
    exact ⟨country, selected, entries, readable, inside⟩
  · rintro ⟨country, selected, entries, readable, inside⟩
    obtain ⟨row, member, entry⟩ := mapM_mem read selected
    simp only [bind_ok, pure_ok] at entry
    obtain ⟨found, readable', rfl⟩ := entry
    cases readable.symm.trans readable'
    exact ⟨_, member, inside⟩

/-- What an expansion leaves of a rule. -/
structure Expanded (directory : GeoDirectory) (selector : PolicyGeoSelectorV1)
    (rule rule' : ServicePolicyRuleV1) : Prop where
  others : rule' = { rule with destinationPrefixes := rule'.destinationPrefixes }
  sorted : rule'.destinationPrefixes.Pairwise prefixOrder
  once : rule'.destinationPrefixes.Nodup
  members : ∀ announced, announced ∈ rule'.destinationPrefixes ↔
    directory.Selects rule selector announced

theorem expandGeoRule_error (geo : rule.destinationGeo = some selector)
    (failed : directory.expansion sha256 selector rule.destinationPrefixes = .error error) :
    directory.expandGeoRule sha256 rule = (rule, .error error) := by
  simp only [expandGeoRule, geo, failed]

theorem expandGeoRule_done (geo : rule.destinationGeo = some selector)
    (done : directory.expansion sha256 selector rule.destinationPrefixes =
      .ok (destinations, digest)) :
    directory.expandGeoRule sha256 rule =
      ({ rule with destinationPrefixes := destinations }, .ok (some digest)) := by
  simp only [expandGeoRule, geo, done]

theorem expandGeoRule_ok {outcome : Option Hash} (geo : rule.destinationGeo = some selector)
    (expanded : (directory.expandGeoRule sha256 rule).2 = .ok outcome) :
    Expanded directory selector rule (directory.expandGeoRule sha256 rule).1 := by
  cases done : directory.expansion sha256 selector rule.destinationPrefixes with
  | error error =>
      rw [expandGeoRule_error geo done] at expanded
      cases expanded
  | ok found =>
      obtain ⟨destinations, digest⟩ := found
      obtain ⟨listed, rfl, selected⟩ := expansion_ok done
      rw [expandGeoRule_done geo done]
      exact {
        others := rfl
        sorted := sortedSet_sorted _
        once := sortedSet_nodup (fun _ _ => prefixOrder_antisymm) _
        members := fun announced => by
          rw [mem_sortedSet, List.mem_append, selected, Selects] }

theorem expandGeoRule_failed (geo : rule.destinationGeo = some selector)
    (failed : (directory.expandGeoRule sha256 rule).2 = .error error) :
    (directory.expandGeoRule sha256 rule).1 = rule := by
  cases done : directory.expansion sha256 selector rule.destinationPrefixes with
  | error error => rw [expandGeoRule_error geo done]
  | ok found =>
      rw [expandGeoRule_done geo done] at failed
      cases failed

theorem Expanded.separate (expanded : Expanded directory selector rule rule') :
    NonOverlapping rule'.destinationPrefixes ↔ directory.Separate rule selector := by
  constructor
  · intro apart a b selectedA selectedB
    exact apart a ((expanded.members a).mpr selectedA) b ((expanded.members b).mpr selectedB)
  · intro separate a memberA b memberB
    exact separate a b ((expanded.members a).mp memberA) ((expanded.members b).mp memberB)

/-- A directory as the provider that a build reads; `path` is where it lies. -/
def geoProvider (directory : GeoDirectory) (sha256 : Bytes → Hash) (path : String)
    (settings : GeoRefreshSettings) : GeoProvider where
  settings := some settings.toGeoProviderSettings
  lock := .ok ()
  refresh _ := .ok ()
  expand selector explicit := do
    (validateGeoProviderMetadata settings directory).mapError fun error =>
      .failed (error.message path)
    (directory.expansion sha256 selector explicit).mapError fun error =>
      .failed (error.message path)

theorem geoProvider_expandGeoRule {path : String} {settings : GeoRefreshSettings}
    {digest : Option Hash}
    (expanded : CandyCloud.expandGeoRule (directory.geoProvider sha256 path settings) rule =
      .ok (rule', digest)) :
    directory.expandGeoRule sha256 rule = (rule', .ok digest) := by
  unfold CandyCloud.expandGeoRule at expanded
  split at expanded
  · rename_i plain
    cases expanded
    rw [expandGeoRule, plain]
  · rename_i selector geo
    simp only [geoProvider, bind_ok, mapError_ok, pure_ok] at expanded
    obtain ⟨_, -, _, -, _, -, ⟨destinations, found⟩, ⟨_, -, read⟩, same⟩ := expanded
    cases same
    exact expandGeoRule_done geo read

end GeoDirectory

/-- A rule is expanded to the sorted set of its own prefixes and the countries', or is
    left as it was; its destinations can be planned exactly when none of them overlaps
    another one. A build whose provider reads the directory gets this rule. -/
theorem expand_geo_rule (sha256 : Bytes → Hash) (directory : GeoDirectory)
    (rule : ServicePolicyRuleV1) {selector : PolicyGeoSelectorV1}
    (geo : rule.destinationGeo = some selector) :
    (∀ error, (directory.expandGeoRule sha256 rule).2 = .error error →
      (directory.expandGeoRule sha256 rule).1 = rule) ∧
    (∀ outcome, (directory.expandGeoRule sha256 rule).2 = .ok outcome →
      GeoDirectory.Expanded directory selector rule (directory.expandGeoRule sha256 rule).1 ∧
      (NonOverlapping (directory.expandGeoRule sha256 rule).1.destinationPrefixes ↔
        directory.Separate rule selector) ∧
      ((∃ merged, updateEach mergeEgressDestinations []
          (directory.expandGeoRule sha256 rule).1.destinationPrefixes = .ok merged) ↔
        directory.Separate rule selector)) ∧
    (∀ path settings expanded, CandyCloud.expandGeoRule
        (directory.geoProvider sha256 path settings) rule = .ok expanded →
      directory.expandGeoRule sha256 rule = (expanded.1, .ok expanded.2)) := by
  refine ⟨?_, ?_, ?_⟩
  · intro error failed
    exact GeoDirectory.expandGeoRule_failed geo failed
  · intro outcome done
    have expanded := GeoDirectory.expandGeoRule_ok geo done
    have none : NonOverlapping [] := fun a member => absurd member List.not_mem_nil
    refine ⟨expanded, expanded.separate, ?_⟩
    rw [mergeEach_iff none, List.nil_append]
    exact expanded.separate
  · intro path settings expanded built
    exact GeoDirectory.geoProvider_expandGeoRule built

def nestedRule : ServicePolicyRuleV1 where
  id := 7
  priority := 100
  sourceSiteIds := []
  destinationPrefixes := [⟨0x01000000, 16⟩]
  destinationGeo := some ⟨"openwrt-cidr-v1", ["CN"], none, none⟩
  domains := []
  trafficClasses := []
  action := .remoteEgress 9

def nestedDirectory : GeoDirectory where
  source := none
  version := none
  country code :=
    if code = "cn" then some ⟨some "# provider\n1.0.1.0/24\n1.0.0.0/16\n", 0⟩ else none

theorem nestedRule_expanded :
    (∀ error, (nestedDirectory.expandGeoRule (fun _ => 5) nestedRule).2 = .error error →
      (nestedDirectory.expandGeoRule (fun _ => 5) nestedRule).1 = nestedRule) ∧
    (∀ outcome, (nestedDirectory.expandGeoRule (fun _ => 5) nestedRule).2 = .ok outcome →
      GeoDirectory.Expanded nestedDirectory ⟨"openwrt-cidr-v1", ["CN"], none, none⟩ nestedRule
        (nestedDirectory.expandGeoRule (fun _ => 5) nestedRule).1 ∧
      (NonOverlapping
          (nestedDirectory.expandGeoRule (fun _ => 5) nestedRule).1.destinationPrefixes ↔
        nestedDirectory.Separate nestedRule ⟨"openwrt-cidr-v1", ["CN"], none, none⟩) ∧
      ((∃ merged, updateEach mergeEgressDestinations []
          (nestedDirectory.expandGeoRule (fun _ => 5) nestedRule).1.destinationPrefixes =
            .ok merged) ↔
        nestedDirectory.Separate nestedRule ⟨"openwrt-cidr-v1", ["CN"], none, none⟩)) ∧
    (∀ path settings expanded, CandyCloud.expandGeoRule
        (nestedDirectory.geoProvider (fun _ => 5) path settings) nestedRule = .ok expanded →
      nestedDirectory.expandGeoRule (fun _ => 5) nestedRule = (expanded.1, .ok expanded.2)) :=
  expand_geo_rule (fun _ => 5) nestedDirectory nestedRule rfl

/-- Expanded, the nested blocks overlap and cannot be merged. -/
theorem nestedRule_unmerged :
    validateServicePolicyRule [] nestedRule = .ok () ∧
      (nestedDirectory.expandGeoRule (fun _ => 5) nestedRule).2.toOption = some (some 5) ∧
      (nestedDirectory.expandGeoRule (fun _ => 5) nestedRule).1.destinationPrefixes =
        [⟨0x01000000, 16⟩, ⟨0x01000100, 24⟩] ∧
      (updateEach mergeEgressDestinations [] [⟨0x01000000, 16⟩, ⟨0x01000100, 24⟩]).toOption =
        none := by
  decide +kernel

end CandyCloud
