import Mathlib.Order.Bounds.Basic
import CandyCloud.Worker.Input

/-! # Signed rate limits

From the quota text of an entitlement to the rate that a projection signs. A zero
rate in a quota is no limit; a zero limit is an error.
-/

namespace CandyCloud

open Foundation

variable {rate bytes : Nat} {limits : List Nat}

namespace PersistedTunnelBandwidthQuota

variable (quota : PersistedTunnelBandwidthQuota)

def metered : Set Nat := {rate | (rate = quota.uploadRate ∨ rate = quota.downloadRate) ∧ rate ≠ 0}

/-- What a quota grants in bytes per second: the unmetered cap when no rate limits,
    and the smallest limiting rate otherwise. -/
def Grants (bytes : Nat) : Prop :=
  quota.uploadRate = 0 ∧ quota.downloadRate = 0 ∧
      bytes = unmeteredPrivateTunnelMaxBytesPerSecond ∨
    ∃ rate, IsLeast quota.metered rate ∧ bytes = rate / 8

variable {quota}

theorem min_metered :
    ([quota.uploadRate, quota.downloadRate].filter (· != 0)).min? = some rate ↔
      IsLeast quota.metered rate := by
  rw [List.min?_eq_some_iff]
  simp [IsLeast, mem_lowerBounds, metered]

theorem unmetered_iff :
    ([quota.uploadRate, quota.downloadRate].filter (· != 0)).min? = none ↔
      quota.uploadRate = 0 ∧ quota.downloadRate = 0 := by
  simp [List.min?_eq_none_iff]

theorem Grants.unique {other : Nat} (one : quota.Grants bytes) (two : quota.Grants other) :
    bytes = other := by
  have empty : ∀ rate, quota.uploadRate = 0 → quota.downloadRate = 0 →
      ¬ IsLeast quota.metered rate := by
    rintro rate upload download ⟨⟨is, nonzero⟩, -⟩
    omega
  cases one with
  | inl free =>
      cases two with
      | inl free' => rw [free.2.2, free'.2.2]
      | inr limited =>
          obtain ⟨rate, least, -⟩ := limited
          exact absurd least (empty rate free.1 free.2.1)
  | inr limited =>
      obtain ⟨rate, least, same⟩ := limited
      cases two with
      | inl free => exact absurd least (empty rate free.1 free.2.1)
      | inr limited' =>
          obtain ⟨rate', least', same'⟩ := limited'
          rw [same, same', least.unique least']

theorem Grants.le (granted : quota.Grants bytes) (metered : rate ∈ quota.metered) :
    bytes ≤ rate / 8 := by
  cases granted with
  | inl free =>
      obtain ⟨upload, download, -⟩ := free
      obtain ⟨is, nonzero⟩ := metered
      omega
  | inr limited =>
      obtain ⟨smallest, least, rfl⟩ := limited
      exact Nat.div_le_div_right (least.2 metered)

end PersistedTunnelBandwidthQuota

section Quota

variable {fromStr : String → Option PersistedTunnelBandwidthQuota} {text : String}

theorem entitlementRateLimitOf_ok :
    entitlementRateLimitOf fromStr text = .ok bytes ↔
      0 < bytes ∧ ∃ quota, fromStr text = some quota ∧ quota.Grants bytes := by
  simp only [entitlementRateLimitOf, PersistedTunnelBandwidthQuota.rateLimit, orElse_bind_ok,
    unit_bind_ok, reject_ok, pure_ok, beq_eq_false_iff_ne, bitsPerByte]
  constructor
  · rintro ⟨quota, read, nonzero, rfl⟩
    refine ⟨by omega, quota, read, ?_⟩
    cases smallest : ([quota.uploadRate, quota.downloadRate].filter (· != 0)).min? with
    | none =>
        have free := PersistedTunnelBandwidthQuota.unmetered_iff.mp smallest
        exact .inl ⟨free.1, free.2, rfl⟩
    | some rate => exact .inr ⟨rate, PersistedTunnelBandwidthQuota.min_metered.mp smallest, rfl⟩
  · rintro ⟨positive, quota, read, granted⟩
    have computed : ((([quota.uploadRate, quota.downloadRate].filter (· != 0)).min?.map
        (· / 8)).getD unmeteredPrivateTunnelMaxBytesPerSecond) = bytes := by
      cases granted with
      | inl free =>
          rw [PersistedTunnelBandwidthQuota.unmetered_iff.mpr ⟨free.1, free.2.1⟩, free.2.2]
          rfl
      | inr limited =>
          obtain ⟨rate, least, rfl⟩ := limited
          rw [PersistedTunnelBandwidthQuota.min_metered.mpr least]
          rfl
    exact ⟨quota, read, by omega, computed⟩

theorem entitlementRateLimitOf_fails :
    (∃ error, entitlementRateLimitOf fromStr text = .error error) ↔
      fromStr text = none ∨
      ∃ quota, fromStr text = some quota ∧ ∃ rate, IsLeast quota.metered rate ∧ rate < 8 := by
  have failed : (∃ error, entitlementRateLimitOf fromStr text = .error error) ↔
      ¬ ∃ bytes, entitlementRateLimitOf fromStr text = .ok bytes := by
    cases entitlementRateLimitOf fromStr text <;> simp
  simp only [failed, entitlementRateLimitOf_ok]
  cases read : fromStr text with
  | none => simp
  | some quota =>
      simp only [Option.some.injEq, exists_eq_left', reduceCtorEq, false_or]
      constructor
      · intro none
        cases smallest : ([quota.uploadRate, quota.downloadRate].filter (· != 0)).min? with
        | none =>
            have free := PersistedTunnelBandwidthQuota.unmetered_iff.mp smallest
            exact absurd ⟨_, by decide, .inl ⟨free.1, free.2, rfl⟩⟩ none
        | some rate =>
            have least := PersistedTunnelBandwidthQuota.min_metered.mp smallest
            refine ⟨rate, least, ?_⟩
            by_contra large
            exact none ⟨rate / 8, by omega, .inr ⟨rate, least, rfl⟩⟩
      · rintro ⟨rate, least, small⟩ ⟨bytes, positive, granted⟩
        have same := granted.unique (.inr ⟨rate, least, rfl⟩)
        omega

end Quota

theorem effectiveProjectionRateLimit_ok :
    effectiveProjectionRateLimit limits = .ok rate ↔
      0 ∉ limits ∧ IsLeast {limit | limit ∈ limits} rate := by
  simp only [effectiveProjectionRateLimit, unit_bind_ok, reject_ok, orElse_ok, List.any_eq_false,
    beq_iff_eq, List.min?_eq_some_iff]
  constructor
  · rintro ⟨nonzero, least⟩
    exact ⟨fun zero => nonzero 0 zero rfl, least⟩
  · rintro ⟨nonzero, least⟩
    exact ⟨fun limit member zero => nonzero (zero ▸ member), least⟩

theorem effectiveProjectionRateLimit_perm {others : List Nat} (order : limits.Perm others)
    (done : effectiveProjectionRateLimit limits = .ok rate) :
    effectiveProjectionRateLimit others = .ok rate := by
  rw [effectiveProjectionRateLimit_ok] at done ⊢
  simpa only [order.mem_iff] using done

theorem effectiveProjectionRateLimit_succeeds (some : limits ≠ []) (nonzero : 0 ∉ limits)
    : ∃ rate, effectiveProjectionRateLimit limits = .ok rate := by
  obtain ⟨rate, smallest⟩ := Option.isSome_iff_exists.mp (List.isSome_min?_iff.mpr some)
  rw [List.min?_eq_some_iff] at smallest
  exact ⟨rate, effectiveProjectionRateLimit_ok.mpr ⟨nonzero, smallest⟩⟩

theorem buildProjection_rate {env : BuildEnvironment} {store : RouteStore} {frame : PublicationFrame}
    {metadata : ResourceMetadataV1} {attachment : AttachmentV1} {projection : DeviceProjectionInput}
    {outbound : List QuotaBoundPeerPathCandidate}
    (built : buildProjection env store frame metadata attachment = .ok projection)
    (leaving : frame.outbound metadata.id = .ok outbound) :
    effectiveProjectionRateLimit (outbound.map (·.entitlementRateLimit)) =
      .ok projection.resources.maxBytesPerSecond := by
  simp only [buildProjection, bind_ok, leaving, Except.ok.injEq, pure_ok] at built
  obtain ⟨node, -, _, rfl, first, -, rate, limited, _, -, _, -, _, -, rfl⟩ := built
  exact limited

/-- A quota text is refused exactly when it is no quota or its smallest limiting rate is
    below one byte. The quotas of the paths that leave a projection, none of them
    refused, make it sign the smallest rate they grant, in whatever order they stand. -/
theorem signed_rate_limits (fromStr : String → Option PersistedTunnelBandwidthQuota) :
    (∀ text, (∃ error, entitlementRateLimitOf fromStr text = .error error) ↔
      fromStr text = none ∨
      ∃ quota, fromStr text = some quota ∧ ∃ rate, IsLeast quota.metered rate ∧ rate < 8) ∧
    ∀ quotas limits, quotas ≠ [] → quotas.mapM (entitlementRateLimitOf fromStr) = .ok limits →
      ∃ maxBytesPerSecond, effectiveProjectionRateLimit limits = .ok maxBytesPerSecond ∧
        0 < maxBytesPerSecond ∧
        IsLeast {bytes | ∃ text ∈ quotas, ∃ quota, fromStr text = some quota ∧ quota.Grants bytes}
          maxBytesPerSecond ∧
        (∀ text ∈ quotas, ∀ quota, fromStr text = some quota → ∀ rate ∈ quota.metered,
          maxBytesPerSecond ≤ rate / 8) ∧
        (∀ others, quotas.Perm others → ∃ limits',
          others.mapM (entitlementRateLimitOf fromStr) = .ok limits' ∧
          effectiveProjectionRateLimit limits' = .ok maxBytesPerSecond) ∧
        ∀ env store frame metadata attachment projection outbound,
          frame.outbound metadata.id = .ok outbound →
          outbound.map (·.entitlementRateLimit) = limits →
          buildProjection env store frame metadata attachment = .ok projection →
          projection.resources.maxBytesPerSecond = maxBytesPerSecond := by
  refine ⟨fun text => entitlementRateLimitOf_fails, ?_⟩
  intro quotas limits present read
  have each : ∀ limit, limit ∈ limits ↔ ∃ text ∈ quotas, ∃ quota, fromStr text = some quota ∧
      quota.Grants limit := by
    intro limit
    constructor
    · intro member
      obtain ⟨text, listed, granted⟩ := mem_mapM read member
      exact ⟨text, listed, (entitlementRateLimitOf_ok.mp granted).2⟩
    · rintro ⟨text, listed, quota, parsed, granted⟩
      obtain ⟨bytes, member, done⟩ := mapM_mem read listed
      obtain ⟨-, quota', parsed', granted'⟩ := entitlementRateLimitOf_ok.mp done
      cases parsed.symm.trans parsed'
      exact granted.unique granted' ▸ member
  have positive : ∀ limit ∈ limits, 0 < limit := by
    intro limit member
    obtain ⟨text, -, granted⟩ := mem_mapM read member
    exact (entitlementRateLimitOf_ok.mp granted).1
  have some : limits ≠ [] := by
    obtain ⟨text, listed⟩ := List.exists_mem_of_ne_nil quotas present
    obtain ⟨bytes, member, -⟩ := mapM_mem read listed
    exact List.ne_nil_of_mem member
  obtain ⟨rate, effective⟩ := effectiveProjectionRateLimit_succeeds some
    fun zero => absurd (positive 0 zero) (lt_irrefl 0)
  have least := (effectiveProjectionRateLimit_ok.mp effective).2
  refine ⟨rate, effective, positive rate least.1, ?_, ?_, ?_, ?_⟩
  · simpa only [each] using least
  · intro text listed quota parsed metered limiting
    obtain ⟨bytes, member, done⟩ := mapM_mem read listed
    obtain ⟨-, quota', parsed', granted⟩ := entitlementRateLimitOf_ok.mp done
    cases parsed.symm.trans parsed'
    exact (least.2 member).trans (granted.le limiting)
  · intro others order
    obtain ⟨limits', done, same⟩ := mapM_perm order read
    exact ⟨limits', done, effectiveProjectionRateLimit_perm same effective⟩
  · intro env store frame metadata attachment projection outbound leaving bound built
    have signed := buildProjection_rate built leaving
    rw [bound, effective] at signed
    exact (Except.ok.inj signed).symm

def sampleQuotas (text : String) : Option PersistedTunnelBandwidthQuota :=
  [("\x7b\"upload_rate_bps\":10000000,\"download_rate_bps\":20000000\x7d", ⟨10000000, 20000000⟩),
    ("\x7b\"upload_rate_bps\":0,\"download_rate_bps\":8000000\x7d", ⟨0, 8000000⟩),
    ("\x7b\"upload_rate_bps\":0,\"download_rate_bps\":0\x7d", ⟨0, 0⟩)].lookup text

def quotaTexts : List String :=
  ["\x7b\"upload_rate_bps\":0,\"download_rate_bps\":0\x7d",
    "\x7b\"upload_rate_bps\":0,\"download_rate_bps\":8000000\x7d",
    "\x7b\"upload_rate_bps\":10000000,\"download_rate_bps\":20000000\x7d"]

theorem quotaTexts_signed :
    (∃ error, entitlementRateLimitOf sampleQuotas "not-json" = .error error) ∧
    ∃ maxBytesPerSecond, effectiveProjectionRateLimit [1250000000, 1000000, 1250000] =
      .ok maxBytesPerSecond ∧ 0 < maxBytesPerSecond := by
  have signed := signed_rate_limits sampleQuotas
  refine ⟨(signed.1 "not-json").mpr (.inl (by decide)), ?_⟩
  obtain ⟨rate, effective, positive, -⟩ := signed.2 quotaTexts [1250000000, 1000000, 1250000]
    (by decide) (by decide +kernel)
  exact ⟨rate, effective, positive⟩

end CandyCloud
