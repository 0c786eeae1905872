import CandyCloud.Foundation.Machine
import CandyCloud.Foundation.Table
import Mathlib.Data.List.Induction
import Mathlib.Data.List.Pairwise

/-! # Tables of superseded versions

A publication retires the live version of its group and appends the new one, so the table is
also the history of what was live.
-/

namespace Foundation

/-- How a table keeps the versions of its groups. -/
structure Versioned (ρ γ κ : Type) where
  group : ρ → γ
  key : ρ → κ
  version : ρ → Nat
  live : ρ → Bool
  retire : ρ → ρ
  group_retire : ∀ row, group (retire row) = group row
  key_retire : ∀ row, key (retire row) = key row
  version_retire : ∀ row, version (retire row) = version row
  live_retire : ∀ row, live (retire row) = false

namespace Versioned

variable {ρ γ κ σ ι : Type} (v : Versioned ρ γ κ)

/-- What a version is known by while it is retired. -/
def identity (row : ρ) : γ × κ × Nat := (v.group row, v.key row, v.version row)

theorem identity_retire (row : ρ) : v.identity (v.retire row) = v.identity row := by
  simp only [identity, v.group_retire, v.key_retire, v.version_retire]

def LastLive (rows : List ρ) : Prop :=
  rows.Pairwise fun a b => v.group a = v.group b → v.live a = false

/-- The versions of every group advance in the order of the table. -/
def Ascending (rows : List ρ) : Prop :=
  rows.Pairwise fun a b => v.group a = v.group b → v.version a < v.version b

variable {new row : ρ} {start : σ}

theorem LastLive.ascends {rows : List ρ} {v : Versioned ρ γ κ} (last : v.LastLive rows)
    (ascending : v.Ascending rows) {old : ρ} (oldMember : old ∈ rows) (newMember : new ∈ rows)
    (same : v.group old = v.group new) (live : v.live new = true) (other : v.key new ≠ v.key old)
    : v.version old < v.version new := by
  induction rows with
  | nil => cases oldMember
  | cons row rest ih =>
      obtain ⟨firstLast, restLast⟩ := List.pairwise_cons.mp last
      obtain ⟨firstAscends, restAscends⟩ := List.pairwise_cons.mp ascending
      rcases List.mem_cons.mp oldMember with rfl | oldRest
      · rcases List.mem_cons.mp newMember with rfl | newRest
        · exact absurd rfl other
        · exact firstAscends new newRest same
      · rcases List.mem_cons.mp newMember with rfl | newRest
        · rw [firstLast old oldRest same.symm] at live
          cases live
        · exact ih restLast restAscends oldRest newRest

variable [DecidableEq γ]

def liveIn (group : γ) (row : ρ) : Bool := decide (v.group row = group) && v.live row

/-- Retire the live version of the row's group and append the row. -/
def publish (rows : List ρ) (row : ρ) : List ρ :=
  updateWhere (v.liveIn (v.group row)) v.retire rows ++ [row]

theorem map_identity_publish (rows : List ρ) (row : ρ) :
    (v.publish rows row).map v.identity = rows.map v.identity ++ [v.identity row] := by
  rw [publish, List.map_append, map_updateWhere v.identity_retire, List.map_singleton]

theorem mem_publish {rows : List ρ} (member : new ∈ v.publish rows row) :
    new = row ∨ ∃ old ∈ rows, v.identity new = v.identity old ∧ (v.live new = true → new = old) := by
  rcases mem_concat.mp member with updated | new
  · obtain ⟨old, present, rfl⟩ := mem_updateWhere.mp updated
    refine .inr ⟨old, present, ?_⟩
    split
    · exact ⟨v.identity_retire old, fun live => by rw [v.live_retire] at live; cases live⟩
    · exact ⟨rfl, fun _ => rfl⟩
  · exact .inl new

variable {v} {rows : List ρ}

theorem liveIn_iff {group : γ} :
    v.liveIn group row = true ↔ v.group row = group ∧ v.live row = true := by
  rw [liveIn, Bool.and_eq_true, decide_eq_true_eq]

theorem LastLive.publish (last : v.LastLive rows) (row : ρ) :
    v.LastLive (v.publish rows row) := by
  have kept : ∀ old, v.group (if v.liveIn (v.group row) old then v.retire old else old) =
      v.group old := by
    intro old
    split
    · exact v.group_retire old
    · rfl
  rw [LastLive, Versioned.publish, List.pairwise_append]
  refine ⟨?_, List.pairwise_singleton _ _, ?_⟩
  · rw [updateWhere, List.pairwise_map]
    refine last.imp fun {a b} earlier same => ?_
    rw [kept, kept] at same
    split
    · exact v.live_retire a
    · exact earlier same
  · intro a member b single same
    obtain ⟨old, present, rfl⟩ := mem_updateWhere.mp member
    rw [List.mem_singleton.mp single, kept] at same
    split
    · exact v.live_retire old
    · rename_i other
      rw [liveIn_iff, not_and, Bool.not_eq_true] at other
      exact other same

theorem LastLive.single (last : v.LastLive rows) (group : γ) :
    (rows.filter (v.liveIn group)).length ≤ 1 := by
  have ordered := last.filter (v.liveIn group)
  have mem : ∀ row ∈ rows.filter (v.liveIn group), v.group row = group ∧ v.live row = true :=
    fun row member => liveIn_iff.mp (List.mem_filter.mp member).2
  generalize rows.filter (v.liveIn group) = selected at ordered mem ⊢
  match selected with
  | [] => exact Nat.zero_le 1
  | [_] => exact Nat.le_refl 1
  | a :: b :: rest =>
      have first := mem a (.head _)
      have second := mem b (.tail _ (.head _))
      have retired := List.rel_of_pairwise_cons ordered (.head _) (first.1.trans second.1.symm)
      rw [first.2] at retired
      cases retired

theorem Ascending.publish (ascending : v.Ascending rows)
    (surpasses : ∀ old ∈ rows, v.group old = v.group row → v.version old < v.version row) :
    v.Ascending (v.publish rows row) := by
  have kept : ∀ old, v.group (if v.liveIn (v.group row) old then v.retire old else old) =
      v.group old ∧ v.version (if v.liveIn (v.group row) old then v.retire old else old) =
      v.version old := by
    intro old
    split
    · exact ⟨v.group_retire old, v.version_retire old⟩
    · exact ⟨rfl, rfl⟩
  rw [Ascending, Versioned.publish, List.pairwise_append]
  refine ⟨?_, List.pairwise_singleton _ _, ?_⟩
  · rw [updateWhere, List.pairwise_map]
    refine ascending.imp fun {a b} earlier same => ?_
    rw [(kept a).1, (kept b).1] at same
    rw [(kept a).2, (kept b).2]
    exact earlier same
  · intro a member b single same
    obtain ⟨old, present, rfl⟩ := mem_updateWhere.mp member
    rw [List.mem_singleton.mp single, (kept old).1] at same
    rw [List.mem_singleton.mp single, (kept old).2]
    exact surpasses old present same

variable (v) (step : σ → ι → σ) (rows : σ → List ρ) (accepted : σ → ι → Option ρ)

/-- Every call leaves the table as it is or publishes the row it is accepted
    with, a live one under a new key. -/
structure Publishes : Prop where
  effect : ∀ s call, rows (step s call) =
    match accepted s call with
    | none => rows s
    | some row => v.publish (rows s) row
  live : ∀ s call row, accepted s call = some row → v.live row = true
  fresh : ∀ s call row, accepted s call = some row → ∀ old ∈ rows s, v.key old ≠ v.key row

/-- At any time a group has at most one live version, later than every other
    version that was live before. -/
def Advances (start : σ) (calls : List ι) : Prop :=
  ∀ before after rest, calls = before ++ after ++ rest → ∀ group,
    ((rows (run step start (before ++ after))).filter (v.liveIn group)).length ≤ 1 ∧
    ∀ old ∈ rows (run step start before), v.liveIn group old = true →
      ∀ new ∈ rows (run step start (before ++ after)), v.liveIn group new = true →
        v.key new ≠ v.key old → v.version old < v.version new

/-- What the call publishes is later than every stored version of its group. -/
def Surpasses (s : σ) (call : ι) : Prop :=
  ∀ row, accepted s call = some row → ∀ old ∈ rows s, v.group old = v.group row →
    v.version old < v.version row

variable {v step rows accepted}

theorem Publishes.step_cases (publishes : v.Publishes step rows accepted) (s : σ) (call : ι) :
    rows (step s call) = rows s ∨
      ∃ row, accepted s call = some row ∧ rows (step s call) = v.publish (rows s) row := by
  have effect := publishes.effect s call
  cases found : accepted s call with
  | none =>
      rw [found] at effect
      exact .inl effect
  | some row =>
      rw [found] at effect
      exact .inr ⟨row, rfl, effect⟩

theorem Publishes.grows (publishes : v.Publishes step rows accepted) (s : σ) (calls : List ι) :
    (rows s).map v.identity <+: (rows (run step s calls)).map v.identity := by
  induction calls generalizing s with
  | nil => exact List.prefix_rfl
  | cons call rest ih =>
      refine List.IsPrefix.trans ?_ (ih (step s call))
      rcases publishes.step_cases s call with same | ⟨row, -, published⟩
      · simp only [same, List.prefix_rfl]
      · rw [published, map_identity_publish]
        exact List.prefix_append _ _

theorem Publishes.was_live (publishes : v.Publishes step rows accepted) (empty : rows start = [])
    (calls : List ι) (stored : row ∈ rows (run step start calls)) :
    ∃ before after, calls = before ++ after ∧
      ∃ old ∈ rows (run step start before), v.identity old = v.identity row ∧
        v.live old = true := by
  induction calls using List.reverseRecOn generalizing row with
  | nil =>
      rw [run_nil, empty] at stored
      cases stored
  | append_singleton calls call ih =>
      have earlier : ∀ old ∈ rows (run step start calls), v.identity row = v.identity old →
          ∃ before after, calls ++ [call] = before ++ after ∧
            ∃ old ∈ rows (run step start before), v.identity old = v.identity row ∧
              v.live old = true := by
        intro old present same
        obtain ⟨before, after, split, older, member, identity, live⟩ := ih present
        refine ⟨before, after ++ [call], ?_, older, member, identity.trans same.symm, live⟩
        rw [split, List.append_assoc]
      have here := stored
      rw [run_concat] at here
      rcases publishes.step_cases (run step start calls) call with same | ⟨new, accepts, published⟩
      · rw [same] at here
        exact earlier row here rfl
      · rw [published] at here
        rcases v.mem_publish here with rfl | ⟨old, present, same, -⟩
        · refine ⟨calls ++ [call], [], (List.append_nil _).symm, row, stored, rfl, ?_⟩
          exact publishes.live _ _ _ accepts
        · exact earlier old present same

/-- The versions of a run advance exactly when every publication surpasses the
    versions stored before it. -/
theorem Publishes.advances_iff (publishes : v.Publishes step rows accepted)
    (empty : rows start = []) (calls : List ι) :
    v.Advances step rows start calls ↔ Along step (v.Surpasses rows accepted) start calls := by
  have lastLive : ∀ calls, v.LastLive (rows (run step start calls)) := by
    intro calls
    refine run_invariant (P := fun s => v.LastLive (rows s)) ?_ ?_ calls
    · intro s call last
      rcases publishes.step_cases s call with same | ⟨row, -, published⟩
      · rwa [same]
      · rw [published]
        exact last.publish row
    · rw [empty]
      exact List.Pairwise.nil
  constructor
  · intro advances
    rw [along_iff_split]
    intro before call after split row accepts old stored same
    obtain ⟨first, second, rfl, older, member, identity, live⟩ :=
      publishes.was_live empty before stored
    obtain ⟨olderGroup, olderKey⟩ := Prod.mk.inj identity
    obtain ⟨olderKey, olderVersion⟩ := Prod.mk.inj olderKey
    have published : row ∈ rows (run step start (first ++ (second ++ [call]))) := by
      rw [← List.append_assoc, run_concat, publishes.effect, accepts]
      exact List.mem_append_right _ (List.mem_singleton_self row)
    rw [← olderVersion]
    refine (advances first (second ++ [call]) after ?_ (v.group row)).2 older member ?_ row
      published ?_ ?_
    · rw [split]
      simp only [List.append_assoc, List.singleton_append]
    · rw [liveIn_iff]
      exact ⟨olderGroup.trans same, live⟩
    · rw [liveIn_iff]
      exact ⟨rfl, publishes.live _ _ _ accepts⟩
    · rw [olderKey]
      exact (publishes.fresh _ _ _ accepts old stored).symm
  · intro along before after rest split group
    have ascending : v.Ascending (rows (run step start (before ++ after))) := by
      rw [split, along_append] at along
      refine run_invariant_along (P := fun s => v.Ascending (rows s)) ?_ ?_ _ along.1
      · intro s call ascends surpasses
        rcases publishes.step_cases s call with same | ⟨row, accepts, published⟩
        · rwa [same]
        · rw [published]
          exact ascends.publish (surpasses row accepts)
      · rw [empty]
        exact List.Pairwise.nil
    refine ⟨(lastLive _).single group, ?_⟩
    intro old oldMember oldLive new newMember newLive other
    have grown : v.identity old ∈ (rows (run step start (before ++ after))).map v.identity := by
      rw [run_append]
      exact (publishes.grows _ after).subset (List.mem_map_of_mem oldMember)
    obtain ⟨kept, keptMember, identity⟩ := List.mem_map.mp grown
    obtain ⟨keptGroup, keptRest⟩ := Prod.mk.inj identity
    obtain ⟨keptKey, keptVersion⟩ := Prod.mk.inj keptRest
    rw [liveIn_iff] at oldLive newLive
    rw [← keptVersion]
    refine (lastLive _).ascends ascending keptMember newMember ?_ newLive.2 ?_
    · rw [keptGroup, oldLive.1, newLive.1]
    · rwa [keptKey]

end Versioned

end Foundation
