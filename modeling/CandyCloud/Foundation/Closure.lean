import Mathlib.Data.List.Dedup
import Mathlib.Logic.Relation

/-! # Recursive queries

A recursive common table expression with `UNION DISTINCT` collects what an edge table reaches
from its first rows.
-/

namespace Foundation

variable {α : Type*} [DecidableEq α]

/-- One round: the targets of edges that leave what is already collected. -/
def expand (edges : List (α × α)) (seen : List α) : List α :=
  seen ++ ((edges.filter fun edge => decide (edge.1 ∈ seen ∧ edge.2 ∉ seen)).map Prod.snd).dedup

def rounds (edges : List (α × α)) : Nat → List α → List α
  | 0, seen => seen
  | n + 1, seen => rounds edges n (expand edges seen)

/-- What the edges reach from the first rows. -/
def reachable (edges : List (α × α)) (first : List α) : List α :=
  rounds edges edges.length first

/-- The edges whose target is still missing. -/
def missing (edges : List (α × α)) (seen : List α) : List (α × α) :=
  edges.filter fun edge => decide (edge.2 ∉ seen)

variable {a s t : α} {first : List α}

section Reachability

variable {edges : List (α × α)} {seen : List α}

theorem mem_expand :
    a ∈ expand edges seen ↔ a ∈ seen ∨ ∃ s ∈ seen, (s, a) ∈ edges := by
  simp only [expand, List.mem_append, List.mem_dedup, List.mem_map, List.mem_filter,
    decide_eq_true_eq]
  constructor
  · rintro (old | ⟨⟨s, t⟩, ⟨edge, source, -⟩, rfl⟩)
    · exact .inl old
    · exact .inr ⟨s, source, edge⟩
  · rintro (old | ⟨s, source, edge⟩)
    · exact .inl old
    · by_cases known : a ∈ seen
      · exact .inl known
      · exact .inr ⟨(s, a), ⟨edge, source, known⟩, rfl⟩

theorem subset_rounds (n : Nat) (seen : List α) : seen ⊆ rounds edges n seen := by
  induction n generalizing seen with
  | zero => exact List.Subset.refl seen
  | succ n ih =>
      intro a member
      exact ih (expand edges seen) (mem_expand.mpr (.inl member))

theorem missing_expand (source : s ∈ seen) (edge : (s, t) ∈ edges) (absent : t ∉ seen) :
    (missing edges (expand edges seen)).length < (missing edges seen).length := by
  have shape : missing edges (expand edges seen) =
      (missing edges seen).filter fun edge => decide (edge.2 ∉ expand edges seen) := by
    simp only [missing, List.filter_filter]
    apply List.filter_congr
    intro edge _
    simp only [mem_expand]
    grind
  rw [shape]
  apply List.length_filter_lt_length_iff_exists.mpr
  refine ⟨(s, t), ?_, ?_⟩
  · simp only [missing, List.mem_filter, decide_eq_true_eq]
    exact ⟨edge, absent⟩
  · simp only [decide_eq_true_eq, not_not, mem_expand]
    exact .inr ⟨s, source, edge⟩

theorem rounds_of_closed (closed : ∀ s ∈ seen, ∀ t, (s, t) ∈ edges → t ∈ seen) (n : Nat) :
    a ∈ rounds edges n seen ↔ a ∈ seen := by
  induction n generalizing seen with
  | zero => rfl
  | succ n ih =>
      have same : ∀ b, b ∈ expand edges seen ↔ b ∈ seen := by
        intro b
        rw [mem_expand]
        constructor
        · rintro (old | ⟨s, source, edge⟩)
          · exact old
          · exact closed s source b edge
        · exact Or.inl
      rw [rounds, ih, same]
      intro s source t edge
      rw [same] at source ⊢
      exact closed s source t edge

theorem rounds_closed {n : Nat} (enough : (missing edges seen).length ≤ n)
    (source : s ∈ rounds edges n seen) (edge : (s, t) ∈ edges) : t ∈ rounds edges n seen := by
  induction n generalizing seen with
  | zero =>
      by_contra absent
      have listed : (s, t) ∈ missing edges seen := by
        simp only [missing, List.mem_filter, decide_eq_true_eq]
        exact ⟨edge, absent⟩
      exact absurd (List.length_pos_of_mem listed) (by omega)
  | succ n ih =>
      by_cases closed : ∀ s ∈ seen, ∀ t, (s, t) ∈ edges → t ∈ seen
      · rw [rounds_of_closed closed] at source ⊢
        exact closed s source t edge
      · push Not at closed
        obtain ⟨s', source', t', edge', absent⟩ := closed
        have fewer := missing_expand source' edge' absent
        exact ih (by omega) source

theorem mem_reachable :
    a ∈ reachable edges first ↔
      ∃ s ∈ first, Relation.ReflTransGen (fun x y => (x, y) ∈ edges) s a := by
  constructor
  · have sound : ∀ n (seen : List α), a ∈ rounds edges n seen →
        ∃ s ∈ seen, Relation.ReflTransGen (fun x y => (x, y) ∈ edges) s a := by
      intro n
      induction n with
      | zero =>
          intro seen member
          exact ⟨a, member, .refl⟩
      | succ n ih =>
          intro seen member
          obtain ⟨s, source, path⟩ := ih (expand edges seen) member
          rcases mem_expand.mp source with old | ⟨r, root, edge⟩
          · exact ⟨s, old, path⟩
          · exact ⟨r, root, .head edge path⟩
    exact sound edges.length first
  · rintro ⟨s, source, path⟩
    have enough : (missing edges first).length ≤ edges.length := List.length_filter_le _ _
    induction path with
    | refl => exact subset_rounds edges.length first source
    | tail _ edge ih => exact rounds_closed enough ih edge

theorem mem_reachable_congr {edges' : List (α × α)} (into : edges ⊆ edges') (back : edges' ⊆ edges)
    : a ∈ reachable edges first ↔ a ∈ reachable edges' first := by
  simp only [mem_reachable]
  constructor
  · rintro ⟨s, source, path⟩
    exact ⟨s, source, Relation.ReflTransGen.mono (fun _ _ edge => into edge) _ _ path⟩
  · rintro ⟨s, source, path⟩
    exact ⟨s, source, Relation.ReflTransGen.mono (fun _ _ edge => back edge) _ _ path⟩

end Reachability

end Foundation
