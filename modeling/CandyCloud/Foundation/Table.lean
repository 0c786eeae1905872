import Mathlib.Data.List.Basic
import Mathlib.Data.List.Nodup
import Mathlib.Data.List.Sort

/-! # Relational tables as lists of rows

Rows stand in insertion order.
-/

namespace Foundation

variable {α κ : Type*}

/-- `INSERT`: refused when `conflict` finds the new row's key in the table. -/
def insertRow (conflict : α → α → Bool) (rows : List α) (row : α) : Option (List α) :=
  if rows.any (conflict row) then none else some (rows ++ [row])

/-- `UPDATE … SET … WHERE …`. -/
def updateWhere (selected : α → Bool) (set : α → α) (rows : List α) : List α :=
  rows.map fun row => if selected row then set row else row

/-- `INSERT … ON DUPLICATE KEY UPDATE …`. -/
def upsert (same : α → Bool) (fresh : α) (set : α → α) (rows : List α) : List α :=
  if rows.any same then updateWhere same set rows else rows ++ [fresh]

/-- `INSERT … ON DUPLICATE KEY UPDATE …` on a table with several unique keys:
    the row found through the first violated key is rewritten, and the statement
    fails when the rewritten row violates a key in turn. -/
def insertOrUpdate [DecidableEq α] (keys : List (α → α → Bool)) (fresh : α) (set : α → α)
    (rows : List α) : Option (List α) :=
  match keys.findSome? fun clash => rows.find? (clash fresh) with
  | none => some (rows ++ [fresh])
  | some old =>
      if rows.any fun other => other != old && keys.any fun clash => clash (set old) other then none
      else some (updateWhere (fun row => row == old) (fun _ => set old) rows)

variable {rows rows' : List α} {row fresh : α} {selected wanted same test : α → Bool} {set : α → α}
  {key : α → κ} {keys : List (α → α → Bool)} {β : Type} {join : α → List β}

theorem insertRow_some {conflict : α → α → Bool} :
    insertRow conflict rows row = some rows' ↔
      (∀ old ∈ rows, conflict row old = false) ∧ rows' = rows ++ [row] := by
  unfold insertRow
  split
  · rename_i clash
    obtain ⟨old, member, same⟩ := List.any_eq_true.mp clash
    simp only [reduceCtorEq, false_iff, not_and]
    intro free
    exact absurd (free old member) (by simp [same])
  · rename_i free
    have free : ∀ old ∈ rows, conflict row old = false := by
      intro old member
      by_contra same
      exact free (List.any_eq_true.mpr ⟨old, member, by simpa using same⟩)
    rw [Option.some.injEq]
    exact ⟨fun same => ⟨free, same.symm⟩, fun both => both.2.symm⟩

theorem mem_concat : row ∈ rows ++ [fresh] ↔ row ∈ rows ∨ row = fresh := by
  rw [List.mem_append, List.mem_singleton]

theorem mem_updateWhere :
    row ∈ updateWhere selected set rows ↔
      ∃ old ∈ rows, (if selected old then set old else old) = row :=
  List.mem_map

/-- An update that changes no column of a unique key does not matter to what is inserted
    behind it. -/
theorem insertRow_updateWhere {conflict : α → α → Bool}
    (kept : ∀ old, conflict row (set old) = conflict row old) :
    insertRow conflict (updateWhere selected set rows) row = some rows' ↔
      (∀ old ∈ rows, conflict row old = false) ∧
        rows' = updateWhere selected set rows ++ [row] := by
  have same : ∀ old, conflict row (if selected old then set old else old) = conflict row old := by
    intro old
    split
    · exact kept old
    · rfl
  rw [insertRow_some]
  refine and_congr_left fun _ => ?_
  constructor
  · intro free old member
    rw [← same old]
    exact free _ (mem_updateWhere.mpr ⟨old, member, rfl⟩)
  · intro free new member
    obtain ⟨old, present, rfl⟩ := mem_updateWhere.mp member
    rw [same old]
    exact free old present

theorem map_updateWhere (kept : ∀ row, key (set row) = key row) (rows : List α) :
    (updateWhere selected set rows).map key = rows.map key := by
  simp only [updateWhere, List.map_map]
  apply List.map_congr_left
  intro row _
  simp only [Function.comp_apply]
  split
  · exact kept row
  · rfl

theorem updateWhere_none (unselected : ∀ row ∈ rows, selected row = false)
    : updateWhere selected set rows = rows := by
  conv_rhs => rw [← List.map_id rows]
  apply List.map_congr_left
  intro row member
  simp [unselected row member]

theorem find_updateWhere (kept : ∀ row, selected row = true → wanted (set row) = wanted row)
    (rows : List α) :
    (updateWhere selected set rows).find? wanted =
      (rows.find? wanted).map fun row => if selected row then set row else row := by
  induction rows with
  | nil => rfl
  | cons row rest ih =>
      have here : wanted (if selected row then set row else row) = wanted row := by
        split
        · exact kept row ‹_›
        · rfl
      simp only [updateWhere, List.map_cons, List.find?_cons, here]
      cases wanted row with
      | true => rfl
      | false => exact ih

theorem filter_updateWhere (kept : ∀ row, wanted (set row) = wanted row) (rows : List α) :
    (updateWhere selected set rows).filter wanted =
      updateWhere selected set (rows.filter wanted) := by
  induction rows with
  | nil => rfl
  | cons row rest ih =>
      have here : wanted (if selected row then set row else row) = wanted row := by
        split
        · exact kept row
        · rfl
      simp only [updateWhere, List.map_cons, List.filter_cons, here] at ih ⊢
      cases wanted row with
      | true => simpa using ih
      | false => simpa using ih

/-- An update within the unwanted rows leaves a selection as it was. -/
theorem filter_updateWhere_unwanted (before : ∀ row, selected row = true → wanted row = false)
    (after : ∀ row, selected row = true → wanted (set row) = false) (rows : List α) :
    (updateWhere selected set rows).filter wanted = rows.filter wanted := by
  induction rows with
  | nil => rfl
  | cons row rest ih =>
      simp only [updateWhere, List.map_cons] at ih ⊢
      by_cases chosen : selected row = true
      · have old : ¬ wanted row = true := by simp [before row chosen]
        have new : ¬ wanted (set row) = true := by simp [after row chosen]
        rw [if_pos chosen, List.filter_cons_of_neg new, List.filter_cons_of_neg old, ih]
      · rw [if_neg chosen, List.filter_cons, List.filter_cons, ih]

/-- An update after which its rows are no longer wanted removes them from a
    selection. -/
theorem filter_updateWhere_removed (after : ∀ row, selected row = true → wanted (set row) = false)
    (rows : List α) :
    (updateWhere selected set rows).filter wanted =
      rows.filter fun row => wanted row && !selected row := by
  induction rows with
  | nil => rfl
  | cons row rest ih =>
      simp only [updateWhere, List.map_cons, List.filter_cons] at ih ⊢
      cases chosen : selected row with
      | true => simp [after row chosen, ih]
      | false => simp [ih]

/-- An update confined to other keys leaves the rows of a key in place. -/
theorem mem_updateWhere_other (key : α → κ) {wanted : κ} (kept : ∀ row, key (set row) = key row)
    (elsewhere : ∀ row, selected row = true → key row ≠ wanted) (named : key row = wanted)
    : row ∈ rows ↔ row ∈ updateWhere selected set rows := by
  rw [mem_updateWhere]
  constructor
  · intro member
    have unselected : ¬ selected row = true := fun chosen => elsewhere row chosen named
    exact ⟨row, member, if_neg unselected⟩
  · rintro ⟨old, member, rfl⟩
    by_cases chosen : selected old = true
    · rw [if_pos chosen, kept] at named
      exact absurd named (elsewhere old chosen)
    · rwa [if_neg chosen]

/-- An update that clears what it selects, and selects whatever is wanted and
    set, leaves nothing wanted that is set. -/
theorem updateWhere_clears {wanted isSet : α → Prop} (cleared : ∀ row, ¬ isSet (set row))
    (selects : ∀ row ∈ rows, wanted row → isSet row → selected row = true) :
    ∀ row ∈ updateWhere selected set rows, wanted row → ¬ isSet row := by
  intro row member isWanted still
  obtain ⟨old, stored, rfl⟩ := mem_updateWhere.mp member
  by_cases chosen : selected old = true
  · rw [if_pos chosen] at still
    exact cleared old still
  · rw [if_neg chosen] at isWanted still
    exact chosen (selects old stored isWanted still)

theorem mem_of_map_eq {column : α → κ} (same : rows'.map column = rows.map column)
    (member : row ∈ rows') :
    ∃ old ∈ rows, column old = column row := by
  have image : column row ∈ rows.map column := by
    rw [← same]
    exact List.mem_map_of_mem member
  exact List.mem_map.mp image

theorem eq_of_key (unique : (rows.map key).Nodup) {a b : α} (ha : a ∈ rows) (hb : b ∈ rows)
    (same : key a = key b) : a = b :=
  List.inj_on_of_nodup_map unique ha hb same

theorem nodup_concat_key (unique : (rows.map key).Nodup) (fresh : ∀ old ∈ rows, key row ≠ key old)
    : ((rows ++ [row]).map key).Nodup := by
  rw [List.map_append, List.map_singleton, List.nodup_append]
  refine ⟨unique, List.nodup_singleton _, ?_⟩
  intro a ha b hb same
  obtain ⟨old, member, rfl⟩ := List.mem_map.mp ha
  rw [List.mem_singleton] at hb
  exact fresh old member (hb.symm.trans same.symm)

theorem mem_upsert (member : row ∈ upsert same fresh set rows) :
    row = fresh ∨ ∃ old ∈ rows, row = if same old then set old else old := by
  unfold upsert at member
  split at member
  · obtain ⟨old, present, rfl⟩ := mem_updateWhere.mp member
    exact .inr ⟨old, present, rfl⟩
  · rcases mem_concat.mp member with old | new
    · rename_i absent
      have unselected : same row = false := by
        by_contra selected
        exact absent (List.any_eq_true.mpr ⟨row, old, by simpa using selected⟩)
      exact .inr ⟨row, old, by simp [unselected]⟩
    · exact .inl new

/-- The selected row after an upsert: the updated one, or else the new one. -/
theorem find_upsert (own : same fresh = true)
    (kept : ∀ row, same row = true → same (set row) = true) :
    (upsert same fresh set rows).find? same = some (((rows.find? same).map set).getD fresh) := by
  unfold upsert
  split
  · rename_i exists_row
    obtain ⟨row, found⟩ := Option.isSome_iff_exists.mp
      (List.find?_isSome.mpr (List.any_eq_true.mp exists_row))
    rw [find_updateWhere fun row here => (kept row here).trans here.symm]
    rw [found, Option.map_some, if_pos (List.find?_some found), Option.map_some, Option.getD_some]
  · rename_i absent
    have none : rows.find? same = none := by
      rw [List.find?_eq_none]
      intro row member selected
      exact absent (List.any_eq_true.mpr ⟨row, member, selected⟩)
    rw [List.find?_append, none, Option.none_or, List.find?_singleton, if_pos own]
    rfl

theorem find_upsert_other (new : wanted fresh = false)
    (kept : ∀ row, same row = true → wanted (set row) = wanted row)
    (other : ∀ row, wanted row = true → same row = false) :
    (upsert same fresh set rows).find? wanted = rows.find? wanted := by
  unfold upsert
  split
  · rw [find_updateWhere kept]
    cases found : rows.find? wanted with
    | none => rfl
    | some row => simp [other row (List.find?_some found)]
  · rw [List.find?_append, List.find?_singleton, new, if_neg Bool.false_ne_true, Option.or_none]

/-- Columns that an upsert does not set keep their values; a new row comes last. -/
theorem map_upsert_grows (kept : ∀ row, key (set row) = key row) (rows : List α) :
    rows.map key <+: (upsert same fresh set rows).map key := by
  unfold upsert
  split
  · simp only [map_updateWhere kept, List.prefix_rfl]
  · rw [List.map_append]
    exact List.prefix_append _ _

theorem nodup_upsert_key (unique : (rows.map key).Nodup) (kept : ∀ row, key (set row) = key row)
    (selects : ∀ row, key fresh = key row → same row = true) :
    ((upsert same fresh set rows).map key).Nodup := by
  unfold upsert
  split
  · rw [map_updateWhere kept]
    exact unique
  · rename_i absent
    refine nodup_concat_key unique ?_
    intro old present equal
    exact absent (List.any_eq_true.mpr ⟨old, present, selects old equal⟩)

/-- A unique key stays unique when it is among those the statement checks and
    not among the columns it sets. -/
theorem nodup_insertOrUpdate_key [DecidableEq α] {clash : α → α → Bool}
    (unique : (rows.map key).Nodup) (listed : clash ∈ keys)
    (clashes : ∀ a b, key a = key b → clash a b = true) (kept : ∀ row, key (set row) = key row)
    (done : insertOrUpdate keys fresh set rows = some rows') : (rows'.map key).Nodup := by
  unfold insertOrUpdate at done
  split at done
  · rename_i free
    obtain rfl := Option.some.inj done
    refine nodup_concat_key unique ?_
    intro old present same
    have absent := List.findSome?_eq_none_iff.mp free clash listed
    rw [List.find?_eq_none] at absent
    exact absent old present (clashes fresh old same)
  · rename_i old _
    split at done
    · cases done
    · obtain rfl := Option.some.inj done
      have shape : (updateWhere (fun row => row == old) (fun _ => set old) rows).map key =
          rows.map key := by
        simp only [updateWhere, List.map_map]
        apply List.map_congr_left
        intro row _
        simp only [Function.comp_apply]
        split
        · rename_i same
          rw [kept, beq_iff_eq.mp same]
        · rfl
      rw [shape]
      exact unique

/-- One row stands in the place of every row with its key. -/
def Replaced (key : α → κ) (fresh : α) (rows rows' : List α) : Prop :=
  ∀ row, row ∈ rows' ↔ row = fresh ∨ row ∈ rows ∧ key row ≠ key fresh

/-- An upsert that meets no row through another key replaces the row of its
    primary key, when the columns it keeps agree. -/
theorem insertOrUpdate_replaced [DecidableEq α] {primary : α → α → Bool}
    {others : List (α → α → Bool)} (unique : (rows.map key).Nodup)
    (clashes : ∀ a b, primary a b = true ↔ key a = key b)
    (own : ∀ old ∈ rows, key old = key fresh → set old = fresh)
    (free : ∀ clash ∈ others, ∀ row ∈ rows, key row ≠ key fresh → clash fresh row = false)
    (done : insertOrUpdate (primary :: others) fresh set rows = some rows') :
    Replaced key fresh rows rows' := by
  unfold insertOrUpdate at done
  rw [List.findSome?_cons] at done
  cases found : rows.find? (primary fresh) with
  | some old =>
      have member := List.mem_of_find?_eq_some found
      have same : key old = key fresh := ((clashes fresh old).mp (List.find?_some found)).symm
      simp only [found, own old member same] at done
      split at done
      · cases done
      · obtain rfl := Option.some.inj done
        intro row
        rw [mem_updateWhere]
        constructor
        · rintro ⟨before, present, rfl⟩
          by_cases rewritten : before = old
          · exact .inl (if_pos (beq_iff_eq.mpr rewritten))
          · right
            rw [if_neg (fun equal => rewritten (beq_iff_eq.mp equal))]
            exact ⟨present, fun equal =>
              rewritten (eq_of_key unique present member (equal.trans same.symm))⟩
        · rintro (rfl | ⟨present, other⟩)
          · exact ⟨old, member, if_pos (beq_iff_eq.mpr rfl)⟩
          · refine ⟨row, present, if_neg ?_⟩
            intro equal
            exact other (beq_iff_eq.mp equal ▸ same)
  | none =>
      have absent : ∀ row ∈ rows, key row ≠ key fresh := by
        intro row present equal
        exact List.find?_eq_none.mp found row present ((clashes fresh row).mpr equal.symm)
      have none : others.findSome? (fun clash => rows.find? (clash fresh)) = none := by
        rw [List.findSome?_eq_none_iff]
        intro clash listed
        rw [List.find?_eq_none]
        intro row present
        simp [free clash listed row present (absent row present)]
      simp only [found, none] at done
      obtain rfl := Option.some.inj done
      intro row
      rw [List.mem_append, List.mem_singleton]
      constructor
      · rintro (present | rfl)
        · exact .inr ⟨present, absent row present⟩
        · exact .inl rfl
      · rintro (rfl | ⟨present, -⟩)
        · exact .inr rfl
        · exact .inl present

/-- An upsert writes the new row, or the rewritten form of a row it meets. -/
theorem mem_insertOrUpdate [DecidableEq α] (done : insertOrUpdate keys fresh set rows = some rows')
    (member : row ∈ rows') :
    row ∈ rows ∨ row = fresh ∨ ∃ old ∈ rows, row = set old := by
  unfold insertOrUpdate at done
  split at done
  · obtain rfl := Option.some.inj done
    rcases mem_concat.mp member with present | new
    · exact .inl present
    · exact .inr (.inl new)
  · rename_i old met
    split at done
    · cases done
    · obtain rfl := Option.some.inj done
      obtain ⟨before, present, rfl⟩ := mem_updateWhere.mp member
      split
      · rename_i same
        rw [beq_iff_eq.mp same] at present
        exact .inr (.inr ⟨old, present, rfl⟩)
      · exact .inl present

theorem insertOrUpdate_elsewhere [DecidableEq α] (wanted : α → Prop) (new : ¬ wanted fresh)
    (met : ∀ old ∈ rows, (∃ clash ∈ keys, clash fresh old = true) →
      ¬ wanted old ∧ ¬ wanted (set old)) (done : insertOrUpdate keys fresh set rows = some rows')
    (own : wanted row) :
    row ∈ rows' ↔ row ∈ rows := by
  unfold insertOrUpdate at done
  split at done
  · obtain rfl := Option.some.inj done
    rw [List.mem_append, List.mem_singleton]
    constructor
    · rintro (present | rfl)
      · exact present
      · exact absurd own new
    · exact .inl
  · rename_i old found
    obtain ⟨clash, listed, located⟩ := List.exists_of_findSome?_eq_some found
    have member := List.mem_of_find?_eq_some located
    obtain ⟨unwanted, unwantedSet⟩ := met old member ⟨clash, listed, List.find?_some located⟩
    split at done
    · cases done
    · obtain rfl := Option.some.inj done
      rw [mem_updateWhere]
      constructor
      · rintro ⟨before, present, rfl⟩
        split at own
        · exact absurd own unwantedSet
        · rename_i other
          rw [if_neg other]
          exact present
      · intro present
        refine ⟨row, present, if_neg ?_⟩
        intro same
        rw [beq_iff_eq.mp same] at own
        exact unwanted own

/-- A search that one row alone can meet finds that row or nothing. -/
theorem find_sole (member : row ∈ rows) (sole : ∀ other ∈ rows, wanted other = true → other = row) :
    rows.find? wanted = if wanted row then some row else none := by
  cases found : rows.find? wanted with
  | some other =>
      have chosen := List.find?_some found
      have same := sole other (List.mem_of_find?_eq_some found) chosen
      rw [← same, if_pos chosen]
  | none => rw [if_neg (List.find?_eq_none.mp found row member)]

theorem find_keyed (unique : (rows.map key).Nodup) (member : row ∈ rows) (met : wanted row = true)
    (keyed : ∀ other, wanted other = true → key other = key row) : rows.find? wanted = some row := by
  have sole : ∀ other ∈ rows, wanted other = true → other = row := fun other present tested =>
    eq_of_key unique present member (keyed other tested)
  rw [find_sole member sole, if_pos met]

theorem find_of_key (unique : (rows.map key).Nodup) (member : row ∈ rows)
    (selects : ∀ candidate, wanted candidate = true ↔ key candidate = key row) :
    rows.find? wanted = some row :=
  find_keyed unique member ((selects row).mpr rfl) fun other => (selects other).mp

/-- Among the rows a test keeps, a unique key finds the row it finds in the whole table. -/
theorem find_filter_key {named : κ} (unique : (rows.map key).Nodup)
    (selects : ∀ row, wanted row = true ↔ key row = named) :
    (rows.filter test).find? wanted = (rows.find? wanted).filter test := by
  cases found : rows.find? wanted with
  | none =>
      rw [Option.filter_none, List.find?_eq_none]
      intro row member
      exact List.find?_eq_none.mp found row (List.mem_filter.mp member).1
  | some first =>
      have member := List.mem_of_find?_eq_some found
      have own := (selects first).mp (List.find?_some found)
      by_cases kept : test first = true
      · rw [Option.filter_some, if_pos kept]
        exact find_of_key (unique.sublist (List.filter_sublist.map key))
          (List.mem_filter.mpr ⟨member, kept⟩) (by simpa only [own] using selects)
      · rw [Option.filter_some, if_neg kept, List.find?_eq_none]
        intro row inside same
        have ⟨present, passes⟩ := List.mem_filter.mp inside
        have equal : key row = key first := ((selects row).mp same).trans own.symm
        exact kept (eq_of_key unique present member equal ▸ passes)

theorem filter_of_key (unique : (rows.map key).Nodup) (member : row ∈ rows)
    (selects : ∀ candidate ∈ rows, wanted candidate = true ↔ key candidate = key row) :
    rows.filter wanted = [row] := by
  induction rows with
  | nil => cases member
  | cons head rest ih =>
      rw [List.map_cons, List.nodup_cons] at unique
      have later : ∀ candidate ∈ rest, wanted candidate = true ↔ key candidate = key row :=
        fun candidate present => selects candidate (List.mem_cons_of_mem head present)
      have first := selects head List.mem_cons_self
      rcases List.mem_cons.mp member with rfl | member
      · have none : rest.filter wanted = [] := by
          rw [List.filter_eq_nil_iff]
          intro other present same
          exact unique.1 (List.mem_map.mpr ⟨other, present, (later other present).mp same⟩)
        rw [List.filter_cons_of_pos (first.mpr rfl), none]
      · have distinct : ¬ wanted head = true := by
          intro same
          exact unique.1 (List.mem_map.mpr ⟨row, member, (first.mp same).symm⟩)
        rw [List.filter_cons_of_neg distinct, ih unique.2 member later]

/-- As many rows pass a test as there are rows exactly when all of them do. -/
theorem length_filter_eq_length :
    (rows.filter test).length = rows.length ↔ ∀ row ∈ rows, test row = true :=
  List.length_filter_eq_length_iff

theorem length_filter_le_one (distinct : rows.Nodup)
    (same : ∀ a ∈ rows, ∀ b ∈ rows, test a = true → test b = true → a = b) :
    (rows.filter test).length ≤ 1 := by
  have nodup := distinct.filter test
  have mem : ∀ row ∈ rows.filter test, row ∈ rows ∧ test row = true :=
    fun row => List.mem_filter.mp
  generalize rows.filter test = selected at nodup mem ⊢
  cases selected with
  | nil => exact Nat.zero_le 1
  | cons a rest =>
      cases rest with
      | nil => exact Nat.le_refl 1
      | cons b rest =>
          obtain ⟨memA, testA⟩ := mem a List.mem_cons_self
          obtain ⟨memB, testB⟩ := mem b (List.mem_cons_of_mem a List.mem_cons_self)
          rw [same a memA b memB testA testB] at nodup
          exact absurd List.mem_cons_self (List.nodup_cons.mp nodup).1

theorem length_filter_key_le_one (unique : (rows.map key).Nodup) (wanted : κ)
    (selects : ∀ row ∈ rows, test row = true → key row = wanted) :
    (rows.filter test).length ≤ 1 := by
  refine length_filter_le_one (List.Nodup.of_map key unique) ?_
  intro a memberA b memberB testA testB
  have keyA := selects a memberA testA
  have keyB := selects b memberB testB
  exact eq_of_key unique memberA memberB (keyA.trans keyB.symm)

theorem length_flatMap_le_one (single : rows.length ≤ 1)
    (each : ∀ row ∈ rows, (join row).length ≤ 1) :
    (rows.flatMap join).length ≤ 1 := by
  cases rows with
  | nil => exact Nat.zero_le 1
  | cons row rest =>
      cases rest with
      | nil => simpa using each row List.mem_cons_self
      | cons next rest => simp at single

theorem map_flatMap_sublist {column : β → κ} (single : ∀ row ∈ rows, (join row).length ≤ 1)
    (keeps : ∀ row ∈ rows, ∀ joined ∈ join row, column joined = key row) :
    ((rows.flatMap join).map column).Sublist (rows.map key) := by
  induction rows with
  | nil => exact List.Sublist.refl []
  | cons row rest ih =>
      have later := ih (fun other member => single other (List.mem_cons_of_mem row member))
        (fun other member => keeps other (List.mem_cons_of_mem row member))
      have here := single row List.mem_cons_self
      have kept := keeps row List.mem_cons_self
      rw [List.flatMap_cons, List.map_append, List.map_cons]
      generalize join row = joined at here kept
      cases joined with
      | nil => exact later.cons _
      | cons first more =>
          cases more with
          | nil =>
              rw [List.map_singleton, kept first List.mem_cons_self]
              exact later.cons_cons _
          | cons next more => simp at here

theorem length_le_of_keys {listed : List κ} (unique : (rows.map key).Nodup)
    (inside : ∀ row ∈ rows, key row ∈ listed) :
    rows.length ≤ listed.length := by
  have subset : rows.map key ⊆ listed := by
    intro wanted member
    obtain ⟨row, present, rfl⟩ := List.mem_map.mp member
    exact inside row present
  simpa using (List.subperm_of_subset unique subset).length_le

/-- `MAX(column)` bounds the column of every row. -/
theorem le_foldl_max (value : α → Nat) (rows : List α) (start : Nat) :
    start ≤ rows.foldl (fun highest row => max highest (value row)) start ∧
      ∀ row ∈ rows, value row ≤ rows.foldl (fun highest row => max highest (value row)) start := by
  induction rows generalizing start with
  | nil => exact ⟨Nat.le_refl start, fun _ member => by cases member⟩
  | cons first rest ih =>
      obtain ⟨bound, each⟩ := ih (max start (value first))
      rw [List.foldl_cons]
      refine ⟨(Nat.le_max_left _ _).trans bound, ?_⟩
      intro row member
      rcases List.mem_cons.mp member with rfl | later
      · exact (Nat.le_max_right _ _).trans bound
      · exact each row later

/-- `ORDER BY … LIMIT 1` returns a row of the selection. -/
theorem mem_of_foldl_pick {pick : Option α → α → Option α}
    (picks : ∀ best row, pick best row = some row ∨ pick best row = best)
    (picked : rows.foldl pick none = some row) : row ∈ rows := by
  revert row
  refine List.foldlRecOn (motive := fun best => ∀ {row}, best = some row → row ∈ rows) rows _ ?_ ?_
  · exact nofun
  · intro best holds head member row chosen
    rcases picks best head with taken | kept
    · rw [taken] at chosen
      cases chosen
      exact member
    · rw [kept] at chosen
      exact holds chosen

end Foundation
