import Mathlib.Data.List.Chain

/-! # Alarms on edges

A monitor reads a sequence of states, some of them bad, some good and some neither.
-/

namespace Foundation

variable {α : Type*} (bad good raised cleared : α → Prop)

/-- What is reported of a state after the one before it. -/
structure EdgeStep (before after : α) : Prop where
  raises : raised after ↔ bad after ∧ ¬ bad before
  clears : cleared after ↔ good after ∧ bad before

/-- The first state has none before it. -/
structure EdgeMonitor (states : List α) : Prop where
  first : ∀ state ∈ states.head?, raised state ↔ bad state
  next : states.IsChain (EdgeStep bad good raised cleared)

/-- Between two alarms the first is cleared, and a good state after a bad one comes with
    a clearance. -/
structure Alternates (states : List α) : Prop where
  between : ∀ a first b second c, states = a ++ first :: b ++ second :: c → raised first →
    raised second → ∃ state ∈ b, cleared state
  recovered : ∀ a drift b later c, states = a ++ drift :: b ++ later :: c → bad drift →
    good later → ∃ state ∈ b ++ [later], cleared state

/-- Whatever follows a bad state directly tells how it went on, if anything later does. -/
def Settles (states : List α) : Prop :=
  ∀ a drift next c, states = a ++ drift :: next :: c → bad drift → ¬ bad next → ¬ good next →
    ∀ later ∈ c, ¬ bad later ∧ ¬ good later

variable {bad good raised cleared} {states : List α}

theorem EdgeMonitor.step (monitor : EdgeMonitor bad good raised cleared states) {a c : List α}
    {before after : α} (split : states = a ++ before :: after :: c) :
    EdgeStep bad good raised cleared before after := by
  have chain := split ▸ monitor.next
  exact (List.isChain_append_cons_cons.mp chain).2.1

/-- From a bad state on, a later state that tells how it went on is preceded by a
    clearance, unless it follows a bad state itself. -/
theorem Settles.clears (settles : Settles bad good states)
    (monitor : EdgeMonitor bad good raised cleared states) {a b c : List α} {drift later : α}
    (split : states = a ++ drift :: b ++ later :: c) (was : bad drift)
    (tells : bad later ∨ good later) :
    (∃ state ∈ b, cleared state) ∨
      ∃ a' before, states = a' ++ before :: later :: c ∧ bad before := by
  induction b generalizing a drift with
  | nil => exact .inr ⟨a, drift, by simpa using split, was⟩
  | cons next b ih =>
      have whole : states = a ++ drift :: next :: (b ++ later :: c) := by simpa using split
      by_cases again : bad next
      · have shifted : states = (a ++ [drift]) ++ next :: b ++ later :: c := by simpa using split
        cases ih shifted again with
        | inl found =>
            obtain ⟨state, member, clear⟩ := found
            exact .inl ⟨state, List.mem_cons_of_mem next member, clear⟩
        | inr direct => exact .inr direct
      · by_cases well : good next
        · have clear := (monitor.step whole).clears.mpr ⟨well, was⟩
          exact .inl ⟨next, List.mem_cons_self, clear⟩
        · have silent := settles a drift next _ whole was again well later (by simp)
          exact absurd tells (not_or.mpr silent)

theorem Settles.alternates (settles : Settles bad good states)
    (monitor : EdgeMonitor bad good raised cleared states)
    (raisedBad : ∀ state ∈ states, raised state → bad state) :
    Alternates bad good raised cleared states := by
  constructor
  · intro a first b second c split one two
    have was := raisedBad first (by simp [split]) one
    have is := raisedBad second (by simp [split]) two
    cases settles.clears monitor split was (.inl is) with
    | inl found => exact found
    | inr direct =>
        obtain ⟨a', before, shape, same⟩ := direct
        exact absurd same ((monitor.step shape).raises.mp two).2
  · intro a drift b later c split was well
    cases settles.clears monitor split was (.inr well) with
    | inl found =>
        obtain ⟨state, member, clear⟩ := found
        exact ⟨state, List.mem_append_left [later] member, clear⟩
    | inr direct =>
        obtain ⟨a', before, shape, same⟩ := direct
        exact ⟨later, by simp, (monitor.step shape).clears.mpr ⟨well, same⟩⟩

/-- The alarm for a bad state was raised at the start of its stretch of bad states. -/
theorem EdgeMonitor.alarm (monitor : EdgeMonitor bad good raised cleared states) {a c : List α}
    {drift : α} (split : states = a ++ drift :: c) (was : bad drift) :
    ∃ a' first b, a ++ [drift] = a' ++ first :: b ∧ raised first ∧ ∀ state ∈ b, bad state := by
  induction a using List.reverseRecOn generalizing drift c with
  | nil =>
      have first := monitor.first drift (by simp [split])
      exact ⟨[], drift, [], rfl, first.mpr was, by simp⟩
  | append_singleton a before ih =>
      have whole : states = a ++ before :: drift :: c := by simpa using split
      by_cases earlier : bad before
      · obtain ⟨a', first, b, shape, alarm, stretch⟩ := ih whole earlier
        refine ⟨a', first, b ++ [drift], by simp [shape], alarm, ?_⟩
        intro state member
        simp only [List.mem_append, List.mem_singleton] at member
        cases member with
        | inl inside => exact stretch state inside
        | inr last => exact last ▸ was
      · exact ⟨a ++ [before], drift, [], by simp,
          (monitor.step whole).raises.mpr ⟨was, earlier⟩, by simp⟩

theorem Alternates.settles (alternates : Alternates bad good raised cleared states)
    (monitor : EdgeMonitor bad good raised cleared states)
    (clearedGood : ∀ state ∈ states, cleared state → good state)
    (apart : ∀ state, good state → ¬ bad state) : Settles bad good states := by
  intro a drift next c split was unknown neither later member
  by_contra tells
  classical
  -- the first state after `next` that tells
  have told : decide (bad later ∨ good later) = true := by
    rw [not_and_or, not_not, not_not] at tells
    exact decide_eq_true tells
  obtain ⟨second, found⟩ := Option.isSome_iff_exists.mp
    (List.find?_isSome (p := fun state => decide (bad state ∨ good state)).mpr
      ⟨later, member, told⟩)
  obtain ⟨first, quiet, c', shape, silent⟩ := List.find?_eq_some_iff_append.mp found
  replace first := of_decide_eq_true first
  replace silent : ∀ state ∈ quiet, ¬ (bad state ∨ good state) := by
    intro state early
    simpa using silent state early
  -- the state before it does not tell
  have follows : ∃ a' before, states = a' ++ before :: second :: c' ∧ ¬ bad before := by
    cases quiet using List.reverseRecOn with
    | nil => exact ⟨a ++ [drift], next, by simp [split, shape], unknown⟩
    | append_singleton quiet last =>
        refine ⟨a ++ drift :: next :: quiet, last, by simp [split, shape], ?_⟩
        exact fun wrong => silent last (by simp) (.inl wrong)
  obtain ⟨a', before, direct, fine⟩ := follows
  have inside : ∀ state ∈ next :: quiet, ¬ cleared state := by
    intro state within clear
    have listed : state ∈ states := by
      rw [split, shape, ← List.cons_append]
      exact List.mem_append_right a (List.mem_cons_of_mem drift (List.mem_append_left _ within))
    have well := clearedGood state listed clear
    rw [List.mem_cons] at within
    cases within with
    | inl same => exact neither (same ▸ well)
    | inr early => exact silent state early (.inr well)
  cases first with
  | inr well =>
      obtain ⟨state, within, clear⟩ := alternates.recovered a drift (next :: quiet) second c'
        (by simp [split, shape]) was well
      simp only [List.mem_append, List.mem_singleton] at within
      cases within with
      | inl early => exact inside state early clear
      | inr last =>
          subst last
          exact fine ((monitor.step direct).clears.mp clear).2
  | inl wrong =>
      obtain ⟨start, alarm, stretch, run, raisedFirst, bads⟩ := monitor.alarm split was
      have raisedSecond := (monitor.step direct).raises.mpr ⟨wrong, fine⟩
      have whole : states = start ++ alarm :: (stretch ++ next :: quiet) ++ second :: c' := by
        have regroup : states = (a ++ [drift]) ++ next :: quiet ++ second :: c' := by
          simp [split, shape]
        rw [regroup, run]
        simp
      obtain ⟨state, within, clear⟩ := alternates.between start alarm _ second c' whole raisedFirst
        raisedSecond
      rw [List.mem_append] at within
      cases within with
      | inl early =>
          have well := clearedGood state (by simp [whole, early]) clear
          exact apart state well (bads state early)
      | inr late => exact inside state late clear

end Foundation
