import Mathlib.Data.List.Basic

/-! # Fallible computations as sequences of checks

`reject` is the guard clause of a validator; the lemmas peel a successful
computation into the facts its checks established.
-/

namespace Foundation

variable {ε α β : Type}

/-- Fail with `error` when `condition` holds. -/
def reject (condition : Bool) (error : ε) : Except ε Unit :=
  if condition then .error error else .ok ()

variable {condition : Bool} {error raised : ε} {u : Unit} {o : Option α} {a : α} {x : Except ε α}
  {f convert : α → Except ε β} {b : β} {ε' σ γ : Type} {l m seen rest : List α} {P : σ → Prop}
  {converted : List β} {read : α → γ} {column : β → γ} {check : List α → α → Except ε Unit}
  {R : α → α → Prop} {update : σ → α → Except ε σ} {s t : σ}

@[simp] theorem reject_ok :
    reject condition error = .ok u ↔ condition = false := by
  cases condition <;> simp [reject]

/-- The value of an optional row, or the given error. -/
def orElse (error : ε) : Option α → Except ε α
  | some a => .ok a
  | none => .error error

@[simp] theorem orElse_ok :
    orElse error o = .ok a ↔ o = some a := by
  cases o <;> simp [orElse]

theorem bind_ok :
    (x >>= f) = .ok b ↔ ∃ a, x = .ok a ∧ f a = .ok b := by
  cases x with
  | error e => simp [bind, Except.bind]
  | ok a => simp [bind, Except.bind]

theorem unit_bind_ok {x : Except ε Unit} {f : Unit → Except ε β} :
    (x >>= f) = .ok b ↔ x = .ok () ∧ f () = .ok b := by
  simp only [bind_ok, Unique.exists_iff, PUnit.default_eq_unit]

theorem orElse_bind_ok :
    (orElse error o >>= f) = .ok b ↔ ∃ a, o = some a ∧ f a = .ok b := by
  simp only [bind_ok, orElse_ok]

@[simp] theorem pure_ok {b : α} : (pure a : Except ε α) = .ok b ↔ a = b := by
  simp [pure, Except.pure]

theorem map_ok {f : α → β} :
    x.map f = .ok b ↔ ∃ a, x = .ok a ∧ f a = b := by
  cases x with
  | error e => simp [Except.map]
  | ok a => simp [Except.map]

theorem mapError_ok {f : ε → ε'} :
    x.mapError f = .ok a ↔ x = .ok a := by
  cases x with
  | error e => simp [Except.mapError]
  | ok a => simp [Except.mapError]

theorem ite_ok {p : Prop} [Decidable p] {b : α} :
    (if p then .ok a else .error error) = Except.ok b ↔ p ∧ a = b := by
  by_cases holds : p <;> simp [holds]

theorem isOk_iff : x.isOk = true ↔ ∃ a, x = .ok a := by
  cases x with
  | error e => simp [Except.isOk, Except.toBool]
  | ok a => simp [Except.isOk, Except.toBool]

theorem toOption_some : x.toOption = some a ↔ x = .ok a := by
  cases x with
  | error e => simp [Except.toOption]
  | ok b => simp [Except.toOption]

theorem ok_of_any {test : α → Bool} (holds : x.toOption.any test = true) :
    ∃ a, x = .ok a ∧ test a = true := by
  cases x with
  | error e => cases holds
  | ok a => exact ⟨a, rfl, holds⟩

/-- The computation does not fail with the given error. -/
def Avoids (error : ε) (x : Except ε α) : Prop := x ≠ .error error

theorem avoids_ok (a : α) : Avoids error (.ok a) := by
  intro failed
  cases failed

theorem avoids_reject (other : raised ≠ error) :
    Avoids error (reject condition raised) := by
  cases condition with
  | false => exact avoids_ok ()
  | true =>
      intro failed
      exact other (Except.error.inj failed)

theorem avoids_passed (passed : condition = false) :
    Avoids error (reject condition raised) := by
  rw [passed]
  exact avoids_ok ()

theorem avoids_orElse (other : raised ≠ error) :
    Avoids error (orElse raised o) := by
  cases o with
  | some a => exact avoids_ok a
  | none =>
      intro failed
      exact other (Except.error.inj failed)

theorem Avoids.bind (first : Avoids error x) (rest : ∀ a, Avoids error (f a))
    : Avoids error (x >>= f) := by
  cases x with
  | error raised => exact fun failed => first (congrArg Except.error (Except.error.inj failed))
  | ok a => exact rest a

theorem avoids_mapError {error : ε'} {f : ε → ε'}
    (other : ∀ raised, x = .error raised → f raised ≠ error) : Avoids error (x.mapError f) := by
  cases x with
  | error raised => exact fun failed => other raised rfl (Except.error.inj failed)
  | ok a => exact avoids_ok a

theorem avoids_mapM_mem (each : ∀ a ∈ l, Avoids error (convert a))
    : Avoids error (l.mapM convert) := by
  induction l with
  | nil => exact avoids_ok []
  | cons a rest ih =>
      rw [List.mapM_cons]
      refine (each a List.mem_cons_self).bind fun b => ?_
      have later := ih fun c member => each c (List.mem_cons_of_mem a member)
      exact later.bind fun bs => avoids_ok (b :: bs)

theorem avoids_mapM (each : ∀ a, Avoids error (convert a)) : Avoids error (l.mapM convert) :=
  avoids_mapM_mem fun a _ => each a

/-- A transaction that fails leaves the state as it was. -/
def commit {σ : Type} (before : σ) : Except ε σ → σ
  | .ok after => after
  | .error _ => before

theorem commit_cases {before : σ} {result : Except ε σ} (unchanged : P before)
    (done : ∀ after, result = .ok after → P after) :
    P (commit before result) := by
  cases result with
  | error error => exact unchanged
  | ok after => exact done after rfl

theorem mapM_ok {value : α → β} (each : ∀ a ∈ l, convert a = .ok (value a))
    : l.mapM convert = .ok (l.map value) := by
  induction l with
  | nil => rfl
  | cons a rest ih =>
      rw [List.mapM_cons, each a List.mem_cons_self,
        ih fun b member => each b (List.mem_cons_of_mem a member)]
      rfl

theorem mem_mapM (done : l.mapM convert = .ok converted) (member : b ∈ converted) :
    ∃ a ∈ l, convert a = .ok b := by
  induction l generalizing converted with
  | nil =>
      cases done
      cases member
  | cons a rest ih =>
      simp only [List.mapM_cons, bind_ok, pure_ok] at done
      obtain ⟨first, here, later, there, rfl⟩ := done
      cases member with
      | head => exact ⟨a, List.mem_cons_self, here⟩
      | tail _ member =>
          obtain ⟨origin, listed, same⟩ := ih there member
          exact ⟨origin, List.mem_cons_of_mem a listed, same⟩

theorem mapM_mem (done : l.mapM convert = .ok converted) (member : a ∈ l) :
    ∃ b ∈ converted, convert a = .ok b := by
  induction l generalizing converted with
  | nil => cases member
  | cons head rest ih =>
      simp only [List.mapM_cons, bind_ok, pure_ok] at done
      obtain ⟨first, here, later, there, rfl⟩ := done
      cases member with
      | head => exact ⟨first, List.mem_cons_self, here⟩
      | tail _ member =>
          obtain ⟨b, listed, same⟩ := ih there member
          exact ⟨b, List.mem_cons_of_mem first listed, same⟩

theorem mapM_perm (order : l.Perm m) (done : l.mapM convert = .ok converted) :
    ∃ others, m.mapM convert = .ok others ∧ converted.Perm others := by
  induction order generalizing converted with
  | nil => exact ⟨converted, done, .refl _⟩
  | cons a order ih =>
      simp only [List.mapM_cons, bind_ok, pure_ok] at done
      obtain ⟨b, first, rest, done, rfl⟩ := done
      obtain ⟨others, later, same⟩ := ih done
      exact ⟨b :: others, by simp [List.mapM_cons, first, later, bind, Except.bind, pure, Except.pure],
        same.cons b⟩
  | swap a b l =>
      simp only [List.mapM_cons, bind_ok, pure_ok] at done
      obtain ⟨y, second, _, ⟨x, first, rest, done, rfl⟩, rfl⟩ := done
      refine ⟨x :: y :: rest, ?_, List.Perm.swap x y rest⟩
      simp [List.mapM_cons, first, second, done, bind, Except.bind, pure, Except.pure]
  | trans _ _ ihFirst ihSecond =>
      obtain ⟨middle, through, same⟩ := ihFirst done
      obtain ⟨others, later, same'⟩ := ihSecond through
      exact ⟨others, later, same.trans same'⟩

theorem map_mapM (keeps : ∀ a b, convert a = .ok b → column b = read a)
    (done : l.mapM convert = .ok converted) : converted.map column = l.map read := by
  induction l generalizing converted with
  | nil =>
      cases done
      rfl
  | cons a rest ih =>
      simp only [List.mapM_cons, bind_ok, pure_ok] at done
      obtain ⟨first, here, later, there, rfl⟩ := done
      rw [List.map_cons, List.map_cons, keeps a first here, ih there]

/-- A conversion that passes over nothing keeps a column of the list. -/
theorem filterMap_mapM {convert : α → Except ε (Option β)} {converted : List (Option β)}
    (keeps : ∀ a ∈ l, ∀ made, convert a = .ok made → ∃ b, made = some b ∧ column b = read a)
    (done : l.mapM convert = .ok converted) :
    (converted.filterMap id).map column = l.map read := by
  induction l generalizing converted with
  | nil =>
      cases done
      rfl
  | cons a rest ih =>
      simp only [List.mapM_cons, bind_ok, pure_ok] at done
      obtain ⟨first, here, later, there, rfl⟩ := done
      obtain ⟨b, rfl, same⟩ := keeps a List.mem_cons_self first here
      have others := ih (fun c member => keeps c (List.mem_cons_of_mem a member)) there
      rw [List.map_cons, ← same, ← others]
      rfl

/-- Check every element of a list, each against those already accepted. -/
def checkEach (check : List α → α → Except ε Unit) : List α → List α → Except ε Unit
  | _, [] => .ok ()
  | seen, a :: rest => do
      check seen a
      checkEach check (seen ++ [a]) rest

theorem checkEach_ok :
    checkEach check seen rest = .ok u ↔
      ∀ before a after, rest = before ++ a :: after → check (seen ++ before) a = .ok () := by
  induction rest generalizing seen with
  | nil =>
      simp only [checkEach, true_iff]
      intro before a after split
      exact absurd split (by simp)
  | cons a rest ih =>
      simp only [checkEach, unit_bind_ok, ih]
      constructor
      · rintro ⟨first, later⟩ before b after split
        cases before with
        | nil =>
            obtain ⟨rfl, rfl⟩ := List.cons.inj split
            simpa only [List.append_nil] using first
        | cons c before =>
            obtain ⟨rfl, tail⟩ := List.cons.inj split
            have := later before b after tail
            rwa [List.append_assoc, List.singleton_append] at this
      · intro all
        refine ⟨by simpa only [List.append_nil] using all [] a rest rfl, ?_⟩
        intro before b after split
        have := all (a :: before) b after (by rw [split]; rfl)
        rwa [List.append_assoc, List.singleton_append]

theorem checkEach_all {check : α → Except ε Unit} :
    checkEach (fun _ a => check a) seen rest = .ok u ↔ ∀ a ∈ rest, check a = .ok () := by
  induction rest generalizing seen with
  | nil => simp [checkEach]
  | cons a rest ih => simp only [checkEach, unit_bind_ok, ih, List.forall_mem_cons]

/-- A relation checked against every accepted predecessor holds pairwise. -/
theorem checkEach_pairwise
    (related : ∀ seen a, check seen a = .ok () → ∀ earlier ∈ seen, R earlier a)
    (accepted : checkEach check seen rest = .ok u) :
    rest.Pairwise R ∧ ∀ earlier ∈ seen, ∀ a ∈ rest, R earlier a := by
  induction rest generalizing seen with
  | nil => exact ⟨List.Pairwise.nil, fun _ _ _ member => absurd member List.not_mem_nil⟩
  | cons a rest ih =>
      simp only [checkEach, unit_bind_ok] at accepted
      obtain ⟨first, later⟩ := accepted
      obtain ⟨pairwise, cross⟩ := ih later
      constructor
      · refine List.Pairwise.cons (fun b member => cross a ?_ b member) pairwise
        exact List.mem_append_right seen (List.mem_singleton_self a)
      · intro earlier before b member
        rcases List.mem_cons.mp member with rfl | member
        · exact related seen b first earlier before
        · exact cross earlier (List.mem_append_left [a] before) b member

/-- A check that holds an element against its predecessors and by itself. -/
theorem checkEach_iff {P : α → Prop}
    (each : ∀ a ∈ l, ∀ seen, check seen a = .ok () ↔ (∀ earlier ∈ seen, R earlier a) ∧ P a) :
    checkEach check [] l = .ok () ↔ l.Pairwise R ∧ ∀ a ∈ l, P a := by
  suffices rest : ∀ seen, checkEach check seen l = .ok () ↔
      (∀ earlier ∈ seen, ∀ a ∈ l, R earlier a) ∧ l.Pairwise R ∧ ∀ a ∈ l, P a by
    simpa using rest []
  induction l with
  | nil => simp [checkEach]
  | cons a l ih =>
      intro seen
      have later := ih (fun b member => each b (List.mem_cons_of_mem a member)) (seen ++ [a])
      simp only [checkEach, unit_bind_ok, later, each a List.mem_cons_self, List.pairwise_cons,
        List.forall_mem_cons, List.mem_append, List.mem_singleton]
      constructor
      · rintro ⟨⟨fresh, own⟩, cross, pairwise, rest⟩
        refine ⟨fun earlier before => ⟨fresh earlier before, fun b member =>
          cross earlier (.inl before) b member⟩, ⟨fun b member => cross a (.inr rfl) b member,
          pairwise⟩, own, rest⟩
      · rintro ⟨cross, ⟨first, pairwise⟩, own, rest⟩
        refine ⟨⟨fun earlier before => (cross earlier before).1, own⟩, ?_, pairwise, rest⟩
        rintro earlier (before | rfl) b member
        · exact (cross earlier before).2 b member
        · exact first b member

/-- Run a fallible update for every element, threading the state. -/
def updateEach {σ : Type} (update : σ → α → Except ε σ) : σ → List α → Except ε σ
  | s, [] => .ok s
  | s, a :: rest => do
      let s' ← update s a
      updateEach update s' rest

theorem updateEach_append :
    updateEach update s (l ++ m) = updateEach update s l >>= fun t => updateEach update t m := by
  induction l generalizing s with
  | nil => rfl
  | cons a l ih => simp only [List.cons_append, updateEach, bind_assoc, ih]

theorem updateEach_map {update : σ → β → Except ε σ} {f : α → β} :
    updateEach update s (l.map f) = updateEach (fun s a => update s (f a)) s l := by
  induction l generalizing s with
  | nil => rfl
  | cons a l ih => simp only [List.map_cons, updateEach, ih]

theorem avoids_updateEach (each : ∀ a ∈ l, ∀ s, Avoids error (update s a)) (s : σ) :
    Avoids error (updateEach update s l) := by
  induction l generalizing s with
  | nil => exact avoids_ok s
  | cons a rest ih =>
      refine (each a List.mem_cons_self s).bind fun next => ?_
      exact ih (fun b member => each b (List.mem_cons_of_mem a member)) next

theorem updateEach_mapError {φ : Type} {renamed : σ → α → Except φ σ} {rename : ε → φ}
    (round : ∀ a ∈ l, ∀ s, renamed s a = (update s a).mapError rename) (s : σ) :
    updateEach renamed s l = (updateEach update s l).mapError rename := by
  induction l generalizing s with
  | nil => rfl
  | cons a l ih =>
      rw [updateEach, updateEach, round a List.mem_cons_self]
      cases update s a with
      | error error => rfl
      | ok next => exact ih (fun b member => round b (List.mem_cons_of_mem a member)) next

theorem updateEach_invariant (keep : ∀ s s' a, a ∈ rest → P s → update s a = .ok s' → P s')
    (start : P s) (done : updateEach update s rest = .ok t) : P t := by
  induction rest generalizing s with
  | nil =>
      simp only [updateEach, Except.ok.injEq] at done
      exact done ▸ start
  | cons a rest ih =>
      simp only [updateEach, bind_ok] at done
      obtain ⟨mid, first, later⟩ := done
      refine ih (fun s s' b member => keep s s' b (List.mem_cons_of_mem a member)) ?_ later
      exact keep s mid a List.mem_cons_self start first

/-- The loop succeeds when each round does, and reaches what each round keeps
    of the elements before. -/
theorem updateEach_succeeds {P : List α → σ → Prop}
    (round : ∀ seen a rest s, l = seen ++ a :: rest → P seen s →
      ∃ s', update s a = .ok s' ∧ P (seen ++ [a]) s') (start : P [] s) :
    ∃ s', updateEach update s l = .ok s' ∧ P l s' := by
  have later : ∀ rest seen s, l = seen ++ rest → P seen s →
      ∃ s', updateEach update s rest = .ok s' ∧ P l s' := by
    intro rest
    induction rest with
    | nil =>
        intro seen s split holds
        rw [List.append_nil] at split
        exact ⟨s, rfl, split ▸ holds⟩
    | cons a rest ih =>
        intro seen s split holds
        obtain ⟨s', step, next⟩ := round seen a rest s split holds
        obtain ⟨final, done, reached⟩ := ih (seen ++ [a]) s' (by simpa using split) next
        exact ⟨final, by rw [updateEach, step]; exact done, reached⟩
  exact later l [] s rfl start

theorem updateEach_in_order {P : List α → σ → Prop}
    (keep : ∀ seen a rest s s', seen ++ a :: rest = l → P seen s → update s a = .ok s' →
      P (seen ++ [a]) s')
    (start : P [] s) (done : updateEach update s l = .ok t) : P l t := by
  suffices rule : ∀ rest seen s, seen ++ rest = l → P seen s → updateEach update s rest = .ok t →
      P l t from rule l [] s rfl start done
  intro rest
  induction rest with
  | nil =>
      intro seen s whole holds finished
      simp only [updateEach, Except.ok.injEq] at finished
      rw [← whole, List.append_nil, ← finished]
      exact holds
  | cons a rest ih =>
      intro seen s whole holds finished
      simp only [updateEach, bind_ok] at finished
      obtain ⟨mid, first, later⟩ := finished
      have next : P (seen ++ [a]) mid := keep seen a rest s mid whole holds first
      exact ih (seen ++ [a]) mid (by rw [← whole, List.append_assoc]; rfl) next later

theorem updateEach_processed {P : List α → σ → Prop}
    (keep : ∀ seen a s s', a ∈ l → seen ⊆ l → P seen s → update s a = .ok s' → P (seen ++ [a]) s')
    (start : P [] s) (done : updateEach update s l = .ok t) : P l t := by
  refine updateEach_in_order ?_ start done
  intro seen a rest s s' whole
  rw [← whole] at keep
  exact keep seen a s s' (List.mem_append_right seen List.mem_cons_self)
    (List.subset_append_left seen (a :: rest))

end Foundation
