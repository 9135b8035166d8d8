import Mathlib.Data.List.Forall2

/-!
# Traversals and searches

A traversal of a list succeeds if it does at every place, and then its results stand at the places
of what they were made from; `List.Forall₂` is the relation between the two lists. A search finds
the first place of its kind, or there is none.
-/

namespace Signpost

variable {α β ε : Type}

/-! ### Traversals -/

theorem bind_eq_ok_iff {x : Except ε α} {f : α → Except ε β} {b : β} :
    x >>= f = .ok b ↔ ∃ a, x = .ok a ∧ f a = .ok b := by
  cases x with
  | ok a    => simp [bind, Except.bind]
  | error e => simp [bind, Except.bind]

theorem exists_ok_iff {x : Except ε α} : (∃ a, x = .ok a) ↔ ∀ e, x ≠ .error e := by
  cases x with
  | ok a    => simp
  | error e => simp

theorem bind_eq_error_iff {x : Except ε α} {f : α → Except ε β} {e : ε} :
    x >>= f = .error e ↔ x = .error e ∨ ∃ a, x = .ok a ∧ f a = .error e := by
  cases x with
  | ok a    => simp [bind, Except.bind]
  | error e => simp [bind, Except.bind]

theorem map_eq_ok_iff {x : Except ε α} {f : α → β} {b : β} :
    x.map f = .ok b ↔ ∃ a, x = .ok a ∧ f a = b := by
  cases x with
  | ok a    => simp [Except.map]
  | error e => simp [Except.map]

theorem map_eq_error_iff {x : Except ε α} {f : α → β} {e : ε} :
    x.map f = .error e ↔ x = .error e := by
  cases x with
  | ok a    => simp [Except.map]
  | error e => simp [Except.map]

theorem mapError_eq_ok_iff {x : Except ε α} {f : ε → β} {a : α} :
    x.mapError f = .ok a ↔ x = .ok a := by
  cases x with
  | ok a    => simp [Except.mapError]
  | error e => simp [Except.mapError]

theorem mapError_eq_error_iff {x : Except ε α} {f : ε → β} {b : β} :
    x.mapError f = .error b ↔ ∃ e, x = .error e ∧ f e = b := by
  cases x with
  | ok a    => simp [Except.mapError]
  | error e => simp [Except.mapError]

theorem mapM_eq_ok_iff {f : α → Except ε β} {as : List α} {bs : List β} :
    as.mapM f = .ok bs ↔ List.Forall₂ (fun a b => f a = .ok b) as bs := by
  induction as generalizing bs with
  | nil => simp [pure, Except.pure, eq_comm]
  | cons a as ih =>
    simp only [List.mapM_cons, bind_eq_ok_iff, ih, List.forall₂_cons_left_iff]
    constructor
    · rintro ⟨b, hb, bs', hbs, hpure⟩
      cases hpure
      exact ⟨b, bs', hb, hbs, rfl⟩
    · rintro ⟨b, bs', hb, hbs, rfl⟩
      exact ⟨b, hb, bs', hbs, rfl⟩

/-- A traversal fails with the first fault, whatever comes after it. -/
theorem mapM_eq_error_iff {f : α → Except ε β} {as : List α} {e : ε} :
    as.mapM f = .error e ↔ ∃ before a after, as = before ++ a :: after ∧
      (∀ x ∈ before, ∃ b, f x = .ok b) ∧ f a = .error e := by
  induction as with
  | nil => simp [pure, Except.pure]
  | cons a as ih =>
    rw [List.mapM_cons]
    cases ha : f a with
    | error e' =>
      constructor
      · intro h
        cases h
        exact ⟨[], a, as, rfl, by simp, ha⟩
      · rintro ⟨before, x, after, hsplit, hbefore, hx⟩
        cases before with
        | nil =>
          cases hsplit
          cases ha.symm.trans hx
          rfl
        | cons y before =>
          cases hsplit
          obtain ⟨b, hb⟩ := hbefore a List.mem_cons_self
          cases ha.symm.trans hb
    | ok b =>
      have hstep : (Except.ok b >>= fun b => do return b :: (← as.mapM f)) = .error e ↔
          as.mapM f = .error e := by
        cases as.mapM f <;> simp [bind, Except.bind, pure, Except.pure]
      rw [hstep, ih]
      constructor
      · rintro ⟨before, x, after, rfl, hbefore, hx⟩
        exact ⟨a :: before, x, after, rfl, by simpa [ha] using hbefore, hx⟩
      · rintro ⟨before, x, after, hsplit, hbefore, hx⟩
        cases before with
        | nil =>
          cases hsplit
          cases ha.symm.trans hx
        | cons y before =>
          cases hsplit
          exact ⟨before, x, after, rfl, fun z hz => hbefore z (List.mem_cons_of_mem a hz), hx⟩

theorem mapM_eq_some_iff {f : α → Option β} {as : List α} {bs : List β} :
    as.mapM f = some bs ↔ List.Forall₂ (fun a b => f a = some b) as bs := by
  induction as generalizing bs with
  | nil => simp [eq_comm]
  | cons a as ih =>
    simp only [List.mapM_cons, Option.bind_eq_bind, Option.bind_eq_some_iff, ih,
      List.forall₂_cons_left_iff, Option.pure_def, Option.some.injEq]
    constructor
    · rintro ⟨b, hb, bs', hbs, rfl⟩
      exact ⟨b, bs', hb, hbs, rfl⟩
    · rintro ⟨b, bs', hb, hbs, rfl⟩
      exact ⟨b, hb, bs', hbs, rfl⟩

/-! ### Places of related lists -/

section Related

variable {R : α → β → Prop}

theorem forall₂_append_left {as as' : List α} {bs : List β}
    (h : List.Forall₂ R (as ++ as') bs) :
    ∃ cs cs', bs = cs ++ cs' ∧ List.Forall₂ R as cs ∧ List.Forall₂ R as' cs' := by
  induction as generalizing bs with
  | nil => exact ⟨[], bs, rfl, .nil, h⟩
  | cons a as ih =>
    obtain ⟨b, bs', hab, hrest, rfl⟩ := List.forall₂_cons_left_iff.mp h
    obtain ⟨cs, cs', rfl, hcs, hcs'⟩ := ih hrest
    exact ⟨b :: cs, cs', rfl, .cons hab hcs, hcs'⟩

theorem forall₂_append_cons_left {as as' : List α} {a : α} {bs : List β}
    (h : List.Forall₂ R (as ++ a :: as') bs) :
    ∃ cs b cs', bs = cs ++ b :: cs' ∧ List.Forall₂ R as cs ∧ R a b ∧ List.Forall₂ R as' cs' := by
  obtain ⟨cs, bs', rfl, hcs, hrest⟩ := forall₂_append_left h
  obtain ⟨b, cs', hab, hcs', rfl⟩ := List.forall₂_cons_left_iff.mp hrest
  exact ⟨cs, b, cs', rfl, hcs, hab, hcs'⟩

theorem forall₂_exists_left {as : List α} {bs : List β} (h : List.Forall₂ R as bs) {b : β}
    (hb : b ∈ bs) : ∃ a ∈ as, R a b := by
  obtain ⟨bs₁, bs₂, rfl⟩ := List.append_of_mem hb
  obtain ⟨as₁, a, as₂, rfl, -, hab, -⟩ := forall₂_append_cons_left (R := flip R) h.flip
  exact ⟨a, by simp, hab⟩

theorem exists_forall₂_iff {as : List α} :
    (∃ bs, List.Forall₂ R as bs) ↔ ∀ a ∈ as, ∃ b, R a b := by
  induction as with
  | nil => simp
  | cons a as ih =>
    rw [List.forall_mem_cons, ← ih]
    constructor
    · rintro ⟨bs, hbs⟩
      obtain ⟨b, bs', hab, hrest, rfl⟩ := List.forall₂_cons_left_iff.mp hbs
      exact ⟨⟨b, hab⟩, bs', hrest⟩
    · rintro ⟨⟨b, hab⟩, bs', hrest⟩
      exact ⟨b :: bs', .cons hab hrest⟩

/-- Elements that determine what they were made from, and are all of one kind. -/
theorem forall₂_map_eq_iff {f : β → α} {P : β → Prop} {as : List α} {bs : List β} :
    List.Forall₂ (fun a b => f b = a ∧ P b) as bs ↔ bs.map f = as ∧ ∀ b ∈ bs, P b := by
  induction bs generalizing as with
  | nil => simp [eq_comm]
  | cons b bs ih =>
    rw [List.forall₂_cons_right_iff, List.map_cons, List.forall_mem_cons]
    constructor
    · rintro ⟨a, as', ⟨rfl, hb⟩, hrest, rfl⟩
      obtain ⟨hmap, hbs⟩ := ih.mp hrest
      exact ⟨by rw [hmap], hb, hbs⟩
    · rintro ⟨rfl, hb, hbs⟩
      exact ⟨f b, bs.map f, ⟨rfl, hb⟩, ih.mpr ⟨rfl, hbs⟩, rfl⟩

end Related

/-! ### First and last places -/

theorem exists_first (P : α → Prop) (as : List α) :
    (∀ a ∈ as, ¬ P a) ∨
      ∃ before a after, as = before ++ a :: after ∧ P a ∧ ∀ b ∈ before, ¬ P b := by
  induction as with
  | nil => exact .inl (by simp)
  | cons a as ih =>
    by_cases ha : P a
    · exact .inr ⟨[], a, as, rfl, ha, by simp⟩
    · rcases ih with ih | ⟨before, x, after, rfl, hx, hbefore⟩
      · exact .inl (by simpa [ha] using ih)
      · exact .inr ⟨a :: before, x, after, rfl, hx, by simpa [ha] using hbefore⟩

theorem exists_last (P : α → Prop) (as : List α) :
    (∀ a ∈ as, ¬ P a) ∨ ∃ before a after, as = before ++ a :: after ∧ P a ∧ ∀ b ∈ after, ¬ P b := by
  rcases exists_first P as.reverse with h | ⟨before, a, after, has, ha, hbefore⟩
  · exact .inl (by simpa using h)
  · refine .inr ⟨after.reverse, a, before.reverse, ?_, ha, by simpa using hbefore⟩
    rw [List.reverse_eq_iff.mp has]
    simp

end Signpost
