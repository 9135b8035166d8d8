/-!
# Cutting text at a separator

`pieces` takes a text apart at every separator and `joined` puts it together again; `cut` takes it
apart at the first separator only. `joined_pieces` and `pieces_joined` say that the first two undo
each other on pieces that are free of the separator, `cut_eq_some_iff` says what a cut is.
-/

namespace Signpost.Text

variable {α : Type}

/-! ### At every separator -/

/-- The stretches of `s` between its separators: one more than there are separators. -/
def pieces (sep : Char) (s : String) : List String :=
  (s.toList.splitOn sep).map String.ofList

/-- The texts `ps` one after another, with a separator between neighbours. -/
def joined (sep : Char) (ps : List String) : String :=
  String.ofList ([sep].intercalate (ps.map String.toList))

theorem joined_pieces (sep : Char) (s : String) : joined sep (pieces sep s) = s := by
  simp [joined, pieces, Function.comp_def, List.intercalate_splitOn]

theorem pieces_joined {sep : Char} {ps : List String} (hne : ps ≠ [])
    (hfree : ∀ p ∈ ps, sep ∉ p.toList) : pieces sep (joined sep ps) = ps := by
  have h : ∀ l ∈ ps.map String.toList, sep ∉ l := by
    intro l hl
    obtain ⟨p, hp, rfl⟩ := List.mem_map.1 hl
    exact hfree p hp
  simp [joined, pieces, List.splitOn_intercalate sep h (by simpa using hne), Function.comp_def]

theorem pieces_ne_nil (sep : Char) (s : String) : pieces sep s ≠ [] := by
  simp [pieces, List.splitOn]

/-! ### At the first separator -/

section Cut

variable [DecidableEq α]

/-- What stands before the first `sep` and what stands after it; `none` without a separator. -/
def cutList (sep : α) : List α → Option (List α × List α)
  | []      => none
  | a :: as => if a = sep then some ([], as) else (cutList sep as).map fun (l, r) => (a :: l, r)

theorem cutList_eq_some_iff {sep : α} {as l r : List α} :
    cutList sep as = some (l, r) ↔ as = l ++ sep :: r ∧ sep ∉ l := by
  induction as generalizing l with
  | nil => simp [cutList]
  | cons a as ih =>
    by_cases h : a = sep
    · subst h
      cases l with
      | nil => simp [cutList]
      | cons b l => simp +contextual [cutList]
    · cases l with
      | nil => simp [cutList, h]
      | cons b l =>
        simp only [cutList, if_neg h, Option.map_eq_some_iff, Prod.exists, Prod.mk.injEq,
          List.cons.injEq, List.cons_append, List.mem_cons, not_or]
        constructor
        · rintro ⟨l', r', h', ⟨rfl, rfl⟩, rfl⟩
          exact ⟨⟨rfl, (ih.1 h').1⟩, Ne.symm h, (ih.1 h').2⟩
        · rintro ⟨⟨rfl, h₁⟩, -, h₂⟩
          exact ⟨l, r, ih.2 ⟨h₁, h₂⟩, ⟨rfl, rfl⟩, rfl⟩

theorem cutList_eq_none_iff {sep : α} {as : List α} : cutList sep as = none ↔ sep ∉ as := by
  induction as with
  | nil => simp [cutList]
  | cons a as ih =>
    by_cases h : a = sep
    · simp [cutList, h]
    · simp [cutList, h, ih, Ne.symm h]

end Cut

/-- The text before the first `sep` and the text after it; `none` without a separator. -/
def cut (sep : Char) (s : String) : Option (String × String) :=
  (cutList sep s.toList).map fun (l, r) => (String.ofList l, String.ofList r)

theorem cut_eq_some_iff {sep : Char} {s l r : String} :
    cut sep s = some (l, r) ↔
      s.toList = l.toList ++ sep :: r.toList ∧ sep ∉ l.toList := by
  simp only [cut, Option.map_eq_some_iff, Prod.exists, Prod.mk.injEq]
  constructor
  · rintro ⟨l', r', h, rfl, rfl⟩
    simpa using cutList_eq_some_iff.1 h
  · intro h
    exact ⟨l.toList, r.toList, cutList_eq_some_iff.2 h, by simp, by simp⟩

theorem cut_eq_none_iff {sep : Char} {s : String} : cut sep s = none ↔ sep ∉ s.toList := by
  simp [cut, cutList_eq_none_iff]

/-! ### At the edges -/

/-- The text without the separators it ends in. -/
def dropTrailing (sep : Char) (s : String) : String :=
  String.ofList (s.toList.reverse.dropWhile (· == sep)).reverse

end Signpost.Text
