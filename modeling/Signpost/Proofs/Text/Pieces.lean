import Signpost.Text.Split

/-!
# Pieces

The pieces of a text are free of the separator they were cut at, and no other such texts join to it.
-/

namespace Signpost.Text

theorem not_mem_of_mem_splitOn {α : Type} [BEq α] [LawfulBEq α] {sep : α} {xs l : List α}
    (h : l ∈ xs.splitOn sep) : sep ∉ l := by
  induction xs generalizing l with
  | nil => simp_all
  | cons x xs ih =>
    rw [List.splitOn_cons_eq_if_modifyHead] at h
    split at h
    · rcases List.mem_cons.mp h with rfl | h
      · simp
      · exact ih h
    · rename_i hx
      obtain ⟨first, rest, hsplit⟩ := List.exists_cons_of_ne_nil (List.splitOn_ne_nil sep xs)
      rw [hsplit, List.modifyHead_cons] at h
      rw [hsplit] at ih
      rcases List.mem_cons.mp h with rfl | h
      · have hne : ¬ sep = x := fun hs => hx (by simp [hs])
        simpa [hne] using ih List.mem_cons_self
      · exact ih (List.mem_cons_of_mem first h)

/-- What is in joined lists is the separator or in one of them. -/
theorem mem_intercalate {α : Type} {sep x : α} {ls : List (List α)}
    (h : x ∈ [sep].intercalate ls) : x = sep ∨ ∃ l ∈ ls, x ∈ l := by
  induction ls with
  | nil => simp at h
  | cons l ls ih =>
    by_cases hls : ls = []
    · subst hls
      exact .inr ⟨l, by simp, by simpa using h⟩
    · rw [List.intercalate_cons_of_ne_nil hls, List.mem_append, List.mem_append] at h
      rcases h with (h | h) | h
      · exact .inr ⟨l, List.mem_cons_self, h⟩
      · exact .inl (List.mem_singleton.mp h)
      · rcases ih h with h | ⟨m, hm, h⟩
        · exact .inl h
        · exact .inr ⟨m, List.mem_cons_of_mem l hm, h⟩

theorem not_mem_of_mem_pieces {sep : Char} {s p : String} (h : p ∈ pieces sep s) :
    sep ∉ p.toList := by
  obtain ⟨l, hl, rfl⟩ := List.mem_map.mp h
  simpa using not_mem_of_mem_splitOn hl

/-- The pieces of a text are the one way to write it as pieces that are free of the separator. -/
theorem pieces_eq_iff {sep : Char} {s : String} {ps : List String} (hne : ps ≠ []) :
    pieces sep s = ps ↔ joined sep ps = s ∧ ∀ p ∈ ps, sep ∉ p.toList := by
  constructor
  · rintro rfl
    exact ⟨joined_pieces sep s, fun p hp => not_mem_of_mem_pieces hp⟩
  · rintro ⟨rfl, hfree⟩
    exact pieces_joined hne hfree

/-! ### Joined texts -/

theorem toList_joined_cons {sep : Char} {ps : List String} (h : ps ≠ []) (p : String) :
    (joined sep (p :: ps)).toList = p.toList ++ sep :: (joined sep ps).toList := by
  have hne : ps.map String.toList ≠ [] := by simpa using h
  simp [joined, List.intercalate_cons_of_ne_nil hne]

theorem mem_joined {sep c : Char} {ps : List String} (h : c ∈ (joined sep ps).toList) :
    c = sep ∨ ∃ p ∈ ps, c ∈ p.toList := by
  rw [joined, String.toList_ofList] at h
  rcases mem_intercalate h with rfl | ⟨l, hl, hc⟩
  · exact .inl rfl
  · obtain ⟨p, hp, rfl⟩ := List.mem_map.mp hl
    exact .inr ⟨p, hp, hc⟩

theorem subset_joined (sep : Char) {p : String} {ps : List String} (hp : p ∈ ps) :
    p.toList ⊆ (joined sep ps).toList := by
  induction ps with
  | nil => exact absurd hp List.not_mem_nil
  | cons q qs ih =>
    by_cases hqs : qs = []
    · subst hqs
      obtain rfl := List.mem_singleton.mp hp
      simp [joined]
    · rw [toList_joined_cons hqs]
      rcases List.mem_cons.mp hp with rfl | hp
      · exact List.subset_append_left _ _
      · exact fun c hc => List.mem_append_right _ (List.mem_cons_of_mem sep (ih hp hc))

/-- The separator between two stretches of joined texts can be counted to the second. -/
theorem joined_append (sep : Char) {ps qs : List String} (hps : ps ≠ []) (hqs : qs ≠ []) :
    joined sep (ps ++ qs) = joined sep ps ++ joined sep ("" :: qs) := by
  induction ps with
  | nil => exact absurd rfl hps
  | cons p ps ih =>
    rw [← String.toList_inj, String.toList_append, toList_joined_cons hqs, List.cons_append,
      toList_joined_cons (by simp [hqs])]
    by_cases hnil : ps = []
    · subst hnil
      simp [joined]
    · rw [ih hnil, String.toList_append, toList_joined_cons hqs, toList_joined_cons hnil]
      simp

/-- A text that starts with the separator has an empty first piece. -/
theorem pieces_of_head? {sep : Char} {s : String} (h : s.toList.head? = some sep) :
    ∃ p ps, pieces sep s = "" :: p :: ps := by
  obtain ⟨rest, hrest⟩ := List.head?_eq_some_iff.mp h
  obtain ⟨first, later, hsplit⟩ := List.exists_cons_of_ne_nil (List.splitOn_ne_nil sep rest)
  refine ⟨String.ofList first, later.map String.ofList, ?_⟩
  rw [pieces, hrest, List.splitOn_cons_eq_if_modifyHead, if_pos (by simp), hsplit]
  rfl

/-! ### Trailing separators -/

theorem dropTrailing_append_replicate {sep : Char} {s : String}
    (h : s.toList.getLast? ≠ some sep) (n : Nat) :
    dropTrailing sep (s ++ String.ofList (List.replicate n sep)) = s := by
  have hlast : s.toList.reverse.dropWhile (· == sep) = s.toList.reverse := by
    cases hs : s.toList.reverse with
    | nil => rfl
    | cons c cs =>
      rw [List.getLast?_eq_head?_reverse, hs] at h
      have hc : (c == sep) = false := by simpa using h
      rw [List.dropWhile_cons, hc]
      rfl
  rw [dropTrailing, String.toList_append, String.toList_ofList, List.reverse_append,
    List.reverse_replicate, List.dropWhile_append_of_pos (by simp), hlast]
  simp

/-- What is dropped is nothing but separators, and none is left at the end. -/
theorem exists_eq_dropTrailing_append (sep : Char) (s : String) :
    ∃ n, s = dropTrailing sep s ++ String.ofList (List.replicate n sep) ∧
      (dropTrailing sep s).toList.getLast? ≠ some sep := by
  have hdropped : s.toList.reverse.takeWhile (· == sep) =
      List.replicate (s.toList.reverse.takeWhile (· == sep)).length sep :=
    List.eq_replicate_of_mem fun c hc => by
      simpa using List.all_eq_true.mp List.all_takeWhile c hc
  have hsplit := List.takeWhile_append_dropWhile (p := (· == sep)) (l := s.toList.reverse)
  refine ⟨(s.toList.reverse.takeWhile (· == sep)).length, ?_, ?_⟩
  · rw [← String.toList_inj, dropTrailing, String.toList_append, String.toList_ofList,
      String.toList_ofList, ← List.reverse_replicate, ← hdropped, ← List.reverse_append, hsplit,
      List.reverse_reverse]
  · rw [dropTrailing, String.toList_ofList, List.getLast?_reverse]
    intro hhead
    have := List.head?_dropWhile_not (· == sep) s.toList.reverse
    rw [hhead] at this
    simp at this

end Signpost.Text
