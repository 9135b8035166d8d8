import Signpost.Pattern.Compile
import Signpost.Proofs.Text.Pieces
import Signpost.Proofs.Traversal

/-!
# Compiled patterns

`Pattern.compile_eq_ok_iff` takes the text of a pattern apart: a leading slash, then a segment for
each piece of the path part, then an entry for each piece of the query part. A segment that was
compiled renders as its piece, so the path part can be read back off the segments.
-/

namespace Signpost

/-! ### Segments -/

theorem Pattern.afterColon?_eq_some_iff {s name : String} :
    Pattern.afterColon? s = some name ↔ s = ":" ++ name := by
  unfold Pattern.afterColon?
  rw [← String.toList_inj, String.toList_append]
  split
  · rename_i rest hs
    simp [hs, ← String.toList_inj]
  · rename_i hs
    simp only [reduceCtorEq, false_iff]
    exact hs name.toList

namespace Segment

/-- A segment that can be told from its rendering: a literal does not look like a placeholder, and
a placeholder has a name. -/
def IsProper : Segment → Prop
  | literal text     => ∀ name, text ≠ ":" ++ name
  | placeholder name => name ≠ ""

theorem compile_eq_ok_iff {part : String} {s : Segment} :
    compile part = .ok s ↔ s.render = part ∧ s.IsProper := by
  unfold compile
  cases h : Pattern.afterColon? part with
  | some name =>
    obtain rfl := Pattern.afterColon?_eq_some_iff.mp h
    cases s with
    | literal text =>
      have hproper : ¬ ((literal text).render = ":" ++ name ∧ (literal text).IsProper) :=
        fun hs => hs.2 name hs.1
      rw [iff_false_right hproper]
      by_cases hname : name = "" <;> simp [hname]
    | placeholder n =>
      by_cases hname : name = ""
      · subst hname
        simp only [if_true, reduceCtorEq, render, IsProper, String.append_right_inj, false_iff]
        exact fun hs => hs.2 hs.1
      · simp only [if_neg hname, Except.ok.injEq, placeholder.injEq, render, IsProper,
          String.append_right_inj]
        constructor
        · rintro rfl
          exact ⟨rfl, hname⟩
        · exact fun hs => hs.1.symm
  | none =>
    have hcolon : ∀ name, part ≠ ":" ++ name := fun name hpart => by
      simp [Pattern.afterColon?_eq_some_iff.mpr hpart] at h
    cases s with
    | literal text =>
      simp only [Except.ok.injEq, literal.injEq, render, IsProper]
      exact ⟨fun ht => ⟨ht.symm, ht ▸ hcolon⟩, fun ht => ht.1.symm⟩
    | placeholder name =>
      simp only [Except.ok.injEq, reduceCtorEq, render, false_iff, not_and]
      exact fun hpart => absurd hpart.symm (hcolon name)

end Segment

/-! ### Patterns -/

namespace Pattern

/-- The pieces of the query part. -/
def entries (raw : String) : List String :=
  match (parts raw).2 with
  | none       => []
  | some query => Text.pieces '&' query

/-- The three parts of a pattern are read one after another. -/
theorem compile_eq (raw : String) :
    compile raw =
      if raw.toList.head? ≠ some '/' then .error .noLeadingSlash
      else
        (Text.pieces '/' (parts raw).1).mapM Segment.compile >>= fun segments =>
          (entries raw).mapM QueryEntry.compile >>= fun query => .ok ⟨raw, segments, query⟩ := by
  unfold compile entries
  by_cases hslash : raw.toList.head? ≠ some '/'
  · simp only [if_pos hslash]
    rfl
  · simp only [if_neg hslash]
    cases (parts raw).2 <;> rfl

theorem compile_eq_ok_iff {raw : String} {p : Pattern} :
    compile raw = .ok p ↔
      raw.toList.head? = some '/' ∧
        (Text.pieces '/' (parts raw).1).mapM Segment.compile = .ok p.segments ∧
        (entries raw).mapM QueryEntry.compile = .ok p.query ∧ p.raw = raw := by
  rw [compile_eq]
  by_cases hslash : raw.toList.head? = some '/'
  · simp only [ne_eq, hslash, not_true_eq_false, if_false, true_and]
    constructor
    · intro h
      obtain ⟨segments, hsegments, h⟩ := bind_eq_ok_iff.mp h
      obtain ⟨query, hquery, h⟩ := bind_eq_ok_iff.mp h
      cases h
      exact ⟨hsegments, hquery, rfl⟩
    · rintro ⟨hsegments, hquery, rfl⟩
      rw [hsegments, hquery]
      rfl
  · simp [hslash]

variable {raw : String} {p : Pattern}

/-- The segments render as the pieces of the path part. -/
theorem map_render_segments (h : compile raw = .ok p) :
    p.segments.map Segment.render = Text.pieces '/' (parts raw).1 := by
  have hall := mapM_eq_ok_iff.mp (compile_eq_ok_iff.mp h).2.1
  simp only [Segment.compile_eq_ok_iff, forall₂_map_eq_iff] at hall
  exact hall.1

theorem segments_ne_nil (h : compile raw = .ok p) : p.segments ≠ [] := by
  intro hnil
  have := map_render_segments h
  rw [hnil] at this
  exact Text.pieces_ne_nil _ _ this.symm

theorem slash_not_mem_render (h : compile raw = .ok p) {s : Segment} (hs : s ∈ p.segments) :
    '/' ∉ s.render.toList := by
  apply Text.not_mem_of_mem_pieces (s := (parts raw).1)
  rw [← map_render_segments h]
  exact List.mem_map_of_mem hs

end Pattern

end Signpost
