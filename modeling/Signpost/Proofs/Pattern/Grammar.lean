import Signpost.Proofs.Pattern.Compile
import Signpost.Router.Basic

/-!
# The grammar of patterns

Which texts are patterns, and what is wrong with the others. A pattern starts with a slash, gives
every placeholder of its path a name, and writes every entry of its query as `key=:name`.
`Pattern.compile_exact` says that compiling accepts these texts and no others, that `Pattern.render`
and compiling undo each other, and that a text that is refused has the fault it is refused for, with
nothing wrong before it.
-/

namespace Signpost

/-! ### Segments -/

namespace Segment

theorem compile_eq_error_iff {part : String} {fault : Pattern.Fault} :
    compile part = .error fault ↔ part = ":" ∧ fault = .namelessPlaceholder := by
  unfold compile
  cases h : Pattern.afterColon? part with
  | some name =>
    obtain rfl := Pattern.afterColon?_eq_some_iff.mp h
    by_cases hname : name = ""
    · simp [hname, eq_comm]
    · have hcolon : ":" ++ name ≠ ":" := fun hpart => hname (by simpa using hpart)
      simp [hname, hcolon]
  | none =>
    have hcolon : part ≠ ":" := by
      rintro rfl
      cases h.symm.trans (Pattern.afterColon?_eq_some_iff.mpr (String.append_empty (s := ":")).symm)
    simp [hcolon]

theorem exists_compile_iff {part : String} : (∃ s, compile part = .ok s) ↔ part ≠ ":" := by
  rw [exists_ok_iff]
  simp [compile_eq_error_iff]

end Segment

/-! ### Entries of the query -/

namespace QueryEntry

/-- An entry that can be told from its rendering: its key holds no equals sign, and neither the key
nor the name is missing. -/
structure IsProper (e : QueryEntry) : Prop where
  key : e.key ≠ "" ∧ '=' ∉ e.key.toList
  name : e.name ≠ ""

/-- The text of an entry. -/
def IsEntry (text : String) : Prop :=
  ∃ e : QueryEntry, e.render = text ∧ e.IsProper

/-- What is wrong with a text that is no entry. -/
inductive Faulty : String → Pattern.Fault → Prop
  | noEquals {text : String} (h : '=' ∉ text.toList) : Faulty text .entryWithoutEquals
  | noColon {key value : String} (hkey : '=' ∉ key.toList) (hvalue : ∀ name, value ≠ ":" ++ name) :
      Faulty (key ++ "=" ++ value) .entryWithoutPlaceholder
  | empty {key name : String} (hkey : '=' ∉ key.toList) (h : key = "" ∨ name = "") :
      Faulty (key ++ "=:" ++ name) .emptyKeyOrName

theorem cut_assigned {key value : String} (hkey : '=' ∉ key.toList) :
    Text.cut '=' (key ++ "=" ++ value) = some (key, value) :=
  Text.cut_eq_some_iff.mpr ⟨by simp, hkey⟩

theorem compile_assigned {key : String} (hkey : '=' ∉ key.toList) (name : String) :
    compile (key ++ "=:" ++ name) =
      if key = "" ∨ name = "" then .error .emptyKeyOrName else .ok ⟨key, name⟩ := by
  have htext : key ++ "=:" ++ name = key ++ "=" ++ (":" ++ name) := by
    simp [← String.toList_inj]
  rw [htext]
  simp only [compile, cut_assigned hkey, Pattern.afterColon?_eq_some_iff.mpr rfl]

theorem IsProper.compile_eq {e : QueryEntry} (h : e.IsProper) : compile e.render = .ok e := by
  rw [render, compile_assigned h.key.2, if_neg (not_or.mpr ⟨h.key.1, h.name⟩)]

variable {text : String} {fault : Pattern.Fault}

theorem Faulty.compile_eq (h : Faulty text fault) : compile text = .error fault := by
  cases h with
  | noEquals hequals => simp only [compile, Text.cut_eq_none_iff.mpr hequals]
  | @noColon key value hkey hvalue =>
    have hcolon : Pattern.afterColon? value = none :=
      Option.eq_none_iff_forall_ne_some.mpr fun name hname =>
        hvalue name (Pattern.afterColon?_eq_some_iff.mp hname)
    simp only [compile, cut_assigned hkey, hcolon]
  | empty hkey hempty => rw [compile_assigned hkey, if_pos hempty]

theorem faulty_or_isEntry (text : String) : (∃ fault, Faulty text fault) ∨ IsEntry text := by
  cases hcut : Text.cut '=' text with
  | none => exact .inl ⟨_, .noEquals (Text.cut_eq_none_iff.mp hcut)⟩
  | some kv =>
    obtain ⟨key, value⟩ := kv
    obtain ⟨htext, hkey⟩ := Text.cut_eq_some_iff.mp hcut
    obtain rfl : text = key ++ "=" ++ value := by simpa [← String.toList_inj] using htext
    by_cases hvalue : ∀ name, value ≠ ":" ++ name
    · exact .inl ⟨_, .noColon hkey hvalue⟩
    · obtain ⟨name, hname⟩ := Classical.not_forall.mp hvalue
      obtain rfl := Classical.not_not.mp hname
      have hrender : QueryEntry.render ⟨key, name⟩ = key ++ "=" ++ (":" ++ name) := by
        simp [render, ← String.toList_inj]
      rw [← hrender]
      by_cases hempty : key = "" ∨ name = ""
      · exact .inl ⟨_, .empty hkey hempty⟩
      · obtain ⟨hk, hn⟩ := not_or.mp hempty
        exact .inr ⟨⟨key, name⟩, rfl, ⟨hk, hkey⟩, hn⟩

theorem compile_eq_ok_iff {e : QueryEntry} :
    compile text = .ok e ↔ e.render = text ∧ e.IsProper := by
  constructor
  · intro h
    rcases faulty_or_isEntry text with ⟨fault, hfault⟩ | ⟨e', rfl, hproper⟩
    · cases hfault.compile_eq.symm.trans h
    · cases hproper.compile_eq.symm.trans h
      exact ⟨rfl, hproper⟩
  · rintro ⟨rfl, hproper⟩
    exact hproper.compile_eq

theorem compile_eq_error_iff : compile text = .error fault ↔ Faulty text fault := by
  constructor
  · intro h
    rcases faulty_or_isEntry text with ⟨fault', hfault⟩ | ⟨e, rfl, hproper⟩
    · cases hfault.compile_eq.symm.trans h
      exact hfault
    · cases hproper.compile_eq.symm.trans h
  · exact Faulty.compile_eq

theorem exists_compile_iff : (∃ e, compile text = .ok e) ↔ IsEntry text := by
  simp only [compile_eq_ok_iff, IsEntry]

end QueryEntry

/-! ### The two parts of a text -/

namespace Pattern

variable {raw path : String} {query? : Option String}

/-- The text is a path without a question mark and, behind the first question mark, a query. -/
inductive Splits : String → String → Option String → Prop
  | bare {path : String} (h : '?' ∉ path.toList) : Splits path path none
  | query {path query : String} (h : '?' ∉ path.toList) :
      Splits (path ++ "?" ++ query) path (some query)

theorem splits_parts (raw : String) : Splits raw (parts raw).1 (parts raw).2 := by
  unfold parts
  cases hcut : Text.cut '?' raw with
  | none => exact .bare (Text.cut_eq_none_iff.mp hcut)
  | some pq =>
    obtain ⟨path, query⟩ := pq
    obtain ⟨htext, hpath⟩ := Text.cut_eq_some_iff.mp hcut
    obtain rfl : raw = path ++ "?" ++ query := by simpa [← String.toList_inj] using htext
    exact .query hpath

theorem Splits.parts_eq (h : Splits raw path query?) : parts raw = (path, query?) := by
  cases h with
  | bare hpath => simp only [parts, Text.cut_eq_none_iff.mpr hpath]
  | @query path query hpath =>
    have hcut : Text.cut '?' (path ++ "?" ++ query) = some (path, query) :=
      Text.cut_eq_some_iff.mpr ⟨by simp, hpath⟩
    simp only [parts, hcut]

theorem Splits.mem_entries_iff (h : Splits raw path query?) {entry : String} :
    entry ∈ entries raw ↔ ∃ query, query? = some query ∧ entry ∈ Text.pieces '&' query := by
  rw [entries, h.parts_eq]
  cases query? <;> simp

/-! ### Rendering -/

/-- Segments and entries that can be told from their rendering. -/
structure WellFormed (segments : List Segment) (query : List QueryEntry) : Prop where
  /-- The path starts with a slash. -/
  rooted : ∃ s rest, segments = .literal "" :: s :: rest
  segments : ∀ s ∈ segments, s.IsProper ∧ '/' ∉ s.render.toList ∧ '?' ∉ s.render.toList
  query : ∀ e ∈ query, e.IsProper ∧ '&' ∉ e.render.toList

/-- Segments and entries are compiled from texts that they render as. -/
theorem compile_eq_ok_iff_rendered {p : Pattern} :
    compile raw = .ok p ↔
      raw.toList.head? = some '/' ∧
        (p.segments.map Segment.render = Text.pieces '/' (parts raw).1 ∧
          ∀ s ∈ p.segments, s.IsProper) ∧
        (p.query.map QueryEntry.render = entries raw ∧ ∀ e ∈ p.query, e.IsProper) ∧
        p.raw = raw := by
  rw [compile_eq_ok_iff, mapM_eq_ok_iff, mapM_eq_ok_iff]
  simp only [Segment.compile_eq_ok_iff, QueryEntry.compile_eq_ok_iff, forall₂_map_eq_iff]

namespace WellFormed

variable {segments : List Segment} {query : List QueryEntry}

theorem pieces_path (h : WellFormed segments query) :
    Text.pieces '/' (Text.joined '/' (segments.map Segment.render)) =
      segments.map Segment.render := by
  refine Text.pieces_joined ?_ ?_
  · obtain ⟨s, rest, rfl⟩ := h.rooted
    simp
  · intro part hpart
    obtain ⟨s, hs, rfl⟩ := List.mem_map.mp hpart
    exact (h.segments s hs).2.1

theorem head?_path (h : WellFormed segments query) :
    (Text.joined '/' (segments.map Segment.render)).toList.head? = some '/' := by
  obtain ⟨s, rest, rfl⟩ := h.rooted
  rw [List.map_cons, Text.toList_joined_cons (by simp)]
  rfl

theorem splits (h : WellFormed segments query) :
    Splits (render segments query) (Text.joined '/' (segments.map Segment.render))
      (if query.isEmpty then none else some (Text.joined '&' (query.map QueryEntry.render))) := by
  have hpath : '?' ∉ (Text.joined '/' (segments.map Segment.render)).toList := by
    intro hmem
    rcases Text.mem_joined hmem with hslash | ⟨part, hpart, hmem⟩
    · exact absurd hslash (by decide)
    · obtain ⟨s, hs, rfl⟩ := List.mem_map.mp hpart
      exact (h.segments s hs).2.2 hmem
  by_cases hquery : query.isEmpty = true
  · simpa only [render, if_pos hquery] using Splits.bare hpath
  · simpa only [render, if_neg hquery] using Splits.query hpath

theorem entries_eq (h : WellFormed segments query) :
    entries (render segments query) = query.map QueryEntry.render := by
  rw [entries, h.splits.parts_eq]
  cases query with
  | nil => rfl
  | cons e es =>
    refine Text.pieces_joined (by simp) ?_
    intro entry hentry
    obtain ⟨e', he', rfl⟩ := List.mem_map.mp hentry
    exact (h.query e' he').2

theorem head?_render (h : WellFormed segments query) :
    (render segments query).toList.head? = some '/' := by
  have hpath := h.head?_path
  by_cases hquery : query.isEmpty = true
  · rwa [render, if_pos hquery]
  · rw [render, if_neg hquery, String.toList_append, String.toList_append, List.append_assoc,
      List.head?_append, hpath, Option.some_or]

theorem compile_eq (h : WellFormed segments query) :
    compile (render segments query) = .ok ⟨render segments query, segments, query⟩ := by
  rw [compile_eq_ok_iff_rendered, h.entries_eq, h.splits.parts_eq, h.pieces_path]
  exact ⟨h.head?_render, ⟨rfl, fun s hs => (h.segments s hs).1⟩,
    ⟨rfl, fun e he => (h.query e he).1⟩, rfl⟩

end WellFormed

variable {p : Pattern}

theorem render_of_compile (h : compile raw = .ok p) : render p.segments p.query = raw := by
  obtain ⟨-, ⟨hsegments, -⟩, ⟨hquery, -⟩, -⟩ := compile_eq_ok_iff_rendered.mp h
  have hsplits := splits_parts raw
  rw [entries] at hquery
  rw [render, hquery, hsegments, Text.joined_pieces]
  generalize (parts raw).1 = path at hsplits
  generalize (parts raw).2 = query? at hsplits hquery
  cases hsplits with
  | bare =>
    have hnil : p.query = [] := List.map_eq_nil_iff.mp hquery
    simp [hnil]
  | @query _ query hpath =>
    have hne : p.query ≠ [] := by
      intro hnil
      rw [hnil] at hquery
      exact Text.pieces_ne_nil '&' query hquery.symm
    simp [hne, Text.joined_pieces]

theorem Splits.head?_path (h : Splits raw path query?) (hraw : raw.toList.head? = some '/') :
    path.toList.head? = some '/' := by
  cases h with
  | bare => exact hraw
  | query =>
    cases hpath : path.toList with
    | nil      => simp [hpath] at hraw
    | cons c _ => simpa [hpath] using hraw

theorem wellFormed_of_compile (h : compile raw = .ok p) : WellFormed p.segments p.query := by
  obtain ⟨hslash, ⟨hsegments, hproper⟩, ⟨hquery, hentries⟩, -⟩ := compile_eq_ok_iff_rendered.mp h
  have hsplits := splits_parts raw
  have hmark : '?' ∉ (parts raw).1.toList := by
    generalize (parts raw).1 = path at hsplits
    generalize (parts raw).2 = query? at hsplits
    cases hsplits <;> assumption
  constructor
  case rooted =>
    obtain ⟨part, rest, hpieces⟩ := Text.pieces_of_head? (hsplits.head?_path hslash)
    rw [hpieces] at hsegments
    obtain ⟨s, ss, hss, hs, hrest⟩ := List.map_eq_cons_iff.mp hsegments
    obtain ⟨t, ts, rfl, -, -⟩ := List.map_eq_cons_iff.mp hrest
    cases s with
    | literal text     => exact ⟨t, ts, by rw [hss, show text = "" from hs]⟩
    | placeholder name => simp [Segment.render] at hs
  case segments =>
    intro s hs
    have hpiece : s.render ∈ Text.pieces '/' (parts raw).1 :=
      hsegments ▸ List.mem_map_of_mem hs
    have hsubset := Text.subset_joined '/' hpiece
    rw [Text.joined_pieces] at hsubset
    exact ⟨hproper s hs, Text.not_mem_of_mem_pieces hpiece, fun hmem => hmark (hsubset hmem)⟩
  case query =>
    intro e he
    have hentry : e.render ∈ entries raw := hquery ▸ List.mem_map_of_mem he
    obtain ⟨query, -, hpiece⟩ := hsplits.mem_entries_iff.mp hentry
    exact ⟨hentries e he, Text.not_mem_of_mem_pieces hpiece⟩

/-! ### Texts that are patterns -/

theorem head?_eq_slash_iff : raw.toList.head? = some '/' ↔ ∃ rest, raw = "/" ++ rest := by
  rw [List.head?_eq_some_iff]
  constructor
  · rintro ⟨rest, hrest⟩
    exact ⟨String.ofList rest, by simp [← String.toList_inj, hrest]⟩
  · rintro ⟨rest, rfl⟩
    exact ⟨rest.toList, by simp⟩

/-- The text of a pattern: a slash in front, no colon alone between slashes before the first
question mark, and entries of a query behind it. -/
def InGrammar (raw : String) : Prop :=
  (∃ rest, raw = "/" ++ rest) ∧ ∃ path query?, Splits raw path query? ∧
    ":" ∉ Text.pieces '/' path ∧
    ∀ query, query? = some query → ∀ entry ∈ Text.pieces '&' query, QueryEntry.IsEntry entry

/-- The first fault of a text that is no pattern. -/
inductive FirstFault (raw : String) : Fault → Prop
  | slash (h : ∀ rest, raw ≠ "/" ++ rest) : FirstFault raw .noLeadingSlash
  | segment {path : String} {query? : Option String} (hslash : ∃ rest, raw = "/" ++ rest)
      (hsplits : Splits raw path query?) (hcolon : ":" ∈ Text.pieces '/' path) :
      FirstFault raw .namelessPlaceholder
  | entry {path query entry : String} {before after : List String} {fault : Fault}
      (hslash : ∃ rest, raw = "/" ++ rest) (hsplits : Splits raw path (some query))
      (hcolon : ":" ∉ Text.pieces '/' path)
      (hentries : Text.pieces '&' query = before ++ entry :: after)
      (hbefore : ∀ e ∈ before, QueryEntry.IsEntry e) (hfault : QueryEntry.Faulty entry fault) :
      FirstFault raw fault

theorem mapM_segments_eq_error_iff {pieces : List String} {fault : Fault} :
    pieces.mapM Segment.compile = .error fault ↔
      ":" ∈ pieces ∧ fault = .namelessPlaceholder := by
  simp only [mapM_eq_error_iff, Segment.compile_eq_error_iff, Segment.exists_compile_iff]
  constructor
  · rintro ⟨before, part, after, rfl, -, rfl, rfl⟩
    exact ⟨by simp, rfl⟩
  · rintro ⟨hmem, rfl⟩
    obtain ⟨before, after, hpieces, hbefore⟩ := List.eq_append_cons_of_mem hmem
    exact ⟨before, ":", after, hpieces, fun part hpart heq => hbefore (heq ▸ hpart), rfl, rfl⟩

theorem exists_segments_iff {pieces : List String} :
    (∃ ss, pieces.mapM Segment.compile = .ok ss) ↔ ":" ∉ pieces := by
  rw [exists_ok_iff]
  simp [mapM_segments_eq_error_iff]

theorem exists_compile_iff : (∃ p, compile raw = .ok p) ↔ InGrammar raw := by
  have hsplits := splits_parts raw
  have hparts : (∃ p, compile raw = .ok p) ↔ raw.toList.head? = some '/' ∧
      (∃ ss, (Text.pieces '/' (parts raw).1).mapM Segment.compile = .ok ss) ∧
      ∃ es, (entries raw).mapM QueryEntry.compile = .ok es := by
    simp only [compile_eq_ok_iff]
    constructor
    · rintro ⟨p, hslash, hsegments, hquery, -⟩
      exact ⟨hslash, ⟨_, hsegments⟩, _, hquery⟩
    · rintro ⟨hslash, ⟨ss, hsegments⟩, es, hquery⟩
      exact ⟨⟨raw, ss, es⟩, hslash, hsegments, hquery, rfl⟩
  rw [hparts, head?_eq_slash_iff, exists_segments_iff, InGrammar]
  simp only [mapM_eq_ok_iff, exists_forall₂_iff, QueryEntry.exists_compile_iff]
  constructor
  · rintro ⟨hslash, hcolon, hentries⟩
    refine ⟨hslash, _, _, hsplits, hcolon, fun query hquery entry hentry => ?_⟩
    exact hentries entry (hsplits.mem_entries_iff.mpr ⟨query, hquery, hentry⟩)
  · rintro ⟨hslash, path, query?, hsplits', hcolon, hentries⟩
    rw [hsplits'.parts_eq]
    refine ⟨hslash, hcolon, fun entry hentry => ?_⟩
    obtain ⟨query, hquery, hpiece⟩ := hsplits'.mem_entries_iff.mp hentry
    exact hentries query hquery entry hpiece

theorem FirstFault.of_compile {fault : Fault} (h : compile raw = .error fault) :
    FirstFault raw fault := by
  have hsplits := splits_parts raw
  rw [compile_eq] at h
  by_cases hhead : raw.toList.head? = some '/'
  · have hslash := head?_eq_slash_iff.mp hhead
    rw [if_neg (not_not_intro hhead)] at h
    rcases bind_eq_error_iff.mp h with h | ⟨ss, hss, h⟩
    · obtain ⟨hcolon, rfl⟩ := mapM_segments_eq_error_iff.mp h
      exact .segment hslash hsplits hcolon
    have hcolon := exists_segments_iff.mp ⟨ss, hss⟩
    rcases bind_eq_error_iff.mp h with h | ⟨es, -, h⟩
    · obtain ⟨before, entry, after, hentries, hbefore, hfault⟩ := mapM_eq_error_iff.mp h
      rw [entries] at hentries
      generalize (parts raw).1 = path at hsplits hcolon
      generalize (parts raw).2 = query? at hsplits hentries
      cases query? with
      | none       => simp at hentries
      | some query =>
        exact .entry hslash hsplits hcolon hentries
          (fun e he => QueryEntry.exists_compile_iff.mp (hbefore e he))
          (QueryEntry.compile_eq_error_iff.mp hfault)
    · cases h
  · rw [if_pos hhead] at h
    cases h
    exact .slash fun rest hrest => hhead (head?_eq_slash_iff.mpr ⟨rest, hrest⟩)

theorem FirstFault.compile_eq {fault : Fault} (h : FirstFault raw fault) :
    compile raw = .error fault := by
  rw [Pattern.compile_eq]
  cases h with
  | slash hslash =>
    refine if_pos fun hhead => ?_
    obtain ⟨rest, hrest⟩ := head?_eq_slash_iff.mp hhead
    exact hslash rest hrest
  | segment hslash hsplits hcolon =>
    rw [if_neg (not_not_intro (head?_eq_slash_iff.mpr hslash)), hsplits.parts_eq,
      mapM_segments_eq_error_iff.mpr ⟨hcolon, rfl⟩]
    rfl
  | @entry path query entry before after _ hslash hsplits hcolon hentries hbefore hfault =>
    obtain ⟨ss, hss⟩ := exists_segments_iff.mpr hcolon
    have hquery : (entries raw).mapM QueryEntry.compile = .error fault := by
      rw [entries, hsplits.parts_eq]
      exact mapM_eq_error_iff.mpr ⟨before, entry, after, hentries,
        fun e he => QueryEntry.exists_compile_iff.mpr (hbefore e he), hfault.compile_eq⟩
    rw [if_neg (not_not_intro (head?_eq_slash_iff.mpr hslash)), hsplits.parts_eq, hss, hquery]
    rfl

theorem compile_eq_error_iff {fault : Fault} : compile raw = .error fault ↔ FirstFault raw fault :=
  ⟨.of_compile, FirstFault.compile_eq⟩

/-- An endpoint that is refused for its pattern is refused with the text and the fault of the
pattern, whatever else is wrong with it. -/
theorem make_eq_pattern_fault_iff {method : Method} {handler : Handler} {text : String}
    {fault : Fault} :
    Endpoint.make method raw handler = .error (.pattern text fault) ↔
      text = raw ∧ compile raw = .error fault := by
  unfold Endpoint.make
  cases compile raw with
  | error e => simp [eq_comm]
  | ok p =>
    simp only [reduceCtorEq, and_false, iff_false]
    split
    · simp
    · split <;> simp

/-- Compiling accepts exactly the texts in the grammar. What it makes of them is well formed and
renders as the text, and of segments and entries that are well formed it makes them again from
their rendering. A text that is refused is refused with its first fault, and so is an endpoint
under it. -/
theorem compile_exact (raw : String) :
    ((∃ p, compile raw = .ok p) ↔ InGrammar raw) ∧
      (∀ p, compile raw = .ok p →
        p.raw = raw ∧ render p.segments p.query = raw ∧ WellFormed p.segments p.query) ∧
      (∀ segments query, WellFormed segments query →
        compile (render segments query) = .ok ⟨render segments query, segments, query⟩) ∧
      (∀ fault, compile raw = .error fault ↔ FirstFault raw fault) ∧
      ∀ method handler text fault,
        Endpoint.make method raw handler = .error (.pattern text fault) ↔
          text = raw ∧ FirstFault raw fault := by
  refine ⟨exists_compile_iff, ?_, fun _ _ h => h.compile_eq, fun _ => compile_eq_error_iff, ?_⟩
  · intro p h
    exact ⟨(compile_eq_ok_iff.mp h).2.2.2, render_of_compile h, wellFormed_of_compile h⟩
  · intro method handler text fault
    rw [make_eq_pattern_fault_iff, compile_eq_error_iff]

-- A colon alone comes before what is wrong with the query, and an entry before those behind it.
example : compile "/:?b" = .error .namelessPlaceholder ∧
    compile "/a?b=:c=d&e=f&g" = .error .entryWithoutPlaceholder := by
  decide +kernel

end Pattern

end Signpost
