import Signpost.Proofs.Transport.Limit

/-!
# The fields of a form

A form is taken apart at its ampersands before anything in it is decoded. So each piece yields its
field on its own, whatever its bytes are, and what is wrong in one piece does not reach the others:
`Transport.form_piecewise`.
-/

namespace Signpost

/-! ### Pieces -/

namespace Pairs

/-- The field of a piece, if there is one: an empty piece has none. -/
def field (piece : Bytes) : List (String × String) :=
  if piece = [] then [] else [readPair piece]

theorem ofUrlencoded_append (a b : Bytes) :
    (ofUrlencoded (a ++ ampersand :: b)).toList =
      (ofUrlencoded a).toList ++ (ofUrlencoded b).toList := by
  simp only [ofUrlencoded, List.splitOn_append_cons_self, List.filter_append, List.map_append]

theorem ofUrlencoded_piece {piece : Bytes} (h : ampersand ∉ piece) :
    (ofUrlencoded piece).toList = field piece := by
  have hsplit : piece.splitOn ampersand = [piece] := List.splitOn_eq_singleton h
  rw [ofUrlencoded, hsplit, field]
  by_cases hpiece : piece = []
  · simp [hpiece]
  · simp [hpiece]

theorem ofUrlencoded_pieces {pieces : List Bytes} (h : ∀ p ∈ pieces, ampersand ∉ p) :
    (ofUrlencoded ([ampersand].intercalate pieces)).toList = pieces.flatMap field := by
  induction pieces with
  | nil => rfl
  | cons p ps ih =>
    obtain ⟨hp, hps⟩ := List.forall_mem_cons.mp h
    by_cases hnil : ps = []
    · subst hnil
      simp [ofUrlencoded_piece hp]
    · rw [List.intercalate_cons_of_ne_nil hnil, List.append_assoc, List.singleton_append,
        ofUrlencoded_append, ofUrlencoded_piece hp, ih hps, List.flatMap_cons]

theorem size_ofUrlencoded (bs : Bytes) :
    (ofUrlencoded bs).size = (bs.splitOn ampersand).countP (· ≠ []) := by
  simp [ofUrlencoded, size, List.countP_eq_length_filter]

end Pairs

/-! ### Forms that are sent -/

namespace Transport

variable {i : Incoming} {limit : Nat} {request : Request}

/-- The request with a form of the given pieces for its body. -/
def Incoming.withPieces (i : Incoming) (pieces : List Bytes) : Incoming :=
  { i with body := .complete ([Pairs.ampersand].intercalate pieces) }

theorem form_of_pieces {pieces : List Bytes} (hform : isForm i.headers = true)
    (hpieces : ∀ p ∈ pieces, Pairs.ampersand ∉ p)
    (h : (i.withPieces pieces).decode limit = .ok request) :
    request.form.toList = pieces.flatMap Pairs.field := by
  obtain ⟨body, hbody, -, rfl⟩ := decode_eq_ok_iff.mp h
  cases hbody
  have hsent : ((i.withPieces pieces).request ([Pairs.ampersand].intercalate pieces)).form =
      .ofUrlencoded ([Pairs.ampersand].intercalate pieces) := request_form hform
  rw [hsent, Pairs.ofUrlencoded_pieces hpieces]

/-- A request with any body has the pieces of that body. -/
theorem withPieces_splitOn {body : Bytes} (hbody : i.body = .complete body) :
    i.withPieces (body.splitOn Pairs.ampersand) = i := by
  rw [Incoming.withPieces, List.intercalate_splitOn, ← hbody]

/-- What an ampersand stands between is read apart, and there are as many pairs as pieces that are
not empty. A form within the limit is read whatever its bytes are. If one piece of a form is altered
and the form is accepted again, the fields of all other pieces are the same and where they were. -/
theorem form_piecewise :
    (∀ a b, (Pairs.ofUrlencoded (a ++ Pairs.ampersand :: b)).toList =
        (Pairs.ofUrlencoded a).toList ++ (Pairs.ofUrlencoded b).toList) ∧
      (∀ bs, (Pairs.ofUrlencoded bs).size = (bs.splitOn Pairs.ampersand).countP (· ≠ [])) ∧
      (∀ (i : Incoming) limit body, isForm i.headers = true → i.body = .complete body →
        body.length ≤ limit →
          ∃ request, i.decode limit = .ok request ∧ request.form = .ofUrlencoded body) ∧
      ∀ (i : Incoming) limit body request, isForm i.headers = true → i.body = .complete body →
        i.decode limit = .ok request →
          ∀ before piece after, body.splitOn Pairs.ampersand = before ++ piece :: after →
            request.form.toList =
              before.flatMap Pairs.field ++ Pairs.field piece ++ after.flatMap Pairs.field ∧
            ∀ piece' request', Pairs.ampersand ∉ piece' →
              (i.withPieces (before ++ piece' :: after)).decode limit = .ok request' →
                request'.form.toList =
                  before.flatMap Pairs.field ++ Pairs.field piece' ++
                    after.flatMap Pairs.field := by
  refine ⟨Pairs.ofUrlencoded_append, Pairs.size_ofUrlencoded, ?_, ?_⟩
  · intro i limit body hform hbody hlimit
    exact ⟨_, decode_of_complete hbody hlimit, request_form hform⟩
  · intro i limit body request hform hbody h before piece after hsplit
    have hpieces : ∀ p ∈ before ++ piece :: after, Pairs.ampersand ∉ p := by
      intro p hp
      exact Text.not_mem_of_mem_splitOn (hsplit ▸ hp)
    constructor
    · rw [← withPieces_splitOn hbody, hsplit] at h
      rw [form_of_pieces hform hpieces h]
      simp
    · intro piece' request' hpiece' h'
      have hpieces' : ∀ p ∈ before ++ piece' :: after, Pairs.ampersand ∉ p := by
        rw [List.forall_mem_append, List.forall_mem_cons] at hpieces ⊢
        exact ⟨hpieces.1, hpiece', hpieces.2.2⟩
      rw [form_of_pieces hform hpieces' h']
      simp

theorem all_allows_formType : formType.all HeaderValue.allows = true := by decide +kernel

/-- The first piece ends in half a character and the second in half an escape, which the digit
behind the ampersand does not complete. Then a byte that begins no character is all that the second
piece is. -/
theorem form_piecewise_broken :
    let body := Utf8.ofString "a=%C3&b=%2&6=1"
    let i : Incoming :=
      { method := .post, target := "/"
        headers := ⟨[(.contentType, ⟨formType, all_allows_formType⟩)]⟩
        body := .complete body }
    let i' := i.withPieces [Utf8.ofString "a=%C3", [0xFF], Utf8.ofString "6=1"]
    ∃ request request', i.decode 14 = .ok request ∧ i'.decode 14 = .ok request' ∧
      request.form.toList = [("a", "\uFFFD"), ("b", "%2"), ("6", "1")] ∧
      request'.form.toList = [("a", "\uFFFD"), ("\uFFFD", ""), ("6", "1")] := by
  intro body i i'
  have hform : isForm i.headers = true := by decide +kernel
  obtain ⟨-, -, hread, haltered⟩ := form_piecewise
  obtain ⟨request, h, -⟩ := hread i 14 body hform rfl (by decide +kernel)
  obtain ⟨request', h', -⟩ := hread i' 14 _ hform rfl (by decide +kernel)
  have hsplit : body.splitOn Pairs.ampersand =
      [Utf8.ofString "a=%C3"] ++ Utf8.ofString "b=%2" :: [Utf8.ofString "6=1"] := by
    decide +kernel
  obtain ⟨hfields, hother⟩ := haltered i 14 body request hform rfl h _ _ _ hsplit
  have hfields' := hother [0xFF] request' (by decide) h'
  refine ⟨request, request', h, h', hfields.trans ?_, hfields'.trans ?_⟩
  · decide +kernel
  · decide +kernel

end Transport

end Signpost
