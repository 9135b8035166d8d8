import Mathlib.Data.List.Nodup
import Signpost.Proofs.Pattern.Captures
import Signpost.Proofs.Transport.Decoding
import Signpost.Proofs.Transport.Paths

/-!
# Targets

A target that was made for values of a pattern leads back to them. In its path each byte that is
not kept is escaped; its query holds the values under the keys of the pattern, among any other
pairs. The decoded request is captured by the pattern, and the captured texts are the values:
`Pattern.captures_of_addresses`.
-/

namespace Signpost

/-! ### Paths -/

namespace Percent

abbrev slash : UInt8 := 0x2F

/-- Whether a byte has no meaning of its own anywhere in a target: an ASCII letter or digit, or one
of `-._~`. -/
def isUnreserved (b : UInt8) : Bool :=
  let n := b.toNat
  (0x30 ≤ n && n ≤ 0x39) || (0x41 ≤ n && n ≤ 0x5A) || (0x61 ≤ n && n ≤ 0x7A) ||
    n == 0x2D || n == 0x2E || n == 0x5F || n == 0x7E

/-- Whether a byte may be written as it stands in the path of a target. -/
def isKept (b : UInt8) : Bool :=
  b == slash || isUnreserved b

/-- In a path only kept bytes stand, each for itself. -/
def StandsInPath (b c : UInt8) : Prop :=
  isKept b = true ∧ c = b

/-- The text of a path with escapes for all bytes that are not kept. -/
abbrev SpellsPath (path text : String) : Prop :=
  Spells StandsInPath (Utf8.ofString path) (Utf8.ofString text)

theorem isAscii_of_isKept {b : UInt8} (h : isKept b = true) : Utf8.IsAscii b := by
  simp only [isKept, isUnreserved, Bool.or_eq_true, Bool.and_eq_true, decide_eq_true_eq,
    beq_iff_eq] at h
  rcases h with rfl | h
  · decide
  · omega

theorem isAscii_of_spellsPath {bs text : Bytes} (h : Spells StandsInPath bs text) {c : UInt8}
    (hc : c ∈ text) : Utf8.IsAscii c := by
  rcases h.of_mem hc with ⟨b, hb, rfl⟩ | rfl | hc
  · exact isAscii_of_isKept hb
  · decide
  · exact digit?_isAscii hc

variable {path text : String}

theorem readPath_of_spells (h : SpellsPath path text) : Transport.readPath text = path := by
  refine Transport.readPath_of_spells (h.mono ?_)
  rintro b _ ⟨hb, rfl⟩
  refine ⟨?_, rfl⟩
  rintro rfl
  exact absurd hb (by decide)

theorem questionMark_not_mem_of_spells (h : SpellsPath path text) : '?' ∉ text.toList := by
  intro hmem
  rcases h.of_mem (Utf8.mem_ofString (by decide) hmem) with ⟨b, hb, rfl⟩ | hmark | hdigit
  · exact absurd hb (by decide)
  · exact absurd hmark (by decide)
  · exact absurd hdigit (by decide)

/-- A path as text, with capital digits. -/
def writePath (path : String) : String :=
  Utf8.toString ((Utf8.ofString path).flatMap fun b => if isKept b then [b] else escape b)

theorem spells_writePath (path : String) : SpellsPath path (writePath path) := by
  have hbyte : ∀ b, Spells StandsInPath [b] (if isKept b then [b] else escape b) := by
    intro b
    by_cases hb : isKept b = true
    · simpa [hb] using Spells.short ⟨hb, rfl⟩ .nil
    · simpa [hb] using spells_escape b
  have hspells := spells_flatMap hbyte (Utf8.ofString path)
  rwa [SpellsPath, writePath, Utf8.ofString_toString fun _ hc => isAscii_of_spellsPath hspells hc]

end Percent

/-! ### Queries -/

/-- A key with one value has that value. -/
theorem Pairs.get?_of_mem {kv : Pairs} {key value : String} (hmem : (key, value) ∈ kv.toList)
    (hone : ∀ p ∈ kv.toList, p.1 = key → p.2 = value) : kv.get? key = some value := by
  obtain ⟨ps⟩ := kv
  induction ps with
  | nil => exact absurd hmem List.not_mem_nil
  | cons p ps ih =>
    obtain ⟨k, v⟩ := p
    rw [get?_cons]
    by_cases hk : key = k
    · rw [if_pos hk]
      exact congrArg some (hone (k, v) List.mem_cons_self hk.symm)
    · have hrest : (key, value) ∈ ps := by simpa [hk] using hmem
      rw [if_neg hk]
      exact ih hrest fun p hp => hone p (List.mem_cons_of_mem _ hp)

namespace Pattern

/-- The keys of the query part. -/
def keys (p : Pattern) : List String :=
  p.query.map QueryEntry.key

/-- The pairs hold each value under the key at its place, and nothing else under a key of the
pattern. -/
def Carries (p : Pattern) (sent : Pairs) (qs : List String) : Prop :=
  ∃ others : List (String × String), sent.toList.Perm (p.keys.zip qs ++ others) ∧
    ∀ o ∈ others, o.1 ∉ p.keys

variable {p : Pattern} {sent : Pairs} {ps qs : List String}

/-- In pairs that carry values for different keys each key is found with its value. -/
theorem Carries.get? (h : p.Carries sent qs) (hkeys : p.keys.Nodup)
    (hqs : qs.length = p.query.length) :
    List.Forall₂ (fun e v => sent.get? e.key = some v) p.query qs := by
  obtain ⟨others, hperm, hothers⟩ := h
  refine List.forall₂_iff_zip.mpr ⟨hqs.symm, fun {e v} hev => ?_⟩
  have hpair : (e.key, v) ∈ p.keys.zip qs := by
    rw [keys, List.zip_map_left]
    exact List.mem_map.mpr ⟨(e, v), hev, rfl⟩
  have hkey : e.key ∈ p.keys := (List.of_mem_zip hpair).1
  have hfirsts : ((p.keys.zip qs).map Prod.fst).Nodup := by
    rwa [List.map_fst_zip (by simp [keys, hqs])]
  refine Pairs.get?_of_mem (hperm.mem_iff.mpr (List.mem_append_left _ hpair)) ?_
  intro q hq hqkey
  rcases List.mem_append.mp (hperm.mem_iff.mp hq) with hq | hq
  · exact congrArg Prod.snd (List.inj_on_of_nodup_map hfirsts hq hpair hqkey)
  · exact absurd (hqkey ▸ hkey) (hothers q hq)

/-! ### Targets of a pattern -/

/-- The target is made for values of the placeholders: its path spells the path that `ps` make, and
its query spells pairs that carry `qs`. Where there are no pairs, there may be no query. -/
inductive Addresses (p : Pattern) (ps qs : List String) : String → Prop
  | spelled {path query : String} {sent : Pairs} (hpath : Percent.SpellsPath (p.fill ps) path)
      (hsent : p.Carries sent qs) (hquery : sent.Spells (Utf8.ofString query)) :
      Addresses p ps qs (path ++ "?" ++ query)
  | bare {path : String} (hpath : Percent.SpellsPath (p.fill ps) path)
      (hsent : p.Carries .empty qs) : Addresses p ps qs path

theorem exists_addresses (p : Pattern) (ps qs : List String) :
    ∃ target, p.Addresses ps qs target := by
  let sent : Pairs := ⟨p.keys.zip qs⟩
  have hsent : p.Carries sent qs := ⟨[], by simp [sent], by simp⟩
  have hquery : sent.Spells (Utf8.ofString (Utf8.toString sent.toUrlencoded)) := by
    rw [Pairs.ofString_toString_toUrlencoded]
    exact Pairs.spells_toUrlencoded sent
  exact ⟨_, .spelled (Percent.spells_writePath (p.fill ps)) hsent hquery⟩

/-- Values make a target, and every target that is made for them leads back: the decoded request is
captured, and the captured texts are the values. -/
theorem captures_of_addresses {raw : String} (h : compile raw = .ok p) (hkeys : p.keys.Nodup)
    (hps : ps.length = (Segment.names p.segments).length)
    (hwhole : ∀ v ∈ ps, v ≠ "" ∧ '/' ∉ v.toList) (hqs : qs.length = p.query.length) :
    (∃ target, p.Addresses ps qs target) ∧
      ∀ (i : Transport.Incoming) limit body, p.Addresses ps qs i.target →
        i.body = .complete body → body.length ≤ limit →
          ∃ request, i.decode limit = .ok request ∧
            p.captures request.path request.query = some (ps ++ qs) := by
  refine ⟨exists_addresses p ps qs, fun i limit body htarget hbody hlimit => ?_⟩
  refine ⟨_, Transport.decode_of_complete hbody hlimit, ?_⟩
  have hcaptured : ∀ sent, p.Carries sent qs → p.captures (p.fill ps) sent = some (ps ++ qs) := by
    intro sent hsent
    refine captures_eq_some_iff_parts.mpr ⟨ps, qs, ?_, hsent.get? hkeys hqs, rfl⟩
    exact (captureAll_pieces_iff h).mpr ⟨hps, rfl, hwhole⟩
  generalize htext : i.target = target at htarget
  cases htarget with
  | @spelled path query sent hpath hsent hquery =>
    have hfree := Percent.questionMark_not_mem_of_spells hpath
    obtain ⟨hrequestPath, hrequestQuery⟩ := Transport.request_of_target htext hfree body
    rw [hrequestPath, hrequestQuery, Percent.readPath_of_spells hpath,
      Pairs.ofUrlencoded_of_spells hquery]
    exact hcaptured sent hsent
  | bare hpath hsent =>
    have hfree := Percent.questionMark_not_mem_of_spells (htext ▸ hpath)
    obtain ⟨hrequestPath, hrequestQuery⟩ := Transport.request_of_bareTarget hfree body
    rw [hrequestPath, hrequestQuery, htext, Percent.readPath_of_spells hpath]
    exact hcaptured .empty hsent

/-- A target with digits in either case, in which another pair stands before the one of the pattern.
The values are a sign that begins an escape, a letter beyond ASCII, a plus sign and a blank. -/
theorem captures_of_addresses_mixed :
    let p : Pattern := ⟨"/:what?q=:q", [.literal "", .placeholder "what"], [⟨"q", "q"⟩]⟩
    let i : Transport.Incoming := { method := .get, target := "/%25%c3%A9" ++ "?" ++ "n=&q=%2b+" }
    compile "/:what?q=:q" = .ok p ∧ p.Addresses ["%é"] ["+ "] i.target ∧
      ∃ request, i.decode 0 = .ok request ∧
        p.captures request.path request.query = some ["%é", "+ "] := by
  intro p i
  have hp : compile "/:what?q=:q" = .ok p := by decide +kernel
  have hpath : Percent.SpellsPath (p.fill ["%é"]) "/%25%c3%A9" := by
    have hbytes : Utf8.ofString (p.fill ["%é"]) = [0x2F, 0x25, 0xC3, 0xA9] := by decide +kernel
    have htext : Utf8.ofString "/%25%c3%A9" =
        [0x2F, 0x25, 0x32, 0x35, 0x25, 0x63, 0x33, 0x25, 0x41, 0x39] := by decide +kernel
    rw [Percent.SpellsPath, hbytes, htext]
    exact .short ⟨rfl, rfl⟩ (.escape rfl rfl (.escape rfl rfl (.escape rfl rfl .nil)))
  have hquery : Pairs.Spells ⟨[("n", ""), ("q", "+ ")]⟩ (Utf8.ofString "n=&q=%2b+") := by
    have hn : Pairs.SpellsPair ("n", "") [0x6E, 0x3D] :=
      ⟨[0x6E], [], .short (.inl ⟨rfl, rfl⟩) .nil, .nil, rfl⟩
    have hq : Pairs.SpellsPair ("q", "+ ") [0x71, 0x3D, 0x25, 0x32, 0x62, 0x2B] :=
      ⟨[0x71], [0x25, 0x32, 0x62, 0x2B], .short (.inl ⟨rfl, rfl⟩) .nil,
        .escape rfl rfl (.short (.inr ⟨rfl, rfl⟩) .nil), rfl⟩
    exact ⟨_, .cons hn (.cons hq .nil), by decide +kernel⟩
  have hsent : p.Carries ⟨[("n", ""), ("q", "+ ")]⟩ ["+ "] :=
    ⟨[("n", "")], List.Perm.swap _ _ [], by decide⟩
  have htarget : p.Addresses ["%é"] ["+ "] i.target := .spelled hpath hsent hquery
  have hps : ["%é"].length = (Segment.names p.segments).length := rfl
  have hwhole : ∀ v ∈ ["%é"], v ≠ "" ∧ '/' ∉ v.toList := by decide
  have hqs : ["+ "].length = p.query.length := rfl
  obtain ⟨-, hback⟩ := captures_of_addresses hp (by decide) hps hwhole hqs
  exact ⟨hp, htarget, hback i 0 [] htarget rfl (Nat.le_refl 0)⟩

end Pattern

end Signpost
