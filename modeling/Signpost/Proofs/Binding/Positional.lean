import Signpost.Binding.Handler
import Signpost.Proofs.Traversal

/-!
# Parameters are bound from left to right

A handler of parameters is run exactly if there is a text for each of them that can be read as its
kind, and then with these values in their order. Otherwise it is refused for the first place at
which there is no such text, whatever is wrong behind it: `Handler.call_positional`.
-/

namespace Signpost

variable {kinds ks : List ParamKind} {k : ParamKind} {texts raws : List String} {raw : String}
  {fault : ParamFault} {start i : Nat}

/-! ### Values at their places -/

namespace Args

/-- The value at a place. -/
def get : {kinds : List ParamKind} → Args kinds → (i : Nat) → (h : i < kinds.length) →
    (kinds[i]).Value
  | _ :: _, (v, _),  0,     _ => v
  | _ :: _, (_, vs), i + 1, h => get vs i (Nat.lt_of_succ_lt_succ h)

/-- Each value is what the text at its place is read as. -/
def AreReadFrom (args : Args kinds) (texts : List String) : Prop :=
  ∀ i (h : i < kinds.length), ∃ raw, texts[i]? = some raw ∧ kinds[i].read raw = some (args.get i h)

theorem not_areReadFrom_nil (args : Args (k :: ks)) : ¬ args.AreReadFrom [] := by
  intro h
  obtain ⟨raw, hraw, -⟩ := h 0 (by simp)
  cases hraw

theorem areReadFrom_cons_iff {v : k.Value} {vs : Args ks} :
    @AreReadFrom (k :: ks) (v, vs) (raw :: raws) ↔ k.read raw = some v ∧ vs.AreReadFrom raws := by
  constructor
  · intro h
    constructor
    · obtain ⟨text, htext, hread⟩ := h 0 (by simp)
      cases htext
      exact hread
    · exact fun i hi => h (i + 1) (Nat.succ_lt_succ hi)
  · rintro ⟨hv, hvs⟩ i hi
    cases i with
    | zero   => exact ⟨raw, rfl, hv⟩
    | succ i => exact hvs i (Nat.lt_of_succ_lt_succ hi)

end Args

theorem bindParamsFrom_eq_ok_iff {args : Args kinds} :
    bindParamsFrom start kinds texts = .ok args ↔ args.AreReadFrom texts := by
  induction kinds generalizing texts start with
  | nil => simp [bindParamsFrom, Args.AreReadFrom]
  | cons k ks ih =>
    cases texts with
    | nil => simp [bindParamsFrom, Args.not_areReadFrom_nil args]
    | cons raw raws =>
      obtain ⟨v, vs⟩ := args
      have hrest : bindParamsFrom (start + 1) ks raws = .ok vs ↔ vs.AreReadFrom raws := ih
      rw [Args.areReadFrom_cons_iff, ← hrest, bindParamsFrom]
      cases hread : k.read raw with
      | none   => simp
      | some w =>
        cases hbound : bindParamsFrom (start + 1) ks raws with
        | ok ws   => simp
        | error e => simp

/-! ### The first fault -/

/-- There is a text at the place, and it can be read as the kind there. -/
def ReadsAt (kinds : List ParamKind) (texts : List String) (i : Nat) : Prop :=
  ∃ kind raw, kinds[i]? = some kind ∧ texts[i]? = some raw ∧ (kind.read raw).isSome = true

theorem readsAt_zero_iff : ReadsAt (k :: ks) (raw :: raws) 0 ↔ (k.read raw).isSome = true := by
  simp [ReadsAt]

theorem not_readsAt_nil : ¬ ReadsAt kinds [] i := by
  simp [ReadsAt]

namespace ParamFault

/-- What is wrong at a place, where the index of the first place is `start`. -/
inductive At (start : Nat) (kinds : List ParamKind) (texts : List String) (i : Nat) :
    ParamFault → Prop
  | missing (hi : i < kinds.length) (htext : texts[i]? = none) :
      At start kinds texts i (.missing (start + i))
  | invalidValue {kind : ParamKind} {raw : String} (hkind : kinds[i]? = some kind)
      (htext : texts[i]? = some raw) (hread : kind.read raw = none) :
      At start kinds texts i (.invalidValue raw kind)

/-- What is wrong at some place while all is well at the places before it. -/
def IsFirst (fault : ParamFault) (start : Nat) (kinds : List ParamKind) (texts : List String) :
    Prop :=
  ∃ i, (∀ j < i, ReadsAt kinds texts j) ∧ fault.At start kinds texts i

theorem not_isFirst_of_nil : ¬ fault.IsFirst start [] texts := by
  rintro ⟨i, -, h⟩
  cases h with
  | missing hi htext               => cases hi
  | invalidValue hkind htext hread => cases hkind

theorem isFirst_of_missing_iff : fault.IsFirst start (k :: ks) [] ↔ fault = .missing start := by
  constructor
  · rintro ⟨i, hbefore, h⟩
    have hi : i = 0 := Nat.eq_zero_of_not_pos fun hi => not_readsAt_nil (hbefore 0 hi)
    subst hi
    cases h with
    | missing hi htext               => rfl
    | invalidValue hkind htext hread => cases htext
  · rintro rfl
    exact ⟨0, by simp, .missing (Nat.zero_lt_succ _) rfl⟩

theorem at_zero_iff :
    fault.At start (k :: ks) (raw :: raws) 0 ↔ k.read raw = none ∧ fault = .invalidValue raw k := by
  constructor
  · intro h
    cases h with
    | missing hi htext => cases htext
    | invalidValue hkind htext hread =>
      cases hkind
      cases htext
      exact ⟨hread, rfl⟩
  · rintro ⟨hread, rfl⟩
    exact .invalidValue rfl rfl hread

theorem at_succ_iff :
    fault.At start (k :: ks) (raw :: raws) (i + 1) ↔ fault.At (start + 1) ks raws i := by
  have hindex : start + (i + 1) = start + 1 + i := by omega
  constructor
  · intro h
    cases h with
    | missing hi htext =>
      rw [hindex]
      exact .missing (Nat.lt_of_succ_lt_succ hi) htext
    | invalidValue hkind htext hread => exact .invalidValue hkind htext hread
  · intro h
    cases h with
    | missing hi htext =>
      rw [← hindex]
      exact .missing (Nat.succ_lt_succ hi) htext
    | invalidValue hkind htext hread => exact .invalidValue hkind htext hread

theorem At.lt_length (h : fault.At start kinds texts i) : i < kinds.length := by
  cases h with
  | missing hi htext               => exact hi
  | invalidValue hkind htext hread => exact (List.getElem?_eq_some_iff.mp hkind).1

theorem At.not_readsAt (h : fault.At start kinds texts i) : ¬ ReadsAt kinds texts i := by
  rintro ⟨kind, raw, hkind, htext, hread⟩
  cases h with
  | missing hi htext' => simp [htext] at htext'
  | invalidValue hkind' htext' hread' =>
    cases hkind.symm.trans hkind'
    cases htext.symm.trans htext'
    simp [hread'] at hread

/-- A text that cannot be read is the first fault, and behind one that can the search goes on. -/
theorem isFirst_cons_iff :
    fault.IsFirst start (k :: ks) (raw :: raws) ↔
      k.read raw = none ∧ fault = .invalidValue raw k ∨
        (k.read raw).isSome = true ∧ fault.IsFirst (start + 1) ks raws := by
  constructor
  · rintro ⟨i, hbefore, h⟩
    cases i with
    | zero   => exact .inl (at_zero_iff.mp h)
    | succ i =>
      have hrest : ∀ j < i, ReadsAt ks raws j := fun j hj => hbefore (j + 1) (Nat.succ_lt_succ hj)
      exact .inr ⟨readsAt_zero_iff.mp (hbefore 0 (Nat.zero_lt_succ i)), i, hrest, at_succ_iff.mp h⟩
  · rintro (h | ⟨hread, i, hbefore, h⟩)
    · exact ⟨0, by simp, at_zero_iff.mpr h⟩
    · refine ⟨i + 1, fun j hj => ?_, at_succ_iff.mpr h⟩
      cases j with
      | zero   => exact readsAt_zero_iff.mpr hread
      | succ j => exact hbefore j (Nat.lt_of_succ_lt_succ hj)

end ParamFault

theorem bindParamsFrom_eq_error_iff :
    bindParamsFrom start kinds texts = .error fault ↔ fault.IsFirst start kinds texts := by
  induction kinds generalizing texts start with
  | nil => simp [bindParamsFrom, ParamFault.not_isFirst_of_nil]
  | cons k ks ih =>
    cases texts with
    | nil =>
      rw [ParamFault.isFirst_of_missing_iff, bindParamsFrom, Except.error.injEq, eq_comm]
    | cons raw raws =>
      rw [ParamFault.isFirst_cons_iff, ← ih, bindParamsFrom]
      cases hread : k.read raw with
      | none   => simp [eq_comm]
      | some v =>
        cases hbound : bindParamsFrom (start + 1) ks raws with
        | ok vs   => simp
        | error e => simp

theorem Args.AreReadFrom.unique {args args' : Args kinds} (h : args.AreReadFrom texts)
    (h' : args'.AreReadFrom texts) : args = args' := by
  have hbound : bindParamsFrom 0 kinds texts = .ok args := bindParamsFrom_eq_ok_iff.mpr h
  have hbound' : bindParamsFrom 0 kinds texts = .ok args' := bindParamsFrom_eq_ok_iff.mpr h'
  exact Except.ok.inj (hbound.symm.trans hbound')

theorem exists_areReadFrom_iff :
    (∃ args : Args kinds, args.AreReadFrom texts) ↔ ∀ i < kinds.length, ReadsAt kinds texts i := by
  constructor
  · rintro ⟨args, h⟩ i hi
    obtain ⟨raw, htext, hread⟩ := h i hi
    exact ⟨kinds[i], raw, List.getElem?_eq_getElem hi, htext, by simp [hread]⟩
  · intro h
    cases hbound : bindParamsFrom 0 kinds texts with
    | ok args     => exact ⟨args, bindParamsFrom_eq_ok_iff.mp hbound⟩
    | error fault =>
      obtain ⟨i, -, hfault⟩ := bindParamsFrom_eq_error_iff.mp hbound
      exact absurd (h i hfault.lt_length) hfault.not_readsAt

/-- Texts behind the last parameter are not looked at. -/
theorem bindParamsFrom_take :
    bindParamsFrom start kinds (texts.take kinds.length) = bindParamsFrom start kinds texts := by
  induction kinds generalizing texts start with
  | nil => simp [bindParamsFrom]
  | cons k ks ih =>
    cases texts with
    | nil => rfl
    | cons raw raws => simp only [List.length_cons, List.take_succ_cons, bindParamsFrom, ih]

/-! ### Handlers of parameters -/

namespace Handler

variable {request : Request} {run : Args kinds → Reply}

theorem call_positional_eq_ok_iff {reply : Reply} :
    call request texts (.positional kinds run) = .ok reply ↔
      ∃ args : Args kinds, args.AreReadFrom texts ∧ run args = reply := by
  simp [call, bindTo, mapError_eq_ok_iff, map_eq_ok_iff, bindParams, bindParamsFrom_eq_ok_iff]

theorem call_positional_eq_error_iff {fault : Handler.Fault} :
    call request texts (.positional kinds run) = .error fault ↔
      ∃ cause : ParamFault, cause.IsFirst 0 kinds texts ∧ .param cause = fault := by
  simp only [call, bindTo, map_eq_error_iff, mapError_eq_error_iff, bindParams,
    bindParamsFrom_eq_error_iff]

/-- A handler of parameters answers what its run with the values of its texts does, and there are
such values, one list of them, exactly if the text at every place can be read as the kind there.
Otherwise the handler is refused for the first place at which it cannot, and the refusal says which
place has no text, or which text is none of which kind. Further texts play no part. -/
theorem call_positional (kinds : List ParamKind) (request : Request) (texts : List String) :
    (∀ run reply, call request texts (.positional kinds run) = .ok reply ↔
        ∃ args : Args kinds, args.AreReadFrom texts ∧ run args = reply) ∧
      ((∃! args : Args kinds, args.AreReadFrom texts) ↔
        ∀ i < kinds.length, ReadsAt kinds texts i) ∧
      (∀ run fault, call request texts (.positional kinds run) = .error fault ↔
        ∃ cause : ParamFault, cause.IsFirst 0 kinds texts ∧ .param cause = fault) ∧
      (∀ raw kind, (Handler.Fault.param (.invalidValue raw kind)).message =
        "cannot bind `" ++ raw ++ "` as " ++ kind.name) ∧
      ∀ run, call request (texts.take kinds.length) (.positional kinds run) =
        call request texts (.positional kinds run) := by
  refine ⟨fun run reply => call_positional_eq_ok_iff, ?_,
    fun run fault => call_positional_eq_error_iff, fun raw kind => rfl, fun run => ?_⟩
  · rw [← exists_areReadFrom_iff]
    constructor
    · exact fun h => h.exists
    · rintro ⟨args, h⟩
      exact ⟨args, h, fun args' h' => h'.unique h⟩
  · rw [call, call, bindTo, bindTo, bindParams, bindParamsFrom_take, bindParams]

example :
    bindParams [.text, .integer ⟨false, .bits8⟩, .bool] ["a", "256"] =
      .error (.invalidValue "256" (.integer ⟨false, .bits8⟩)) := rfl

end Handler

end Signpost
