import LiveConfig.Proofs.Bean.Choice
import LiveConfig.Proofs.PlaceByPlace
import LiveConfig.Proofs.Text.Trimming
import LiveConfig.Sample.Classes

/-! Hints at the types of arguments. A hint counts only as the type that it names, so with a hint at
every argument at most one list of parameters is left. -/

namespace LiveConfig

namespace ParamType

/-- The types that parameters can be declared by name. -/
def IsNamed (p : ParamType) : Prop := ∃ name, ofName name = p

theorem ofName_trim (name : String) : ofName (Text.trim name) = ofName name := by
  simp only [ofName, Text.trim_trim]

theorem eq_trim_of_ofName {name c : String} (h : ofName name = bean c) : c = Text.trim name := by
  unfold ofName at h
  split at h <;> cases h
  rfl

theorem ofName_name {p : ParamType} (h : p.IsNamed) : ofName p.name = p := by
  obtain ⟨name, hname⟩ := h
  cases p with
  | bean c =>
    have hc := eq_trim_of_ofName hname
    rw [ParamType.name, hc, ofName_trim, hname, hc]
  | text | bool | int | float | any => rfl

end ParamType

namespace Argument

def hinted? {α : Type} (a : Argument α) : Option ParamType := a.hint.map ParamType.ofName

def hintedAs {α : Type} (a : Argument α) (p : ParamType) : Argument α := ⟨a.value, some p.name⟩

/-- The same value with a hint at the same type, however it is spelled. -/
structure Respelled (a b : Argument Declaration) : Prop where
  value : a.value = b.value
  hinted : a.hinted? = b.hinted?

end Argument

namespace Matching

open Argument (Respelled)

variable {p q : ParamType} {ps qs : List ParamType} {a b : Argument Declaration}
  {args args' : List (Argument Declaration)}

theorem fit?_hint (v : ArgumentValue Declaration) (hint : String) (p : ParamType) :
    fit? ⟨v, some hint⟩ p =
      if ParamType.ofName hint = p ∧ shapeFits v p then some .exact else none := rfl

theorem shapeFits_of_literalFit? {v : Value} (h : (literalFit? v p).isSome) :
    shapeFits (.literal v) p := by
  cases p with
  | bean c => cases v with
    | absent => rfl
    | _ => contradiction
  | text | bool | int | float | any => rfl

theorem shapeFits_of_fit? (h : (fit? a p).isSome) : shapeFits a.value p := by
  obtain ⟨v, _ | hint⟩ := a
  · cases v with
    | literal v => exact shapeFits_of_literalFit? h
    | nested d => cases p with
      | bean c | any => rfl
      | _ => contradiction
  · rw [fit?_hint] at h
    split at h
    next hfit => exact hfit.2
    next => contradiction

theorem hinted?_of_fit? (h : (fit? a p).isSome) (ha : a.hint.isSome) : a.hinted? = some p := by
  obtain ⟨v, _ | hint⟩ := a
  · contradiction
  · rw [fit?_hint] at h
    split at h
    next hfit => exact congrArg some hfit.1
    next => contradiction

theorem map_hinted?_of_accepts (h : Accepts ps args) (ha : ∀ a ∈ args, a.hint.isSome) :
    args.map Argument.hinted? = ps.map some := by
  induction ps generalizing args with
  | nil => rw [List.length_eq_zero_iff.mp h.1.symm, List.map_nil, List.map_nil]
  | cons p ps ih =>
    obtain ⟨a, args, rfl⟩ := List.exists_cons_of_length_eq_add_one h.1.symm
    obtain ⟨hfirst, hrest⟩ := accepts_cons.mp h
    obtain ⟨hhint, hhints⟩ := List.forall_mem_cons.mp ha
    rw [List.map_cons, List.map_cons, hinted?_of_fit? hfirst hhint, ih hrest hhints]

theorem fit?_hintedAs (hp : p.IsNamed) (h : (fit? a p).isSome) :
    fit? (a.hintedAs p) p = some .exact := by
  have hname := ParamType.ofName_name hp
  have hshape := shapeFits_of_fit? h
  rw [Argument.hintedAs, fit?_hint, if_pos ⟨hname, hshape⟩]

theorem accepts_hintedAs (hps : ∀ p ∈ ps, p.IsNamed) (h : Accepts ps args) :
    Accepts qs (args.zipWith Argument.hintedAs ps) ↔ qs = ps := by
  induction ps generalizing qs args with
  | nil => rw [List.length_eq_zero_iff.mp h.1.symm]; simp [Accepts]
  | cons p ps ih =>
    obtain ⟨a, args, rfl⟩ := List.exists_cons_of_length_eq_add_one h.1.symm
    obtain ⟨hp, hps⟩ := List.forall_mem_cons.mp hps
    obtain ⟨hfirst, hrest⟩ := accepts_cons.mp h
    have hexact := fit?_hintedAs hp hfirst
    cases qs with
    | nil => simp [Accepts]
    | cons q qs =>
      rw [List.zipWith_cons_cons, accepts_cons, ih hps hrest, List.cons.injEq]
      refine and_congr_left fun _ => ⟨fun hq => ?_, fun hq => ?_⟩
      · have hhint := hinted?_of_fit? hq rfl
        have hname : (a.hintedAs p).hinted? = some p := congrArg some (ParamType.ofName_name hp)
        exact Option.some.inj (hhint.symm.trans hname)
      · rw [hq, hexact, Option.isSome_some]

theorem fit?_of_respelled (h : Respelled a b) (p : ParamType) : fit? a p = fit? b p := by
  obtain ⟨v, hint⟩ := a
  obtain ⟨w, hint'⟩ := b
  obtain ⟨rfl, hhint⟩ : v = w ∧ _ := ⟨h.value, h.hinted⟩
  cases hint <;> cases hint' <;> simp only [Argument.hinted?, Option.map_none, Option.map_some,
    Option.some.injEq, reduceCtorEq] at hhint
  · rfl
  · rw [fit?_hint, fit?_hint, hhint]

theorem score?_of_respelled (h : List.Forall₂ Respelled args args') (ps : List ParamType) :
    score? ps args = score? ps args' := by
  induction h generalizing ps with
  | nil => rfl
  | cons hab _ ih =>
    cases ps with
    | nil => rfl
    | cons p ps => rw [score?, score?, fit?_of_respelled hab, ih]

section Choosing

variable {κ : Type} {params : κ → List ParamType} {ks : List κ} {name : String} {k : κ}

theorem find_eq_ok_iff (hargs : args ≠ []) :
    find name params ks args = .ok k ↔ leaders params ks args = [k] := by
  rw [find_eq name hargs]
  match leaders params ks args with
  | [] | _ :: _ :: _ => simp
  | [k'] => simp

theorem two_le_length_of_find {c shown : String}
    (h : find name params ks args = .error (.ambiguousConstructor c shown)) :
    2 ≤ (leaders params ks args).length := by
  cases args with
  | nil =>
    rw [find_nil] at h
    split at h <;> cases h
  | cons a args =>
    rw [find_eq name (List.cons_ne_nil a args)] at h
    match hleaders : leaders params ks (a :: args) with
    | [] | [_] => simp [hleaders] at h
    | _ :: _ :: _ => exact Nat.le_add_left 2 _

theorem leaders_of_score? (h : ∀ ps, score? ps args = score? ps args') :
    leaders params ks args = leaders params ks args' := by
  have haccepts (ps : List ParamType) : Accepts ps args ↔ Accepts ps args' := by
    rw [← not_iff_not, ← score?_eq_none_iff, ← score?_eq_none_iff, h]
  have hexact {ps : List ParamType} (hps : Accepts ps args') :
      exactFits ps args = exactFits ps args' := by
    have hscore := (h ps).trans (score?_eq_some_iff.mpr ⟨hps, rfl⟩)
    exact (score?_eq_some_iff.mp hscore).2
  apply List.filter_congr
  intro k _
  rw [decide_eq_decide]
  simp only [haccepts]
  refine and_congr_right fun hk => forall₂_congr fun k' _ => forall_congr' fun hk' => ?_
  rw [hexact hk, hexact hk']

theorem length_leaders_of_hints (hks : (ks.map params).Nodup) (ha : ∀ a ∈ args, a.hint.isSome) :
    (leaders params ks args).length ≤ 1 := by
  have hnodup : ((leaders params ks args).map params).Nodup :=
    hks.sublist (List.filter_sublist.map params)
  have hsame : ∀ k ∈ leaders params ks args, (params k).map some = args.map Argument.hinted? := by
    intro k hk
    have hlead := of_decide_eq_true (List.mem_filter.mp hk).2
    exact (map_hinted?_of_accepts hlead.1 ha).symm
  match hleaders : leaders params ks args with
  | [] => exact Nat.zero_le 1
  | [_] => exact Nat.le_refl 1
  | k :: k' :: rest =>
    rw [hleaders] at hnodup hsame
    have hk := hsame k List.mem_cons_self
    have hk' := hsame k' (List.mem_cons_of_mem k List.mem_cons_self)
    have heq : params k = params k' := List.map_injective_iff.mpr (fun _ _ => Option.some.inj)
      (hk.trans hk'.symm)
    simp [heq] at hnodup

/-- Where one constructor leads alone, the names of its parameters as hints single it out. -/
theorem leaders_hintedAs (hps : ∀ p ∈ params k, p.IsNamed) (h : leaders params ks args = [k]) :
    leaders params ks (args.zipWith Argument.hintedAs (params k)) = [k] := by
  obtain ⟨hmem, hlead⟩ := List.mem_filter.mp (h ▸ List.mem_singleton.mpr rfl)
  obtain ⟨haccepts, hmost⟩ := of_decide_eq_true hlead
  have hiff (k' : κ) : Accepts (params k') (args.zipWith Argument.hintedAs (params k)) ↔
      params k' = params k := accepts_hintedAs hps haccepts
  calc leaders params ks (args.zipWith Argument.hintedAs (params k))
      = ks.filter fun k' => params k' = params k := by
        -- whoever accepts these hints has the parameters of `k`, and so nobody is ahead
        apply List.filter_congr
        intro k' _
        rw [decide_eq_decide, hiff]
        refine and_iff_left_of_imp fun hk' k'' _ hk'' => ?_
        exact Nat.le_of_eq (by rw [(hiff k'').mp hk'', hk'])
    _ = (leaders params ks args).filter fun k' => params k' = params k := by
        -- whoever has the parameters of `k` leads as `k` does
        rw [leaders, List.filter_filter]
        apply List.filter_congr
        intro k' _
        by_cases hk' : params k' = params k
        · simp only [hk', decide_true, Bool.true_and]
          exact (decide_eq_true ⟨haccepts, hmost⟩).symm
        · simp [hk']
    _ = [k] := by rw [h]; simp

theorem find_hintedAs (hps : ∀ p ∈ params k, p.IsNamed) (h : find name params ks args = .ok k) :
    find name params ks (args.zipWith Argument.hintedAs (params k)) = .ok k := by
  cases args with
  | nil => exact h
  | cons a args =>
    obtain ⟨-, hlength⟩ := mem_of_find h
    have hne : (a :: args).zipWith Argument.hintedAs (params k) ≠ [] := by
      obtain ⟨p, ps, hps⟩ := List.exists_cons_of_length_eq_add_one hlength
      simp [hps]
    rw [find_eq_ok_iff (List.cons_ne_nil a args)] at h
    rw [find_eq_ok_iff hne]
    exact leaders_hintedAs hps h

/-- The same choice, or errors of one kind. -/
def SameChoice : Except BeanError κ → Except BeanError κ → Prop
  | .ok k, .ok k' => k = k'
  | .error (.ambiguousConstructor c _), .error (.ambiguousConstructor c' _) => c = c'
  | .error (.noMatchingConstructor c _), .error (.noMatchingConstructor c' _) => c = c'
  | _, _ => False

theorem sameChoice_find (h : List.Forall₂ Respelled args args') :
    SameChoice (find name params ks args) (find name params ks args') := by
  cases h with
  | nil =>
    rw [find_nil]
    split <;> rfl
  | @cons a b as bs hab hrest =>
    have hleaders : leaders params ks (a :: as) = leaders params ks (b :: bs) :=
      leaders_of_score? fun ps => score?_of_respelled (.cons hab hrest) ps
    rw [find_eq name (List.cons_ne_nil a as), find_eq name (List.cons_ne_nil b bs), hleaders]
    split <;> rfl

end Choosing

end Matching

namespace BeanClass

open Argument (Respelled)
open Matching (SameChoice)

variable {β : Type}

/-- Where all constructors differ, a call with a hint at every argument is never ambiguous. A call
that finds a constructor finds it again with the names of its parameters as hints, if these are
types that have names. How a hint is spelled plays no part. -/
theorem hints_settle (c : BeanClass β) (hc : ∀ k ∈ c.constructors, ∀ p ∈ k.params, p.IsNamed)
    (args : List (Argument Declaration)) :
    ((c.constructors.map (·.params)).Nodup → (∀ a ∈ args, a.hint.isSome) → ∀ name shown,
      c.findConstructor args ≠ .error (.ambiguousConstructor name shown)) ∧
    (∀ k, c.findConstructor args = .ok k → k.params.length = args.length ∧
      c.findConstructor (args.zipWith Argument.hintedAs k.params) = .ok k) ∧
    ∀ args', List.Forall₂ Respelled args args' →
      SameChoice (c.findConstructor args) (c.findConstructor args') := by
  refine ⟨fun hnodup hhints name shown h => ?_, fun k h => ?_, fun args' h => ?_⟩
  · have hone := Matching.length_leaders_of_hints hnodup hhints
    have htwo := Matching.two_le_length_of_find h
    exact absurd (Nat.le_trans htwo hone) (by decide)
  · obtain ⟨hmem, hlength⟩ := Matching.mem_of_find h
    exact ⟨hlength, Matching.find_hintedAs (hc k hmem) h⟩
  · exact Matching.sameChoice_find h

open Sample

def meter : BeanClass Sample where
  name := "Meter"
  typeName := fullName "Dyn"
  constructors := [
    Script.constructor 0 ⟨[.text], none⟩,
    Script.constructor 1 ⟨[.int], none⟩,
    Script.constructor 2 ⟨[.bean "Address"], none⟩]
  properties := some openTable

def reading (hint : Option String) : List (Argument Declaration) := [⟨.literal (.text "42"), hint⟩]

theorem hints_settle_meter :
    (∀ k ∈ meter.constructors, ∀ p ∈ k.params, p.IsNamed) ∧
    (meter.constructors.map (·.params)).Nodup ∧
    meter.findConstructor (reading none) =
      .error (.ambiguousConstructor "Meter" "[(value=42, type=<none>)]") ∧
    meter.findConstructor (reading (some " long ")) = .ok (Script.constructor 1 ⟨[.int], none⟩) ∧
    meter.findConstructor (reading (some "int")) = .ok (Script.constructor 1 ⟨[.int], none⟩) ∧
    SameChoice (meter.findConstructor (reading (some " long ")))
      (meter.findConstructor (reading (some "u8"))) ∧
    ∀ name shown, meter.findConstructor (reading (some "Address")) ≠
      .error (.ambiguousConstructor name shown) := by
  have hnamed : ∀ k ∈ meter.constructors, ∀ p ∈ k.params, p.IsNamed := by
    intro k hk p hp
    simp only [meter, List.mem_cons, List.not_mem_nil, or_false] at hk
    rcases hk with rfl | rfl | rfl <;> obtain rfl := List.mem_singleton.mp hp
    · exact ⟨"str", rfl⟩
    · exact ⟨"long", rfl⟩
    · exact ⟨"Address", rfl⟩
  have hnodup : (meter.constructors.map (·.params)).Nodup := by decide
  obtain ⟨-, hagain, hspelling⟩ := hints_settle meter hnamed (reading (some " long "))
  obtain ⟨hsettled, -⟩ := hints_settle meter hnamed (reading (some "Address"))
  have hspelled : List.Forall₂ Respelled (reading (some " long ")) (reading (some "u8")) :=
    .cons ⟨rfl, rfl⟩ .nil
  refine ⟨hnamed, hnodup, rfl, rfl, ?_, hspelling _ hspelled, ?_⟩
  · exact (hagain (Script.constructor 1 ⟨[.int], none⟩) rfl).2
  · exact hsettled hnodup fun a ha => by obtain rfl := List.mem_singleton.mp ha; rfl

end BeanClass

end LiveConfig
