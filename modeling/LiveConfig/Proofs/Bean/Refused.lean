import LiveConfig.Proofs.Bean.Literals
import LiveConfig.Proofs.Bean.Typing

/-! Arguments that a constructor does not get. Of the literals that are chosen for a parameter only
texts, and those that fit it for the sake of their hint, may turn out to have no form for it. -/

namespace LiveConfig

open Creation (FailsOnly)
open Matching

def BeanError.blamesArgument : BeanError → Bool
  | argumentConversion .. => true
  | _ => false

namespace BeanRegistry

variable {β : Type} {r : BeanRegistry β} {d : Declaration} {parameter : Option Nat}
  {c : BeanClass β}

/-- An argument has no form for its parameter of a constructor: it is a text, or it has a hint. -/
def Refuses (c : BeanClass β) (k : Constructor β) (d : Declaration) (e : BeanError) : Prop :=
  ∃ i a v p, d.arguments[i]? = some a ∧ k.params[i]? = some p ∧ a.value = .literal v ∧
    convertLiteral? v p = none ∧ ((∃ s, v = .text s) ∨ a.hint.isSome = true) ∧
    e = .argumentConversion c.name i p.kindName v.display

theorem failsOnly_nested (x : Declaration) (dc : Option String) :
    FailsOnly (fun e => e.blamesArgument = false) (r.create none x dc) := by
  rintro e ⟨calls, he⟩
  cases hnote : e.isCreation with
  | true => cases e <;> first | rfl | contradiction
  | false =>
    rw [create_eq_error_iff hnote] at he
    rcases resolve_eq_error_iff.mp he with hf | ⟨f, -, ⟨-, rfl⟩ | ⟨name, -, -, rfl⟩⟩
    · obtain ⟨name, -, -, rfl⟩ := factoryFor_eq_error_iff.mp hf
      rfl
    · rfl
    · rfl

theorem refuses_of_chosen {k : Constructor β} {i : Nat} {a : Argument Declaration} {v : Value}
    {p : ParamType} (hk : c.findConstructor d.arguments = .ok k) (hp : k.params[i]? = some p)
    (ha : d.arguments[i]? = some a) (hv : a.value = .literal v)
    (hnone : convertLiteral? v p = none) :
    Refuses c k d (.argumentConversion c.name i p.kindName v.display) := by
  refine ⟨i, a, v, p, ha, hp, hv, hnone, ?_, rfl⟩
  obtain ⟨value, hint⟩ := a
  obtain rfl : value = .literal v := hv
  cases hint with
  | some hint => exact .inr rfl
  | none =>
    refine .inl (by_contra fun hother => ?_)
    have hfits := fits_of_findConstructor hk ha hp
    have hsome := isSome_convertLiteral?_of_fit (not_exists.mp hother) hfits
    rw [hnone] at hsome
    contradiction

theorem failsOnly_ready_argument {k : Constructor β} (hk : c.findConstructor d.arguments = .ok k) :
    FailsOnly (fun e => e.blamesArgument = true → Refuses c k d e)
      (CreationContext.ready c.name 0 k.params (r.argumentWorks d.arguments)) := by
  refine failsOnly_ready fun i p a hp ha => ?_
  rw [argumentWorks_eq_map, List.getElem?_map, Option.map_eq_some_iff] at ha
  obtain ⟨⟨v | x, hint⟩, ha, rfl⟩ := ha
  · simp only [Argument.map, CreationContext.readyOne, Nat.zero_add]
    split
    next => exact .pure _
    next hnone => exact .throw fun _ => refuses_of_chosen hk hp ha rfl hnone
  · refine .bind (fun e he hblames => ?_) fun b => .pure _
    rw [failsOnly_nested x _ e he] at hblames
    contradiction

variable [Typed β]

theorem failsOnly_fill_argument (b : β) :
    FailsOnly (fun e => e.blamesArgument = false) ((r.context d parameter c).fill b) := by
  refine failsOnly_fill (fun e he => ?_) fun n hn work hwork dc => ?_
  · cases e <;> first | rfl | contradiction
  · have hmem : work ∈ (r.context d parameter c).works :=
      List.mem_append_right _ (List.mem_flatMap.mpr ⟨n, hn, hwork⟩)
    obtain ⟨x, -, rfl⟩ := (r.mem_works).mp hmem
    exact failsOnly_nested x dc

/-- The factory itself blames an argument only where it refuses one. -/
theorem built_or_refuses {calls : List Call} {e : BeanError}
    (h : ((r.context d parameter c).create.after calls).1 = .error e)
    (he : e.blamesArgument = true) :
    ∃ k, c.findConstructor d.arguments = .ok k ∧
      ((∃ values, ((CreationContext.ready c.name 0 k.params
          (r.argumentWorks d.arguments)).after calls).1 = .ok values ∧
        k.build (.ofList c.name values) = .error e) ∨ Refuses c k d e) := by
  rcases Creation.after_bind_eq_error_iff.mp h with h | ⟨b, rest, -, h⟩
  · rcases Creation.after_bind_eq_error_iff.mp h with h | ⟨k, rest, hk, h⟩
    · rw [Creation.after_ofExcept] at h
      rcases findConstructor_eq_error h with rfl | rfl <;> contradiction
    rw [Creation.after_ofExcept] at hk
    obtain ⟨hfound, rfl⟩ := Prod.mk.inj hk
    refine ⟨k, hfound, ?_⟩
    rcases Creation.after_bind_eq_error_iff.mp h with h | ⟨values, rest, hvalues, h⟩
    · exact .inr (failsOnly_ready_argument hfound e ⟨calls, h⟩ he)
    · rw [Creation.after_ofExcept] at h
      exact .inl ⟨values, congrArg Prod.fst hvalues, h⟩
  · rw [failsOnly_fill_argument b e ⟨rest, h⟩] at he
    contradiction

variable (r d parameter c)

/-- A literal that fits a parameter without a hint reaches it, unless it is a text. So what the
standard factory itself, and not the constructor it has chosen, finds wrong with an argument is that
a text, or a literal with a hint, has no form for its parameter. What does reach a parameter is in
the form of the parameter, where nothing is left to convert, and is still the integer, the text or
whatever else it was, as far as there is such a one for the parameter. -/
theorem literal_arguments :
    (∀ v p, (∀ s, v ≠ .text s) → (fit? ⟨.literal v, none⟩ p).isSome = true →
      (convertLiteral? v p).isSome = true) ∧
    (∀ calls i className expected value,
      ((r.context d parameter c).create.after calls).1 =
        .error (.argumentConversion className i expected value) →
      ∃ k, c.findConstructor d.arguments = .ok k ∧
        ((∃ values, ((CreationContext.ready c.name 0 k.params
            (r.argumentWorks d.arguments)).after calls).1 = .ok values ∧
          k.build (.ofList c.name values) =
            .error (.argumentConversion className i expected value)) ∨
        ∃ a v p, d.arguments[i]? = some a ∧ k.params[i]? = some p ∧ a.value = .literal v ∧
          convertLiteral? v p = none ∧ ((∃ s, v = .text s) ∨ a.hint.isSome = true) ∧
          className = c.name ∧ expected = p.kindName ∧ value = v.display)) ∧
    ∀ v p w, convertLiteral? v p = some w →
      isForm p w = true ∧ Keeps v p w ∧ convertLiteral? w p = some w := by
  refine ⟨fun v p => isSome_convertLiteral?_of_fit, fun calls i className expected value he => ?_,
    fun v p w hw => ?_⟩
  · obtain ⟨k, hk, hreason⟩ := built_or_refuses he rfl
    refine ⟨k, hk, hreason.imp_right ?_⟩
    rintro ⟨i, a, v, p, ha, hp, hv, hnone, hwhy, heq⟩
    obtain ⟨rfl, rfl, rfl, rfl⟩ := BeanError.argumentConversion.inj heq
    exact ⟨a, v, p, ha, hp, hv, hnone, hwhy, rfl, rfl, rfl⟩
  · have hform := isForm_of_convertLiteral? hw
    exact ⟨hform, keeps_of_convertLiteral? hw, convertLiteral?_of_isForm hform⟩

def countless : BeanClass Sample :=
  ⟨"Counter", Sample.fullName "u32", [⟨[.int], fun _ => .ok (.number 0)⟩], none⟩

def misspelled : Declaration :=
  ⟨some "Counter", none, none, [], [], [⟨.literal (.text "x"), none⟩]⟩

theorem literal_arguments_misspelled :
    (convertLiteral? (.bool true) .text).isSome = true ∧
      (∃ k a v p, countless.findConstructor misspelled.arguments = .ok k ∧
        misspelled.arguments[0]? = some a ∧ k.params[0]? = some p ∧ a.value = .literal v ∧
        convertLiteral? v p = none ∧ "int" = p.kindName) ∧
      convertLiteral? (.signed 7) .int = some (.signed 7) := by
  obtain ⟨hfits, hrefused, hkept⟩ :=
    literal_arguments (BeanRegistry.empty : BeanRegistry Sample) misspelled none countless
  have hseven : convertLiteral? (.text " 7") .int = some (.signed 7) := rfl
  refine ⟨hfits (.bool true) .text (by simp) rfl, ?_, (hkept _ _ _ hseven).2.2⟩
  obtain ⟨k, hk, ⟨values, -, hbuilt⟩ | ⟨a, v, p, ha, hp, hv, hnone, -, -, hexpected, -⟩⟩ :=
    hrefused [] 0 "Counter" "int" "x" rfl
  · obtain ⟨hmem, -⟩ := Matching.mem_of_find hk
    obtain rfl := List.mem_singleton.mp hmem
    contradiction
  · exact ⟨k, a, v, p, hk, ha, hp, hv, hnone, hexpected⟩

/-- Not every integer is still the same for a parameter of the double precision. -/
theorem integer_rounded : ¬ ∀ (v w : Value) (n : Int), v.whole? = some n →
    convertLiteral? v .float = some w → ∃ x : Double, w = .float x ∧ x.IsInt n := by
  intro h
  let n : Int64 := 9007199254740993
  have hrounded : ¬ (Binary.ofInt n.toInt : Double).IsInt n.toInt := by decide +kernel
  have hread : convertLiteral? (.signed n) .float = some (.float (.ofInt n.toInt)) := rfl
  obtain ⟨x, hx, hint⟩ := h (.signed n) _ n.toInt rfl hread
  obtain rfl := Value.float.inj hx
  exact hrounded hint

end BeanRegistry
end LiveConfig
