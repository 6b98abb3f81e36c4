import Mathlib.Data.List.Forall2
import LiveConfig.Dict

/-! Lists and dictionaries that agree place by place. -/

namespace LiveConfig

variable {α γ : Type} {R : α → γ → Prop}

section

variable {xs : List α} {ys : List γ} {x : α} {y : γ}

theorem exists_of_mem (h : List.Forall₂ R xs ys) (hx : x ∈ xs) : ∃ y ∈ ys, R x y := by
  induction h with
  | nil => contradiction
  | cons hr _ ih =>
    rcases List.mem_cons.mp hx with rfl | hx
    · exact ⟨_, List.mem_cons_self, hr⟩
    · obtain ⟨y, hy, hr⟩ := ih hx
      exact ⟨y, List.mem_cons_of_mem _ hy, hr⟩

theorem exists_of_mem_right (h : List.Forall₂ R xs ys) (hy : y ∈ ys) : ∃ x ∈ xs, R x y :=
  exists_of_mem (R := flip R) h.flip hy

theorem map_eq_map (h : List.Forall₂ R xs ys) {δ : Type} {f : α → δ} {g : γ → δ}
    (hr : ∀ x y, R x y → f x = g y) : xs.map f = ys.map g := by
  have heq : List.Forall₂ (· = ·) (xs.map f) (ys.map g) :=
    List.forall₂_map_left_iff.mpr (List.forall₂_map_right_iff.mpr (h.imp hr))
  rwa [List.forall₂_eq_eq_eq] at heq

end

theorem isSome_eq_of_rel {x : Option α} {y : Option γ} (h : Option.Rel R x y) :
    x.isSome = y.isSome := by
  cases h <;> rfl

namespace Dict

variable {d : Dict α} {e : Dict γ} (h : List.Forall₂ (fun p q => p.1 = q.1 ∧ R p.2 q.2) d e)
include h

theorem keys_eq_of_rel : keys d = keys e :=
  map_eq_map h fun _ _ hp => hp.1

theorem rel_get? (key : String) : Option.Rel R (get? key d) (get? key e) := by
  induction h with
  | nil => exact .none
  | @cons p q d e hpq hrest ih =>
    obtain ⟨k, x⟩ := p
    obtain ⟨k', y⟩ := q
    obtain ⟨rfl, hxy⟩ := hpq
    simp only [get?, List.lookup_cons] at ih ⊢
    split
    · exact .some hxy
    · exact ih

end Dict

end LiveConfig
