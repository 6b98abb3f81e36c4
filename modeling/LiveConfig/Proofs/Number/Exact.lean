import Mathlib.Algebra.Group.Nat.Defs
import LiveConfig.Number.Binary

/-! What binary floating point does to numbers that it has: rounding leaves them as they are. -/

namespace LiveConfig

namespace Format

variable {f g : Format} {n d m r : Nat}

theorem divEven_mul (m : Nat) (hd : 0 < d) : divEven (m * d) d = m := by
  simp [divEven, Nat.mul_div_cancel _ hd, hd]

theorem unit_pos (f : Format) : 0 < f.unit := Nat.two_pow_pos _

theorem binade_pos (f : Format) : 0 < f.binade := Nat.two_pow_pos _

theorem two_mul_binade (hf : 0 < f.precision) : 2 * f.binade = 2 ^ f.precision := by
  obtain ⟨p, hp⟩ : ∃ p, f.precision = p + 1 := ⟨_, (Nat.sub_add_cancel hf).symm⟩
  rw [binade, hp, Nat.add_sub_cancel, Nat.pow_succ, Nat.mul_comm]
  rfl

theorem exists_scaled (f : Format) (r : Nat) :
    (r < f.binade ∧ f.scaled r = r) ∨
      ∃ m k, r = k * f.binade + m ∧ f.binade ≤ m ∧ m < 2 * f.binade ∧ f.scaled r = m * 2 ^ k := by
  by_cases hr : r < f.binade
  · exact .inl ⟨hr, if_pos hr⟩
  · have hquot : 1 ≤ r / f.binade := (Nat.one_le_div_iff f.binade_pos).mpr (Nat.not_lt.mp hr)
    have hmod := Nat.mod_lt r f.binade_pos
    have hdiv := Nat.div_add_mod' r f.binade
    refine .inr ⟨f.binade + r % f.binade, r / f.binade - 1, ?_, by omega, by omega, if_neg hr⟩
    have hone := Nat.sub_one_mul (r / f.binade) f.binade
    have hle : f.binade ≤ r / f.binade * f.binade := Nat.le_mul_of_pos_left _ hquot
    omega

/-- A ratio that is the magnitude of a rank is rounded to this rank. -/
theorem nearest_eq_of_exact (hf : 0 < f.precision) (hd : 0 < d)
    (h : n * f.unit = f.scaled r * d) : f.nearest n d = r := by
  have hbinade := f.two_mul_binade hf
  have hpow : f.binade = 2 ^ (f.precision - 1) := rfl
  have hwhole : f.scaled r * d / d = f.scaled r := Nat.mul_div_cancel _ hd
  simp only [nearest, h, hwhole]
  rcases f.exists_scaled r with ⟨hr, hscaled⟩ | ⟨m, k, rfl, hlow, hhigh, hscaled⟩
  · rw [hscaled, if_pos (by show r < 2 ^ f.precision; omega)]
    simpa using divEven_mul r hd
  · have hlog : (m * 2 ^ k).log2 = f.precision - 1 + k := by
      have hne : m * 2 ^ k ≠ 0 := Nat.mul_ne_zero (by have := f.binade_pos; omega) (by simp)
      rw [Nat.log2_eq_iff hne, Nat.pow_succ, Nat.pow_add, ← hpow, Nat.mul_right_comm]
      refine ⟨Nat.mul_le_mul_right _ hlow, ?_⟩
      exact Nat.mul_lt_mul_of_pos_right (by omega) (Nat.two_pow_pos k)
    have hexponent : (if m * 2 ^ k < Nat.pow 2 f.precision then 0
        else (m * 2 ^ k).log2 - (f.precision - 1)) = k := by
      rw [hlog, Nat.add_sub_cancel_left]
      cases k with
      | zero => exact ite_self 0
      | succ k =>
        refine if_neg (Nat.not_lt.mpr ?_)
        show 2 ^ f.precision ≤ m * 2 ^ (k + 1)
        have hk := Nat.two_pow_pos k
        have hle : f.binade ≤ m * 2 ^ k := Nat.le_trans hlow (Nat.le_mul_of_pos_right _ hk)
        rw [← hbinade, Nat.pow_succ, ← Nat.mul_assoc]
        omega
    have hproduct : m * 2 ^ k * d = m * (d * Nat.pow 2 k) := by
      rw [Nat.mul_assoc, Nat.mul_comm d]
      rfl
    have hpos : 0 < d * Nat.pow 2 k := Nat.mul_pos hd (Nat.two_pow_pos k)
    rw [hscaled, hexponent, hproduct, divEven_mul m hpos]

theorem scaled_significand (k : Nat) (hlow : f.binade ≤ m) (hhigh : m < 2 * f.binade) :
    f.scaled (k * f.binade + m) = m * 2 ^ k := by
  have hpos := f.binade_pos
  obtain ⟨j, rfl⟩ := Nat.exists_eq_add_of_le hlow
  have hj : j < f.binade := by omega
  have hrank : k * f.binade + (f.binade + j) = j + (k + 1) * f.binade := by
    rw [Nat.succ_mul]
    omega
  have hquot : (j + (k + 1) * f.binade) / f.binade = k + 1 := by
    rw [Nat.add_mul_div_right _ _ hpos, Nat.div_eq_of_lt hj, Nat.zero_add]
  have hmod : (j + (k + 1) * f.binade) % f.binade = j := by
    rw [Nat.add_mul_mod_self_right, Nat.mod_eq_of_lt hj]
  have hge : ¬ j + (k + 1) * f.binade < f.binade := by
    rw [← hrank]
    omega
  rw [hrank, scaled, if_neg hge, hquot, hmod, Nat.add_sub_cancel]
  rfl

theorem exists_rank (hm : m < 2 * f.binade) (k : Nat) :
    ∃ r ≤ k * f.binade + m, f.scaled r = m * 2 ^ k := by
  induction k generalizing m with
  | zero =>
    by_cases hlow : m < f.binade
    · exact ⟨m, by omega, by rw [scaled, if_pos hlow, Nat.pow_zero, Nat.mul_one]⟩
    · exact ⟨_, Nat.le_refl _, scaled_significand 0 (Nat.not_lt.mp hlow) hm⟩
  | succ k ih =>
    by_cases hlow : m < f.binade
    · obtain ⟨r, hr, hscaled⟩ := ih (m := 2 * m) (by omega)
      refine ⟨r, ?_, ?_⟩
      · rw [Nat.succ_mul]
        omega
      · rw [hscaled, Nat.pow_succ, Nat.mul_comm 2, Nat.mul_assoc, Nat.mul_comm 2]
    · exact ⟨_, Nat.le_refl _, scaled_significand (k + 1) (Nat.not_lt.mp hlow) hm⟩

theorem scaled_lt (hf : 3 ≤ f.precision) (he : 2 ≤ f.exponentBits) (hr : r < f.ranks) :
    f.scaled r < 2 ^ 2 ^ (f.exponentBits - 1) * f.unit := by
  have hexponents : 2 ^ f.exponentBits = 2 * 2 ^ (f.exponentBits - 1) := by
    rw [← Nat.pow_succ', Nat.succ_eq_add_one, Nat.sub_add_cancel (by omega)]
  have htwo : 2 ^ 1 ≤ 2 ^ (f.exponentBits - 1) := Nat.pow_le_pow_right (by decide) (by omega)
  have hsignificand := f.two_mul_binade (by omega)
  obtain ⟨m, k, hm, hk, hscaled⟩ :
      ∃ m k, m < 2 * f.binade ∧ k ≤ 2 ^ f.exponentBits - 3 ∧ f.scaled r = m * 2 ^ k := by
    rcases f.exists_scaled r with ⟨hlow, hscaled⟩ | ⟨m, k, rfl, hlow, hhigh, hscaled⟩
    · exact ⟨r, 0, by omega, Nat.zero_le _, by omega⟩
    · have hle : (k + 1) * f.binade < (2 ^ f.exponentBits - 1) * f.binade := by
        rw [Nat.succ_mul]
        exact Nat.lt_of_le_of_lt (Nat.add_le_add_left hlow _) hr
      have hk := Nat.lt_of_mul_lt_mul_right hle
      exact ⟨m, k, hhigh, by omega, hscaled⟩
  calc f.scaled r
    _ < 2 ^ f.precision * 2 ^ k := by
      rw [hscaled]
      exact Nat.mul_lt_mul_of_pos_right (by omega) (Nat.two_pow_pos k)
    _ ≤ 2 ^ (2 ^ (f.exponentBits - 1) + (2 ^ (f.exponentBits - 1) + f.precision - 3)) := by
      rw [← Nat.pow_add]
      exact Nat.pow_le_pow_right (by decide) (by omega)
    _ = 2 ^ 2 ^ (f.exponentBits - 1) * f.unit := Nat.pow_add ..

/-- The magnitudes of the one format are among those of the other. -/
def Within (f g : Format) : Prop :=
  ∀ r < f.ranks, ∃ q < g.ranks, g.scaled q * f.unit = f.scaled r * g.unit

theorem within_of_shift {j : Nat} (hprecision : f.precision ≤ g.precision)
    (hunits : 2 ^ (g.exponentBits - 1) + g.precision - 3 =
      2 ^ (f.exponentBits - 1) + f.precision - 3 + j)
    (hranks : 2 ^ f.exponentBits + j < 2 ^ g.exponentBits) : f.Within g := by
  intro r hr
  obtain ⟨m, k, hm, hk, hscaled⟩ :
      ∃ m k, m < 2 * f.binade ∧ k * f.binade ≤ r ∧ f.scaled r = m * 2 ^ k := by
    rcases f.exists_scaled r with ⟨hlow, hscaled⟩ | ⟨m, k, rfl, -, hhigh, hscaled⟩
    · exact ⟨r, 0, by omega, by omega, by omega⟩
    · exact ⟨m, k, hhigh, Nat.le_add_right _ _, hscaled⟩
  have hbinade : f.binade ≤ g.binade :=
    Nat.pow_le_pow_right (by decide) (Nat.sub_le_sub_right hprecision 1)
  have hunit : g.unit = f.unit * 2 ^ j :=
    (congrArg (2 ^ ·) hunits).trans (Nat.pow_add 2 _ j)
  have hexponent : k < 2 ^ f.exponentBits - 1 :=
    Nat.lt_of_mul_lt_mul_right (Nat.lt_of_le_of_lt hk hr)
  obtain ⟨q, hq, hscaledq⟩ := g.exists_rank (m := m) (by omega) (k + j)
  refine ⟨q, ?_, ?_⟩
  · have hle : (k + j + 2) * g.binade ≤ (2 ^ g.exponentBits - 1) * g.binade :=
      Nat.mul_le_mul_right _ (by omega)
    rw [Nat.add_mul] at hle
    exact Nat.lt_of_lt_of_le (by omega) hle
  · calc g.scaled q * f.unit
      _ = m * 2 ^ k * 2 ^ j * f.unit := by rw [hscaledq, Nat.pow_add, ← Nat.mul_assoc m]
      _ = f.scaled r * (f.unit * 2 ^ j) := by rw [hscaled, Nat.mul_assoc, Nat.mul_comm (2 ^ j)]
      _ = f.scaled r * g.unit := by rw [hunit]

theorem single_within_double : single.Within double :=
  within_of_shift (j := 925) (by decide) (by decide) (by decide)

end Format

namespace Binary

variable {f g : Format}

theorem convert_self (hf : 0 < f.precision) (x : Binary f) : x.convert f = x := by
  cases x with
  | finite s r =>
    have hrank : f.nearest (f.scaled r) f.unit = r :=
      f.nearest_eq_of_exact hf f.unit_pos rfl
    rw [convert, ofRatio, hrank, ofRank, dif_pos r.isLt]
  | _ => rfl

/-- A number is the same after a stay in a format that has it. -/
theorem convert_convert (hf : 0 < f.precision) (hg : 0 < g.precision) (h : f.Within g)
    (x : Binary f) : (x.convert g).convert f = x := by
  cases x with
  | finite s r =>
    obtain ⟨q, hq, hscaled⟩ := h r r.isLt
    have hthere : g.nearest (f.scaled r) f.unit = q :=
      g.nearest_eq_of_exact hg f.unit_pos hscaled.symm
    have hback : f.nearest (g.scaled q) g.unit = r := f.nearest_eq_of_exact hf g.unit_pos hscaled
    rw [convert, ofRatio, hthere, ofRank, dif_pos hq, convert, ofRatio, hback, ofRank,
      dif_pos r.isLt]
  | _ => rfl

/-- The number is the integer. -/
def IsInt (n : Int) : Binary f → Prop
  | finite s r => f.scaled r = n.natAbs * f.unit ∧ (n = 0 ∨ s = decide (n < 0))
  | _ => False

instance (n : Int) (x : Binary f) : Decidable (x.IsInt n) :=
  match x with
  | nan | infinite _ => inferInstanceAs (Decidable False)
  | finite _ _ => inferInstanceAs (Decidable (_ ∧ _))

variable {x : Binary f} {n : Int}

theorem IsInt.natAbs_lt (hf : 3 ≤ f.precision) (he : 2 ≤ f.exponentBits) (h : x.IsInt n) :
    n.natAbs < 2 ^ 2 ^ (f.exponentBits - 1) := by
  cases x with
  | finite s r =>
    have hlt := f.scaled_lt hf he r.isLt
    rw [h.1] at hlt
    exact Nat.lt_of_mul_lt_mul_right hlt
  | _ => exact h.elim

theorem IsInt.ofRatio (hf : 0 < f.precision) (h : x.IsInt n) {s : Bool}
    (hs : n = 0 ∨ s = decide (n < 0)) : (ofRatio s n.natAbs 1 : Binary f).IsInt n := by
  cases x with
  | finite t r =>
    have hrank : f.nearest n.natAbs 1 = r :=
      f.nearest_eq_of_exact hf Nat.one_pos (by rw [h.1, Nat.mul_one])
    rw [Binary.ofRatio, hrank, ofRank, dif_pos r.isLt]
    exact ⟨h.1, hs⟩
  | _ => exact h.elim

theorem IsInt.ofInt (hf : 0 < f.precision) (h : x.IsInt n) : (ofInt n : Binary f).IsInt n :=
  h.ofRatio hf (.inr rfl)

end Binary

end LiveConfig
