import LiveConfig.Number.Numeral
import LiveConfig.Proofs.Number.Exact
import Mathlib.Data.List.TakeWhile

/-! Whole numbers as text. What reads other things from a text as well reads these as the numbers
they are, or not at all. -/

namespace LiveConfig

namespace Numeral

variable {cs ds : List Char} {negative : Bool} {m : Nat} {n : Int}

def whole? (cs : List Char) : Option Int :=
  let (negative, ds) := sign cs
  (natural? ds).map fun m : Nat => if negative then -(m : Int) else m

theorem natural?_eq_some_iff :
    natural? ds = some m ↔ (ds ≠ [] ∧ ds.all isDigit = true) ∧ value ds = m := by
  rw [natural?, Option.ite_none_right_eq_some, Option.some.injEq]

theorem sign_suffix (cs : List Char) : (sign cs).2 <:+ cs := by
  unfold sign
  split
  · exact List.suffix_cons _ _
  · exact List.suffix_cons _ _
  · exact List.suffix_refl _

theorem toLower_of_isDigit {c : Char} (h : isDigit c = true) : c.toLower = c := by
  have hle : c ≤ '9' := by
    simp only [isDigit, Bool.and_eq_true, decide_eq_true_eq] at h
    exact h.2
  have hupper : ¬ 'A' ≤ c := fun hge => absurd (Char.le_trans hge hle) (by decide)
  exact dif_neg fun hletter => hupper hletter.1

theorem any_isDigit_of_natural? (h : natural? ds = some m) : ds.any isDigit = true := by
  obtain ⟨⟨hne, hall⟩, -⟩ := natural?_eq_some_iff.mp h
  obtain ⟨c, hc⟩ := List.exists_mem_of_ne_nil ds hne
  exact List.any_eq_true.mpr ⟨c, hc, List.all_eq_true.mp hall c hc⟩

theorem any_isDigit_of_whole? (h : whole? cs = some n) : cs.any isDigit = true := by
  obtain ⟨m, hm, -⟩ := Option.map_eq_some_iff.mp h
  obtain ⟨c, hc, hdigit⟩ := List.any_eq_true.mp (any_isDigit_of_natural? hm)
  exact List.any_eq_true.mpr ⟨c, (sign_suffix cs).mem hc, hdigit⟩

theorem ofList_lowerChars_ne {word : String} (h : cs.any isDigit = true)
    (hword : word.toList.any isDigit = false) : String.ofList (Text.lowerChars cs) ≠ word := by
  rintro rfl
  obtain ⟨c, hc, hdigit⟩ := List.any_eq_true.mp h
  have hlower : c ∈ Text.lowerChars cs :=
    List.mem_map.mpr ⟨c, hc, toLower_of_isDigit hdigit⟩
  rw [String.toList_ofList] at hword
  exact absurd (List.any_eq_true.mpr ⟨c, hlower, hdigit⟩) (by simp [hword])

theorem decimal?_of_natural? (h : natural? ds = some m) :
    decimal? negative ds = some ⟨negative, m, 0⟩ := by
  obtain ⟨⟨hne, hall⟩, hvalue⟩ := natural?_eq_some_iff.mp h
  have htake : ds.takeWhile isDigit = ds :=
    List.takeWhile_eq_self_iff.mpr (List.all_eq_true.mp hall)
  have hdrop : ds.dropWhile isDigit = [] :=
    List.dropWhile_eq_nil_iff.mpr (List.all_eq_true.mp hall)
  simp only [decimal?, htake, hdrop]
  rw [if_neg (fun h => hne h.1), List.append_nil, hvalue]
  rfl

variable {f : Format}

theorem binary?_of_natural? (hsign : sign cs = (negative, ds)) (h : natural? ds = some m) :
    binary? f cs = some (Decimal.toBinary f ⟨negative, m, 0⟩) := by
  have hdigit : ds.any isDigit = true := any_isDigit_of_natural? h
  simp only [binary?, hsign]
  split
  next heq => exact absurd heq (ofList_lowerChars_ne hdigit (by decide))
  next heq => exact absurd heq (ofList_lowerChars_ne hdigit (by decide))
  next heq => exact absurd heq (ofList_lowerChars_ne hdigit (by decide))
  next => rw [decimal?_of_natural? h, Option.map_some]

/-! The texts of an integer in decimal. -/

section Writes

/-- Zeros may stand in front of the digits and a plus sign in front of both; a minus sign stands
before negative integers only. -/
inductive Writes : Int → List Char → Prop
  | bare (zeros m : Nat) : Writes m (List.replicate zeros '0' ++ Nat.toDigits 10 m)
  | plus (zeros m : Nat) : Writes m ('+' :: (List.replicate zeros '0' ++ Nat.toDigits 10 m))
  | minus (zeros m : Nat) :
    Writes (Int.negSucc m) ('-' :: (List.replicate zeros '0' ++ Nat.toDigits 10 (m + 1)))

theorem isDigit_of_mem_toDigits {c : Char} (h : c ∈ Nat.toDigits 10 m) : isDigit c = true := by
  have hdigit := Nat.isDigit_of_mem_toDigits (by decide) (by decide) h
  simp only [Char.isDigit, Bool.and_eq_true, decide_eq_true_eq] at hdigit
  simp only [isDigit, Bool.and_eq_true, decide_eq_true_eq]
  exact hdigit

theorem value_zeros (zeros : Nat) (ds : List Char) :
    value (List.replicate zeros '0' ++ ds) = value ds := by
  induction zeros with
  | zero => rfl
  | succ zeros ih =>
    rw [List.replicate_succ, List.cons_append]
    exact ih

theorem natural?_zeros_toDigits (zeros m : Nat) :
    natural? (List.replicate zeros '0' ++ Nat.toDigits 10 m) = some m := by
  have hvalue : value (Nat.toDigits 10 m) = m := Nat.ofDigitChars_ten_toDigits
  refine natural?_eq_some_iff.mpr ⟨⟨?_, ?_⟩, (value_zeros zeros _).trans hvalue⟩
  · exact List.append_ne_nil_of_right_ne_nil _ Nat.toDigits_ne_nil
  · refine List.all_eq_true.mpr fun c hc => ?_
    rcases List.mem_append.mp hc with hc | hc
    · rw [List.eq_of_mem_replicate hc]
      decide
    · exact isDigit_of_mem_toDigits hc

theorem sign_of_natural? (h : natural? ds = some m) : sign ds = (false, ds) := by
  obtain ⟨⟨-, hall⟩, -⟩ := natural?_eq_some_iff.mp h
  unfold sign
  split
  · exact absurd hall (by simp [isDigit])
  · exact absurd hall (by simp [isDigit])
  · rfl

/-- Such a text spells out the integer, and has a minus sign only if the integer is negative. -/
theorem Writes.spells (h : Writes n cs) : whole? cs = some n ∧ ((sign cs).1 = true → n < 0) := by
  cases h with
  | bare zeros m =>
    have hm := natural?_zeros_toDigits zeros m
    rw [whole?, sign_of_natural? hm]
    simp [hm]
  | plus zeros m =>
    have hm := natural?_zeros_toDigits zeros m
    simp [whole?, sign, hm]
  | minus zeros m =>
    have hm := natural?_zeros_toDigits zeros (m + 1)
    have hwhole : whole? ('-' :: (List.replicate zeros '0' ++ Nat.toDigits 10 (m + 1))) =
        some (Int.negSucc m) := congrArg (Option.map fun m : Nat => -(m : Int)) hm
    exact ⟨hwhole, fun _ => Int.negSucc_lt_zero m⟩

theorem writes_toString (n : Int) : Writes n (toString n).toList := by
  rw [Int.toString_eq_repr]
  cases n with
  | ofNat m =>
    have hrepr : (Int.repr (.ofNat m)).toList = Nat.toDigits 10 m := Nat.toList_repr
    rw [hrepr]
    exact .bare 0 m
  | negSucc m =>
    have hrepr : (Int.repr (.negSucc m)).toList = '-' :: Nat.toDigits 10 (m + 1) := by
      rw [Int.repr, String.toList_append, Nat.toList_repr]
      rfl
    rw [hrepr]
    exact .minus 0 m

end Writes

end Numeral

namespace Decimal

variable {f : Format} {x : Binary f} {n : Int} {negative : Bool}

theorem digitCount_le {m k : Nat} (h : m < 2 ^ k) : digitCount m ≤ k := by
  unfold digitCount
  split
  · exact Nat.zero_le k
  next hm =>
    have hk : 0 < k := Nat.pos_of_ne_zero fun hk => hm (by simpa [hk] using h)
    have hten : m < 10 ^ k := Nat.lt_of_lt_of_le h (Nat.pow_le_pow_left (by decide) k)
    exact (Nat.length_toDigits_le_iff (by decide) hk).mpr hten

theorem toBinary_whole (hf : 0 < f.precision) {m : Nat}
    (h : digitCount m ≤ 2 ^ (f.exponentBits - 1)) :
    toBinary f ⟨negative, m, 0⟩ = .ofRatio negative m 1 := by
  have hpow : Nat.pow 2 (f.exponentBits - 1) = 2 ^ (f.exponentBits - 1) := rfl
  have htenfold : tenfold m 0 = (m, 1) := congrArg (·, 1) (Nat.mul_one m)
  simp only [toBinary, Int.add_zero, htenfold, hpow]
  by_cases hm : m = 0
  · subst hm
    have hzero : f.nearest 0 1 = 0 :=
      f.nearest_eq_of_exact hf Nat.one_pos (by simp [Format.scaled, f.binade_pos])
    rw [if_pos (.inl rfl), Binary.ofRatio, hzero]
  · rw [if_neg (by omega), if_neg (by omega)]

end Decimal

namespace Numeral

variable {f : Format} {x : Binary f} {cs : List Char} {n : Int}

theorem binary?_of_whole? (hf : 3 ≤ f.precision) (he : 2 ≤ f.exponentBits) (h : whole? cs = some n)
    (hx : x.IsInt n) : ∃ y : Binary f, binary? f cs = some y ∧ y.IsInt n := by
  rcases hsign : sign cs with ⟨negative, ds⟩
  rw [whole?, hsign, Option.map_eq_some_iff] at h
  obtain ⟨m, hm, rfl⟩ := h
  have habs : (if negative then -(m : Int) else m).natAbs = m := by
    split <;> omega
  have hdigits : digitCount m ≤ 2 ^ (f.exponentBits - 1) :=
    Decimal.digitCount_le (habs ▸ hx.natAbs_lt hf he)
  refine ⟨_, (binary?_of_natural? hsign hm).trans
    (congrArg some (Decimal.toBinary_whole (by omega) hdigits)), ?_⟩
  have hs : (if negative then -(m : Int) else m) = 0 ∨
      negative = decide ((if negative then -(m : Int) else m) < 0) := by
    cases negative with
    | false => exact .inr (by simp)
    | true =>
      simp only [if_true, true_eq_decide_iff]
      omega
  have hround := hx.ofRatio (by omega) hs
  rwa [habs] at hround

end Numeral
end LiveConfig
