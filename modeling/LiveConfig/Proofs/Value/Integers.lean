import LiveConfig.Proofs.Bean.Passing
import LiveConfig.Proofs.Number.Whole
import LiveConfig.Proofs.Text.Trimming

/-! Values read as integers. A value comes to an integer first, or to none, and only then has a kind
to hold it, so that the kinds agree with each other. Of a text it also matters whether it has a minus
sign, since unsigned kinds refuse one even before zero. -/

namespace LiveConfig

namespace IntKind

theorem signed_of_holds {s t : IntKind} (h : ∀ m, s.Holds m → t.Holds m)
    (hs : s.signed = true) : t.signed = true := by
  have hholds : s.Holds s.least := by cases s <;> decide
  have hle : t.least ≤ s.least := (h s.least hholds).1
  have hneg : s.least < 0 := by cases s <;> first | decide | contradiction
  by_contra ht
  have hzero : t.least = 0 := if_neg ht
  omega

end IntKind

namespace Numeral

theorem isBlank_of_isDigit {c : Char} (h : isDigit c = true) : Text.isBlank c = false := by
  simp only [isDigit, Bool.and_eq_true, decide_eq_true_eq] at h
  have hlow : 48 ≤ c.toNat := h.1
  have hhigh : c.toNat ≤ 57 := h.2
  simp only [Text.isBlank, Bool.or_eq_false_iff, Bool.and_eq_false_iff, decide_eq_false_iff_not]
  omega

theorem trimChars_of_whole? {cs : List Char} {n : Int} (h : whole? cs = some n) :
    Text.trimChars cs = cs := by
  obtain ⟨m, hm, -⟩ := Option.map_eq_some_iff.mp h
  obtain ⟨⟨-, hall⟩, -⟩ := natural?_eq_some_iff.mp hm
  have hdigits : ∀ c ∈ (sign cs).2, Text.isBlank c = false :=
    fun c hc => isBlank_of_isDigit (List.all_eq_true.mp hall c hc)
  apply Text.trimChars_of_no_blank
  unfold sign at hdigits
  split at hdigits
  · exact List.forall_mem_cons.mpr ⟨by decide, hdigits⟩
  · exact List.forall_mem_cons.mpr ⟨by decide, hdigits⟩
  · exact hdigits

end Numeral

namespace Value

/-- The integer that a value comes to before a kind has to hold it, and whether it is written with
a minus sign. -/
def integral? : Value → Option (Bool × Int)
  | text s =>
    let cs := Text.trimChars s.toList
    (Numeral.whole? cs).map ((Numeral.sign cs).1, ·)
  | signed n => some (false, n.toInt)
  | unsigned n => some (false, n.toNat)
  | float x => x.truncate?.map (false, ·)
  | bool b => some (false, if b then 1 else 0)
  | list _ | map _ | absent => none

/-- The values that are an integer: numbers of either signedness, and its texts between white
space. -/
inductive IsWhole : Value → Int → Prop
  | signed (m : Int64) : IsWhole (signed m) m.toInt
  | unsigned (m : UInt64) : IsWhole (unsigned m) m.toNat
  | text {s : String} {n : Int} {before cs after : List Char} (hs : s.toList = before ++ cs ++ after)
    (hbefore : ∀ c ∈ before, Text.isBlank c = true) (hafter : ∀ c ∈ after, Text.isBlank c = true)
    (h : Numeral.Writes n cs) : IsWhole (text s) n

variable {v : Value} {k s t : IntKind} {m n : Int}

theorem toInt?_eq (k : IntKind) (v : Value) :
    v.toInt? k = v.integral?.bind fun (minus, n) =>
      if minus && !k.signed then none else k.fit? n := by
  cases v with
  | text s =>
    rcases hsign : Numeral.sign (Text.trimChars s.toList) with ⟨minus, ds⟩
    simp only [toInt?, Numeral.integer?, integral?, Numeral.whole?, hsign]
    cases Numeral.natural? ds with
    | none => simp
    | some m => rfl
  | float x => cases hx : x.truncate? <;> simp [toInt?, integral?, hx]
  | bool b => exact toInt?_bool b k
  | _ => rfl

theorem toInt?_eq_some_iff :
    v.toInt? k = some n ↔
      ∃ minus, v.integral? = some (minus, n) ∧ (minus = true → k.signed = true) ∧ k.Holds n := by
  rw [toInt?_eq, Option.bind_eq_some_iff]
  constructor
  · rintro ⟨⟨minus, m⟩, hv, hm⟩
    obtain ⟨hsign, hfit⟩ := Option.ite_none_left_eq_some.mp hm
    obtain ⟨rfl, hholds⟩ := IntKind.fit?_eq_some_iff.mp hfit
    exact ⟨minus, hv, by simpa using hsign, hholds⟩
  · rintro ⟨minus, hv, hsign, hholds⟩
    refine ⟨(minus, n), hv, Option.ite_none_left_eq_some.mpr ⟨by simpa using hsign, ?_⟩⟩
    exact IntKind.fit?_of_holds hholds

theorem IsWhole.integral? (h : v.IsWhole n) :
    ∃ minus, v.integral? = some (minus, n) ∧ (minus = true → n < 0) := by
  cases h with
  | signed m => exact ⟨false, rfl, by simp⟩
  | unsigned m => exact ⟨false, rfl, by simp⟩
  | text hs hbefore hafter h =>
    obtain ⟨hwhole, hsign⟩ := h.spells
    have htrim := (Text.trimChars_surrounded hbefore hafter _).trans
      (Numeral.trimChars_of_whole? hwhole)
    refine ⟨_, ?_, hsign⟩
    simp only [Value.integral?, hs, htrim, hwhole, Option.map_some]

/-- No unsigned kind holds a negative integer, so that the minus sign makes no difference here. -/
theorem IsWhole.toInt?_eq_some_iff (h : v.IsWhole n) :
    v.toInt? k = some m ↔ m = n ∧ k.Holds n := by
  obtain ⟨minus, hv, hminus⟩ := h.integral?
  simp only [Value.toInt?_eq_some_iff, hv, Option.some.injEq, Prod.mk.injEq]
  constructor
  · rintro ⟨_, ⟨rfl, rfl⟩, -, hholds⟩
    exact ⟨rfl, hholds⟩
  · rintro ⟨rfl, hholds⟩
    refine ⟨minus, ⟨rfl, rfl⟩, fun hm => ?_, hholds⟩
    by_contra hk
    have hzero : k.least = 0 := if_neg hk
    have hneg : m < 0 := hminus hm
    have hle : k.least ≤ m := hholds.1
    omega

/-- An integer that a kind reads from a value is within its range, and every kind with a wider range
reads the same. Of two kinds that are both signed or both unsigned, the narrower one reads what the
other one reads if it can hold it. A value that is an integer is read as this integer, exactly by the
kinds that hold it. -/
theorem integers_coherent :
    (∀ (v : Value) (s t : IntKind) (n : Int),
      (v.toInt? s = some n →
        s.Holds n ∧ ((∀ m, s.Holds m → t.Holds m) → v.toInt? t = some n)) ∧
      (s.signed = t.signed → v.toInt? t = some n → s.Holds n → v.toInt? s = some n)) ∧
    ∀ (v : Value) (n : Int), v.IsWhole n →
      ∀ (t : IntKind) (m : Int), v.toInt? t = some m ↔ m = n ∧ t.Holds n := by
  refine ⟨fun v s t n => ⟨fun h => ?wider, fun hsigned h hholds => ?narrower⟩,
    fun v n h t m => h.toInt?_eq_some_iff⟩
  case wider =>
    obtain ⟨minus, hv, hsign, hholds⟩ := toInt?_eq_some_iff.mp h
    refine ⟨hholds, fun hwider => toInt?_eq_some_iff.mpr ⟨minus, hv, fun hm => ?_, ?_⟩⟩
    · exact IntKind.signed_of_holds hwider (hsign hm)
    · exact hwider n hholds
  case narrower =>
    obtain ⟨minus, hv, hsign, -⟩ := toInt?_eq_some_iff.mp h
    exact toInt?_eq_some_iff.mpr ⟨minus, hv, fun hm => hsigned ▸ hsign hm, hholds⟩

theorem integers_coherent_two_hundred :
    let v := text " 200\n"
    let x := float (.ofRatio false 401 2)
    (v.toInt? .u8 = some 200 ∧ (∀ m, IntKind.u8.Holds m → IntKind.i16.Holds m) ∧
      v.toInt? .i16 = some 200) ∧
    (IntKind.u8.signed = IntKind.u64.signed ∧ x.toInt? .u64 = some 200 ∧ IntKind.u8.Holds 200 ∧
      x.toInt? .u8 = some 200) ∧
    v.IsWhole 200 ∧ ¬ IntKind.i8.Holds 200 ∧ v.toInt? .i8 ≠ some 200 := by
  intro v x
  have hv : v.toInt? .u8 = some 200 := by decide +kernel
  have hx : x.toInt? .u64 = some 200 := by decide +kernel
  have hwider : ∀ m, IntKind.u8.Holds m → IntKind.i16.Holds m := fun m h =>
    ⟨Int.le_trans (by decide) h.1, Int.le_trans h.2 (by decide)⟩
  have htext : " 200\n".toList = [' '] ++ (toString (200 : Int)).toList ++ ['\n'] := by
    decide +kernel
  have hwhole : v.IsWhole 200 :=
    .text htext (List.forall_mem_singleton.mpr rfl) (List.forall_mem_singleton.mpr rfl)
      (Numeral.writes_toString 200)
  obtain ⟨hread, hholder⟩ := integers_coherent
  refine ⟨⟨hv, hwider, ((hread v .u8 .i16 200).1 hv).2 hwider⟩,
    ⟨rfl, hx, by decide, (hread x .u8 .u64 200).2 rfl hx (by decide)⟩, hwhole, by decide, ?_⟩
  intro h
  exact absurd ((hholder v 200 hwhole .i8 200).mp h).2 (by decide)

/-- Kinds with and without negative integers do not agree on this one. -/
example : toInt? .i8 (text "-0") = some 0 ∧ toInt? .u8 (text "-0") = none := by decide

end Value
end LiveConfig
