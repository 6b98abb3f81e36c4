import LiveConfig.Proofs.Bean.Passing
import LiveConfig.Proofs.Number.Whole

/-! Literals in the form of a parameter. What fits a parameter without a hint has this form unless it
is a text; bringing a literal into it keeps what the parameter can hold of it, and is done once. -/

namespace LiveConfig

namespace Value

def whole? : Value → Option Int
  | text s => Numeral.whole? (Text.trimChars s.toList)
  | signed n => some n.toInt
  | unsigned n => some n.toNat
  | _ => none

variable {v w : Value} {s : String} {n : Int}

theorem whole?_of_ofInteger? (h : ofInteger? n = some w) : w.whole? = some n := by
  unfold ofInteger? at h
  split at h
  next m hm =>
    obtain ⟨rfl, hholds⟩ := IntKind.fit?_eq_some_iff.mp hm
    obtain rfl := Option.some.inj h
    exact congrArg some (IntKind.toInt_ofInt hholds)
  next =>
    obtain ⟨m, hm, rfl⟩ := Option.map_eq_some_iff.mp h
    obtain ⟨rfl, hholds⟩ := IntKind.fit?_eq_some_iff.mp hm
    exact congrArg some (IntKind.toNat_ofNat hholds)

theorem toBool?_of_whole? (h : (text s).whole? = some n) : (text s).toBool? = none := by
  have hdigit := Numeral.any_isDigit_of_whole? h
  rw [toBool?]
  split
  next heq => exact absurd heq (Numeral.ofList_lowerChars_ne hdigit (by decide))
  next heq => exact absurd heq (Numeral.ofList_lowerChars_ne hdigit (by decide))
  next => rfl

theorem toInt?_signed (n : Int64) : (signed n).toInt? .i64 = some n.toInt :=
  IntKind.fit?_of_holds ⟨n.le_toInt, n.toInt_le⟩

theorem toBinary?_of_whole? {x : Double} (h : v.whole? = some n) (hx : x.IsInt n) :
    ∃ y : Double, v.toBinary? .double = some y ∧ y.IsInt n := by
  have hprecision : 0 < Format.double.precision := by decide
  cases v with
  | text s => exact Numeral.binary?_of_whole? (by decide) (by decide) h hx
  | signed m =>
    obtain rfl := Option.some.inj h
    exact ⟨_, rfl, hx.ofInt hprecision⟩
  | unsigned m =>
    obtain rfl := Option.some.inj h
    exact ⟨_, rfl, hx.ofInt hprecision⟩
  | _ => contradiction

end Value

namespace Matching

variable {v w : Value} {p : ParamType} {n : Int}

/-- The forms in which a parameter gets its literals. -/
def isForm : ParamType → Value → Bool
  | .text, .text _ | .text, .absent => true
  | .int, .signed _ | .int, .unsigned _ => true
  | .float, .float _ => true
  | .bool, .bool _ => true
  | .bean _, _ | .any, _ => true
  | _, _ => false

/-- What a parameter has to be told of a literal. -/
def Keeps (v : Value) : ParamType → Value → Prop
  | .text, w => w = if v.isAbsent then .absent else .text v.display
  | .int, w => ∀ n, v.whole? = some n → w.whole? = some n
  | .float, w => (∀ x, v = .float x → w = v) ∧
      ∀ n, v.whole? = some n → (∃ x : Double, x.IsInt n) → ∃ x : Double, w = .float x ∧ x.IsInt n
  | .bool, w => (∀ b, v = .bool b → w = v) ∧ ∀ n, v.whole? = some n → w = .bool (n ≠ 0)
  | .bean _, w | .any, w => w = v

theorem convertLiteral?_of_isForm (h : isForm p w = true) : convertLiteral? w p = some w := by
  cases p with
  | text => cases w <;> first | rfl | contradiction
  | bool => cases w <;> first | rfl | contradiction
  | int =>
    cases w with
    | signed n =>
      rw [convertLiteral?_int (by simp), Value.toInt?_signed]
      exact congrArg (fun m => some (Value.signed m)) (Int64.ofInt_toInt n)
    | unsigned n => rfl
    | _ => contradiction
  | float =>
    cases w with
    | float x =>
      have hsame : x.convert .double = x := x.convert_self (by decide)
      rw [convertLiteral?, Value.toBinary?, hsame]
      rfl
    | _ => contradiction
  | bean c => rfl
  | any => rfl

theorem isForm_of_convertLiteral? (h : convertLiteral? v p = some w) : isForm p w = true := by
  cases p with
  | text =>
    rw [convertLiteral?] at h
    split at h
    · obtain rfl := Option.some.inj h
      rfl
    · obtain ⟨-, hw⟩ := Option.ite_none_right_eq_some.mp h
      obtain rfl := Option.some.inj hw
      rfl
  | bool =>
    obtain ⟨b, -, rfl⟩ := Option.map_eq_some_iff.mp h
    rfl
  | int =>
    by_cases hu : ∃ n, v = .unsigned n
    · obtain ⟨n, rfl⟩ := hu
      obtain rfl := Option.some.inj h
      rfl
    · rw [convertLiteral?_int (not_exists.mp hu)] at h
      split at h
      · obtain rfl := Option.some.inj h
        rfl
      · obtain ⟨n, -, rfl⟩ := Option.map_eq_some_iff.mp h
        rfl
  | float =>
    obtain ⟨x, -, rfl⟩ := Option.map_eq_some_iff.mp h
    rfl
  | bean c => rfl
  | any => rfl

theorem convertLiteral?_of_whole? {s : String} (h : (Value.text s).whole? = some n) :
    convertLiteral? (.text s) .int = Value.ofInteger? n := by
  have hne : ∀ m, Value.text s ≠ .unsigned m := by simp
  rcases hsign : Numeral.sign (Text.trimChars s.toList) with ⟨negative, ds⟩
  rw [Value.whole?, Numeral.whole?, hsign] at h
  obtain ⟨m, hm, rfl⟩ := Option.map_eq_some_iff.mp h
  cases negative with
  | false =>
    have hfit (k : IntKind) : (Value.text s).toInt? k = k.fit? m := by
      rw [Value.toInt?_unsigned_text hsign, hm, Option.bind_some]
    exact convertLiteral?_of_fit hne (hfit .i64) (hfit .u64)
  | true =>
    by_cases hzero : m = 0
    · -- a kind without signs would not take the minus sign, but it is not asked
      subst hzero
      rw [convertLiteral?_int hne, Value.toInt?_of_minus_zero hsign hm]
      rfl
    · have hfit := Value.toInt?_of_negative hsign hm hzero
      exact convertLiteral?_of_fit hne (hfit .i64) (hfit .u64)

theorem keeps_of_convertLiteral? (h : convertLiteral? v p = some w) : Keeps v p w := by
  cases p with
  | text =>
    rw [convertLiteral?] at h
    split at h
    next habsent => exact (Option.some.inj h).symm.trans (if_pos habsent).symm
    next hpresent =>
      obtain ⟨-, hw⟩ := Option.ite_none_right_eq_some.mp h
      exact (Option.some.inj hw).symm.trans (if_neg hpresent).symm
  | bool =>
    refine ⟨?_, fun n hn => ?_⟩
    · rintro b rfl
      exact (Option.some.inj h).symm
    · cases v with
      | text s =>
        rw [convertLiteral?, Value.toBool?_of_whole? hn] at h
        contradiction
      | signed m =>
        obtain rfl := Option.some.inj hn
        have hzero : m ≠ 0 ↔ m.toInt ≠ 0 := not_congr Int64.toInt_inj.symm
        exact (Option.some.inj h).symm.trans (congrArg Value.bool (decide_eq_decide.mpr hzero))
      | unsigned m =>
        obtain rfl := Option.some.inj hn
        have hzero : m ≠ 0 ↔ (m.toNat : Int) ≠ 0 := not_congr (by simp [← UInt64.toNat_inj])
        exact (Option.some.inj h).symm.trans (congrArg Value.bool (decide_eq_decide.mpr hzero))
      | _ => contradiction
  | int =>
    intro n hn
    cases v with
    | text s => exact Value.whole?_of_ofInteger? ((convertLiteral?_of_whole? hn).symm.trans h)
    | signed m =>
      rw [convertLiteral?_of_isForm rfl] at h
      exact Option.some.inj h ▸ hn
    | unsigned m => exact Option.some.inj h ▸ hn
    | _ => contradiction
  | float =>
    refine ⟨?_, ?_⟩
    · rintro x rfl
      rw [convertLiteral?_of_isForm rfl] at h
      exact (Option.some.inj h).symm
    · rintro n hn ⟨x, hx⟩
      obtain ⟨y, hy, hint⟩ := Value.toBinary?_of_whole? hn hx
      rw [convertLiteral?, hy] at h
      exact ⟨y, (Option.some.inj h).symm, hint⟩
  | bean c => exact (Option.some.inj h).symm
  | any => exact (Option.some.inj h).symm

/-- What fits a parameter without a hint and is not a text, has the form of the parameter. -/
theorem isSome_convertLiteral?_of_fit (hv : ∀ s, v ≠ .text s)
    (h : (fit? ⟨.literal v, none⟩ p).isSome = true) : (convertLiteral? v p).isSome = true := by
  cases v with
  | text s => exact absurd rfl (hv s)
  | signed n =>
    cases p with
    | int => rw [convertLiteral?_of_isForm rfl, Option.isSome_some]
    | _ => rfl
  | _ => cases p <;> first | rfl | contradiction

end Matching
end LiveConfig
