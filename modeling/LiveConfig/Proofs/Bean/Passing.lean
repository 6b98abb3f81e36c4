import LiveConfig.Sample.Bean

/-! A literal passed to a constructor, against the same literal assigned to a property. The first is
brought into the form of the parameter and then read, the second is read at once. -/

namespace LiveConfig

namespace Numeral

def isMinusZero : List Char → Bool
  | '-' :: ds => !ds.isEmpty && ds.all (· = '0')
  | _ => false

theorem foldl_eq_zero_iff (ds : List Char) (n : Nat) :
    ds.foldl (fun n c => 10 * n + digitValue c) n = 0 ↔ n = 0 ∧ ∀ c ∈ ds, digitValue c = 0 := by
  induction ds generalizing n with
  | nil => simp
  | cons c ds ih =>
    rw [List.foldl_cons, ih, List.forall_mem_cons, ← and_assoc]
    exact and_congr_left fun _ => by omega

theorem digitValue_eq_zero_iff {c : Char} (h : isDigit c = true) :
    digitValue c = 0 ↔ c = '0' := by
  have hle : '0' ≤ c := by
    simp only [isDigit, Bool.and_eq_true, decide_eq_true_eq] at h
    exact h.1
  have hnat : '0'.toNat ≤ c.toNat := hle
  rw [digitValue, Nat.sub_eq_zero_iff_le]
  constructor
  · intro hge
    exact Char.toNat_inj.mp (Nat.le_antisymm hge hnat)
  · rintro rfl
    exact Nat.le_refl _

theorem natural?_eq_some_zero_iff {ds : List Char} :
    natural? ds = some 0 ↔ ds ≠ [] ∧ ∀ c ∈ ds, c = '0' := by
  have hvalue (hall : ds.all isDigit = true) : value ds = 0 ↔ ∀ c ∈ ds, c = '0' := by
    rw [value, foldl_eq_zero_iff, eq_self, true_and]
    exact forall₂_congr fun c hc => digitValue_eq_zero_iff (List.all_eq_true.mp hall c hc)
  rw [natural?, Option.ite_none_right_eq_some, Option.some.injEq]
  constructor
  · rintro ⟨⟨hne, hall⟩, hzero⟩
    exact ⟨hne, (hvalue hall).mp hzero⟩
  · rintro ⟨hne, hzeros⟩
    have hall : ds.all isDigit = true :=
      List.all_eq_true.mpr fun c hc => by rw [hzeros c hc]; decide
    exact ⟨⟨hne, hall⟩, (hvalue hall).mpr hzeros⟩

theorem isMinusZero_iff {cs : List Char} :
    isMinusZero cs = true ↔ (sign cs).1 = true ∧ natural? (sign cs).2 = some 0 := by
  rw [natural?_eq_some_zero_iff]
  unfold isMinusZero sign
  split
  · simp
  · split <;> simp_all

end Numeral

namespace IntKind

theorem holds_wide {k : IntKind} {n : Int} (h : k.Holds n) :
    (if k.signed then i64 else u64).Holds n := by
  have hleast : (if k.signed then i64 else u64).least ≤ k.least := by cases k <;> decide
  have hgreatest : k.greatest ≤ (if k.signed then i64 else u64).greatest := by
    cases k <;> decide
  exact ⟨Int.le_trans hleast h.1, Int.le_trans h.2 hgreatest⟩

theorem holds_widest {k : IntKind} {n : Int} (h : k.Holds n) : i64.Holds n ∨ u64.Holds n := by
  have hwide := holds_wide h
  split at hwide
  · exact .inl hwide
  · exact .inr hwide

theorem toInt_ofInt {n : Int} (h : i64.Holds n) : (Int64.ofInt n).toInt = n :=
  Int64.toInt_ofInt_of_le h.1 (Int.lt_of_le_sub_one h.2)

theorem toNat_ofNat {n : Int} (h : u64.Holds n) : ((UInt64.ofNat n.toNat).toNat : Int) = n := by
  obtain ⟨hleast, hgreatest⟩ := h
  have hpos : 0 ≤ n := hleast
  have hmax : u64.greatest = 2 ^ 64 - 1 := by decide
  have hn : (UInt64.ofNat n.toNat).toNat = n.toNat :=
    UInt64.toNat_ofNat_of_lt' (show n.toNat < 2 ^ 64 by omega)
  rw [hn, Int.toNat_of_nonneg hpos]

theorem fit?_eq_none_iff {k : IntKind} {n : Int} : k.fit? n = none ↔ ¬ k.Holds n := by
  simp [fit?]

theorem fit?_of_holds {k : IntKind} {n : Int} (h : k.Holds n) : k.fit? n = some n :=
  fit?_eq_some_iff.mpr ⟨rfl, h⟩

end IntKind

namespace Value

/-- An integer in the form in which a parameter holds it. -/
def ofInteger? (n : Int) : Option Value :=
  match IntKind.fit? .i64 n with
  | some n => some (signed (.ofInt n))
  | none => (IntKind.fit? .u64 n).map fun n => unsigned (.ofNat n.toNat)

theorem toInt?_ofInteger? (k : IntKind) (n : Int) :
    (ofInteger? n).bind (toInt? k) = k.fit? n := by
  unfold ofInteger?
  split
  next m hm =>
    obtain ⟨rfl, hholds⟩ := IntKind.fit?_eq_some_iff.mp hm
    rw [Option.bind_some, toInt?, IntKind.toInt_ofInt hholds]
  next hm =>
    cases hu : IntKind.fit? .u64 n with
    | some m =>
      obtain ⟨rfl, hholds⟩ := IntKind.fit?_eq_some_iff.mp hu
      rw [Option.map_some, Option.bind_some, toInt?, IntKind.toNat_ofNat hholds]
    | none =>
      have hnone : ¬ k.Holds n := fun h => (IntKind.holds_widest h).elim
        (IntKind.fit?_eq_none_iff.mp hm) (IntKind.fit?_eq_none_iff.mp hu)
      exact (IntKind.fit?_eq_none_iff.mpr hnone).symm

def isMinusZero : Value → Bool
  | text s => Numeral.isMinusZero (Text.trimChars s.toList)
  | _ => false

end Value

namespace Matching

variable {v : Value}

theorem convertLiteral?_int (h : ∀ n, v ≠ .unsigned n) : convertLiteral? v .int =
    match v.toInt? .i64 with
      | some n => some (.signed (.ofInt n))
      | none => (v.toInt? .u64).map fun n => .unsigned (.ofNat n.toNat) := by
  cases v with
  | unsigned n => exact absurd rfl (h n)
  | _ => rfl

theorem convertLiteral?_of_fit {n : Int} (h : ∀ n, v ≠ .unsigned n)
    (hi : v.toInt? .i64 = IntKind.fit? .i64 n) (hu : v.toInt? .u64 = IntKind.fit? .u64 n) :
    convertLiteral? v .int = Value.ofInteger? n := by
  rw [convertLiteral?_int h, hi, hu, Value.ofInteger?]

theorem convertLiteral?_of_none (h : ∀ n, v ≠ .unsigned n) (hnone : ∀ k, v.toInt? k = none) :
    convertLiteral? v .int = none := by
  rw [convertLiteral?_int h, hnone, hnone]
  rfl

end Matching

namespace Value

open Matching

theorem bind_toInt?_of_fit {v : Value} {n : Int} (h : ∀ n, v ≠ .unsigned n)
    (hfit : ∀ k, v.toInt? k = k.fit? n) (k : IntKind) :
    (convertLiteral? v .int).bind (toInt? k) = v.toInt? k := by
  rw [convertLiteral?_of_fit h (hfit .i64) (hfit .u64), toInt?_ofInteger?, hfit]

theorem bind_toInt?_of_none {v : Value} (h : ∀ n, v ≠ .unsigned n) (hnone : ∀ k, v.toInt? k = none)
    (k : IntKind) : (convertLiteral? v .int).bind (toInt? k) = v.toInt? k := by
  rw [convertLiteral?_of_none h hnone, hnone]
  rfl

theorem toInt?_bool (b : Bool) (k : IntKind) :
    toInt? k (bool b) = k.fit? (if b then 1 else 0) := by
  refine (IntKind.fit?_of_holds ?_).symm
  cases b <;> cases k <;> decide

section Text

variable {s : String} {ds : List Char} {n : Nat}

theorem isMinusZero_text {negative : Bool}
    (h : Numeral.sign (Text.trimChars s.toList) = (negative, ds)) :
    isMinusZero (text s) = (negative && Numeral.natural? ds = some 0) := by
  rw [Bool.eq_iff_iff, isMinusZero, Numeral.isMinusZero_iff, h, Bool.and_eq_true,
    decide_eq_true_iff]

theorem toInt?_unsigned_text (h : Numeral.sign (Text.trimChars s.toList) = (false, ds))
    (k : IntKind) : toInt? k (text s) = (Numeral.natural? ds).bind fun n => k.fit? n := by
  simp [toInt?, Numeral.integer?, h]

theorem toInt?_negative_text (h : Numeral.sign (Text.trimChars s.toList) = (true, ds))
    (k : IntKind) : toInt? k (text s) =
      if k.signed then (Numeral.natural? ds).bind fun n => k.fit? (-n) else none := by
  cases hk : k.signed <;> simp [toInt?, Numeral.integer?, h, hk]

theorem toInt?_of_negative (h : Numeral.sign (Text.trimChars s.toList) = (true, ds))
    (hn : Numeral.natural? ds = some n) (hpos : n ≠ 0) (k : IntKind) :
    toInt? k (text s) = k.fit? (-n) := by
  rw [toInt?_negative_text h, hn, Option.bind_some]
  split
  · rfl
  · have hleast : k.least = 0 := if_neg ‹_›
    have hout : ¬ k.Holds (-n) := fun ⟨hle, _⟩ => by omega
    exact (IntKind.fit?_eq_none_iff.mpr hout).symm

theorem toInt?_of_minus_zero (h : Numeral.sign (Text.trimChars s.toList) = (true, ds))
    (hn : Numeral.natural? ds = some 0) (k : IntKind) :
    toInt? k (text s) = if k.signed then some 0 else none := by
  rw [toInt?_negative_text h, hn, Option.bind_some]
  cases k <;> rfl

theorem toInt?_of_isMinusZero {v : Value} {k : IntKind} (hk : k.signed = false)
    (h : v.isMinusZero = true) : v.toInt? k = none := by
  cases v with
  | text s =>
    rcases hsign : Numeral.sign (Text.trimChars s.toList) with ⟨negative, ds⟩
    rw [isMinusZero_text hsign, Bool.and_eq_true, decide_eq_true_iff] at h
    obtain ⟨rfl, hn⟩ := h
    rw [toInt?_of_minus_zero hsign hn, hk, if_neg Bool.false_ne_true]
  | _ => contradiction

end Text

/-- Through the form of a parameter an integer of a kind is read as it is at once, but for minus
zero: that is zero there, and nothing to a kind without signs. -/
theorem bind_toInt?_eq (v : Value) (k : IntKind) :
    (convertLiteral? v .int).bind (toInt? k) =
      if !k.signed && v.isMinusZero then some 0 else v.toInt? k := by
  have hother (h : v.isMinusZero = false)
      (hsame : (convertLiteral? v .int).bind (toInt? k) = v.toInt? k) :
      (convertLiteral? v .int).bind (toInt? k) =
        if !k.signed && v.isMinusZero then some 0 else v.toInt? k := by
    rwa [h, Bool.and_false, if_neg Bool.false_ne_true]
  cases v with
  | text s =>
    have hne : ∀ n, text s ≠ .unsigned n := by simp
    rcases hsign : Numeral.sign (Text.trimChars s.toList) with ⟨negative, ds⟩
    have hzero := isMinusZero_text hsign
    -- every kind reads the same digits, so only zero after a minus sign can tell kinds apart
    cases hn : Numeral.natural? ds with
    | none =>
      have hnone : ∀ k, toInt? k (text s) = none := by
        intro k
        cases negative with
        | false => rw [toInt?_unsigned_text hsign, hn]; rfl
        | true => rw [toInt?_negative_text hsign, hn, Option.bind_none, ite_self]
      refine hother ?_ (bind_toInt?_of_none hne hnone k)
      simp [hzero, hn]
    | some n =>
      cases negative with
      | false =>
        have hfit : ∀ k, toInt? k (text s) = k.fit? n := by
          intro k
          rw [toInt?_unsigned_text hsign, hn, Option.bind_some]
        exact hother hzero (bind_toInt?_of_fit hne hfit k)
      | true =>
        by_cases hpos : n = 0
        · subst hpos
          have hread := toInt?_of_minus_zero hsign hn
          have hform : convertLiteral? (text s) .int = some (.signed (.ofInt 0)) := by
            rw [convertLiteral?_int hne, hread]
            rfl
          rw [hform, Option.bind_some, hread, hzero, hn]
          cases k <;> rfl
        · refine hother ?_ (bind_toInt?_of_fit hne (toInt?_of_negative hsign hn hpos) k)
          simp [hzero, hn, hpos]
  | signed m =>
    have hne : ∀ n, signed m ≠ .unsigned n := by simp
    exact hother rfl (bind_toInt?_of_fit hne (fun k => rfl) k)
  | unsigned n => exact hother rfl rfl
  | float x =>
    have hne : ∀ n, float x ≠ .unsigned n := by simp
    refine hother rfl ?_
    cases hx : x.truncate? with
    | none => exact bind_toInt?_of_none hne (fun k => by rw [toInt?, hx]; rfl) k
    | some n => exact bind_toInt?_of_fit hne (fun k => by rw [toInt?, hx]; rfl) k
  | bool b =>
    have hne : ∀ n, bool b ≠ .unsigned n := by simp
    exact hother rfl (bind_toInt?_of_fit hne (toInt?_bool b) k)
  | list items => exact hother rfl rfl
  | map entries => exact hother rfl rfl
  | absent => exact hother rfl rfl

end Value

/-- The types that parameters and properties have in common. -/
inductive PlainType where
  | bool
  | text
  | integer (k : IntKind)
  deriving DecidableEq, Repr

namespace PlainType

abbrev field : PlainType → FieldType
  | bool => .bool
  | text => .text
  | integer k => .integer k

def param : PlainType → ParamType
  | bool => .bool
  | text => .text
  | integer _ => .int

def isUnsigned : PlainType → Bool
  | integer k => !k.signed
  | _ => false

variable {β : Type}

/-- What a constructor takes that has a literal among its arguments. -/
def passed (t : PlainType) (className : String) (before after : List (Property β)) (v : Value) :
    Option t.field.Datum :=
  (Matching.convertLiteral? v t.param).bind fun v =>
    let a := Arguments.ofList className (before ++ .value v :: after)
    (a.take t.field before.length).1.toOption

def assigned (β : Type) (t : PlainType) (v : Value) : Option t.field.Datum :=
  (Property.convert t.field (.value v : Property β)).toOption

theorem toOption_mapError {ε ε' α : Type} (f : ε → ε') (x : Except ε α) :
    (x.mapError f).toOption = x.toOption := by
  cases x <;> rfl

theorem take_ofList_append (t : FieldType) (className : String) (before after : List (Property β))
    (p : Property β) :
    ((Arguments.ofList className (before ++ p :: after)).take t before.length).1.toOption =
      (Property.convert t p).toOption := by
  have hget : ((before ++ p :: after).map some)[before.length]? = some (some p) := by
    simp
  rw [Arguments.take, Arguments.takeWith, Arguments.takeAs, Arguments.ofList, hget]
  exact toOption_mapError _ _

/-- A literal that reaches a constructor is read as if it were assigned in its new form. -/
theorem passed_eq (t : PlainType) (className : String) (before after : List (Property β))
    (v : Value) : t.passed className before after v =
      (Matching.convertLiteral? v t.param).bind (t.assigned β) := by
  simp only [passed, take_ofList_append]
  rfl

theorem assigned_integer (k : IntKind) (v : Value) :
    (integer k).assigned β v = Property.integer? k v := by
  rw [assigned, Property.convert, Property.scalar]
  cases Property.integer? k v <;> rfl

theorem assigned_bool (v : Value) : bool.assigned β v = v.toBool? := by
  rw [assigned, Property.convert, Property.scalar]
  cases v.toBool? <;> rfl

theorem assigned_text (v : Value) : text.assigned β v = Property.textOf? v := by
  rw [assigned, Property.convert, Property.scalar]
  cases Property.textOf? v <;> rfl

theorem map_val_integer? (k : IntKind) (v : Value) :
    (Property.integer? k v).map Subtype.val = v.toInt? k := by
  unfold Property.integer?
  split
  next n h => exact h.symm
  next h => exact h.symm

theorem bind_toBool? (v : Value) :
    (Matching.convertLiteral? v .bool).bind Value.toBool? = v.toBool? := by
  rw [Matching.convertLiteral?]
  cases v.toBool? <;> rfl

theorem bind_textOf? (v : Value) :
    (Matching.convertLiteral? v .text).bind Property.textOf? = Property.textOf? v := by
  cases v <;> rfl

/-- A constructor takes a literal as a property of the same type gets it: the same ones are refused,
and the others come to the same. One thing differs. Minus zero in a text is no number without signs
and so is refused by a property that can hold none below zero; a parameter is an integer of any
kind, which makes it zero before the constructor takes it. -/
theorem passed_or_assigned (t : PlainType) (className : String) (before after : List (Property β))
    (v : Value) :
    t.isUnsigned = true ∧ v.isMinusZero = true ∧ t.assigned β v = none ∧
        (t.passed className before after v).map (Value.ofDatum t.field) = some (.unsigned 0) ∨
      (t.isUnsigned && v.isMinusZero) = false ∧
        t.passed className before after v = t.assigned β v := by
  rw [passed_eq]
  cases t with
  | bool =>
    refine .inr ⟨rfl, ?_⟩
    rw [funext assigned_bool]
    exact bind_toBool? v
  | text =>
    refine .inr ⟨rfl, ?_⟩
    rw [funext assigned_text]
    exact bind_textOf? v
  | integer k =>
    rw [funext (assigned_integer (β := β) k)]
    have hread : ((Matching.convertLiteral? v .int).bind (Property.integer? k)).map Subtype.val =
        if !k.signed && v.isMinusZero then some 0 else v.toInt? k := by
      rw [← Value.bind_toInt?_eq, Option.map_bind]
      exact congrArg _ (funext (map_val_integer? k))
    cases hzero : (!k.signed && v.isMinusZero) with
    | true =>
      rw [hzero, if_pos rfl, Option.map_eq_some_iff] at hread
      obtain ⟨hk, hv⟩ := Bool.and_eq_true_iff.mp hzero
      have hsigned : k.signed = false := by simpa using hk
      obtain ⟨x, hx, hx0⟩ := hread
      have hnone : Property.integer? k v = none := by
        rw [← Option.map_eq_none_iff, map_val_integer?]
        exact Value.toInt?_of_isMinusZero hsigned hv
      refine .inl ⟨hk, hv, hnone, ?_⟩
      rw [PlainType.param, hx, Option.map_some, Value.ofDatum, hx0]
      exact congrArg some (if_neg (by simp [hsigned]))
    | false =>
      rw [hzero, if_neg Bool.false_ne_true, ← map_val_integer?] at hread
      exact .inr ⟨hzero, Option.map_injective (fun _ _ => Subtype.ext) hread⟩

/-- The text of a minus sign and a zero reaches a constructor as zero, and no such property. -/
theorem minus_zero_passed :
    ((integer .u8).passed "Counter" ([] : List (Property Sample)) [] (.text "-0")).isSome = true ∧
      (integer .u8).assigned Sample (.text "-0") = none := by
  decide

end PlainType

end LiveConfig
