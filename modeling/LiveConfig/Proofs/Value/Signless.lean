import LiveConfig.Value.Access
import LiveConfig.Value.Display
import LiveConfig.Value.Documents

/-! Values that differ in nothing but the signedness of integers. Each has one form without the
difference, and what is read from a value is read from that form. -/

namespace LiveConfig

namespace Value

mutual

/-- The same value, with every integer that is not negative as an unsigned one. -/
def signless : Value → Value
  | signed n => if n < 0 then signed n else unsigned n.toUInt64
  | list items => list (signlessItems items)
  | map entries => map (signlessEntries entries)
  | v => v

def signlessItems : List Value → List Value
  | [] => []
  | v :: rest => signless v :: signlessItems rest

def signlessEntries : List (String × Value) → List (String × Value)
  | [] => []
  | (k, v) :: rest => (k, signless v) :: signlessEntries rest

end

mutual

/-- Values are alike if they are equal except that an integer may be signed in the one and unsigned
in the other, at any depth. -/
def Alike : Value → Value → Prop
  | text s, text t => s = t
  | signed n, signed m => n = m
  | unsigned n, unsigned m => n = m
  | signed n, unsigned m => n.toInt = m.toNat
  | unsigned n, signed m => m.toInt = n.toNat
  | float x, float y => x = y
  | bool a, bool b => a = b
  | list xs, list ys => AlikeItems xs ys
  | map xs, map ys => AlikeEntries xs ys
  | absent, absent => True
  | _, _ => False

def AlikeItems : List Value → List Value → Prop
  | [], [] => True
  | x :: xs, y :: ys => Alike x y ∧ AlikeItems xs ys
  | _, _ => False

def AlikeEntries : List (String × Value) → List (String × Value) → Prop
  | [], [] => True
  | (k, x) :: xs, (l, y) :: ys => k = l ∧ Alike x y ∧ AlikeEntries xs ys
  | _, _ => False

end

theorem signlessItems_eq_map (items : List Value) : signlessItems items = items.map signless := by
  induction items with
  | nil => rw [signlessItems, List.map_nil]
  | cons v rest ih => rw [signlessItems, ih, List.map_cons]

theorem signlessEntries_eq_map (entries : List (String × Value)) :
    signlessEntries entries = entries.map fun p => (p.1, p.2.signless) := by
  induction entries with
  | nil => rw [signlessEntries, List.map_nil]
  | cons p rest ih => rw [signlessEntries, ih, List.map_cons]

/-! Integers and their forms. -/

section Integers

variable {n m : Int64} {u : UInt64}

theorem toNat_toUInt64 (h : ¬ n < 0) : (n.toUInt64.toNat : Int) = n.toInt := by
  have hpos : 0 ≤ n := Int64.not_lt.mp h
  have hint : 0 ≤ n.toInt := Int64.le_iff_toInt_le.mp hpos
  rw [Int64.toNat_toUInt64_of_le hpos]
  exact Int.toNat_of_nonneg hint

theorem signless_of_negative (h : n < 0) : (signed n).signless = signed n := by
  rw [signless, if_pos h]

theorem signless_of_not_negative (h : ¬ n < 0) :
    (signed n).signless = unsigned n.toUInt64 := by
  rw [signless, if_neg h]

theorem signless_signed (n : Int64) :
    (signed n).signless = signed n ∨ (signed n).signless = unsigned n.toUInt64 :=
  (Decidable.em (n < 0)).imp signless_of_negative signless_of_not_negative

theorem signless_signed_eq_unsigned_iff :
    (signed n).signless = unsigned u ↔ n.toInt = u.toNat := by
  by_cases h : n < 0
  · have hint : n.toInt < 0 := Int64.lt_iff_toInt_lt.mp h
    rw [signless_of_negative h]
    exact iff_of_false Value.noConfusion fun heq => by omega
  · rw [signless_of_not_negative h, unsigned.injEq, ← UInt64.toNat_inj, ← toNat_toUInt64 h]
    exact Int.ofNat_inj.symm

theorem signless_signed_eq_signed_iff :
    (signed n).signless = (signed m).signless ↔ n = m := by
  by_cases hm : m < 0
  · rw [signless_of_negative hm]
    by_cases hn : n < 0
    · rw [signless_of_negative hn, signed.injEq]
    · rw [signless_of_not_negative hn]
      refine iff_of_false Value.noConfusion ?_
      rintro rfl
      exact hn hm
  · rw [signless_of_not_negative hm, signless_signed_eq_unsigned_iff, toNat_toUInt64 hm,
      Int64.toInt_inj]

end Integers

mutual

theorem alike_iff (v w : Value) : Alike v w ↔ v.signless = w.signless := by
  cases v with
  | signed n =>
    cases w with
    | signed m =>
      rw [Alike]
      exact signless_signed_eq_signed_iff.symm
    | unsigned u =>
      rw [Alike]
      exact signless_signed_eq_unsigned_iff.symm
    | _ => rcases signless_signed n with h | h <;> rw [h] <;> simp [Alike, signless]
  | unsigned u =>
    cases w with
    | signed m =>
      rw [Alike]
      exact signless_signed_eq_unsigned_iff.symm.trans eq_comm
    | _ => simp [Alike, signless]
  | list xs =>
    cases w with
    | signed m => rcases signless_signed m with h | h <;> rw [h] <;> simp [Alike, signless]
    | list ys => rw [Alike, signless, signless, list.injEq, alikeItems_iff xs ys]
    | _ => simp [Alike, signless]
  | map xs =>
    cases w with
    | signed m => rcases signless_signed m with h | h <;> rw [h] <;> simp [Alike, signless]
    | map ys => rw [Alike, signless, signless, map.injEq, alikeEntries_iff xs ys]
    | _ => simp [Alike, signless]
  | _ =>
    cases w with
    | signed m => rcases signless_signed m with h | h <;> rw [h] <;> simp [Alike, signless]
    | _ => simp [Alike, signless]

theorem alikeItems_iff (xs ys : List Value) :
    AlikeItems xs ys ↔ signlessItems xs = signlessItems ys := by
  rcases xs with _ | ⟨x, xs⟩ <;> rcases ys with _ | ⟨y, ys⟩
  · simp [AlikeItems]
  · simp [AlikeItems, signlessItems]
  · simp [AlikeItems, signlessItems]
  · rw [AlikeItems, signlessItems, signlessItems, List.cons.injEq, alike_iff x y,
      alikeItems_iff xs ys]

theorem alikeEntries_iff (xs ys : List (String × Value)) :
    AlikeEntries xs ys ↔ signlessEntries xs = signlessEntries ys := by
  rcases xs with _ | ⟨⟨k, x⟩, xs⟩ <;> rcases ys with _ | ⟨⟨l, y⟩, ys⟩
  · simp [AlikeEntries]
  · simp [AlikeEntries, signlessEntries]
  · simp [AlikeEntries, signlessEntries]
  · rw [AlikeEntries, signlessEntries, signlessEntries, List.cons.injEq, Prod.mk.injEq, and_assoc,
      alike_iff x y, alikeEntries_iff xs ys]

end

def AlikeOption : Option Value → Option Value → Prop
  | none, none => True
  | some v, some w => v.Alike w
  | _, _ => False

theorem alikeOption_iff (v w : Option Value) :
    AlikeOption v w ↔ v.map signless = w.map signless := by
  cases v <;> cases w <;> simp [AlikeOption, alike_iff]

theorem Alike.eq_of_signless {v w : Value} (h : v.Alike w) {γ : Type} {f : Value → γ}
    (hf : ∀ v, f v.signless = f v) : f v = f w := by
  rw [← hf v, (alike_iff v w).mp h, hf w]

/-! What is read from a value. -/

section Reading

variable {γ : Type} {f : Value → γ}

/-- What does not tell the forms of an integer apart, and tells of lists and maps nothing or the
same, is read from the form. -/
theorem apply_signless (hint : ∀ n : Int64, ¬ n < 0 → f (unsigned n.toUInt64) = f (signed n))
    (hlist : ∀ xs, f (list (signlessItems xs)) = f (list xs))
    (hmap : ∀ es, f (map (signlessEntries es)) = f (map es)) (v : Value) : f v.signless = f v := by
  cases v with
  | signed n =>
    by_cases h : n < 0
    · rw [signless_of_negative h]
    · rw [signless_of_not_negative h, hint n h]
  | list xs => exact hlist xs
  | map es => exact hmap es
  | _ => rfl

variable (v : Value)

@[simp] theorem isAbsent_signless : v.signless.isAbsent = v.isAbsent :=
  apply_signless (fun _ _ => rfl) (fun _ => rfl) (fun _ => rfl) v

@[simp] theorem isScalar_signless : v.signless.isScalar = v.isScalar :=
  apply_signless (fun _ _ => rfl) (fun _ => rfl) (fun _ => rfl) v

@[simp] theorem typeName_signless : v.signless.typeName = v.typeName :=
  apply_signless (fun _ _ => rfl) (fun _ => rfl) (fun _ => rfl) v

@[simp] theorem asText?_signless : v.signless.asText? = v.asText? :=
  apply_signless (fun _ _ => rfl) (fun _ => rfl) (fun _ => rfl) v

@[simp] theorem toInt?_signless (k : IntKind) : v.signless.toInt? k = v.toInt? k := by
  refine apply_signless (f := toInt? k) (fun n h => ?_) (fun _ => rfl) (fun _ => rfl) v
  rw [toInt?, toInt?, toNat_toUInt64 h]

@[simp] theorem toBinary?_signless (g : Format) : v.signless.toBinary? g = v.toBinary? g := by
  refine apply_signless (f := toBinary? g) (fun n h => ?_) (fun _ => rfl) (fun _ => rfl) v
  rw [toBinary?, toBinary?, toNat_toUInt64 h]

@[simp] theorem toBool?_signless : v.signless.toBool? = v.toBool? := by
  refine apply_signless (f := toBool?) (fun n h => ?_) (fun _ => rfl) (fun _ => rfl) v
  have hzero : n.toUInt64 = 0 ↔ n = 0 := by
    rw [← UInt64.toNat_inj, ← Int64.toInt_inj, ← toNat_toUInt64 h]
    exact Int.ofNat_inj.symm
  simp [toBool?, hzero]

mutual

@[simp] theorem display_signless (v : Value) : v.signless.display = v.display := by
  cases v with
  | signed n =>
    by_cases h : n < 0
    · rw [signless_of_negative h]
    · rw [signless_of_not_negative h, display, display, ← toNat_toUInt64 h]
      rfl
  | list xs => rw [signless, display, display, displayItems_signless xs]
  | map es => rw [signless, display, display, displayEntries_signless es]
  | _ => rfl

theorem displayItems_signless (xs : List Value) :
    displayItems (signlessItems xs) = displayItems xs := by
  rcases xs with _ | ⟨x, xs⟩
  · rfl
  · rw [signlessItems, displayItems, displayItems, display_signless x, displayItems_signless xs]

theorem displayEntries_signless (es : List (String × Value)) :
    displayEntries (signlessEntries es) = displayEntries es := by
  rcases es with _ | ⟨⟨k, v⟩, es⟩
  · rfl
  · rw [signlessEntries, displayEntries, displayEntries, display_signless v,
      displayEntries_signless es]

end

end Reading

mutual

@[simp] theorem signless_signless (v : Value) : v.signless.signless = v.signless := by
  cases v with
  | signed n => rcases signless_signed n with h | h <;> rw [h] <;> first | exact h | rfl
  | list xs => rw [signless, signless, signlessItems_signlessItems xs]
  | map es => rw [signless, signless, signlessEntries_signlessEntries es]
  | _ => rfl

theorem signlessItems_signlessItems (xs : List Value) :
    signlessItems (signlessItems xs) = signlessItems xs := by
  rcases xs with _ | ⟨x, xs⟩
  · rfl
  · rw [signlessItems, signlessItems, signless_signless x, signlessItems_signlessItems xs]

theorem signlessEntries_signlessEntries (es : List (String × Value)) :
    signlessEntries (signlessEntries es) = signlessEntries es := by
  rcases es with _ | ⟨⟨k, v⟩, es⟩
  · rfl
  · rw [signlessEntries, signlessEntries, signless_signless v, signlessEntries_signlessEntries es]

end

end Value

/-! Documents without nulls and points in time. -/

/-- What JSON and TOML can both say: integers of 64 bits with a sign, and no nulls. -/
inductive Document where
  | text (s : String)
  | integer (n : Int64)
  | float (x : Double)
  | bool (b : Bool)
  | list (items : List Document)
  | map (entries : List (String × Document))

namespace Document

mutual

def json : Document → Json
  | text s => .text s
  | integer n => .number (if n < 0 then .negative n else .natural n.toUInt64)
  | float x => .number (.float x)
  | bool b => .bool b
  | list items => .array (jsonItems items)
  | map entries => .object (jsonEntries entries)

def jsonItems : List Document → List Json
  | [] => []
  | d :: rest => json d :: jsonItems rest

def jsonEntries : List (String × Document) → List (String × Json)
  | [] => []
  | (k, d) :: rest => (k, json d) :: jsonEntries rest

end

mutual

def toml : Document → Toml
  | text s => .text s
  | integer n => .integer n
  | float x => .float x
  | bool b => .bool b
  | list items => .array (tomlItems items)
  | map entries => .table (tomlEntries entries)

def tomlItems : List Document → List Toml
  | [] => []
  | d :: rest => toml d :: tomlItems rest

def tomlEntries : List (String × Document) → List (String × Toml)
  | [] => []
  | (k, d) :: rest => (k, toml d) :: tomlEntries rest

end

open Value

mutual

theorem signless_toml (d : Document) : (ofToml d.toml).signless = ofJson d.json := by
  cases d with
  | integer n =>
    rw [toml, ofToml, json]
    by_cases h : n < 0
    · rw [signless_of_negative h, if_pos h, ofJson]
    · rw [signless_of_not_negative h, if_neg h, ofJson]
  | list items =>
    rw [toml, ofToml, json, ofJson, signless, signless_tomlItems items]
  | map entries =>
    rw [toml, ofToml, json, ofJson, signless, signlessEntries_eq_map, ← Dict.ofPairs_map,
      ← signlessEntries_eq_map, signless_tomlEntries entries]
  | _ => rfl

theorem signless_tomlItems (items : List Document) :
    signlessItems (ofTomlItems (tomlItems items)) = ofJsonItems (jsonItems items) := by
  rcases items with _ | ⟨d, rest⟩
  · rfl
  · rw [tomlItems, ofTomlItems, signlessItems, jsonItems, ofJsonItems, signless_toml d,
      signless_tomlItems rest]

theorem signless_tomlEntries (entries : List (String × Document)) :
    signlessEntries (ofTomlEntries (tomlEntries entries)) =
      ofJsonMembers (jsonEntries entries) := by
  rcases entries with _ | ⟨⟨k, d⟩, rest⟩
  · rfl
  · rw [tomlEntries, ofTomlEntries, signlessEntries, jsonEntries, ofJsonMembers, signless_toml d,
      signless_tomlEntries rest]

end

theorem alike_json_toml (d : Document) : Alike (ofJson d.json) (ofToml d.toml) := by
  rw [alike_iff, ← signless_toml, signless_signless]

end Document
end LiveConfig
