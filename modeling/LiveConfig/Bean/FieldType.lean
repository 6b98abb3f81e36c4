import LiveConfig.Value.Access
import LiveConfig.Value.Display

/-! The types a setting may be converted to, and the data of each. -/

namespace LiveConfig

theorem Value.holds_of_toInt? {k : IntKind} {v : Value} {n : Int} (h : v.toInt? k = some n) :
    k.Holds n := by
  cases v with
  | text s =>
    simp only [Value.toInt?, Numeral.integer?] at h
    split at h
    · simp at h
    · obtain ⟨m, _, hm⟩ := Option.bind_eq_some_iff.mp h
      obtain ⟨rfl, hk⟩ := IntKind.fit?_eq_some_iff.mp hm
      exact hk
  | signed m =>
    obtain ⟨rfl, hk⟩ := IntKind.fit?_eq_some_iff.mp h
    exact hk
  | unsigned m =>
    obtain ⟨rfl, hk⟩ := IntKind.fit?_eq_some_iff.mp h
    exact hk
  | float x =>
    obtain ⟨m, _, hm⟩ := Option.bind_eq_some_iff.mp h
    obtain ⟨rfl, hk⟩ := IntKind.fit?_eq_some_iff.mp hm
    exact hk
  | bool b =>
    obtain rfl : (if b then 1 else 0) = n := by simpa [Value.toInt?] using h
    cases b <;> cases k <;> decide
  | list _ => simp [Value.toInt?] at h
  | map _ => simp [Value.toInt?] at h
  | absent => simp [Value.toInt?] at h

inductive FieldType where
  | bool
  | integer (k : IntKind)
  | single
  | double
  | text
  | path
  | value
  | option (t : FieldType)
  | list (t : FieldType)
  deriving DecidableEq, Repr, Inhabited

namespace FieldType

abbrev Datum : FieldType → Type
  | bool => Bool
  | integer k => { n : Int // k.Holds n }
  | single => Single
  | double => Double
  | text => String
  | path => String
  | value => Value
  | option t => Option t.Datum
  | list t => List t.Datum

/-- The name of a type in messages; a value that may be missing is named like one that is not. -/
def name : FieldType → String
  | bool => "bool"
  | integer k => k.name
  | single => "f32"
  | double => "f64"
  | text => "String"
  | path => "PathBuf"
  | value => "ConfigValue"
  | option t => t.name
  | list _ => "list"

def ofName? (s : String) : Option FieldType :=
  match s with
  | "bool" => some bool
  | "f32" => some single
  | "f64" => some double
  | "String" => some text
  | "PathBuf" => some path
  | "ConfigValue" => some value
  | _ => (IntKind.ofName? s).map integer

end FieldType

namespace Value

/-- An integer as the value it is written down as: the unsigned kinds as unsigned. -/
def ofInt (k : IntKind) (n : Int) : Value :=
  if k.signed then signed (.ofInt n) else unsigned (.ofNat n.toNat)

def ofDatum : (t : FieldType) → t.Datum → Value
  | .bool, b => bool b
  | .integer k, n => ofInt k n.val
  | .single, x => float (x.convert .double)
  | .double, x => float x
  | .text, s => text s
  | .path, s => text s
  | .value, v => v
  | .option _, none => absent
  | .option t, some x => ofDatum t x
  | .list t, xs => list (xs.map (ofDatum t))

end Value
end LiveConfig
