/-! The integer kinds a setting may have, with the range of each. -/

namespace LiveConfig

inductive IntKind where
  | i8 | i16 | i32 | i64 | isize
  | u8 | u16 | u32 | u64 | usize
  deriving DecidableEq, Repr

namespace IntKind

def all : List IntKind :=
  [i8, i16, i32, i64, isize, u8, u16, u32, u64, usize]

def name : IntKind → String
  | i8 => "i8" | i16 => "i16" | i32 => "i32" | i64 => "i64" | isize => "isize"
  | u8 => "u8" | u16 => "u16" | u32 => "u32" | u64 => "u64" | usize => "usize"

def ofName? (s : String) : Option IntKind :=
  all.find? (·.name = s)

def signed : IntKind → Bool
  | i8 | i16 | i32 | i64 | isize => true
  | u8 | u16 | u32 | u64 | usize => false

def width : IntKind → Nat
  | i8 | u8 => 8
  | i16 | u16 => 16
  | i32 | u32 => 32
  | i64 | u64 | isize | usize => 64

def least (k : IntKind) : Int :=
  if k.signed then -(Int.pow 2 (k.width - 1)) else 0

def greatest (k : IntKind) : Int :=
  if k.signed then Int.pow 2 (k.width - 1) - 1 else Int.pow 2 k.width - 1

def Holds (k : IntKind) (n : Int) : Prop :=
  k.least ≤ n ∧ n ≤ k.greatest

instance (k : IntKind) (n : Int) : Decidable (k.Holds n) :=
  inferInstanceAs (Decidable (_ ∧ _))

def fit? (k : IntKind) (n : Int) : Option Int :=
  if k.Holds n then some n else none

theorem fit?_eq_some_iff {k : IntKind} {n m : Int} : k.fit? n = some m ↔ n = m ∧ k.Holds n := by
  unfold fit?
  split <;> simp_all

theorem ofName?_name (k : IntKind) : ofName? k.name = some k := by
  cases k <;> decide

end IntKind
end LiveConfig
