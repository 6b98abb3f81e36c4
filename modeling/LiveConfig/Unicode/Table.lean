import LiveConfig.Text.Hex
import LiveConfig.Text.Pieces

/-! Tables about characters, written in lines of words. A word gives the code points of a row, as
`41`, `41-5A` or `100~12E` for every second one, and behind `=` what the table says of the first.
Code points are left out where they follow the row before. -/

namespace LiveConfig.Unicode

open Text (hexNumber? splitOn)

/-- The code points from `first` to `last` in steps of `step`, and what is said of `first`. -/
structure Row where
  first : Nat
  last : Nat
  step : Nat
  entry : List Nat
  deriving DecidableEq, Repr

namespace Row

def covers (r : Row) (c : Char) : Bool :=
  r.first ≤ c.toNat && c.toNat ≤ r.last && (c.toNat - r.first) % r.step = 0

def read? (next : Nat) (word : List Char) : Option Row :=
  let (points, entry) := match splitOn (· = '=') word with
    | [points, entry] => (points, splitOn (· = ',') entry)
    | _ => (word, [])
  (entry.mapM hexNumber?).bind fun entry =>
    match splitOn (· = '-') points, splitOn (· = '~') points with
    | [[]], _ => some ⟨next, next, 1, entry⟩
    | [first, last], _ => do some ⟨← hexNumber? first, ← hexNumber? last, 1, entry⟩
    | _, [first, last] => do some ⟨← hexNumber? first, ← hexNumber? last, 2, entry⟩
    | _, _ => (hexNumber? points).map fun n => ⟨n, n, 1, entry⟩

def readAll (next : Nat) : List (List Char) → List Row
  | [] => []
  | word :: words =>
    match read? next word with
    | some row => row :: readAll (row.last + 1) words
    | none => readAll next words

end Row

structure Table where
  rows : List Row

namespace Table

def ofLines (lines : List String) : Table :=
  ⟨Row.readAll 0 (lines.flatMap fun line => splitOn (· = ' ') line.toList)⟩

def contains (t : Table) (c : Char) : Bool := t.rows.any (·.covers c)

def row? (t : Table) (c : Char) : Option Row := t.rows.find? (·.covers c)

def entry? (t : Table) (c : Char) : Option (List Nat) := (t.row? c).map (·.entry)

def value? (t : Table) (c : Char) : Option Nat := (t.entry? c).bind (·.head?)

/-- Characters that lie as far behind the entry as the character behind the first of its row. -/
def image? (t : Table) (c : Char) : Option (List Char) :=
  (t.row? c).map fun r => r.entry.map fun n => Char.ofNat (n + (c.toNat - r.first))

def source? (t : Table) (entry : List Nat) : Option Char :=
  (t.rows.find? (·.entry = entry)).map fun r => Char.ofNat r.first

theorem contains_iff {t : Table} {c : Char} :
    t.contains c ↔ ∃ r ∈ t.rows, r.covers c := by
  simp [contains]

end Table
end LiveConfig.Unicode
