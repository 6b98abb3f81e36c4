import LiveConfig.Dict
import LiveConfig.Json.Reader
import LiveConfig.Value.Basic

/-! Values from documents, and back: JSON trees both ways, TOML trees one way. -/

namespace LiveConfig

namespace Value

mutual

/-- Of the members with one name the last one counts. -/
def ofJson : Json → Value
  | .null => absent
  | .bool b => bool b
  | .number (.natural n) => unsigned n
  | .number (.negative n) => signed n
  | .number (.float x) => float x
  | .text s => text s
  | .array items => list (ofJsonItems items)
  | .object members => map (Dict.ofPairs (ofJsonMembers members))

def ofJsonItems : List Json → List Value
  | [] => []
  | j :: rest => ofJson j :: ofJsonItems rest

def ofJsonMembers : List (String × Json) → List (String × Value)
  | [] => []
  | (k, j) :: rest => (k, ofJson j) :: ofJsonMembers rest

end

mutual

/-- JSON has no infinities and no not-a-number: they become null. -/
def toJson : Value → Json
  | text s => .text s
  | signed n => .number (if n < 0 then .negative n else .natural n.toUInt64)
  | unsigned n => .number (.natural n)
  | float (.finite s r) => .number (.float (.finite s r))
  | float _ => .null
  | bool b => .bool b
  | list items => .array (toJsonItems items)
  | map entries => .object (toJsonEntries entries)
  | absent => .null

def toJsonItems : List Value → List Json
  | [] => []
  | v :: rest => toJson v :: toJsonItems rest

def toJsonEntries : List (String × Value) → List (String × Json)
  | [] => []
  | (k, v) :: rest => (k, toJson v) :: toJsonEntries rest

end

mutual

def normalise : Value → Value
  | signed n => if n < 0 then signed n else unsigned n.toUInt64
  | float (.finite s r) => float (.finite s r)
  | float _ => absent
  | list items => list (normaliseItems items)
  | map entries => map (normaliseEntries entries)
  | v => v

def normaliseItems : List Value → List Value
  | [] => []
  | v :: rest => normalise v :: normaliseItems rest

def normaliseEntries : List (String × Value) → List (String × Value)
  | [] => []
  | (k, v) :: rest => (k, normalise v) :: normaliseEntries rest

end

def readJson? (s : String) : Option Value :=
  (Json.read? s).map ofJson

end Value

/-- TOML documents as trees; a point in time is kept as its text. -/
inductive Toml where
  | text (s : String)
  | integer (n : Int64)
  | float (x : Double)
  | bool (b : Bool)
  | datetime (s : String)
  | array (items : List Toml)
  | table (entries : List (String × Toml))

namespace Toml

instance : Inhabited Toml := ⟨text ""⟩

/-- A point in time is written with at most nine digits behind the point and no final zero
there, nor a point without digits. -/
def writtenTime (s : String) : String :=
  let whole := s.toList.takeWhile (· ≠ '.')
  match s.toList.dropWhile (· ≠ '.') with
  | [] => s
  | _ :: rest =>
    let isDigit (c : Char) : Bool := '0' ≤ c && c ≤ '9'
    let kept := (((rest.takeWhile isDigit).take 9).reverse.dropWhile (· = '0')).reverse
    let fraction := if kept.isEmpty then [] else '.' :: kept
    String.ofList (whole ++ fraction ++ rest.dropWhile isDigit)

end Toml

namespace Value

mutual

def ofToml : Toml → Value
  | .text s => text s
  | .integer n => signed n
  | .float x => float x
  | .bool b => bool b
  | .datetime s => text (Toml.writtenTime s)
  | .array items => list (ofTomlItems items)
  | .table entries => map (Dict.ofPairs (ofTomlEntries entries))

def ofTomlItems : List Toml → List Value
  | [] => []
  | t :: rest => ofToml t :: ofTomlItems rest

def ofTomlEntries : List (String × Toml) → List (String × Value)
  | [] => []
  | (k, t) :: rest => (k, ofToml t) :: ofTomlEntries rest

end

end Value
end LiveConfig
