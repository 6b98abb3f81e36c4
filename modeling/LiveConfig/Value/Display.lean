import LiveConfig.Value.Basic
import LiveConfig.Number.Decimal

/-! The text of a value, as messages show it and as a text setting receives it. -/

namespace LiveConfig.Value

def join (parts : List String) : String :=
  String.intercalate ", " parts

mutual

def display : Value → String
  | text s => s
  | signed n => toString n.toInt
  | unsigned n => toString n.toNat
  | float x => x.display
  | bool b => if b then "true" else "false"
  | list items => "[" ++ join (displayItems items) ++ "]"
  | map entries => "\x7b" ++ join (displayEntries entries) ++ "\x7d"
  | absent => "<none>"

def displayItems : List Value → List String
  | [] => []
  | v :: rest => display v :: displayItems rest

def displayEntries : List (String × Value) → List String
  | [] => []
  | (k, v) :: rest => (k ++ ": " ++ display v) :: displayEntries rest

end

end LiveConfig.Value
