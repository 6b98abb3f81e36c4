import LiveConfig.Value.Basic
import LiveConfig.Number.Numeral

/-! Reading a value as a number or a truth value. Text is read as a numeral, numbers are taken
exactly or not at all, and only the binary formats round. -/

namespace LiveConfig.Value

/-- A float gives the integer that remains without its fraction. -/
def toInt? (k : IntKind) : Value → Option Int
  | text s => Numeral.integer? k (Text.trimChars s.toList)
  | signed n => k.fit? n.toInt
  | unsigned n => k.fit? n.toNat
  | float x => x.truncate?.bind k.fit?
  | bool b => some (if b then 1 else 0)
  | list _ | map _ | absent => none

def toBinary? (f : Format) : Value → Option (Binary f)
  | text s => Numeral.binary? f (Text.trimChars s.toList)
  | signed n => some (.ofInt n.toInt)
  | unsigned n => some (.ofInt n.toNat)
  | float x => some (x.convert f)
  | bool b => some (.ofInt (if b then 1 else 0))
  | list _ | map _ | absent => none

/-- Floats are no truth values; of the integers zero alone is false. -/
def toBool? : Value → Option Bool
  | text s =>
    match String.ofList (Text.lowerChars (Text.trimChars s.toList)) with
    | "true" => some true
    | "false" => some false
    | _ => none
  | signed n => some (n ≠ 0)
  | unsigned n => some (n ≠ 0)
  | bool b => some b
  | float _ | list _ | map _ | absent => none

end LiveConfig.Value
