import LiveConfig.Value.Basic

/-! Equality of values: kind by kind and place by place, with numbers compared as numbers inside
one kind only. -/

namespace LiveConfig.Value

mutual

def same : Value → Value → Bool
  | text s, text t => s = t
  | signed n, signed m => n = m
  | unsigned n, unsigned m => n = m
  | float x, float y => x.sameNumber y
  | bool a, bool b => a = b
  | list xs, list ys => sameItems xs ys
  | map xs, map ys => sameEntries xs ys
  | absent, absent => true
  | _, _ => false

def sameItems : List Value → List Value → Bool
  | [], [] => true
  | x :: xs, y :: ys => same x y && sameItems xs ys
  | _, _ => false

def sameEntries : List (String × Value) → List (String × Value) → Bool
  | [], [] => true
  | (k, x) :: xs, (l, y) :: ys => k = l && same x y && sameEntries xs ys
  | _, _ => false

end

end LiveConfig.Value
