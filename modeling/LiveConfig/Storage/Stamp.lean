/-! When a resource was written. -/

namespace LiveConfig

/-- A date in nanoseconds since 1970, or an instant of the running program, which is later than
every date that can be given. -/
inductive Stamp where
  | dated (nanos : Int)
  | lately (instant : Nat)
  deriving DecidableEq, Repr

namespace Stamp

def earlier : Stamp → Stamp → Bool
  | dated a, dated b => a < b
  | dated _, lately _ => true
  | lately _, dated _ => false
  | lately a, lately b => a < b

theorem earlier_irrefl (t : Stamp) : t.earlier t = false := by
  cases t <;> simp [earlier]

end Stamp
end LiveConfig
