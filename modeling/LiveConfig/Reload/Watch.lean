import LiveConfig.Storage.Stamp

/-! Watching the date of a resource. The date known last is the baseline; looks at the resource
are more than a delay apart. Instants and delays are in nanoseconds. -/

namespace LiveConfig

structure Watch where
  delay : Nat
  baseline : Option Stamp
  lastLook : Nat
  deriving DecidableEq, Repr

namespace Watch

def start (delay now : Nat) : Watch := ⟨delay, none, now⟩

def isDue (w : Watch) (now : Nat) : Bool :=
  w.delay < now - w.lastLook

/-- A resource has changed if it can be seen and was not written before the baseline or with it;
without a baseline whatever can be seen is new. -/
def isNews (w : Watch) (seen : Option Stamp) : Bool :=
  match seen, w.baseline with
  | some t, some b => b.earlier t
  | some _, none => true
  | none, _ => false

def looked (w : Watch) (now : Nat) : Watch := { w with lastLook := now }

/-- Takes what is seen for the baseline. This is no look that the delay counts from. -/
def rebase (w : Watch) (seen : Option Stamp) : Watch := { w with baseline := seen }

theorem isNews_rebase (w : Watch) (seen : Option Stamp) : (w.rebase seen).isNews seen = false := by
  cases seen with
  | none => rfl
  | some t => exact t.earlier_irrefl

end Watch
end LiveConfig
