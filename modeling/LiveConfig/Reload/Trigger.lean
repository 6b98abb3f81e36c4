import LiveConfig.Reload.Error

/-! Triggers: checks at regular times, as a job of a scheduler. The rules work in the state of any
program that has schedulers. -/

namespace LiveConfig

structure Trigger where
  period : Nat
  scheduler : Option Nat
  owns : Bool
  job : Option Nat
  deriving DecidableEq, Repr

namespace Trigger

def usualPeriod : Nat := 5000

def make (period : Nat) (scheduler : Option Nat) : Except ReloadError Trigger :=
  if period = 0 then .error (.invalidArgument "trigger period must be greater than zero")
  else .ok ⟨period, scheduler, false, none⟩

def isRunning (t : Trigger) : Bool := t.job.isSome

structure Wiring (σ : Type) where
  create : σ → Nat × σ
  schedule : Nat → Nat → Nat → σ → Except ReloadError Nat × σ
  cancel : Nat → Nat → σ → σ
  shutDown : Nat → σ → σ

variable {σ : Type}

def ready (w : Wiring σ) (t : Trigger) (s : σ) : Nat × Trigger × σ :=
  match t.scheduler with
  | some n => (n, t, s)
  | none =>
    let (n, s) := w.create s
    (n, { t with scheduler := some n, owns := true }, s)

/-- Starts the checks, the first one after one period. A running trigger stays as it is. -/
def start (w : Wiring σ) (t : Trigger) (s : σ) : Option ReloadError × Trigger × σ :=
  if t.isRunning then (none, t, s)
  else
    let (n, t, s) := t.ready w s
    match w.schedule n t.period t.period s with
    | (.ok job, s) => (none, { t with job := some job }, s)
    | (.error e, s) => (some e, t, s)

def stop (w : Wiring σ) (t : Trigger) (s : σ) : Trigger × σ :=
  match t.scheduler, t.job with
  | some n, some job => ({ t with job := none }, w.cancel n job s)
  | _, _ => (t, s)

/-- Stops, and shuts the scheduler down too if that is asked for, whoever made it. -/
def shutDownWith (w : Wiring σ) (too : Bool) (t : Trigger) (s : σ) : Trigger × σ :=
  let (t, s) := t.stop w s
  match too, t.scheduler with
  | true, some n => (t, w.shutDown n s)
  | _, _ => (t, s)

/-- Stops, and shuts down the trigger's own scheduler but no other. -/
def shutDown (w : Wiring σ) (t : Trigger) (s : σ) : Trigger × σ :=
  t.shutDownWith w t.owns s

/-! What a start comes to. -/

variable {w : Wiring σ} {t t' : Trigger} {s s' : σ} {n : Nat}

theorem start_of_isRunning (h : t.isRunning = true) : t.start w s = (none, t, s) := if_pos h

theorem start_of_stopped (h : t.isRunning = false) (hready : t.ready w s = (n, t', s')) :
    t.start w s = match w.schedule n t'.period t'.period s' with
      | (.ok job, s) => (none, { t' with job := some job }, s)
      | (.error e, s) => (some e, t', s) := by
  rw [start, h, hready]
  rfl

end Trigger
end LiveConfig
