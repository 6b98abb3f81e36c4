import LiveConfig.Reload.Error

/-! Schedulers run jobs at a fixed rate until they are cancelled. Times are in milliseconds. -/

namespace LiveConfig

structure Job (β : Type) where
  body : β
  initial : Nat
  period : Nat
  isCancelled : Bool
  /-- Whether the scheduler still has the job in its books; a finished one is struck off later. -/
  isListed : Bool

inductive SchedulerKind where
  | threads
  | recording
  | rejecting
  deriving DecidableEq, Repr

structure Scheduler (β : Type) where
  kind : SchedulerKind
  jobs : List (Job β)
  isDown : Bool

namespace Scheduler

variable {β : Type}

def ofKind (k : SchedulerKind) : Scheduler β := ⟨k, [], false⟩

def isThreads (s : Scheduler β) : Bool := s.kind = .threads

def sweep (s : Scheduler β) : Scheduler β :=
  { s with jobs := s.jobs.map fun j => { j with isListed := j.isListed && !j.isCancelled } }

def refusal? (period : Nat) (s : Scheduler β) : Option ReloadError :=
  match s.kind with
  | .rejecting => some (.scheduler "no threads" (some "limit reached"))
  | .threads =>
    if period = 0 then some (.invalidArgument "period must be greater than zero")
    else if s.isDown then some .schedulerShutDown
    else none
  | .recording => if s.isDown then some .schedulerShutDown else none

def schedule (body : β) (initial period : Nat) (s : Scheduler β) :
    Except ReloadError Nat × Scheduler β :=
  match s.refusal? period with
  | some e => (.error e, s)
  | none =>
    (.ok s.jobs.length,
      { s.sweep with jobs := s.sweep.jobs ++ [⟨body, initial, period, false, true⟩] })

def cancel (n : Nat) (s : Scheduler β) : Scheduler β :=
  { s with jobs := s.jobs.modify n fun j => { j with isCancelled := true } }

/-- Takes no more jobs. Threads are left with none; jobs that are run when told to stay. -/
def shutDown (s : Scheduler β) : Scheduler β :=
  { s with
    jobs :=
      if s.isThreads then s.jobs.map fun j => { j with isCancelled := true, isListed := false }
      else s.jobs
    isDown := true }

def live (s : Scheduler β) : List (Job β) := s.jobs.filter (!·.isCancelled)

def listed (s : Scheduler β) : List (Job β) := s.jobs.filter (·.isListed)

variable {s : Scheduler β} {period : Nat}

theorem schedule_of_taken (h : s.refusal? period = none) (body : β) (initial : Nat) : ∃ taken,
    s.schedule body initial period = (.ok s.jobs.length, taken) ∧
      taken.jobs.length = s.jobs.length + 1 ∧ taken.kind = s.kind ∧ taken.isDown = s.isDown := by
  refine ⟨{ s.sweep with jobs := s.sweep.jobs ++ [⟨body, initial, period, false, true⟩] }, ?_⟩
  simp [schedule, h, sweep]

theorem refusal?_of_down (hkind : s.kind = .threads) (hdown : s.isDown = true)
    (hperiod : period ≠ 0) : s.refusal? period = some .schedulerShutDown := by
  simp [refusal?, hkind, hdown, hperiod]

end Scheduler
end LiveConfig
