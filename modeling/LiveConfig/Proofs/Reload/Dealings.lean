import LiveConfig.Reload.Scheduler
import LiveConfig.Reload.Trigger

/-! What triggers have to do with schedulers, one given to them from outside or one of their own, and
what requests, cancellations and shutdowns make of these. -/

namespace LiveConfig

namespace Trigger

inductive Use where
  | start
  | stop
  | shutDown
  | shutDownWith (too : Bool)
  | isRunning
  deriving DecidableEq

inductive Dealing where
  | made (scheduler : Nat)
  | asked (scheduler : Nat) (answer : Except ReloadError Nat)
  | cancelled (scheduler job : Nat)
  | shut (scheduler : Nat)

namespace Dealing

def request? : Dealing → Option (Nat × Except ReloadError Nat)
  | asked n answer => some (n, answer)
  | _ => none

def taken? : Dealing → Option (Nat × Nat)
  | asked n (.ok job) => some (n, job)
  | _ => none

def cancelled? : Dealing → Option (Nat × Nat)
  | cancelled n job => some (n, job)
  | _ => none

def shut? : Dealing → Option Nat
  | shut n => some n
  | _ => none

end Dealing

/-- Schedulers have numbers: 0 is the one that the trigger is given, and those follow that it makes
for itself. -/
structure Scene (ρ : Type) where
  outside : ρ
  given : Nat
  own : List (Scheduler Unit)
  journal : List Dealing

structure Surroundings (ρ : Type) where
  refuse : Nat → Nat → ρ → Option ReloadError × ρ
  cancel : Nat → ρ → ρ
  shutDown : ρ → ρ
  thread : ρ → Option String × ρ

variable {ρ : Type}

namespace Scene

def fresh (r : ρ) : Scene ρ := ⟨r, 0, [], []⟩

def note (e : Dealing) (s : Scene ρ) : Scene ρ := { s with journal := s.journal ++ [e] }

def scheduler (s : Scene ρ) (k : Nat) : Scheduler Unit := s.own.getD k (.ofKind .threads)

def setOwn (k : Nat) (x : Scheduler Unit) (s : Scene ρ) : Scene ρ :=
  { s with own := s.own.set k x }

def count (s : Scene ρ) : Nat → Nat
  | 0 => s.given
  | k + 1 => (s.scheduler k).jobs.length

def requests (s : Scene ρ) : List (Nat × Except ReloadError Nat) :=
  s.journal.filterMap Dealing.request?

def taken (s : Scene ρ) : List (Nat × Nat) := s.journal.filterMap Dealing.taken?

def cancelled (s : Scene ρ) : List (Nat × Nat) := s.journal.filterMap Dealing.cancelled?

def shut (s : Scene ρ) : List Nat := s.journal.filterMap Dealing.shut?

end Scene

namespace Surroundings

variable (b : Surroundings ρ)

def create (s : Scene ρ) : Nat × Scene ρ :=
  let n := s.own.length + 1
  (n, Scene.note (.made n) { s with own := s.own ++ [Scheduler.ofKind .threads] })

def ask (n initial period : Nat) (s : Scene ρ) : Except ReloadError Nat × Scene ρ :=
  match n with
  | 0 =>
    match b.refuse initial period s.outside with
    | (some e, r) => (.error e, { s with outside := r })
    | (none, r) => (.ok s.given, { s with outside := r, given := s.given + 1 })
  | k + 1 =>
    match (s.scheduler k).refusal? period with
    | some e => (.error e, s)
    | none =>
      match b.thread s.outside with
      | (some reason, r) =>
        (.error (.scheduler "failed to spawn trigger thread" (some reason)), { s with outside := r })
      | (none, r) =>
        let (answer, x) := (s.scheduler k).schedule () initial period
        (answer, { s with outside := r }.setOwn k x)

def schedule (n initial period : Nat) (s : Scene ρ) : Except ReloadError Nat × Scene ρ :=
  let (answer, s) := b.ask n initial period s
  (answer, s.note (.asked n answer))

def cancelJob (n job : Nat) (s : Scene ρ) : Scene ρ :=
  match n with
  | 0 => { s with outside := b.cancel job s.outside }
  | k + 1 => s.setOwn k ((s.scheduler k).cancel job)

def shutScheduler (n : Nat) (s : Scene ρ) : Scene ρ :=
  match n with
  | 0 => { s with outside := b.shutDown s.outside }
  | k + 1 => s.setOwn k (s.scheduler k).shutDown

def wiring : Wiring (Scene ρ) where
  create := create
  schedule := b.schedule
  cancel n job s := (b.cancelJob n job s).note (.cancelled n job)
  shutDown n s := (b.shutScheduler n s).note (.shut n)

def use (u : Use) (t : Trigger) (s : Scene ρ) : Trigger × Scene ρ :=
  match u with
  | .start => (t.start b.wiring s).2
  | .stop => t.stop b.wiring s
  | .shutDown => t.shutDown b.wiring s
  | .shutDownWith too => t.shutDownWith b.wiring too s
  | .isRunning => (t, s)

def follow : List Use → Trigger → Scene ρ → Trigger × Scene ρ
  | [], t, s => (t, s)
  | u :: us, t, s =>
    let (t, s) := b.use u t s
    follow us t s

end Surroundings

namespace Scene

variable (s : Scene ρ) (e : Dealing)

@[simp] theorem requests_note : (s.note e).requests = s.requests ++ e.request?.toList := by
  cases h : e.request? <;> simp [note, requests, h]

@[simp] theorem taken_note : (s.note e).taken = s.taken ++ e.taken?.toList := by
  cases h : e.taken? <;> simp [note, taken, h]

@[simp] theorem cancelled_note : (s.note e).cancelled = s.cancelled ++ e.cancelled?.toList := by
  cases h : e.cancelled? <;> simp [note, cancelled, h]

@[simp] theorem shut_note : (s.note e).shut = s.shut ++ e.shut?.toList := by
  cases h : e.shut? <;> simp [note, shut, h]

@[simp] theorem scheduler_note (k : Nat) : (s.note e).scheduler k = s.scheduler k := rfl

@[simp] theorem own_note : (s.note e).own = s.own := rfl

@[simp] theorem count_note (n : Nat) : (s.note e).count n = s.count n := by
  cases n <;> rfl

/-- From a scene to a later one no job is lost and no scheduler of the trigger's own comes up again,
and nothing new is in the journal. -/
structure Grows (s s' : Scene ρ) : Prop where
  journal : s'.journal = s.journal
  length : s'.own.length = s.own.length
  kind : ∀ k, (s'.scheduler k).kind = (s.scheduler k).kind
  count : ∀ n, s.count n ≤ s'.count n
  isDown : ∀ k, (s.scheduler k).isDown = true → (s'.scheduler k).isDown = true

variable {s}

section

variable {s' : Scene ρ} (h : s.Grows s')
include h

theorem Grows.requests : s'.requests = s.requests := by
  rw [Scene.requests, h.journal, Scene.requests]

theorem Grows.taken : s'.taken = s.taken := by rw [Scene.taken, h.journal, Scene.taken]

theorem Grows.cancelled : s'.cancelled = s.cancelled := by
  rw [Scene.cancelled, h.journal, Scene.cancelled]

theorem Grows.shut : s'.shut = s.shut := by rw [Scene.shut, h.journal, Scene.shut]

end

theorem Grows.trans {s' s'' : Scene ρ} (h : s.Grows s') (h' : s'.Grows s'') : s.Grows s'' := by
  constructor
  · exact h'.journal.trans h.journal
  · exact h'.length.trans h.length
  · exact fun k => (h'.kind k).trans (h.kind k)
  · exact fun n => Nat.le_trans (h.count n) (h'.count n)
  · exact fun k hk => h'.isDown k (h.isDown k hk)

theorem grows_outside (r : ρ) : s.Grows { s with outside := r } := by
  refine ⟨rfl, rfl, fun _ => rfl, fun n => ?_, fun _ h => h⟩
  cases n <;> exact Nat.le_refl _

theorem scheduler_setOwn (k m : Nat) (x : Scheduler Unit) : (s.setOwn k x).scheduler m =
    if k = m ∧ m < s.own.length then x else s.scheduler m := by
  by_cases hk : k = m
  · subst hk
    by_cases hlt : k < s.own.length <;> simp [setOwn, scheduler, List.getD_eq_getElem?_getD, hlt]
  · simp [setOwn, scheduler, List.getD_eq_getElem?_getD, List.getElem?_set_ne hk, hk]

theorem grows_setOwn {k : Nat} {x : Scheduler Unit} (hkind : x.kind = (s.scheduler k).kind)
    (hcount : (s.scheduler k).jobs.length ≤ x.jobs.length)
    (hdown : (s.scheduler k).isDown = true → x.isDown = true) : s.Grows (s.setOwn k x) := by
  refine ⟨rfl, List.length_set, fun m => ?_, fun n => ?_, fun m hm => ?_⟩
  · rw [scheduler_setOwn]
    split
    · next h => rw [hkind, h.1]
    · rfl
  · cases n with
    | zero => exact Nat.le_refl _
    | succ m =>
      simp only [count, scheduler_setOwn]
      split
      · next h => exact h.1 ▸ hcount
      · exact Nat.le_refl _
  · rw [scheduler_setOwn]
    split
    · next h => exact hdown (h.1 ▸ hm)
    · exact hm

end Scene

namespace Surroundings

variable (b : Surroundings ρ) {s : Scene ρ}

theorem ask_cases (n initial period : Nat) (s : Scene ρ)
    (hn : ∀ k, n = k + 1 → k < s.own.length) : s.Grows (b.ask n initial period s).2 ∧
    ((∃ e, (b.ask n initial period s).1 = .error e) ∨
      (b.ask n initial period s).1 = .ok (s.count n) ∧
        s.count n < (b.ask n initial period s).2.count n) := by
  cases n with
  | zero =>
    rcases hrefuse : b.refuse initial period s.outside with ⟨_ | e, r⟩
    · simp only [ask, hrefuse]
      refine ⟨⟨rfl, rfl, fun _ => rfl, fun n => ?_, fun _ h => h⟩, .inr ⟨rfl, Nat.lt_succ_self _⟩⟩
      cases n
      · exact Nat.le_succ _
      · exact Nat.le_refl _
    · simp only [ask, hrefuse]
      exact ⟨Scene.grows_outside r, .inl ⟨e, rfl⟩⟩
  | succ k =>
    cases hrefusal : (s.scheduler k).refusal? period with
    | some e =>
      simp only [ask, hrefusal]
      exact ⟨Scene.grows_outside s.outside, .inl ⟨e, rfl⟩⟩
    | none =>
      rcases hthread : b.thread s.outside with ⟨_ | reason, r⟩
      · obtain ⟨x, hx, hlength, hkind, hdown⟩ :=
          Scheduler.schedule_of_taken hrefusal () initial
        have hlt : k < s.own.length := hn k rfl
        have hgrows : s.Grows (Scene.setOwn k x { s with outside := r }) := by
          refine (Scene.grows_outside r).trans (Scene.grows_setOwn hkind ?_ ?_)
          · exact hlength ▸ Nat.le_succ _
          · exact fun h => hdown.trans h
        have hcount : (Scene.setOwn k x { s with outside := r }).count (k + 1) = x.jobs.length := by
          rw [Scene.count, Scene.scheduler_setOwn, if_pos ⟨rfl, hlt⟩]
        simp only [ask, hrefusal, hthread, hx]
        refine ⟨hgrows, .inr ⟨rfl, ?_⟩⟩
        rw [hcount, hlength]
        exact Nat.lt_succ_self _
      · simp only [ask, hrefusal, hthread]
        exact ⟨Scene.grows_outside r, .inl ⟨_, rfl⟩⟩

theorem journal_create : (create s).2.journal = s.journal ++ [.made (s.own.length + 1)] := rfl

@[simp] theorem requests_create : (create s).2.requests = s.requests := by
  simp [Scene.requests, journal_create, Dealing.request?]

@[simp] theorem taken_create : (create s).2.taken = s.taken := by
  simp [Scene.taken, journal_create, Dealing.taken?]

@[simp] theorem cancelled_create : (create s).2.cancelled = s.cancelled := by
  simp [Scene.cancelled, journal_create, Dealing.cancelled?]

@[simp] theorem shut_create : (create s).2.shut = s.shut := by
  simp [Scene.shut, journal_create, Dealing.shut?]

theorem scheduler_create (k : Nat) : (create s).2.scheduler k = s.scheduler k := by
  have hown : (create s).2.own = s.own ++ [Scheduler.ofKind .threads] := rfl
  rw [Scene.scheduler, hown, Scene.scheduler, List.getD_eq_getElem?_getD,
    List.getD_eq_getElem?_getD, List.getElem?_append]
  split
  · rfl
  · next hk =>
    rw [List.getElem?_eq_none (Nat.not_lt.mp hk)]
    cases k - s.own.length <;> rfl

theorem count_create (n : Nat) : (create s).2.count n = s.count n := by
  cases n with
  | zero => rfl
  | succ k => rw [Scene.count, scheduler_create, Scene.count]

theorem ask_of_down {k period : Nat} (hkind : (s.scheduler k).kind = .threads)
    (hdown : (s.scheduler k).isDown = true) (hperiod : period ≠ 0) (initial : Nat) :
    (b.ask (k + 1) initial period s).1 = .error .schedulerShutDown := by
  simp [ask, Scheduler.refusal?_of_down hkind hdown hperiod]

theorem grows_cancelJob (n job : Nat) (s : Scene ρ) : s.Grows (b.cancelJob n job s) := by
  cases n with
  | zero => exact Scene.grows_outside _
  | succ k =>
    have hlength : ((s.scheduler k).cancel job).jobs.length = (s.scheduler k).jobs.length :=
      List.length_modify _ _ _
    exact Scene.grows_setOwn rfl (Nat.le_of_eq hlength.symm) id

theorem grows_shutScheduler (n : Nat) (s : Scene ρ) : s.Grows (b.shutScheduler n s) := by
  cases n with
  | zero => exact Scene.grows_outside _
  | succ k =>
    refine Scene.grows_setOwn rfl ?_ fun _ => rfl
    unfold Scheduler.shutDown
    split <;> simp

theorem isDown_shutScheduler {k : Nat} (hk : k < s.own.length) :
    ((b.shutScheduler (k + 1) s).scheduler k).isDown = true := by
  rw [shutScheduler, Scene.scheduler_setOwn, if_pos ⟨rfl, hk⟩, Scheduler.shutDown]

end Surroundings

end Trigger
end LiveConfig
