import LiveConfig.Proofs.Reload.Dealings

/-! Any number of triggers that share schedulers. A trigger takes the job that it was given for its
state, and nobody tells it when its scheduler is shut down: so it runs with a live job exactly while
its scheduler is up. -/

namespace LiveConfig.Trigger

/-- The schedulers of all triggers, with threads, and the world. A job is known by the number of the
trigger that it checks for. -/
structure Yard (ρ : Type) where
  schedulers : List (Scheduler Nat)
  outside : ρ

namespace Yard

variable {ρ : Type}

def scheduler (y : Yard ρ) (n : Nat) : Scheduler Nat := y.schedulers.getD n (.ofKind .threads)

def job? (y : Yard ρ) (n job : Nat) : Option (Job Nat) := (y.scheduler n).jobs[job]?

def isDown (y : Yard ρ) (n : Nat) : Bool := (y.scheduler n).isDown

/-- Whether trigger `i`, which is as given, has a live job on a scheduler that is up. -/
def HasTask (y : Yard ρ) (i : Nat) (t : Trigger) : Prop :=
  ∃ n, t.scheduler = some n ∧ y.isDown n = false ∧
    ∃ j ∈ (y.scheduler n).live, j.body = i ∧ j.initial = t.period ∧ j.period = t.period

def create (y : Yard ρ) : Nat × Yard ρ :=
  (y.schedulers.length, { y with schedulers := y.schedulers ++ [.ofKind .threads] })

def change (n : Nat) (x : Scheduler Nat) (y : Yard ρ) : Yard ρ :=
  { y with schedulers := y.schedulers.set n x }

def shutDown (n : Nat) (y : Yard ρ) : Yard ρ := y.change n (y.scheduler n).shutDown

def ask (thread : ρ → Option String × ρ) (i n initial period : Nat) (y : Yard ρ) :
    Except ReloadError Nat × Yard ρ :=
  match (y.scheduler n).refusal? period with
  | some e => (.error e, y)
  | none =>
    match thread y.outside with
    | (some reason, r) =>
      (.error (.scheduler "failed to spawn trigger thread" (some reason)), { y with outside := r })
    | (none, r) =>
      let (answer, x) := (y.scheduler n).schedule i initial period
      (answer, { y with outside := r }.change n x)

def wiring (thread : ρ → Option String × ρ) (i : Nat) : Wiring (Yard ρ) where
  create := create
  schedule := ask thread i
  cancel n job y := y.change n ((y.scheduler n).cancel job)
  shutDown := shutDown

end Yard

/-- What happens to triggers and schedulers. -/
inductive Deed where
  | supply
  | build (period : Nat) (scheduler : Option Nat)
  | use (i : Nat) (u : Use)
  | shutDown (scheduler : Nat)

structure Staff (ρ : Type) where
  triggers : List Trigger
  yard : Yard ρ

namespace Staff

variable {ρ : Type}

def empty (r : ρ) : Staff ρ := ⟨[], ⟨[], r⟩⟩

def build (period : Nat) (scheduler : Option Nat) (s : Staff ρ) : Staff ρ :=
  match make period scheduler with
  | .ok t =>
    if scheduler.all (· < s.yard.schedulers.length) then { s with triggers := s.triggers ++ [t] }
    else s
  | .error _ => s

def use (w : Wiring (Yard ρ)) (u : Use) (t : Trigger) (y : Yard ρ) : Trigger × Yard ρ :=
  match u with
  | .start => (t.start w y).2
  | .stop => t.stop w y
  | .shutDown => t.shutDown w y
  | .shutDownWith too => t.shutDownWith w too y
  | .isRunning => (t, y)

def perform (thread : ρ → Option String × ρ) (d : Deed) (s : Staff ρ) : Staff ρ :=
  match d with
  | .supply => { s with yard := s.yard.create.2 }
  | .build period scheduler => s.build period scheduler
  | .use i u =>
    match s.triggers[i]? with
    | none => s
    | some t =>
      let (t, y) := use (Yard.wiring thread i) u t s.yard
      ⟨s.triggers.set i t, y⟩
  | .shutDown n => { s with yard := s.yard.shutDown n }

def run (thread : ρ → Option String × ρ) (ds : List Deed) (s : Staff ρ) : Staff ρ :=
  ds.foldl (fun s d => perform thread d s) s

end Staff

namespace Yard

variable {ρ : Type} {y y' : Yard ρ} {i m n job : Nat} {t : Trigger} {ts : List Trigger}

theorem scheduler_create (m : Nat) : y.create.2.scheduler m = y.scheduler m := by
  simp only [scheduler, create, List.getD_eq_getElem?_getD, List.getElem?_append]
  split
  · rfl
  · next hm =>
    rw [List.getElem?_eq_none (Nat.not_lt.mp hm)]
    cases m - y.schedulers.length <;> rfl

theorem scheduler_change (x : Scheduler Nat) (hn : n < y.schedulers.length) (m : Nat) :
    (y.change n x).scheduler m = if m = n then x else y.scheduler m := by
  simp only [scheduler, change, List.getD_eq_getElem?_getD, List.getElem?_set]
  by_cases hm : m = n
  · simp [hm, hn]
  · simp [hm, Ne.symm hm]

/-- A trigger is well placed: it knows a scheduler that there is, and the job that it holds is in
the books there, cancelled only with all others. -/
structure Placed (y : Yard ρ) (i : Nat) (t : Trigger) : Prop where
  period : t.period ≠ 0
  known : ∀ n, t.scheduler = some n → n < y.schedulers.length
  held : ∀ job, t.job = some job → ∃ n j, t.scheduler = some n ∧ y.job? n job = some j ∧
    j.body = i ∧ j.initial = t.period ∧ j.period = t.period ∧ j.isCancelled = y.isDown n

/-- All triggers are well placed, and a job that is not cancelled is held by its trigger. -/
structure Sound (ts : List Trigger) (y : Yard ρ) : Prop where
  threads : ∀ n, (y.scheduler n).kind = .threads
  placed : ∀ i t, ts[i]? = some t → y.Placed i t
  live : ∀ n job j, y.job? n job = some j → j.isCancelled = false →
    ∃ t, ts[j.body]? = some t ∧ t.scheduler = some n ∧ t.job = some job

theorem job?_change (x : Scheduler Nat) (hn : n < y.schedulers.length) (m job : Nat) :
    (y.change n x).job? m job = if m = n then x.jobs[job]? else y.job? m job := by
  rw [job?, scheduler_change x hn]
  split <;> rfl

theorem isDown_change (x : Scheduler Nat) (hn : n < y.schedulers.length) (m : Nat) :
    (y.change n x).isDown m = if m = n then x.isDown else y.isDown m := by
  rw [isDown, scheduler_change x hn]
  split <;> rfl

theorem length_change (x : Scheduler Nat) :
    (y.change n x).schedulers.length = y.schedulers.length :=
  List.length_set

/-- The running triggers whose scheduler is up are those with a live job. -/
theorem Sound.hasTask_iff (h : Sound ts y) (ht : ts[i]? = some t) :
    y.HasTask i t ↔ t.isRunning = true ∧ ∀ n, t.scheduler = some n → y.isDown n = false := by
  constructor
  · rintro ⟨n, hn, hup, j, hj, rfl, -, -⟩
    obtain ⟨hjobs, hlive⟩ : j ∈ (y.scheduler n).jobs ∧ j.isCancelled = false := by
      simpa [Scheduler.live] using hj
    obtain ⟨job, hjob⟩ := List.mem_iff_getElem?.mp hjobs
    obtain ⟨t', ht', hscheduler, hheld⟩ := h.live n job j hjob hlive
    obtain rfl := Option.some.inj (ht.symm.trans ht')
    refine ⟨by simp [isRunning, hheld], fun m hm => ?_⟩
    obtain rfl := Option.some.inj (hscheduler.symm.trans hm)
    exact hup
  · rintro ⟨hrunning, hup⟩
    obtain ⟨job, hjob⟩ := Option.isSome_iff_exists.mp hrunning
    obtain ⟨n, j, hn, hj, hbody, hinitial, hperiod, hcancelled⟩ := (h.placed i t ht).held job hjob
    have hlive : j.isCancelled = false := hcancelled.trans (hup n hn)
    refine ⟨n, hn, hup n hn, j, ?_, hbody, hinitial, hperiod⟩
    simpa [Scheduler.live, hlive] using List.mem_of_getElem? hj

/-! What keeps this so. -/

theorem Placed.moved (h : y.Placed i t) (hlength : y.schedulers.length ≤ y'.schedulers.length)
    (hjobs : ∀ n job j, y.job? n job = some j → j.body = i → j.isCancelled = y.isDown n →
      ∃ j', y'.job? n job = some j' ∧ j'.body = i ∧ j'.initial = j.initial ∧
        j'.period = j.period ∧ j'.isCancelled = y'.isDown n) : y'.Placed i t where
  period := h.period
  known n hn := Nat.lt_of_lt_of_le (h.known n hn) hlength
  held job hjob := by
    obtain ⟨n, j, hn, hj, hbody, hinitial, hperiod, hcancelled⟩ := h.held job hjob
    obtain ⟨j', hj', hbody', hinitial', hperiod', hcancelled'⟩ := hjobs n job j hj hbody hcancelled
    exact ⟨n, j', hn, hj', hbody', hinitial'.trans hinitial, hperiod'.trans hperiod, hcancelled'⟩

theorem placed_set {t' : Trigger} (hself : y.Placed i t')
    (hothers : ∀ k t, k ≠ i → ts[k]? = some t → y.Placed k t) (k : Nat) (u : Trigger)
    (hu : (ts.set i t')[k]? = some u) : y.Placed k u := by
  rw [List.getElem?_set] at hu
  split at hu
  · next hk =>
    split at hu
    · cases hu
      exact hk ▸ hself
    · cases hu
  · next hk => exact hothers k u (Ne.symm hk) hu

theorem threads_change {x : Scheduler Nat} (h : ∀ m, (y.scheduler m).kind = .threads)
    (hn : n < y.schedulers.length) (hx : x.kind = (y.scheduler n).kind) (m : Nat) :
    ((y.change n x).scheduler m).kind = .threads := by
  rw [scheduler_change x hn]
  split
  · exact hx.trans (h n)
  · exact h m

theorem Sound.outside (h : Sound ts y) (r : ρ) : Sound ts { y with outside := r } where
  threads := h.threads
  placed i t ht := ⟨(h.placed i t ht).period, (h.placed i t ht).known, (h.placed i t ht).held⟩
  live := h.live

theorem Placed.create (h : y.Placed i t) : y.create.2.Placed i t := by
  apply h.moved (by simp [Yard.create])
  intro n job j hj hbody hcancelled
  rw [job?, isDown, scheduler_create]
  exact ⟨j, hj, hbody, rfl, rfl, hcancelled⟩

theorem Sound.create (h : Sound ts y) : Sound ts y.create.2 where
  threads n := by
    rw [scheduler_create]
    exact h.threads n
  placed i t ht := (h.placed i t ht).create
  live n job j hj := by
    rw [job?, scheduler_create] at hj
    exact h.live n job j hj

theorem Sound.live_set_of_stopped (h : Sound ts y) (ht : ts[i]? = some t) (hstopped : t.job = none)
    (t' : Trigger) {j : Job Nat} (hj : y.job? n job = some j) (hlive : j.isCancelled = false) :
    ∃ u, (ts.set i t')[j.body]? = some u ∧ u.scheduler = some n ∧ u.job = some job := by
  obtain ⟨u, hu, hn, hjob⟩ := h.live n job j hj hlive
  have hne : i ≠ j.body := by
    rintro rfl
    obtain rfl := Option.some.inj (ht.symm.trans hu)
    simp [hstopped] at hjob
  exact ⟨u, by rw [List.getElem?_set_ne hne, hu], hn, hjob⟩

theorem Sound.set_of_stopped {t' : Trigger} (h : Sound ts y) (ht : ts[i]? = some t)
    (hstopped : t.job = none) (hplaced : y.Placed i t') : Sound (ts.set i t') y where
  threads := h.threads
  placed := placed_set hplaced fun k u _ hu => h.placed k u hu
  live _ _ _ hj hlive := h.live_set_of_stopped ht hstopped t' hj hlive

theorem Sound.push (h : Sound ts y) (hplaced : y.Placed ts.length t) : Sound (ts ++ [t]) y where
  threads := h.threads
  placed i u hu := by
    rw [List.getElem?_append] at hu
    split at hu
    · exact h.placed i u hu
    · obtain ⟨hi, rfl⟩ := List.getElem?_eq_some_iff.mp hu
      obtain rfl : i = ts.length := by simp at hi; omega
      simpa using hplaced
  live n job j hj hlive := by
    obtain ⟨u, hu, hn, hjob⟩ := h.live n job j hj hlive
    refine ⟨u, ?_, hn, hjob⟩
    rw [List.getElem?_append_left (List.getElem?_eq_some_iff.mp hu).1, hu]

theorem Sound.shutDown (h : Sound ts y) (n : Nat) : Sound ts (y.shutDown n) := by
  by_cases hn : n < y.schedulers.length
  · have hjob (m job : Nat) : (y.shutDown n).job? m job = if m = n then
        (y.job? m job).map fun j => { j with isCancelled := true, isListed := false }
        else y.job? m job := by
      rw [Yard.shutDown, job?_change _ hn]
      split
      · next hm => simp [Scheduler.shutDown, Scheduler.isThreads, h.threads n, job?, hm]
      · rfl
    have hdown (m : Nat) : (y.shutDown n).isDown m = if m = n then true else y.isDown m :=
      isDown_change _ hn m
    refine ⟨threads_change h.threads hn rfl, fun i t ht => ?_, fun m job j hj hlive => ?_⟩
    · apply (h.placed i t ht).moved (Nat.le_of_eq (length_change _).symm)
      intro m job j hj hbody hcancelled
      change ∃ j', (y.shutDown n).job? m job = some j' ∧ j'.body = i ∧ j'.initial = j.initial ∧
        j'.period = j.period ∧ j'.isCancelled = (y.shutDown n).isDown m
      rw [hjob, hdown, hj]
      split
      · exact ⟨_, rfl, hbody, rfl, rfl, rfl⟩
      · exact ⟨j, rfl, hbody, rfl, rfl, hcancelled⟩
    · rw [hjob] at hj
      split at hj
      · obtain ⟨j, -, rfl⟩ := Option.map_eq_some_iff.mp hj
        contradiction
      · exact h.live m job j hj hlive
  · have hsame : y.shutDown n = y := by
      rw [Yard.shutDown, change, List.set_eq_of_length_le (Nat.not_lt.mp hn)]
    rw [hsame]
    exact h

theorem Sound.cancel (h : Sound ts y) (ht : ts[i]? = some t) (hn : t.scheduler = some n)
    (hheld : t.job = some job) :
    Sound (ts.set i { t with job := none }) (y.change n ((y.scheduler n).cancel job)) := by
  have hplaced := h.placed i t ht
  have hlt : n < y.schedulers.length := hplaced.known n hn
  have hmine {j : Job Nat} (hj : y.job? n job = some j) : j.body = i := by
    obtain ⟨n', j', hn', hj', hbody, -⟩ := hplaced.held job hheld
    obtain rfl := Option.some.inj (hn.symm.trans hn')
    obtain rfl := Option.some.inj (hj.symm.trans hj')
    exact hbody
  have hjob (m q : Nat) : (y.change n ((y.scheduler n).cancel job)).job? m q =
      if m = n ∧ q = job then (y.job? m q).map fun j => { j with isCancelled := true }
      else y.job? m q := by
    rw [job?_change _ hlt]
    by_cases hm : m = n <;> by_cases hq : job = q <;>
      simp [Scheduler.cancel, job?, hm, hq, eq_comm]
  have hdown (m : Nat) : (y.change n ((y.scheduler n).cancel job)).isDown m = y.isDown m := by
    rw [isDown_change _ hlt]
    split
    · next hm => rw [hm]; rfl
    · rfl
  refine ⟨threads_change h.threads hlt rfl, placed_set ?_ fun k u hk hu => ?_,
    fun m q j hj hlive => ?_⟩
  · refine ⟨hplaced.period, fun m hm => ?_, fun _ h => by contradiction⟩
    rw [length_change]
    exact hplaced.known m hm
  · apply (h.placed k u hu).moved (Nat.le_of_eq (length_change _).symm)
    intro m q j hj hbody hcancelled
    -- The job cancelled belongs to another trigger.
    have hother : ¬ (m = n ∧ q = job) := by
      rintro ⟨rfl, rfl⟩
      exact hk (hbody.symm.trans (hmine hj))
    rw [hjob, if_neg hother, hdown]
    exact ⟨j, hj, hbody, rfl, rfl, hcancelled⟩
  · rw [hjob] at hj
    split at hj
    · obtain ⟨j, -, rfl⟩ := Option.map_eq_some_iff.mp hj
      contradiction
    · next hother =>
      obtain ⟨u, hu, hm, hq⟩ := h.live m q j hj hlive
      refine ⟨u, ?_, hm, hq⟩
      rw [List.getElem?_set_ne, hu]
      rintro rfl
      obtain rfl := Option.some.inj (ht.symm.trans hu)
      exact hother ⟨Option.some.inj (hm.symm.trans hn), Option.some.inj (hq.symm.trans hheld)⟩

theorem getElem?_schedule {x : Scheduler Nat} {period : Nat} (h : x.refusal? period = none)
    (body initial q : Nat) : (x.schedule body initial period).2.jobs[q]? =
      if q = x.jobs.length then some ⟨body, initial, period, false, true⟩
      else x.jobs[q]?.map fun j => { j with isListed := j.isListed && !j.isCancelled } := by
  simp only [Scheduler.schedule, h, Scheduler.sweep, List.getElem?_append, List.length_map,
    List.getElem?_map]
  rcases Nat.lt_trichotomy q x.jobs.length with hq | rfl | hq
  · rw [if_pos hq, if_neg (by omega)]
  · simp
  · rw [if_neg (by omega), if_neg (by omega), List.getElem?_eq_none (by simp; omega),
      List.getElem?_eq_none (by omega)]
    rfl

theorem Sound.schedule (h : Sound ts y) (ht : ts[i]? = some t) (hn : t.scheduler = some n)
    (hstopped : t.job = none) (hfree : (y.scheduler n).refusal? t.period = none)
    (hup : y.isDown n = false) :
    Sound (ts.set i { t with job := some (y.scheduler n).jobs.length })
      (y.change n ((y.scheduler n).schedule i t.period t.period).2) := by
  have hplaced := h.placed i t ht
  have hlt : n < y.schedulers.length := hplaced.known n hn
  have hi : i < ts.length := (List.getElem?_eq_some_iff.mp ht).1
  obtain ⟨x, hx, -, hkind, hisDown⟩ := Scheduler.schedule_of_taken hfree i t.period
  have hjobs (q : Nat) := getElem?_schedule hfree i t.period q
  rw [hx] at hjobs ⊢
  have hdown (m : Nat) : (y.change n x).isDown m = y.isDown m := by
    rw [isDown_change _ hlt]
    split
    · next hm => rw [hm]; exact hisDown
    · rfl
  have hself : (y.change n x).Placed i { t with job := some (y.scheduler n).jobs.length } := by
    refine ⟨hplaced.period, fun m hm => ?_, fun q hq => ?_⟩
    · rw [length_change]
      exact hplaced.known m hm
    · cases hq
      refine ⟨n, ⟨i, t.period, t.period, false, true⟩, hn, ?_, rfl, rfl, rfl, ?_⟩
      · rw [job?_change _ hlt, if_pos rfl, hjobs, if_pos rfl]
      · rw [hdown, hup]
  refine ⟨threads_change h.threads hlt hkind, placed_set hself fun k u _ hu => ?_,
    fun m q j hj hlive => ?_⟩
  · apply (h.placed k u hu).moved (Nat.le_of_eq (length_change _).symm)
    intro m q j hj hbody hcancelled
    rw [job?_change _ hlt, hdown]
    split
    · next hm =>
      subst hm
      have hq : q ≠ (y.scheduler m).jobs.length :=
        Nat.ne_of_lt (List.getElem?_eq_some_iff.mp hj).1
      rw [hjobs, if_neg hq, show (y.scheduler m).jobs[q]? = some j from hj]
      exact ⟨_, rfl, hbody, rfl, rfl, hcancelled⟩
    · exact ⟨j, hj, hbody, rfl, rfl, hcancelled⟩
  · rw [job?_change _ hlt] at hj
    split at hj
    · next hm =>
      subst hm
      rw [hjobs] at hj
      split at hj
      · next hq =>
        cases hj
        exact ⟨_, List.getElem?_set_self hi, hn, congrArg some hq.symm⟩
      · obtain ⟨j', hj', rfl⟩ := Option.map_eq_some_iff.mp hj
        exact h.live_set_of_stopped (j := j') ht hstopped _ hj' hlive
    · exact h.live_set_of_stopped ht hstopped _ hj hlive

/-! The uses of a trigger. -/

section Use

variable (thread : ρ → Option String × ρ)

theorem Sound.ready (h : Sound ts y) (ht : ts[i]? = some t) (hstopped : t.job = none) :
    ∃ n t' y', t.ready (wiring thread i) y = (n, t', y') ∧ Sound (ts.set i t') y' ∧
      t'.scheduler = some n ∧ t'.job = none ∧ (t.scheduler ≠ none → t' = t ∧ y' = y) := by
  cases hn : t.scheduler with
  | some n =>
    refine ⟨n, t, y, by rw [Trigger.ready, hn], ?_, hn, hstopped, fun _ => ⟨rfl, rfl⟩⟩
    exact h.set_of_stopped ht hstopped (h.placed i t ht)
  | none =>
    have hready : t.ready (wiring thread i) y = (y.create.1,
        { t with scheduler := some y.create.1, owns := true }, y.create.2) := by
      rw [Trigger.ready, hn]
      rfl
    refine ⟨_, _, _, hready, ?_, rfl, hstopped, by simp⟩
    apply h.create.set_of_stopped ht hstopped
    refine ⟨(h.placed i t ht).period, fun m hm => ?_, fun job hjob => ?_⟩
    · cases hm
      simp [Yard.create]
    · simp [hstopped] at hjob

/-- A scheduler that takes a job is up. -/
theorem Sound.isDown_of_free (h : Sound ts y) {period : Nat}
    (hfree : (y.scheduler n).refusal? period = none) : y.isDown n = false := by
  cases hdown : y.isDown n with
  | false => rfl
  | true =>
    have hdown : (y.scheduler n).isDown = true := hdown
    simp only [Scheduler.refusal?, h.threads n, hdown] at hfree
    split at hfree <;> contradiction

theorem Sound.ask (h : Sound ts y) (ht : ts[i]? = some t) (hn : t.scheduler = some n)
    (hstopped : t.job = none) :
    (∃ e y', Yard.ask thread i n t.period t.period y = (.error e, y') ∧ Sound ts y' ∧
      (y.isDown n = true → e = .schedulerShutDown ∧ y' = y)) ∨
    ∃ job y', Yard.ask thread i n t.period t.period y = (.ok job, y') ∧
      Sound (ts.set i { t with job := some job }) y' ∧ y.isDown n = false ∧
      y'.isDown n = false := by
  cases hrefusal : (y.scheduler n).refusal? t.period with
  | some e =>
    refine .inl ⟨e, y, by simp only [Yard.ask, hrefusal], h, fun hdown => ⟨?_, rfl⟩⟩
    have hshut := Scheduler.refusal?_of_down (h.threads n) hdown (h.placed i t ht).period
    exact Option.some.inj (hrefusal.symm.trans hshut)
  | none =>
    have hup := h.isDown_of_free hrefusal
    rcases hthread : thread y.outside with ⟨_ | reason, r⟩
    · obtain ⟨x, hx, -, -, hisDown⟩ := Scheduler.schedule_of_taken hrefusal i t.period
      have hask : Yard.ask thread i n t.period t.period y =
          (.ok (y.scheduler n).jobs.length, { y with outside := r }.change n x) := by
        simp only [Yard.ask, hrefusal, hthread, hx]
      have hsound : Sound (ts.set i { t with job := some (y.scheduler n).jobs.length })
          ({ y with outside := r }.change n
            ((y.scheduler n).schedule i t.period t.period).2) :=
        (h.outside r).schedule ht hn hstopped hrefusal hup
      rw [hx] at hsound
      have hlt : n < { y with outside := r }.schedulers.length := (h.placed i t ht).known n hn
      refine .inr ⟨_, _, hask, hsound, hup, ?_⟩
      rw [isDown_change _ hlt, if_pos rfl]
      exact hisDown.trans hup
    · have hask : Yard.ask thread i n t.period t.period y =
          (.error (.scheduler "failed to spawn trigger thread" (some reason)),
            { y with outside := r }) := by
        simp only [Yard.ask, hrefusal, hthread]
      refine .inl ⟨_, _, hask, h.outside r, fun hdown => ?_⟩
      exact absurd (hup.symm.trans hdown) (by simp)

/-- What a start comes to while the trigger is stopped. On a scheduler that is down it fails and
changes nothing; if it succeeds, the trigger has a live job. -/
theorem Sound.start (h : Sound ts y) (ht : ts[i]? = some t) (hstopped : t.job = none) :
    ∃ e t' y', t.start (wiring thread i) y = (e, t', y') ∧ Sound (ts.set i t') y' ∧
      (∀ n, t.scheduler = some n → y.isDown n = true →
        e = some .schedulerShutDown ∧ t' = t ∧ y' = y) ∧
      (e = none → y'.HasTask i t') := by
  have hi : i < ts.length := (List.getElem?_eq_some_iff.mp ht).1
  obtain ⟨n, t₁, y₁, hready, h₁, hn, hstopped₁, hsame⟩ := h.ready thread ht hstopped
  have ht₁ : (ts.set i t₁)[i]? = some t₁ := List.getElem?_set_self hi
  have hdown₁ {m : Nat} (hm : t.scheduler = some m) (hdown : y.isDown m = true) :
      t₁ = t ∧ y₁ = y ∧ y₁.isDown n = true := by
    obtain ⟨rfl, rfl⟩ := hsame (by simp [hm])
    obtain rfl := Option.some.inj (hm.symm.trans hn)
    exact ⟨rfl, rfl, hdown⟩
  rw [start_of_stopped (by simp [isRunning, hstopped]) hready]
  rcases h₁.ask thread ht₁ hn hstopped₁ with
    ⟨e, y₂, hask, h₂, hrefused⟩ | ⟨job, y₂, hask, h₂, hup, hup₂⟩
  · refine ⟨some e, t₁, y₂, by simp only [wiring, hask], h₂, fun m hm hdown => ?_, by simp⟩
    obtain ⟨hkept, hstill, hdown'⟩ := hdown₁ hm hdown
    obtain ⟨he, hleft⟩ := hrefused hdown'
    exact ⟨congrArg some he, hkept, hleft.trans hstill⟩
  · rw [List.set_set] at h₂
    refine ⟨none, _, y₂, by simp only [wiring, hask], h₂, fun m hm hdown => ?_, fun _ => ?_⟩
    · obtain ⟨-, -, hdown'⟩ := hdown₁ hm hdown
      exact absurd (hup.symm.trans hdown') (by simp)
    · refine (h₂.hasTask_iff (List.getElem?_set_self hi)).mpr ⟨rfl, fun m hm => ?_⟩
      obtain rfl := Option.some.inj (hn.symm.trans hm)
      exact hup₂

theorem Sound.set_self (h : Sound ts y) (ht : ts[i]? = some t) : Sound (ts.set i t) y := by
  obtain ⟨hi, rfl⟩ := List.getElem?_eq_some_iff.mp ht
  rw [List.set_getElem_self]
  exact h

theorem Sound.stop (h : Sound ts y) (ht : ts[i]? = some t) :
    Sound (ts.set i (t.stop (wiring thread i) y).1) (t.stop (wiring thread i) y).2 := by
  unfold Trigger.stop
  split
  · next hn hjob => exact h.cancel ht hn hjob
  · exact h.set_self ht

theorem Sound.shutDownWith (h : Sound ts y) (ht : ts[i]? = some t) (too : Bool) :
    Sound (ts.set i (t.shutDownWith (wiring thread i) too y).1)
      (t.shutDownWith (wiring thread i) too y).2 := by
  have hstop := h.stop thread ht
  unfold Trigger.shutDownWith
  dsimp only
  split
  · exact hstop.shutDown _
  · exact hstop

theorem Sound.use (h : Sound ts y) (ht : ts[i]? = some t) (u : Use) :
    Sound (ts.set i (Staff.use (wiring thread i) u t y).1)
      (Staff.use (wiring thread i) u t y).2 := by
  cases u with
  | start =>
    cases hjob : t.job with
    | none =>
      obtain ⟨e, t', y', hstart, hsound, -⟩ := h.start thread ht hjob
      rw [Staff.use, hstart]
      exact hsound
    | some job =>
      rw [Staff.use, start_of_isRunning (by simp [isRunning, hjob])]
      exact h.set_self ht
  | stop => exact h.stop thread ht
  | shutDown => exact h.shutDownWith thread ht t.owns
  | shutDownWith too => exact h.shutDownWith thread ht too
  | isRunning => exact h.set_self ht

end Use

end Yard

namespace Staff

variable {ρ : Type} {thread : ρ → Option String × ρ} {s : Staff ρ}

def Sound (s : Staff ρ) : Prop := s.yard.Sound s.triggers

theorem sound_empty (r : ρ) : (empty r).Sound where
  threads n := by simp [empty, Yard.scheduler, Scheduler.ofKind]
  placed i t ht := by simp [empty] at ht
  live n job j hj := by simp [empty, Yard.job?, Yard.scheduler, Scheduler.ofKind] at hj

theorem Sound.build (h : s.Sound) (period : Nat) (scheduler : Option Nat) :
    (s.build period scheduler).Sound := by
  unfold Staff.build make
  by_cases hperiod : period = 0
  · rw [if_pos hperiod]
    exact h
  · rw [if_neg hperiod]
    dsimp only
    split
    · next hknown =>
      refine Yard.Sound.push h ⟨hperiod, fun n hn => ?_, fun job hjob => by contradiction⟩
      simpa [show scheduler = some n from hn] using hknown
    · exact h

theorem Sound.perform (h : s.Sound) (d : Deed) : (perform thread d s).Sound := by
  cases d with
  | supply => exact Yard.Sound.create h
  | build period scheduler => exact h.build period scheduler
  | use i u =>
    rw [Staff.perform]
    split
    · exact h
    · next t ht => exact Yard.Sound.use thread h ht u
  | shutDown n => exact Yard.Sound.shutDown h n

theorem Sound.run (h : s.Sound) (ds : List Deed) : (run thread ds s).Sound := by
  induction ds generalizing s with
  | nil => exact h
  | cons d ds ih => exact ih (h.perform d)

/-- However many triggers share schedulers, and whoever shuts these down, a trigger has a live task
exactly while it runs and its scheduler is up. A running one takes a start for done, whatever has
become of its scheduler. A stopped one is refused on a scheduler that is down, and has a live task
after every start that succeeds. -/
theorem live_task_run (thread : ρ → Option String × ρ) (r : ρ) (ds : List Deed) {i : Nat}
    {t : Trigger} (ht : (run thread ds (empty r)).triggers[i]? = some t) :
    let y := (run thread ds (empty r)).yard
    (y.HasTask i t ↔ t.isRunning = true ∧ ∀ n, t.scheduler = some n → y.isDown n = false) ∧
    (t.isRunning = true → t.start (Yard.wiring thread i) y = (none, t, y)) ∧
    (t.isRunning = false →
      (∀ n, t.scheduler = some n → y.isDown n = true →
        t.start (Yard.wiring thread i) y = (some .schedulerShutDown, t, y)) ∧
      ∀ t' y', t.start (Yard.wiring thread i) y = (none, t', y') → y'.HasTask i t') := by
  intro y
  have hsound : y.Sound (run thread ds (empty r)).triggers := (sound_empty r).run ds
  refine ⟨hsound.hasTask_iff ht, start_of_isRunning, fun hstopped => ?_⟩
  have hjob : t.job = none := by simpa [isRunning] using hstopped
  obtain ⟨e, t', y', hstart, -, hdown, htask⟩ := hsound.start thread ht hjob
  rw [hstart]
  refine ⟨fun n hn hisDown => ?_, fun t'' y'' heq => ?_⟩
  · obtain ⟨rfl, rfl, rfl⟩ := hdown n hn hisDown
    rfl
  · cases heq
    exact htask rfl

def stranded : Staff Unit :=
  run (fun r => (none, r))
    [.supply, .build 5 (some 0), .build 5 (some 0), .use 0 .start, .use 1 .start,
      .use 1 (.shutDownWith true)]
    (empty ())

theorem live_task_run_stopped :
    stranded.triggers[1]? = some ⟨5, some 0, false, none⟩ ∧
    (start (Yard.wiring (fun r => (none, r)) 1) ⟨5, some 0, false, none⟩ stranded.yard).1 =
      some .schedulerShutDown := by
  have ht : stranded.triggers[1]? = some ⟨5, some 0, false, none⟩ := by decide
  have h := live_task_run (fun r => (none, r)) () _ ht
  exact ⟨ht, congrArg Prod.fst ((h.2.2 rfl).1 0 rfl (by decide))⟩

/-- The first one runs on without a task, and starting it succeeds and changes nothing. -/
theorem stranded_trigger : ∃ t, stranded.triggers[0]? = some t ∧ t.isRunning = true ∧
    ¬ stranded.yard.HasTask 0 t ∧
    (t.start (Yard.wiring (fun r => (none, r)) 0) stranded.yard).1 = none := by
  refine ⟨⟨5, some 0, false, some 0⟩, by decide, rfl, ?_, rfl⟩
  rintro ⟨n, hn, hup, -⟩
  cases hn
  exact absurd hup (by decide)

end Staff
end LiveConfig.Trigger
