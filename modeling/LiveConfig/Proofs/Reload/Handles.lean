import LiveConfig.Proofs.Reload.Dealings

/-! Triggers and the handles of the jobs that schedulers have taken from them. While a trigger runs
one handle is out, else none is, whatever has been done with the trigger before. -/

namespace LiveConfig

namespace Trigger

variable {ρ : Type}

def handle? (t : Trigger) : Option (Nat × Nat) :=
  match t.scheduler, t.job with
  | some n, some job => some (n, job)
  | _, _ => none

/-- How a trigger stands to schedulers. One that was given a scheduler keeps to it, and another one
makes one scheduler for itself. No two jobs taken have the same handle, and those that are not
cancelled are the one that the trigger holds. -/
structure Sound (supplied : Bool) (t : Trigger) (s : Scene ρ) : Prop where
  period : t.period ≠ 0
  handles : s.taken = s.cancelled ++ t.handle?.toList
  nodup : s.taken.Nodup
  counted : ∀ n job, (n, job) ∈ s.taken → job < s.count n
  given : supplied = true → t.scheduler = some 0 ∧ t.owns = false
  own : supplied = false → (t.scheduler = none ∧ t.job = none) ∨
    (t.owns = true ∧ ∃ k < s.own.length, t.scheduler = some (k + 1))
  threads : ∀ k, (s.scheduler k).kind = .threads
  shut : ∀ n ∈ s.shut, t.scheduler = some n
  down : ∀ k, k + 1 ∈ s.shut → t.job = none ∧ (s.scheduler k).isDown = true

section

open Surroundings (create requests_create taken_create cancelled_create shut_create count_create
  scheduler_create)

variable {b : Surroundings ρ} {supplied : Bool} {t : Trigger} {s s' : Scene ρ} {n job : Nat}

theorem handle?_of_stopped (h : t.job = none) : t.handle? = none := by
  rw [handle?, h]
  cases t.scheduler <;> rfl

theorem Sound.standing (h : Sound supplied t s) :
    (t.scheduler = none ∧ t.job = none ∧ supplied = false) ∨
    (t.scheduler = some 0 ∧ t.owns = false ∧ supplied = true) ∨
    ∃ k < s.own.length, t.scheduler = some (k + 1) ∧ t.owns = true ∧ supplied = false := by
  cases supplied with
  | true => exact .inr (.inl ⟨(h.given rfl).1, (h.given rfl).2, rfl⟩)
  | false =>
    rcases h.own rfl with ⟨hnone, hjob⟩ | ⟨howns, k, hk, hscheduler⟩
    · exact .inl ⟨hnone, hjob, rfl⟩
    · exact .inr (.inr ⟨k, hk, hscheduler, howns, rfl⟩)

theorem Sound.of_none (h : Sound supplied t s) (hnone : t.scheduler = none) :
    t.job = none ∧ supplied = false := by
  rcases h.standing with ⟨-, hjob, hsupplied⟩ | ⟨hgiven, -⟩ | ⟨k, -, hown, -⟩
  · exact ⟨hjob, hsupplied⟩
  · exact absurd (hnone.symm.trans hgiven) (by simp)
  · exact absurd (hnone.symm.trans hown) (by simp)

theorem Sound.of_own (h : Sound supplied t s) {k : Nat} (hk : t.scheduler = some (k + 1)) :
    supplied = false ∧ k < s.own.length := by
  rcases h.standing with ⟨hnone, -⟩ | ⟨hgiven, -⟩ | ⟨m, hm, hown, -, hsupplied⟩
  · exact absurd (hk.symm.trans hnone) (by simp)
  · exact absurd (hk.symm.trans hgiven) (by simp)
  · obtain rfl : k = m := by simpa using hk.symm.trans hown
    exact ⟨hsupplied, hm⟩

theorem Sound.eq_zero_iff (h : Sound supplied t s) (hn : t.scheduler = some n) :
    n = 0 ↔ supplied = true := by
  rcases h.standing with ⟨hnone, -⟩ | ⟨hgiven, -, hsupplied⟩ | ⟨k, -, hown, -, hsupplied⟩
  · exact absurd (hn.symm.trans hnone) (by simp)
  · obtain rfl := Option.some.inj (hn.symm.trans hgiven)
    simp [hsupplied]
  · obtain rfl := Option.some.inj (hn.symm.trans hown)
    simp [hsupplied]

theorem Sound.isRunning_eq (h : Sound supplied t s) : t.handle?.isSome = t.isRunning := by
  cases hn : t.scheduler with
  | some n => cases hjob : t.job <;> simp [handle?, isRunning, hn, hjob]
  | none => simp [handle?, isRunning, hn, (h.of_none hn).1]

theorem Sound.grows (h : Sound supplied t s) (hs : s.Grows s') : Sound supplied t s' := by
  constructor
  · exact h.period
  · rw [hs.taken, hs.cancelled]
    exact h.handles
  · rw [hs.taken]
    exact h.nodup
  · rw [hs.taken]
    exact fun n job hjob => Nat.lt_of_lt_of_le (h.counted n job hjob) (hs.count n)
  · exact h.given
  · rw [hs.length]
    exact h.own
  · exact fun k => (hs.kind k).trans (h.threads k)
  · rw [hs.shut]
    exact h.shut
  · rw [hs.shut]
    exact fun k hk => ⟨(h.down k hk).1, hs.isDown k (h.down k hk).2⟩

theorem Sound.noted_refusal (h : Sound supplied t s) (n : Nat) (e : ReloadError) :
    Sound supplied t (s.note (.asked n (.error e))) := by
  obtain ⟨hperiod, hhandles, hnodup, hcounted, hgiven, hown, hthreads, hshut, hdown⟩ := h
  constructor <;> simpa [Dealing.taken?, Dealing.cancelled?, Dealing.shut?]

theorem Sound.noted_taken (h : Sound supplied t s) (hs : s.Grows s') (hn : t.scheduler = some n)
    (hstopped : t.job = none) (hup : ∀ k, k + 1 ∉ s.shut) (hcount : s.count n < s'.count n) :
    Sound supplied { t with job := some (s.count n) }
      (s'.note (.asked n (.ok (s.count n)))) := by
  have hlater := h.grows hs
  have hnew : (n, s.count n) ∉ s'.taken := by
    rw [hs.taken]
    exact fun hmem => Nat.lt_irrefl _ (h.counted n _ hmem)
  constructor
  · exact h.period
  · have hhandles := hlater.handles
    rw [handle?_of_stopped hstopped] at hhandles
    simp [Dealing.taken?, Dealing.cancelled?, hhandles, handle?, hn]
  · rw [Scene.taken_note]
    exact List.nodup_append.mpr ⟨hlater.nodup, by simp [Dealing.taken?], by
      rintro _ hold _ hjob rfl
      obtain rfl := List.mem_singleton.mp hjob
      exact hnew hold⟩
  · intro m j hmem
    rw [Scene.taken_note, List.mem_append] at hmem
    rw [Scene.count_note]
    rcases hmem with hmem | hmem
    · exact hlater.counted m j hmem
    · obtain ⟨rfl, rfl⟩ := Prod.mk.inj (List.mem_singleton.mp hmem)
      exact hcount
  · exact h.given
  · intro hsupplied
    rcases hlater.own hsupplied with ⟨hnone, -⟩ | hown
    · exact absurd (hn.symm.trans hnone) (by simp)
    · exact .inr hown
  · exact hlater.threads
  · intro m hm
    simp only [Scene.shut_note, Dealing.shut?, Option.toList_none, List.append_nil] at hm
    exact hlater.shut m hm
  · intro k hk
    simp only [Scene.shut_note, Dealing.shut?, Option.toList_none, List.append_nil, hs.shut] at hk
    exact absurd hk (hup k)

theorem Sound.noted_cancelled (h : Sound supplied t s) (hn : t.scheduler = some n)
    (hjob : t.job = some job) :
    Sound supplied { t with job := none } (s.note (.cancelled n job)) := by
  obtain ⟨hperiod, hhandles, hnodup, hcounted, hgiven, hown, hthreads, hshut, hdown⟩ := h
  have hheld : t.handle? = some (n, job) := by rw [handle?, hn, hjob]
  constructor
  · exact hperiod
  · rw [handle?_of_stopped rfl]
    simpa [Dealing.taken?, Dealing.cancelled?, hheld] using hhandles
  · simpa [Dealing.taken?] using hnodup
  · simpa [Dealing.taken?] using hcounted
  · exact hgiven
  · exact fun hsupplied => (hown hsupplied).imp_left fun hnone => ⟨hnone.1, rfl⟩
  · exact hthreads
  · simpa [Dealing.shut?] using hshut
  · intro k hk
    have hk : k + 1 ∈ s.shut := by simpa [Dealing.shut?] using hk
    exact ⟨rfl, (hdown k hk).2⟩

theorem Sound.noted_shut (h : Sound supplied t s) (hn : t.scheduler = some n)
    (hstopped : t.job = none) (hdown : ∀ k, n = k + 1 → (s.scheduler k).isDown = true) :
    Sound supplied t (s.note (.shut n)) := by
  have hshut {m : Nat} (hm : m ∈ (s.note (.shut n)).shut) : m ∈ s.shut ∨ m = n := by
    simpa [Dealing.shut?] using hm
  constructor
  · exact h.period
  · simpa [Dealing.taken?, Dealing.cancelled?] using h.handles
  · simpa [Dealing.taken?] using h.nodup
  · simpa [Dealing.taken?] using h.counted
  · exact h.given
  · exact h.own
  · exact h.threads
  · intro m hm
    rcases hshut hm with hm | rfl
    · exact h.shut m hm
    · exact hn
  · intro k hk
    rcases hshut hk with hk | hk
    · exact h.down k hk
    · exact ⟨hstopped, hdown k hk.symm⟩

theorem Sound.made (h : Sound supplied t s) (hnone : t.scheduler = none) :
    Sound supplied { t with scheduler := some (create s).1, owns := true } (create s).2 := by
  obtain ⟨hstopped, hsupplied⟩ := h.of_none hnone
  have hnever (n : Nat) : n ∉ s.shut := fun hn =>
    absurd (hnone.symm.trans (h.shut n hn)) (by simp)
  constructor
  · exact h.period
  · have hhandles := h.handles
    rw [handle?_of_stopped hstopped] at hhandles
    rw [handle?_of_stopped (by exact hstopped), taken_create, cancelled_create, hhandles]
  · rw [taken_create]
    exact h.nodup
  · rw [taken_create]
    intro n job hjob
    rw [count_create]
    exact h.counted n job hjob
  · exact fun hgiven => absurd (hsupplied.symm.trans hgiven) (by simp)
  · exact fun _ => .inr ⟨rfl, s.own.length, by simp [create], rfl⟩
  · exact fun k => (congrArg Scheduler.kind (scheduler_create k)).trans (h.threads k)
  · rw [shut_create]
    exact fun n hn => absurd hn (hnever n)
  · rw [shut_create]
    exact fun k hk => absurd hk (hnever _)

theorem Sound.ready (h : Sound supplied t s) : ∃ n t' s', t.ready b.wiring s = (n, t', s') ∧
    Sound supplied t' s' ∧ t'.scheduler = some n ∧ t'.job = t.job ∧
    s'.requests = s.requests ∧ s'.taken = s.taken ∧ s'.shut = s.shut := by
  cases hn : t.scheduler with
  | some n => exact ⟨n, t, s, by rw [Trigger.ready, hn], h, hn, rfl, rfl, rfl, rfl⟩
  | none =>
    have hready : t.ready b.wiring s = ((create s).1,
        { t with scheduler := some (create s).1, owns := true }, (create s).2) := by
      rw [Trigger.ready, hn]
      rfl
    exact ⟨_, _, _, hready, h.made hn, rfl, rfl, requests_create, taken_create, shut_create⟩

theorem start_eq {t' : Trigger} (hstopped : t.isRunning = false)
    (hready : t.ready b.wiring s = (n, t', s')) :
    t.start b.wiring s = match b.ask n t'.period t'.period s' with
      | (.ok job, s₂) => (none, { t' with job := some job }, s₂.note (.asked n (.ok job)))
      | (.error e, s₂) => (some e, t', s₂.note (.asked n (.error e))) := by
  rw [start_of_stopped hstopped hready]
  simp only [Surroundings.wiring, Surroundings.schedule]
  rcases b.ask n t'.period t'.period s' with ⟨_ | _, s₂⟩ <;> rfl

/-- What a start comes to while the trigger is stopped: one request, and the trigger runs if and
only if the job is taken. An own scheduler that is down takes none. -/
theorem Sound.start (h : Sound supplied t s) (hstopped : t.isRunning = false) :
    ∃ e t' s' n answer, t.start b.wiring s = (e, t', s') ∧ Sound supplied t' s' ∧
      t'.scheduler = some n ∧ s'.requests = s.requests ++ [(n, answer)] ∧ s'.shut = s.shut ∧
      (∀ k, k + 1 ∈ s.shut → e = some .schedulerShutDown) ∧
      ((∃ job, answer = .ok job ∧ e = none ∧ t'.isRunning = true) ∨
        ∃ x, answer = .error x ∧ e = some x ∧ t'.isRunning = false ∧ s'.taken = s.taken) := by
  have hjob : t.job = none := by simpa [isRunning] using hstopped
  obtain ⟨n, t', s', hready, hsound, hn, hkept, hrequests, htaken, hshut⟩ := h.ready (b := b)
  have hstopped' : t'.job = none := hkept.trans hjob
  have hlt : ∀ k, n = k + 1 → k < s'.own.length := by
    rintro k rfl
    exact (hsound.of_own hn).2
  -- what has been shut down is the trigger's scheduler, and one of its own that is down refuses
  have hdown : ∀ k, k + 1 ∈ s'.shut →
      (b.ask n t'.period t'.period s').1 = .error .schedulerShutDown := by
    intro k hk
    obtain rfl := Option.some.inj (hn.symm.trans (hsound.shut _ hk))
    exact b.ask_of_down (hsound.threads k) (hsound.down k hk).2 hsound.period _
  have hstart := start_eq hstopped hready
  obtain ⟨hgrows, hanswer⟩ := b.ask_cases n t'.period t'.period s' hlt
  rcases hask : b.ask n t'.period t'.period s' with ⟨answer, s₂⟩
  rw [hask] at hgrows hanswer hstart hdown
  rcases hanswer with ⟨e, rfl⟩ | ⟨rfl, hcount⟩
  · refine ⟨some e, t', _, n, .error e, hstart, (hsound.grows hgrows).noted_refusal n e, hn, ?_, ?_,
      ?_, .inr ⟨e, rfl, rfl, by simp [isRunning, hstopped'], ?_⟩⟩
    · simp [Dealing.request?, hgrows.requests, hrequests]
    · simp [Dealing.shut?, hgrows.shut, hshut]
    · intro k hk
      rw [Except.error.inj (hdown k (hshut ▸ hk))]
    · simp [Dealing.taken?, hgrows.taken, htaken]
  · have hup : ∀ k, k + 1 ∉ s'.shut := fun k hk => absurd (hdown k hk) (by simp)
    refine ⟨none, _, _, n, .ok (s'.count n), hstart,
      hsound.noted_taken hgrows hn hstopped' hup hcount, hn, ?_, ?_, ?_,
      .inl ⟨s'.count n, rfl, rfl, rfl⟩⟩
    · simp [Dealing.request?, hgrows.requests, hrequests]
    · simp [Dealing.shut?, hgrows.shut, hshut]
    · exact fun k hk => absurd (hshut ▸ hk) (hup k)

theorem Sound.stop (h : Sound supplied t s) : ∃ t' s', t.stop b.wiring s = (t', s') ∧
    Sound supplied t' s' ∧ t'.job = none ∧ t'.scheduler = t.scheduler ∧ t'.owns = t.owns ∧
    s'.requests = s.requests ∧ s'.shut = s.shut := by
  cases hheld : t.handle? with
  | none =>
    have hjob : t.job = none := by
      have hrunning := h.isRunning_eq
      rw [hheld] at hrunning
      simpa [isRunning] using hrunning.symm
    refine ⟨t, s, ?_, h, hjob, rfl, rfl, rfl, rfl⟩
    rw [Trigger.stop, hjob]
    cases t.scheduler <;> rfl
  | some p =>
    obtain ⟨n, job⟩ := p
    obtain ⟨hn, hjob⟩ : t.scheduler = some n ∧ t.job = some job := by
      unfold handle? at hheld
      split at hheld <;> simp_all
    have hgrows := b.grows_cancelJob n job s
    refine ⟨{ t with job := none }, (b.cancelJob n job s).note (.cancelled n job), ?_,
      (h.grows hgrows).noted_cancelled hn hjob, rfl, rfl, rfl, ?_, ?_⟩
    · rw [Trigger.stop, hn, hjob]
      rfl
    · simp [Dealing.request?, hgrows.requests]
    · simp [Dealing.shut?, hgrows.shut]

theorem Sound.shutDownWith (h : Sound supplied t s) (too : Bool) :
    ∃ t' s', t.shutDownWith b.wiring too s = (t', s') ∧ Sound supplied t' s' ∧ t'.job = none ∧
      t'.scheduler = t.scheduler ∧ s'.requests = s.requests ∧
      s'.shut = s.shut ++ if too then t.scheduler.toList else [] := by
  obtain ⟨t', s', hstop, hsound, hjob, hscheduler, -, hrequests, hshut⟩ := h.stop (b := b)
  rw [Trigger.shutDownWith, hstop]
  cases too with
  | false => exact ⟨t', s', rfl, hsound, hjob, hscheduler, hrequests, by simp [hshut]⟩
  | true =>
    cases hn : t.scheduler with
    | none =>
      exact ⟨t', s', by simp [hscheduler, hn], hsound, hjob, hscheduler.trans hn, hrequests,
        by simp [hshut]⟩
    | some n =>
      have hn' : t'.scheduler = some n := hscheduler.trans hn
      have hgrows := b.grows_shutScheduler n s'
      refine ⟨t', (b.shutScheduler n s').note (.shut n), by simp [hn', Surroundings.wiring], ?_,
        hjob, hn', ?_, ?_⟩
      · refine (hsound.grows hgrows).noted_shut hn' hjob ?_
        rintro k rfl
        exact b.isDown_shutScheduler (hsound.of_own hn').2
      · simp [Dealing.request?, hgrows.requests, hrequests]
      · simp [Dealing.shut?, hgrows.shut, hshut]

/-- What a use that is no start leaves: no request is made, and what is stopped stays so. Schedulers
are shut down where that is asked for, and own ones with the trigger. -/
theorem Sound.other_use (h : Sound supplied t s) {u : Use} (hu : u ≠ .start) :
    ∃ t' s', b.use u t s = (t', s') ∧ Sound supplied t' s' ∧
      (t.isRunning = false → t'.isRunning = false) ∧ s'.requests = s.requests ∧
      s'.shut = s.shut ++ if u = .shutDownWith true ∨ (u = .shutDown ∧ supplied = false)
        then t.scheduler.toList else [] := by
  have hstopped {t' : Trigger} (hjob : t'.job = none) : t'.isRunning = false := by
    simp [isRunning, hjob]
  cases u with
  | start => contradiction
  | isRunning => exact ⟨t, s, rfl, h, id, rfl, by simp⟩
  | stop =>
    obtain ⟨t', s', hstop, hsound, hjob, -, -, hrequests, hshut⟩ := h.stop (b := b)
    exact ⟨t', s', hstop, hsound, fun _ => hstopped hjob, hrequests, by simp [hshut]⟩
  | shutDownWith too =>
    obtain ⟨t', s', huse, hsound, hjob, -, hrequests, hshut⟩ := h.shutDownWith (b := b) too
    refine ⟨t', s', huse, hsound, fun _ => hstopped hjob, hrequests, ?_⟩
    cases too <;> simp [hshut]
  | shutDown =>
    obtain ⟨t', s', huse, hsound, hjob, -, hrequests, hshut⟩ := h.shutDownWith (b := b) t.owns
    refine ⟨t', s', huse, hsound, fun _ => hstopped hjob, hrequests, ?_⟩
    rcases h.standing with ⟨hnone, -⟩ | ⟨-, howns, hsupplied⟩ | ⟨k, -, -, howns, hsupplied⟩
    · simp [hshut, hnone]
    · simp [hshut, howns, hsupplied]
    · simp [hshut, howns, hsupplied]

theorem Sound.start_use (h : Sound supplied t s) : Sound supplied (b.use .start t s).1
    (b.use .start t s).2 ∧ (b.use .start t s).2.shut = s.shut := by
  cases hrunning : t.isRunning with
  | true =>
    rw [Surroundings.use, start_of_isRunning hrunning]
    exact ⟨h, rfl⟩
  | false =>
    obtain ⟨e, t', s', n, answer, hstart, hsound, -, -, hshut, -⟩ := h.start (b := b) hrunning
    rw [Surroundings.use, hstart]
    exact ⟨hsound, hshut⟩

theorem Sound.use (h : Sound supplied t s) (u : Use) :
    Sound supplied (b.use u t s).1 (b.use u t s).2 ∧ (b.use u t s).2.shut = s.shut ++
      if u = .shutDownWith true ∨ (u = .shutDown ∧ supplied = false) then t.scheduler.toList
      else [] := by
  by_cases hu : u = .start
  · obtain ⟨hsound, hshut⟩ := h.start_use (b := b)
    subst hu
    exact ⟨hsound, by simp [hshut]⟩
  · obtain ⟨t', s', huse, hsound, -, -, hshut⟩ := h.other_use (b := b) hu
    rw [huse]
    exact ⟨hsound, hshut⟩

theorem Sound.follow (us : List Use) (h : Sound supplied t s) :
    Sound supplied (b.follow us t s).1 (b.follow us t s).2 ∧ s.shut ⊆ (b.follow us t s).2.shut := by
  induction us generalizing t s with
  | nil => exact ⟨h, List.Subset.refl _⟩
  | cons u us ih =>
    obtain ⟨hsound, hshut⟩ := h.use (b := b) u
    obtain ⟨hrest, hshut'⟩ := ih hsound
    rw [hshut] at hshut'
    exact ⟨hrest, List.Subset.trans (List.subset_append_left _ _) hshut'⟩

theorem Sound.stays_stopped (us : List Use) (h : Sound supplied t s) (hus : .start ∉ us)
    (hstopped : t.isRunning = false) : (b.follow us t s).1.isRunning = false ∧
      (b.follow us t s).2.requests = s.requests := by
  induction us generalizing t s with
  | nil => exact ⟨hstopped, rfl⟩
  | cons u us ih =>
    simp only [List.mem_cons, not_or] at hus
    obtain ⟨t', s', huse, hsound, hstays, hrequests, -⟩ := h.other_use (b := b) (Ne.symm hus.1)
    rw [Surroundings.follow, huse, ← hrequests]
    exact ih hsound hus.2 (hstays hstopped)

theorem Sound.ended (h : Sound supplied t s) (hsupplied : supplied = false) (hn : n ∈ s.shut) :
    t.isRunning = false ∧ (t.start b.wiring s).1 = some .schedulerShutDown := by
  cases n with
  | zero => exact absurd ((h.eq_zero_iff (h.shut 0 hn)).mp rfl) (by simp [hsupplied])
  | succ k =>
    have hstopped : t.isRunning = false := by simp [isRunning, (h.down k hn).1]
    obtain ⟨e, t', s', m, answer, hstart, -, -, -, -, hdown, -⟩ := h.start (b := b) hstopped
    rw [hstart]
    exact ⟨hstopped, hdown k hn⟩

theorem sound_make {period : Nat} (h : make period (if supplied then some 0 else none) = .ok t)
    (r : ρ) : Sound supplied t (.fresh r) := by
  unfold make at h
  split at h
  · contradiction
  · next hperiod =>
    obtain rfl := Except.ok.inj h
    cases supplied <;> constructor <;>
      simp [hperiod, Scene.fresh, Scene.taken, Scene.cancelled, Scene.shut, Scene.scheduler, handle?,
        Scheduler.ofKind]

end

/-- A trigger after any uses. The handles that it got and has not cancelled are the one that it holds
while it runs, and no handle is cancelled twice. A start while it is stopped makes one request; when
that is refused nothing is taken, and all stays so until the next start. The scheduler from outside
is shut down only where that is asked for, and an own one that is down never takes a job again. -/
theorem handles_run (b : Surroundings ρ) (period : Nat) (supplied : Bool) (r : ρ) {t₀ : Trigger}
    (hmake : make period (if supplied then some 0 else none) = .ok t₀) (us : List Use) :
    let t := (b.follow us t₀ (.fresh r)).1
    let s := (b.follow us t₀ (.fresh r)).2
    (s.taken = s.cancelled ++ t.handle?.toList ∧
      s.taken.length = s.cancelled.length + (if t.isRunning then 1 else 0) ∧
      s.cancelled.Nodup) ∧
    (t.isRunning = true → t.start b.wiring s = (none, t, s)) ∧
    (t.isRunning = false →
      (∃ e t' s' n answer, t.start b.wiring s = (e, t', s') ∧ t'.scheduler = some n ∧
        s'.requests = s.requests ++ [(n, answer)] ∧
        ((∃ job, answer = .ok job ∧ e = none ∧ t'.isRunning = true) ∨
          ∃ x, answer = .error x ∧ e = some x ∧ t'.isRunning = false ∧ s'.taken = s.taken)) ∧
      ∀ later, .start ∉ later → (b.follow later t s).1.isRunning = false ∧
        (b.follow later t s).2.requests = s.requests) ∧
    (∀ u, (b.use u t s).2.shut = s.shut ++
      if u = .shutDownWith true ∨ (u = .shutDown ∧ supplied = false) then t.scheduler.toList
      else []) ∧
    (∀ n, t.scheduler = some n → (n = 0 ↔ supplied = true)) ∧
    (supplied = false → s.shut ≠ [] → ∀ later,
      let p := b.follow later t s
      p.1.isRunning = false ∧ (p.1.start b.wiring p.2).1 = some .schedulerShutDown) := by
  intro t s
  obtain ⟨hsound, -⟩ := (sound_make hmake r).follow (b := b) us
  have hrunning : t.handle?.toList.length = if t.isRunning then 1 else 0 := by
    rw [← hsound.isRunning_eq, Option.length_toList]
  refine ⟨⟨hsound.handles, ?_, ?_⟩, ?_, fun hstopped => ⟨?_, fun later hlater => ?_⟩, fun u => ?_,
    fun n hn => hsound.eq_zero_iff hn, fun hsupplied hshut later => ?_⟩
  · rw [hsound.handles, List.length_append, hrunning]
  · have hnodup := hsound.nodup
    rw [hsound.handles] at hnodup
    exact (List.nodup_append.mp hnodup).1
  · intro hrunning
    rw [Trigger.start, hrunning, if_pos rfl]
  · obtain ⟨e, t', s', n, answer, hstart, -, hn, hrequests, -, -, hanswer⟩ :=
      hsound.start (b := b) hstopped
    exact ⟨e, t', s', n, answer, hstart, hn, hrequests, hanswer⟩
  · exact hsound.stays_stopped later hlater hstopped
  · exact (hsound.use u).2
  · obtain ⟨n, hn⟩ := List.exists_mem_of_ne_nil _ hshut
    obtain ⟨hlater, hkept⟩ := hsound.follow (b := b) later
    exact hlater.ended hsupplied (hkept hn)

def moody : Surroundings Nat where
  refuse _ _ n := (if n % 2 = 0 then none else some (.scheduler "busy" none), n + 1)
  cancel _ n := n
  shutDown n := n
  thread n := (none, n)

theorem handles_run_moody :
    (make 5 (if true then some 0 else none) = .ok ⟨5, some 0, false, none⟩ ∧
      let p := moody.follow [.start, .stop, .start, .shutDown, .start] ⟨5, some 0, false, none⟩
        (.fresh 0)
      p.2.cancelled = [(0, 0)] ∧ p.2.taken.length = 2 ∧ p.1.isRunning = true ∧ p.2.shut = []) ∧
    make 5 (if false then some 0 else none) = .ok ⟨5, none, false, none⟩ ∧
    ∀ later, let p := moody.follow [.start, .shutDown] ⟨5, none, false, none⟩ (.fresh 0)
      (moody.follow later p.1 p.2).1.isRunning = false := by
  have hgiven : make 5 (if true then some 0 else none) = .ok ⟨5, some 0, false, none⟩ := rfl
  have hown : make 5 (if false then some 0 else none) = .ok ⟨5, none, false, none⟩ := rfl
  obtain ⟨⟨-, hlength, -⟩, -⟩ :=
    handles_run moody 5 true 0 hgiven [.start, .stop, .start, .shutDown, .start]
  obtain ⟨-, -, -, -, -, hended⟩ := handles_run moody 5 false 0 hown [.start, .shutDown]
  refine ⟨⟨hgiven, rfl, hlength, rfl, rfl⟩, hown, fun later => ?_⟩
  exact (hended rfl (by decide) later).1

end Trigger
end LiveConfig
