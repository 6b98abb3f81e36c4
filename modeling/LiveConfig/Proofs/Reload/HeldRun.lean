import LiveConfig.Proofs.Reload.Held

/-! Runs of a held configuration. However its uses are mixed and whatever its loader does, the
notes tell one story of the value held, its epoch and the reload pending. -/

namespace LiveConfig

open Control (Scene Behaviour)

namespace Held

variable {ι σ α : Type}

inductive Story : Holder α → Bool → List (Use σ) → List (Notice α) → Holder α → Bool → Prop
  | nil (h : Holder α) (a : Bool) : Story h a [] [] h a
  | cons {h a u es h' a' us es' h'' a''} : Step h a u es h' a' → Story h' a' us es' h'' a'' →
      Story h a (u :: us) (es ++ es') h'' a''

namespace Story

variable {h h' : Holder α} {a a' : Bool} {us : List (Use σ)} {es : List (Notice α)}

theorem value_eq (hs : Story h a us es h' a') :
    (h.value :: es.filterMap Notice.value?).getLast? = some h'.value := by
  induction hs with
  | nil => rfl
  | cons hstep _ ih =>
    cases hstep with
    -- What has been loaded takes the place of the value held before.
    | getLoaded a x => rw [← ih]; rfl
    | reloadLoaded a x => rw [← ih]; rfl
    | _ => exact ih

theorem epoch_eq (hs : Story h a us es h' a') :
    h'.epoch = h.epoch + (es.filterMap Notice.value?).length := by
  induction hs with
  | nil => rfl
  | @cons h a u es h' a' us es' h'' a'' hstep _ ih =>
    cases hstep with
    | getLoaded a x | reloadLoaded a x =>
      show h''.epoch = h.epoch + (x :: es'.filterMap Notice.value?).length
      rw [ih, Holder.epoch_put, List.length_cons]
      omega
    | _ => exact ih

theorem length_changes (hs : Story h a us es h' a') :
    (es.filterMap Notice.change?).length = (es.filterMap Notice.value?).length := by
  induction hs with
  | nil => rfl
  | cons hstep _ ih =>
    cases hstep with
    | getLoaded a x => exact congrArg (· + 1) ih
    | reloadLoaded a x => exact congrArg (· + 1) ih
    | _ => exact ih

theorem changes_get (hs : Story h a us es h' a') (i : Nat) (ch : Change α)
    (hi : (es.filterMap Notice.change?)[i]? = some ch) :
    ch.epoch = h.epoch + i + 1 ∧
    (h.value :: es.filterMap Notice.value?)[i]? = some ch.old ∧
    (es.filterMap Notice.value?)[i]? = some ch.new ∧
    (ch.cause = .detected ↔ (es.filterMap Notice.caller?)[i]? = some .get) := by
  induction hs generalizing i with
  | nil => simp at hi
  | cons hstep _ ih =>
    cases hstep with
    | getLoaded a x | reloadLoaded a x =>
      -- The change told of here is the first one, and those of the rest come after it.
      cases i with
      | zero =>
        obtain rfl := Option.some.inj hi
        refine ⟨rfl, rfl, rfl, ?_⟩
        simp [Notice.caller?, Holder.change]
      | succ i =>
        obtain ⟨hepoch, hold, hnew, hcause⟩ := ih i hi
        refine ⟨?_, hold, hnew, hcause⟩
        rw [Holder.epoch_put] at hepoch
        omega
    | _ => exact ih i hi

theorem countP_failed (hs : Story h a us es h' a') :
    es.countP Notice.isError = es.countP Notice.isFailure := by
  induction hs with
  | nil => rfl
  | cons hstep _ ih =>
    rw [List.countP_append, List.countP_append, ih]
    cases hstep <;> rfl

/-- Once a reload is pending, every get and every reload loads until a load succeeds. -/
theorem pending_of_epoch_eq (hs : Story h a us es h' a') (ha : a = true)
    (he : h'.epoch = h.epoch) :
    a' = true ∧
      es.countP Notice.isLoad = us.countP Use.isLoading := by
  induction hs with
  | nil => exact ⟨ha, rfl⟩
  | @cons h a u es h' a' us es' h'' a'' hstep hs ih =>
    have hmono := hs.epoch_eq
    -- A load that succeeds would have raised the epoch for good.
    cases hstep with
    | same => contradiction
    | getLoaded a x | reloadLoaded a x =>
      rw [Holder.epoch_put] at hmono
      omega
    | getFailed a e =>
      obtain ⟨hpending, hcount⟩ := ih rfl he
      refine ⟨hpending, ?_⟩
      rw [List.countP_append, hcount, List.countP_cons (l := us)]
      exact Nat.add_comm ..
    | reloadFailed a e =>
      obtain ⟨hpending, hcount⟩ := ih ha he
      refine ⟨hpending, ?_⟩
      rw [List.countP_append, hcount, List.countP_cons (l := us)]
      exact Nat.add_comm ..
    | _ => exact ih ha he

end Story

namespace Step

variable {h h' : Holder α} {a a' : Bool} {u : Use σ} {es : List (Notice α)}

/-- A load that fails is told of once, and leaves everything as it was; a reload that was pending,
or that a get has found to be, stays so. -/
theorem of_failure (hs : Step h a u es h' a') (he : es.countP Notice.isFailure ≠ 0) :
    h' = h ∧ es.countP Notice.isError = 1 ∧ es.filterMap Notice.change? = [] ∧
      a' = (u.isGet || a) := by
  cases hs with
  | getFailed a e => exact ⟨rfl, rfl, rfl, rfl⟩
  | reloadFailed a e => exact ⟨rfl, rfl, rfl, rfl⟩
  | _ => contradiction

theorem of_success (hs : Step h a u es h' a') (he : h'.epoch ≠ h.epoch) : a' = false := by
  cases hs with
  | getLoaded a x | reloadLoaded a x => rfl
  | _ => contradiction

end Step

variable {b : Behaviour Empty ι σ} {k : Client σ α} {c : Control}

theorem build_eq_ok {made : Bool} {scene : Scene ι σ} {s : Held ι σ α}
    (h : build b k c made scene = .ok s) :
    ∃ x, (k.load scene.rest).1 = .ok x ∧ s.holder = .first x ∧ s.notices = [] := by
  unfold build at h
  split at h
  · rename_i x r hl
    cases h
    exact ⟨x, by rw [hl], rfl, rfl⟩
  · contradiction

theorem story_run (hc : c.isOwn = true) (us : List (Use σ)) (s : Held ι σ α) :
    ∃ es, (run b k c us s).notices = s.notices ++ es ∧
      Story s.holder (s.pending b c) us es (run b k c us s).holder
        ((run b k c us s).pending b c) := by
  induction us generalizing s with
  | nil => exact ⟨[], (List.append_nil _).symm, .nil _ _⟩
  | cons u us ih =>
    obtain ⟨es, hes, hstep⟩ := step_perform (b := b) (k := k) hc u s
    obtain ⟨es', hes', hstory⟩ := ih (perform b k c u s)
    refine ⟨es ++ es', ?_, .cons hstep hstory⟩
    rw [← List.append_assoc, ← hes]
    exact hes'

theorem loads_le_run (hc : c.isOwn = true) (us : List (Use σ)) (s : Held ι σ α) :
    s.loads ≤ (run b k c us s).loads := by
  obtain ⟨es, hes, -⟩ := story_run (b := b) (k := k) hc us s
  rw [loads_of_notices hes]
  exact Nat.le_add_right ..

/-- In every run of a configuration with a plain or combined control, the value is the one loaded
last, and the epoch is the number of loads that succeeded after the first. The changes told of go
from each value to the next, with the epoch reached, and were detected where a get loaded. A load
that fails is told of once and changes nothing; where a reload was pending, each further get and
reload loads until a load succeeds, and then none is pending. -/
theorem held_run (b : Behaviour Empty ι σ) (k : Client σ α) {c : Control} (hc : c.isOwn = true)
    (made : Bool) (scene : Scene ι σ) {s₀ : Held ι σ α} (hb : build b k c made scene = .ok s₀)
    (us : List (Use σ)) :
    let s := run b k c us s₀
    ∃ x₀, (k.load scene.rest).1 = .ok x₀ ∧
      Story (.first x₀) (s₀.pending b c) us s.notices s.holder (s.pending b c) ∧
      (x₀ :: s.values).getLast? = some s.holder.value ∧
      s.holder.epoch = s.values.length ∧
      s.changes.length = s.values.length ∧
      (∀ i ch, s.changes[i]? = some ch → ch.epoch = i + 1 ∧
        (x₀ :: s.values)[i]? = some ch.old ∧ s.values[i]? = some ch.new ∧
        (ch.cause = .detected ↔ s.callers[i]? = some .get)) ∧
      s.errors = s.failures ∧
      (∀ u, let t := perform b k c u s
        (t.failures ≠ s.failures → t.holder = s.holder ∧ t.errors = s.errors + 1 ∧
          t.changes = s.changes ∧ t.pending b c = (u.isGet || s.pending b c)) ∧
        (t.holder.epoch ≠ s.holder.epoch → t.pending b c = false)) ∧
      ∀ vs, let t := run b k c vs s
        s.pending b c = true → t.holder.epoch = s.holder.epoch →
          t.pending b c = true ∧
          t.loads = s.loads + vs.countP Use.isLoading := by
  intro s
  obtain ⟨x₀, hx, hholder, hnotices⟩ := build_eq_ok hb
  obtain ⟨es, hes, hstory⟩ := story_run (b := b) (k := k) hc us s₀
  have hs : Story (.first x₀) (s₀.pending b c) us s.notices s.holder (s.pending b c) := by
    rw [hnotices, List.nil_append] at hes
    rw [hholder] at hstory
    rw [show s.notices = es from hes]
    exact hstory
  refine ⟨x₀, hx, hs, hs.value_eq, ?_, hs.length_changes, ?_, hs.countP_failed, ?_, ?_⟩
  · have hepoch := hs.epoch_eq
    rw [hepoch]
    exact Nat.zero_add _
  · intro i ch hi
    obtain ⟨hepoch, hrest⟩ := hs.changes_get i ch hi
    refine ⟨?_, hrest⟩
    rw [hepoch]
    exact congrArg (· + 1) (Nat.zero_add i)
  · intro u t
    obtain ⟨es, hes, hstep⟩ := step_perform (b := b) (k := k) hc u s
    refine ⟨fun hf => ?_, hstep.of_success⟩
    have hcount : es.countP Notice.isFailure ≠ 0 := by
      intro h0
      apply hf
      rw [failures, show t.notices = s.notices ++ es from hes, List.countP_append, h0]
      rfl
    obtain ⟨hsame, herrors, hchanges, hpending⟩ := hstep.of_failure hcount
    refine ⟨hsame, ?_, ?_, hpending⟩
    · rw [errors, show t.notices = s.notices ++ es from hes, List.countP_append, herrors]
      rfl
    · rw [changes, show t.notices = s.notices ++ es from hes, List.filterMap_append, hchanges,
        List.append_nil]
      rfl
  · intro vs t hp he
    obtain ⟨es, hes, hstory⟩ := story_run (b := b) (k := k) hc vs s
    obtain ⟨hpending, hcount⟩ := hstory.pending_of_epoch_eq hp he
    refine ⟨hpending, ?_⟩
    rw [loads_of_notices (t := t) hes, hcount]

def unsteady : Client Nat Nat where
  load n := (if n % 2 = 0 then .ok n else .error (.load "odd" none), n + 1)
  onChange _ n := n
  onError _ n := n

def restless : Behaviour Empty Unit Nat where
  detect _ n := (true, n)
  record _ n := n
  hear _ _ _ _ := .done
  foreign _ := ⟨fun _ _ => .done, fun _ => .done, fun _ => .done, fun _ => false, fun _ => false⟩

theorem held_run_unsteady :
    (Control.plain 0 0).isOwn = true ∧
    ∃ s₀, build restless unsteady (.plain 0 0) true (.fresh 0) = .ok s₀ ∧
      (run restless unsteady (.plain 0 0) [.get, .get, .reload, .reload] s₀).holder.epoch = 2 := by
  refine ⟨rfl, ⟨.first 0, _, []⟩, rfl, ?_⟩
  obtain ⟨x₀, -, -, -, hepoch, -⟩ := held_run restless unsteady (c := .plain 0 0) rfl true
    (.fresh 0) rfl [.get, .get, .reload, .reload]
  exact hepoch.trans (by decide)

end Held
end LiveConfig
