import LiveConfig.Reload.Detector

/-! Looks at a watched resource over a whole run. Checks look at it more than a delay apart and at
no other time, and what they answer depends on the latest refresh or recording alone. -/

namespace LiveConfig

def Sight.Shows (s : Sight) (t : Stamp) : Prop := s.present = .ok true ∧ s.written = .ok t

theorem Sight.stamp?_eq_some_iff {s : Sight} {t : Stamp} : s.stamp? = some t ↔ s.Shows t := by
  rcases s with ⟨_ | b, written⟩
  · simp [stamp?, isPresent, Shows]
  · cases b <;> cases written <;> simp [stamp?, isPresent, Shows, Except.toOption]

theorem Watch.isNews_iff {w : Watch} {seen : Option Stamp} : w.isNews seen = true ↔
    ∃ t, seen = some t ∧ ∀ b, w.baseline = some b → b.earlier t = true := by
  unfold isNews
  cases seen with
  | none => simp
  | some t => cases w.baseline <;> simp

/-- The locator of a resource that has come to something else. What leads into a storage finds it
there; a stand-in has to be told. -/
def Locator.showing (s : Sight) : Locator → Locator
  | standIn _ => standIn s
  | l => l

@[simp] theorem Locator.showing_showing (s t : Sight) (l : Locator) :
    (l.showing s).showing t = l.showing t := by
  cases l <;> rfl

inductive Request where
  | check
  | refresh
  | record
  deriving DecidableEq

/-- A request to a detector, and the moment of it. Anything may have become of the resource before,
in the storage of the moment or as a stand-in shows it. -/
structure Visit where
  request : Request
  moment : Moment
  shown : Sight

def Visit.sight (l : Locator) (v : Visit) : Sight := (l.showing v.shown).sight v.moment.storage

@[simp] theorem Visit.sight_showing (s : Sight) (l : Locator) (v : Visit) :
    v.sight (l.showing s) = v.sight l := by
  rw [sight, Locator.showing_showing, sight]

def latestRecording? (vs : List Visit) : Option Visit :=
  (vs.filter (·.request ≠ .check)).getLast?

theorem latestRecording?_cons (v : Visit) (vs : List Visit) : latestRecording? (v :: vs) =
    if v.request = .check then latestRecording? vs else some ((latestRecording? vs).getD v) := by
  by_cases hv : v.request = .check <;> simp [latestRecording?, hv, List.getLast?_cons]

namespace Detector

def facing (v : Visit) (d : Detector) : Detector := d.show_ fun _ => v.shown

def visit (v : Visit) (d : Detector) : Detector :=
  match v.request with
  | .check => ((d.facing v).check v.moment).2
  | .refresh => (d.facing v).refresh v.moment
  | .record => (d.facing v).record v.moment

def after (d : Detector) : List Visit → Detector
  | [] => d
  | v :: vs => (d.visit v).after vs

def accesses? : Detector → Option Accesses
  | timed _ _ a => some a
  | _ => none

def baseline? (d : Detector) : Option Stamp := d.watch?.bind (·.baseline)

def lastLook? (d : Detector) : Option Nat := d.watch?.map (·.lastLook)

/-- Whether a check at a moment touches the resource. -/
def Touches (m : Moment) (d : Detector) : Prop := (d.check m).2.accesses? ≠ d.accesses?

instance (m : Moment) (d : Detector) : Decidable (d.Touches m) :=
  inferInstanceAs (Decidable (_ ≠ _))

def looks (d : Detector) : List Visit → List Nat
  | [] => []
  | v :: vs =>
    if v.request = .check ∧ (d.facing v).Touches v.moment then
      v.moment.now :: (d.visit v).looks vs
    else (d.visit v).looks vs

variable {l : Locator} {w : Watch} {a : Accesses} {m : Moment}

theorem touches_iff : (timed l w a).Touches m ↔ w.lastLook + w.delay < m.now := by
  have hadd : a.add (l.sight m.storage) ≠ a := by
    intro h
    have := congrArg Accesses.looks h
    simp [Accesses.add] at this
  have hdue : w.isDue m.now = true ↔ w.lastLook + w.delay < m.now := by
    rw [Watch.isDue, decide_eq_true_iff]
    omega
  rw [← hdue, Touches, check]
  cases w.isDue m.now <;> simp [accesses?, hadd]

theorem check_of_touches (h : (timed l w a).Touches m) : (timed l w a).check m =
    (w.isNews (l.sight m.storage).stamp?,
      timed l (w.looked m.now) (a.add (l.sight m.storage))) := by
  have hdue : w.isDue m.now = true := by
    rw [touches_iff] at h
    exact decide_eq_true (by omega)
  simp only [check, hdue, if_true]

theorem check_of_not_touches (h : ¬ (timed l w a).Touches m) :
    (timed l w a).check m = (false, timed l w a) := by
  refine check_of_not_due (decide_eq_false ?_)
  rw [touches_iff] at h
  omega

theorem touches_or_idle :
    (timed l w a).Touches m ∨ (timed l w a).check m = (false, timed l w a) :=
  (Decidable.em _).imp_right check_of_not_touches

/-- A check that looks compares the date that it sees with the baseline. -/
theorem check_eq_true_iff : ((timed l w a).check m).1 = true ↔ (timed l w a).Touches m ∧
    ∃ t, (l.sight m.storage).Shows t ∧ ∀ b, w.baseline = some b → b.earlier t = true := by
  by_cases ht : (timed l w a).Touches m
  · simp only [check_of_touches ht, Watch.isNews_iff, ht, true_and, Sight.stamp?_eq_some_iff]
  · rw [check_of_not_touches ht]
    exact iff_of_false Bool.false_ne_true fun h => ht h.1

theorem baseline?_check : ((timed l w a).check m).2.baseline? = (timed l w a).baseline? := by
  by_cases ht : (timed l w a).Touches m
  · rw [check_of_touches ht]
    rfl
  · rw [check_of_not_touches ht]

section

variable {v : Visit} {vs : List Visit}

theorem facing_timed : (timed l w a).facing v = timed (l.showing v.shown) w a := by
  cases l <;> rfl

theorem visit_of_look (hv : v.request = .check) (ht : ((timed l w a).facing v).Touches v.moment) :
    ∃ a', (timed l w a).visit v = timed (l.showing v.shown) (w.looked v.moment.now) a' := by
  rw [facing_timed] at ht
  exact ⟨a.add (v.sight l), by simp [visit, hv, facing_timed, check_of_touches ht, Visit.sight]⟩

theorem visit_of_idle (hv : v.request = .check)
    (ht : ¬ ((timed l w a).facing v).Touches v.moment) :
    (timed l w a).visit v = timed (l.showing v.shown) w a := by
  rw [facing_timed] at ht
  simp [visit, hv, facing_timed, check_of_not_touches ht]

theorem visit_of_recording (hv : v.request ≠ .check) : ∃ a', (timed l w a).visit v =
    timed (l.showing v.shown) (w.rebase (v.sight l).stamp?) a' := by
  refine ⟨a.add (v.sight l), ?_⟩
  rw [visit, facing_timed]
  cases hrequest : v.request with
  | check => contradiction
  | refresh => rfl
  | record => rfl

theorem looks_of_look {d : Detector} (hv : v.request = .check)
    (ht : (d.facing v).Touches v.moment) :
    d.looks (v :: vs) = v.moment.now :: (d.visit v).looks vs := by
  rw [looks, if_pos ⟨hv, ht⟩]

theorem looks_of_idle {d : Detector} (ht : ¬ (d.facing v).Touches v.moment) :
    d.looks (v :: vs) = (d.visit v).looks vs := by
  rw [looks, if_neg fun h => ht h.2]

theorem looks_of_recording {d : Detector} (hv : v.request ≠ .check) :
    d.looks (v :: vs) = (d.visit v).looks vs := by
  rw [looks, if_neg fun h => hv h.1]

end

/-- After any visits the baseline is what the latest recording saw, and the last look is the last
check that touched the resource. -/
theorem after_timed (vs : List Visit) (l : Locator) (w : Watch) (a : Accesses) :
    ∃ l' a', (∀ s, l'.showing s = l.showing s) ∧ (timed l w a).after vs = timed l'
      { delay := w.delay
        baseline := ((latestRecording? vs).map fun v => (v.sight l).stamp?).getD w.baseline
        lastLook := ((timed l w a).looks vs).getLast?.getD w.lastLook } a' := by
  induction vs generalizing l w a with
  | nil => exact ⟨l, a, fun _ => rfl, rfl⟩
  | cons v vs ih =>
    rw [after, latestRecording?_cons]
    by_cases hv : v.request = .check
    · rw [if_pos hv]
      by_cases ht : ((timed l w a).facing v).Touches v.moment
      · obtain ⟨a₁, hvisit⟩ := visit_of_look hv ht
        rw [looks_of_look hv ht, hvisit, List.getLast?_cons, Option.getD_some]
        have hrest := ih (l.showing v.shown) (w.looked v.moment.now) a₁
        simp only [Locator.showing_showing, Visit.sight_showing] at hrest
        exact hrest
      · rw [looks_of_idle ht, visit_of_idle hv ht]
        have hrest := ih (l.showing v.shown) w a
        simp only [Locator.showing_showing, Visit.sight_showing] at hrest
        exact hrest
    · obtain ⟨a₁, hvisit⟩ := visit_of_recording (l := l) (w := w) (a := a) hv
      obtain ⟨l', a', hl', hafter⟩ :=
        ih (l.showing v.shown) (w.rebase (v.sight l).stamp?) a₁
      rw [if_neg hv, looks_of_recording hv, hvisit]
      refine ⟨l', a', fun s => (hl' s).trans (l.showing_showing _ s), hafter.trans ?_⟩
      cases latestRecording? vs <;> simp [Watch.rebase]

/-- The looks are more than a delay apart, and the first one is more than a delay after the last
one before. -/
theorem looks_spaced (vs : List Visit) (l : Locator) (w : Watch) (a : Accesses) :
    (w.lastLook :: (timed l w a).looks vs).Pairwise fun x y => x + w.delay < y := by
  induction vs generalizing l w a with
  | nil => exact List.pairwise_singleton _ _
  | cons v vs ih =>
    by_cases hv : v.request = .check
    · by_cases ht : ((timed l w a).facing v).Touches v.moment
      · obtain ⟨a₁, hvisit⟩ := visit_of_look hv ht
        have hfirst : w.lastLook + w.delay < v.moment.now := touches_iff.mp (facing_timed ▸ ht)
        have hrest := ih (l.showing v.shown) (w.looked v.moment.now) a₁
        rw [looks_of_look hv ht, hvisit]
        refine List.pairwise_cons.mpr ⟨fun y hy => ?_, hrest⟩
        rcases List.mem_cons.mp hy with rfl | hy
        · exact hfirst
        · have hlater : v.moment.now + w.delay < y := (List.pairwise_cons.mp hrest).1 y hy
          omega
      · rw [looks_of_idle ht, visit_of_idle hv ht]
        exact ih _ w a
    · obtain ⟨a₁, hvisit⟩ := visit_of_recording (l := l) (w := w) (a := a) hv
      rw [looks_of_recording hv, hvisit]
      exact ih _ (w.rebase (v.sight l).stamp?) a₁

/-- A watched resource over any run, whatever the clock shows and the resource comes to. Checks look
at it more than a delay apart, the first one more than a delay after the beginning, and a check that
does not look changes nothing and says no. One that looks says whether there is a date later than
that of the latest recording, if that saw any. Checks leave the baseline as it is, refreshes and
recordings leave the window of the delay. -/
theorem looks_run (l : Locator) (delay start : Nat) (vs : List Visit) (v : Visit) :
    let d := watching l delay start
    let e := (d.after vs).facing v
    let m := v.moment
    (start :: d.looks vs).Pairwise (fun x y => x + delay < y) ∧
    (e.Touches m ↔ (d.looks vs).getLast?.getD start + delay < m.now) ∧
    (e.Touches m ∨ e.check m = (false, e)) ∧
    ((e.check m).1 = true ↔ e.Touches m ∧ ∃ t, (v.sight l).Shows t ∧
      ∀ r ∈ latestRecording? vs, ∀ b, (r.sight l).Shows b → b.earlier t = true) ∧
    (e.check m).2.baseline? = e.baseline? ∧
    (e.refresh m).lastLook? = e.lastLook? ∧ (e.record m).lastLook? = e.lastLook? := by
  intro d e m
  obtain ⟨l', a', hl', hafter⟩ := after_timed vs l (.start delay start) ⟨0, 0⟩
  have hbaseline : ∀ b, ((latestRecording? vs).map fun r => (r.sight l).stamp?).getD none = some b ↔
      ∃ r ∈ latestRecording? vs, (r.sight l).Shows b := by
    intro b
    cases latestRecording? vs <;> simp [Sight.stamp?_eq_some_iff]
  have he := (congrArg (facing v) hafter).trans facing_timed
  rw [hl'] at he
  rw [show e = _ from he]
  refine ⟨looks_spaced vs l (.start delay start) ⟨0, 0⟩, touches_iff, touches_or_idle,
    check_eq_true_iff.trans (and_congr_right fun _ => ?_), baseline?_check, rfl, rfl⟩
  refine exists_congr fun t => and_congr_right fun _ => ?_
  simp only [Watch.start, hbaseline, forall_exists_index, and_imp]
  exact ⟨fun h r hr b => h b r hr, fun h b r hr => h r hr b⟩

end Detector
end LiveConfig
