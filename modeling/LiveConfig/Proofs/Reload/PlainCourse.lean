import LiveConfig.Proofs.Reload.Program

/-! The course of events at one plain control, whatever its detector answers and whatever its
listeners do with it while they are being notified. Every run follows the course, and so the
events balance: a change is announced once, and recorded when it is reset. -/

namespace LiveConfig.Control

/-- Events at the plain control with flag `f` and detector `d`, from its flag before to its flag
after, in which the given listeners are told one after the other. What listeners do follows the
course again, so a round may hold checks and rounds of its own. -/
inductive Course {ι : Type} (f d : Nat) : List ι → Bool → List (Event ι) → Bool → Prop
  | nil (a : Bool) : Course f d [] a [] a
  | told {l ls a es b} : Course f d ls a es b → Course f d (l :: ls) a (.told l :: es) b
  | held {ls es b} : Course f d ls true es b →
      Course f d ls true (.checked f true :: .answered f true :: es) b
  | still {ls es b} : Course f d ls false es b →
      Course f d ls false (.checked f false :: .asked d false :: .answered f false :: es) b
  | changed {heard ls es es' a b} : Course f d heard true es a → Course f d ls a es' b →
      Course f d ls false (.checked f false :: .asked d true :: .raised f false ::
        .announced f heard :: (es ++ .answered f true :: es')) b
  | reset {ls es b} : Course f d ls false es b →
      Course f d ls true (.reset f true :: .recorded d :: .lowered f true :: es) b
  | idle {ls es b} : Course f d ls false es b → Course f d ls false (.reset f false :: es) b
  | resetFirst {ls es b} (a : Bool) : Course f d ls false es b →
      Course f d ls a (.resetFirst f a :: .recorded d :: .lowered f a :: es) b
  | listened {ls a es b} (id : Nat) (l : ι) : Course f d ls a es b →
      Course f d ls a (.listened f id l :: es) b
  | unlistened {ls a es b} (id : Nat) (found : Bool) : Course f d ls a es b →
      Course f d ls a (.unlistened f id found :: es) b

namespace Course

variable {ι : Type} {f d : Nat} {ls ls' : List ι} {es es' : List (Event ι)} {a b c : Bool}

theorem append (h : Course f d ls a es b) (h' : Course f d ls' b es' c) :
    Course f d (ls ++ ls') a (es ++ es') c := by
  induction h with
  | nil => exact h'
  | told _ ih => exact .told (ih h')
  | held _ ih => exact .held (ih h')
  | still _ ih => exact .still (ih h')
  | changed hr _ _ ih => simpa only [List.cons_append, List.append_assoc] using .changed hr (ih h')
  | reset _ ih => exact .reset (ih h')
  | idle _ ih => exact .idle (ih h')
  | resetFirst a _ ih => exact .resetFirst a (ih h')
  | listened id l _ ih => exact .listened id l (ih h')
  | unlistened id found _ ih => exact .unlistened id found (ih h')

end Course

/-! Runs follow the course. -/

section Run

variable {ι σ : Type} {f d : Nat} {b : Behaviour Unit ι σ}
  {act : Conduct Unit ι σ → Scene ι σ → Scene ι σ}

open Scene

theorem leads_fire (ih : ∀ plan s, Leads (Course f d []) f s (act plan s)) (c : Control)
    (data : Option Payload) (ls : Listeners ι) (s : Scene ι σ) :
    Leads (Course f d ls.all) f s (ls.fire (b.tell act c data) s) := by
  unfold Listeners.fire
  induction ls.all generalizing s with
  | nil => exact .nil (.nil _)
  | cons l rest ihl =>
    -- Whatever this listener does is a course of its own, and the next one is told after it.
    have told : Leads (Course f d [l]) f s (b.tell act c data l s) := by
      obtain ⟨es, hj, hes⟩ := ih (b.hear l c data s.rest) (s.note (.told l))
      refine ⟨.told l :: es, ?_, .told hes⟩
      simpa [Behaviour.tell] using hj
    exact told.append Course.append (ihl _)

theorem leads_announce (ih : ∀ plan s, Leads (Course f d []) f s (act plan s))
    (data : Option Payload) {s : Scene ι σ} (hr : s.isRaised f = false) :
    ∃ heard es, Course f d heard true es
        (((b.wiring act).notify (.plain f d) data ((b.wiring act).setFlag f true s)).isRaised f) ∧
      ((b.wiring act).notify (.plain f d) data ((b.wiring act).setFlag f true s)).journal =
        s.journal ++ .raised f false :: .announced f heard :: es := by
  obtain ⟨es, hj, hes⟩ := leads_fire (b := b) ih (.plain f d) data (s.listeners f)
    (((s.setFlag f true).note (.raised f false)).note (.announced f (s.listeners f).all))
  refine ⟨(s.listeners f).all, es, ?_, ?_⟩
  · simpa [hr] using hes
  · simpa [hr] using hj

theorem leads_check (ih : ∀ plan s, Leads (Course f d []) f s (act plan s))
    (data : Option Payload) (s : Scene ι σ) :
    Leads (Course f d []) f s
      (perform (fun _ => .plain f d) (b.wiring act) (.check () data) s).2 := by
  cases hr : s.isRaised f with
  | true =>
    have hc := check_plain_of_isRaised (w := b.wiring act) (d := d) (s := s.note (.checked f true))
      hr data
    refine ⟨[.checked f true, .answered f true], ?_, ?_⟩
    · simp [perform, hr, hc]
    · simpa [perform, hr, hc] using .held (.nil true)
  | false =>
    -- Only now is the detector asked.
    rcases hd : b.detect d s.rest with ⟨changed, r⟩
    have hw : (b.wiring act).detect d (s.note (.checked f false)) =
        (changed, ((s.note (.checked f false)).setRest r).note (.asked d changed)) := by
      simp [hd]
    cases changed with
    | false =>
      have hc := check_plain_of_same (w := b.wiring act) (s := s.note (.checked f false)) hr hw data
      refine ⟨[.checked f false, .asked d false, .answered f false], ?_, ?_⟩
      · simp [perform, hr, hc]
      · simpa [perform, hr, hc] using .still (.nil false)
    | true =>
      have hc := check_plain_of_changed (w := b.wiring act) (s := s.note (.checked f false)) hr hw
        data
      obtain ⟨heard, es, hes, hj⟩ := leads_announce (b := b) ih data
        (s := ((s.note (.checked f false)).setRest r).note (.asked d true)) hr
      refine ⟨.checked f false :: .asked d true :: .raised f false :: .announced f heard ::
        (es ++ [.answered f true]), ?_, ?_⟩
      · simp only [perform, isPending_plain, flag_plain, Behaviour.isRaised_wiring, hr, hc,
          journal_note, hj]
        simp
      · simp only [perform, isPending_plain, flag_plain, Behaviour.isRaised_wiring, hr, hc,
          isRaised_note]
        exact .changed hes (.nil _)

theorem leads_perform (ih : ∀ plan s, Leads (Course f d []) f s (act plan s))
    (op : Operation Unit ι) (s : Scene ι σ) :
    Leads (Course f d []) f s (perform (fun _ => .plain f d) (b.wiring act) op s).2 := by
  cases op with
  | check k data => exact leads_check ih data s
  | reset k =>
    cases hr : s.isRaised f with
    | true =>
      have hc := reset_plain_of_isRaised (w := b.wiring act) (d := d)
        (s := s.note (.reset f true)) hr
      refine ⟨[.reset f true, .recorded d, .lowered f true], ?_, ?_⟩
      · simp [perform, hr, hc]
      · simpa [perform, hr, hc] using .reset (.nil false)
    | false =>
      have hc := reset_plain_of_not_isRaised (w := b.wiring act) (d := d)
        (s := s.note (.reset f false)) hr
      refine ⟨[.reset f false], ?_, ?_⟩
      · simp [perform, hr, hc]
      · simpa [perform, hr, hc] using .idle (.nil false)
  | resetFirst k =>
    refine ⟨[.resetFirst f (s.isRaised f), .recorded d, .lowered f (s.isRaised f)], ?_, ?_⟩
    · simp [perform, Control.resetFirst]
    · simpa [perform, Control.resetFirst] using .resetFirst _ (.nil false)
  | isPending k => exact .nil (.nil _)
  | listen k l => exact .single rfl (.listened _ l (.nil _))
  | unlisten k id => exact .single rfl (.unlistened id _ (.nil _))

/-- A listener that resets and checks again finds the second of two changes inside the round that
announces the first one. -/
example : ((run (fun _ : Unit => .plain 0 0)
    { detect := fun _ n => (0 < n, n - 1)
      record := fun _ n => n
      hear := fun () _ _ _ => .call (.reset ()) fun _ => .call (.check () none) fun _ => .done
      foreign := fun _ => ⟨fun _ _ => .done, fun _ => .done, fun _ => .done, fun _ => false,
        fun _ => false⟩ } 4
    (.call (.listen () ()) fun _ => .call (.check () none) fun _ => .done)
    (.fresh 2)).journal.countP (· matches .announced ..)) = 2 := by
  decide

end Run

end LiveConfig.Control
