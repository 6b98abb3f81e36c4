import LiveConfig.Proofs.Reload.Rounds

/-! Rounds of notification of combined controls. A combined control asks its children before it
raises its flag, and the children's listeners, who are told meanwhile, may check it too. Such a
check raises the flag first, and the one around it announces the same change again. Rounds and
raised flags agree exactly where no check is overtaken in this way. -/

namespace LiveConfig.Control

section Run

variable {κ ι σ : Type} {controls : κ → Control} {f : Nat} {b : Behaviour κ ι σ}
  {act : Conduct κ ι σ → Scene ι σ → Scene ι σ} {T : Bool → List (Event ι) → Bool → Prop}
  {s t : Scene ι σ}

open Scene

namespace Follows

theorem leads_refl (hT : Follows f T) (s : Scene ι σ) : Leads T f s s :=
  .nil (hT.nil _)

theorem leads_trans (hT : Follows f T) {u : Scene ι σ} (h : Leads T f s t)
    (h' : Leads T f t u) : Leads T f s u :=
  h.append hT.append h'

theorem leads_note (hT : Follows f T) {e : Event ι} (h : e.moves f = false) (s : Scene ι σ) :
    Leads T f s (s.note e) :=
  .single rfl (hT.other h _)

theorem leads_setRest (hT : Follows f T) (r : σ) (s : Scene ι σ) : Leads T f s (s.setRest r) :=
  .nil (hT.nil _)

theorem leads_raise (hT : Follows f T) {g : Nat} (heard : List ι) (s : Scene ι σ)
    (h : g = f → T (s.isRaised f) [.raised f (s.isRaised f), .announced f heard] true) :
    Leads T f s (((s.setFlag g true).note (.raised g (s.isRaised g))).note
      (.announced g heard)) := by
  -- Events of another flag count for nothing.
  by_cases hg : g = f
  · subst hg
    refine ⟨[.raised g (s.isRaised g), .announced g heard], by simp, ?_⟩
    simpa using h rfl
  · have hgf : (g == f) = false := by simpa using hg
    have hfg : f ≠ g := fun h => hg h.symm
    refine ⟨[.raised g (s.isRaised g), .announced g heard], by simp, ?_⟩
    have hraised := hT.other (e := .raised g (s.isRaised g)) hgf (s.isRaised f)
    have hround := hT.other (e := .announced g heard) hgf (s.isRaised f)
    simpa [hfg] using hT.append hraised hround

theorem leads_announce (hT : Follows f T) (c : Control) (data : Option Payload)
    (h : c.flag = f → ∀ heard,
      T (s.isRaised f) [.raised f (s.isRaised f), .announced f heard] true)
    (ht : ∀ l t, Leads T f t (b.tell act c data l t)) :
    Leads T f s ((b.wiring act).notify c data ((b.wiring act).setFlag c.flag true s)) := by
  have hraise := hT.leads_raise (s.listeners c.flag).all s fun hc => h hc _
  exact hT.leads_trans hraise (Listeners.fire_keeps hT.leads_refl hT.leads_trans ht _ _)

theorem keepsChecks (hT : Follows f T) {P : Nat → Prop}
    (hP : ∀ a heard, P f → T a [.raised f a, .announced f heard] true)
    (ht : ∀ c data l t, P c.flag → Leads T f t (b.tell act c data l t))
    (hf : ∀ n data t, Leads T f t (act ((b.foreign n).check data t.rest) t)) :
    (b.wiring act).KeepsChecks P (Leads T f) where
  refl := hT.leads_refl
  trans := hT.leads_trans
  detect _ s := hT.leads_trans (hT.leads_setRest _ s) (hT.leads_note rfl _)
  announce c hc data _ :=
    hT.leads_announce c data (fun h heard => hP _ heard (h ▸ hc)) fun l t => ht c data l t hc
  foreignCheck n data s := hf n data s

theorem keepsResets (hT : Follows f T)
    (hr : ∀ n t, Leads T f t (act ((b.foreign n).reset t.rest) t))
    (hi : ∀ n t, Leads T f t (act ((b.foreign n).resetFirst t.rest) t)) :
    (b.wiring act).KeepsResets (Leads T f) where
  refl := hT.leads_refl
  trans := hT.leads_trans
  record _ s := hT.leads_trans (hT.leads_setRest _ s) (hT.leads_note rfl _)
  lower g s := by
    by_cases hg : g = f
    · subst hg
      refine .single rfl ?_
      simpa using hT.lowered (s.isRaised g)
    · have hgf : (g == f) = false := by simpa using hg
      have hfg : f ≠ g := fun h => hg h.symm
      have hlower := hT.other (e := .lowered g (s.isRaised g)) hgf (s.isRaised f)
      refine .single rfl ?_
      simpa [hfg] using hlower
  foreignReset := hr
  foreignResetFirst := hi

theorem leads_perform (hT : Follows f T) (hr : (b.wiring act).KeepsResets (Leads T f))
    (op : Operation κ ι)
    (hc : ∀ k data, op = .check k data → ∀ s,
      Leads T f s ((controls k).check (b.wiring act) data s).2) (s : Scene ι σ) :
    Leads T f s (perform controls (b.wiring act) op s).2 := by
  cases op with
  | check k data =>
    have hstart := hT.leads_note (s := s) (e := .checked (controls k).flag
      ((controls k).isPending (b.wiring act) s)) rfl
    have hcheck := hc k data rfl (s.note (.checked (controls k).flag
      ((controls k).isPending (b.wiring act) s)))
    exact hT.leads_trans (hT.leads_trans hstart hcheck) (hT.leads_note rfl _)
  | reset k => exact hT.leads_trans (hT.leads_note rfl s) (hr.reset _ _)
  | resetFirst k => exact hT.leads_trans (hT.leads_note rfl s) (hr.resetFirst _ _)
  | isPending k => exact hT.leads_refl s
  | listen k l => exact .single rfl (hT.other rfl _)
  | unlisten k id => exact .single rfl (hT.other rfl _)

end Follows

/-- Whether an operation is none that may check the control with a flag. -/
def Operation.Spares (controls : κ → Control) (f : Nat) : Operation κ ι → Prop
  | .check k _ => f ∉ (controls k).flags
  | _ => True

/-- Nobody who is called while the control with a flag asks its children checks it: neither the
listeners of other controls nor controls from elsewhere. -/
structure Behaviour.Spares (controls : κ → Control) (f : Nat) (b : Behaviour κ ι σ) : Prop where
  hear (l : ι) (c : Control) (h : c.flag ≠ f) (data : Option Payload) (r : σ) :
    (b.hear l c data r).All (·.Spares controls f)
  check (n : Nat) (data : Option Payload) (r : σ) :
    ((b.foreign n).check data r).All (·.Spares controls f)
  reset (n : Nat) (r : σ) : ((b.foreign n).reset r).All (·.Spares controls f)
  resetFirst (n : Nat) (r : σ) : ((b.foreign n).resetFirst r).All (·.Spares controls f)

theorem leads_marks (depth : Nat) (plan : Conduct κ ι σ) (s : Scene ι σ) :
    Leads (Marks f) f s (run controls b depth plan s) := by
  have hT := follows_marks (ι := ι) f
  apply run_keeps_all hT.leads_refl hT.leads_trans hT.leads_setRest _ depth plan s
  intro depth ih op s
  have hr := hT.keepsResets (b := b) (fun n t => ih _ t) fun n t => ih _ t
  have hc := hT.keepsChecks (b := b) (P := fun _ => True)
    (fun a heard _ => .round heard (.nil true))
    (fun c data l t _ => hT.leads_trans (hT.leads_note rfl t) (ih _ _))
    fun n data t => ih _ t
  exact hT.leads_perform hr op (fun k data _ s => hc.check _ (fun _ _ => trivial) data s) s

section Spared

variable (hb : b.Spares controls f)

include hb

theorem leads_rests (depth : Nat) {plan : Conduct κ ι σ} (hp : plan.All (·.Spares controls f))
    (s : Scene ι σ) : Leads (Rests f) f s (run controls b depth plan s) := by
  have hT := follows_rests (ι := ι) f
  apply run_keeps hT.leads_refl hT.leads_trans hT.leads_setRest _ depth hp s
  intro depth ih op hop s
  have hr := hT.keepsResets (b := b) (fun n t => ih _ (hb.reset n _) t)
    fun n t => ih _ (hb.resetFirst n _) t
  have hc := hT.keepsChecks (b := b) (P := (· ≠ f)) (fun a heard h => absurd rfl h)
    (fun c data l t h => hT.leads_trans (hT.leads_note rfl t) (ih _ (hb.hear l c h data _) _))
    fun n data t => ih _ (hb.check n data _) t
  refine hT.leads_perform hr op (fun k data hop' s => ?_) s
  subst hop'
  exact hc.check _ (fun g hg h => hop (h ▸ hg)) data s

theorem leads_check_combined {cs : List Control} (hcs : f ∉ flagsAll cs) (depth : Nat)
    (ih : ∀ plan s, Leads (Orderly f) f s (run controls b depth plan s))
    (data : Option Payload) (s : Scene ι σ) :
    Leads (Orderly f) f s
      ((combined f cs).check (b.wiring (run controls b depth)) data s).2 := by
  have hT := follows_orderly (ι := ι) f
  have hA := follows_rests (ι := ι) f
  have hc := hA.keepsChecks (b := b) (P := (· ≠ f)) (fun a heard h => absurd rfl h)
    (fun c data l t h => hA.leads_trans (hA.leads_note rfl t)
      (leads_rests hb depth (hb.hear l c h data _) _))
    fun n data t => leads_rests hb depth (hb.check n data _) t
  unfold Control.check
  split
  · exact hT.leads_refl s
  next hs =>
  split
  next changed t ht =>
  -- Nobody raises the flag while the children are asked, and so it is clear when they have been.
  obtain ⟨es, hj, hclear, hes⟩ : Leads (Rests f) f s t := by
    have h := hc.checkAll cs (fun g hg h => hcs (h ▸ hg)) s
    rwa [ht] at h
  have hst : Leads (Orderly f) f s t := ⟨es, hj, hes true⟩
  split
  · have htf : t.isRaised f = false := by
      cases htf : t.isRaised f with
      | false => rfl
      | true => exact absurd (hclear htf) hs
    refine hT.leads_trans hst (hT.leads_announce (combined f cs) data ?_ ?_)
    · intro _ heard
      simp [Orderly, htf]
    · exact fun l u => hT.leads_trans (hT.leads_note rfl u) (ih _ _)
  · exact hst

theorem leads_orderly {cs : List Control} (hcs : f ∉ flagsAll cs)
    (hk : ∀ k, controls k = .combined f cs ∨ f ∉ (controls k).flags) (depth : Nat)
    (plan : Conduct κ ι σ) (s : Scene ι σ) :
    Leads (Orderly f) f s (run controls b depth plan s) := by
  have hT := follows_orderly (ι := ι) f
  apply run_keeps_all hT.leads_refl hT.leads_trans hT.leads_setRest _ depth plan s
  intro depth ih op s
  have hr := hT.keepsResets (b := b) (fun n t => ih _ t) fun n t => ih _ t
  have hc := hT.keepsChecks (b := b) (P := (· ≠ f)) (fun a heard h => absurd rfl h)
    (fun c data l t _ => hT.leads_trans (hT.leads_note rfl t) (ih _ _))
    fun n data t => ih _ t
  refine hT.leads_perform hr op (fun k data _ s => ?_) s
  rcases hk k with hk | hk
  · rw [hk]
    exact leads_check_combined hb hcs depth ih data s
  · exact hc.check _ (fun g hg h => hk (h ▸ hg)) data s

end Spared

/-- In a run of a new combined control every raised flag is announced in a round. There is one
round for each transition of the flag, and the flag is lowered between any two rounds, exactly
where no check finds the flag raised by the time it raises it. No check does, if the flag is in no
other control, where nobody who is called while the children are asked checks the control again. -/
theorem combined_rounds (controls : κ → Control) (k : κ) (f : Nat) (cs : List Control)
    (hk : controls k = .combined f cs) (b : Behaviour κ ι σ) (depth : Nat)
    (plan : Conduct κ ι σ) (r : σ) :
    let s := run controls b depth plan (.fresh r)
    s.journal.countP (·.announces f) =
      s.journal.countP (·.raises f false) + s.journal.countP (·.raises f true) ∧
    (s.journal.countP (·.announces f) = s.journal.countP (·.raises f false) ↔
      .raised f true ∉ s.journal) ∧
    ((∀ p x q y r, s.journal = p ++ .announced f x :: (q ++ .announced f y :: r) →
      .lowered f true ∈ q) ↔ .raised f true ∉ s.journal) ∧
    (f ∉ flagsAll cs → (∀ j, controls j = controls k ∨ f ∉ (controls j).flags) →
      b.Spares controls f → .raised f true ∉ s.journal) := by
  intro s
  have hrun : Leads (Marks f) f (.fresh r) s := leads_marks depth plan (.fresh r)
  obtain ⟨es, hj, hes⟩ := hrun
  have hs : Marks f false s.journal (s.isRaised f) := by
    rw [show s.journal = es from hj]
    exact hes
  have hcount := hs.countP_announces
  -- No event raises the raised flag exactly where none is counted.
  have hover : s.journal.countP (·.raises f true) = 0 ↔ .raised f true ∉ s.journal := by
    rw [List.countP_eq_zero]
    constructor
    · intro h hm
      exact h _ hm (by simp [Event.raises])
    · intro h e he hr
      cases e with
      | raised g was =>
        obtain ⟨rfl, rfl⟩ : g = f ∧ was = true := by simpa [Event.raises] using hr
        exact h he
      | _ => simp [Event.raises] at hr
  refine ⟨hcount, ?_, ?_, ?_⟩
  · rw [← hover]
    omega
  · constructor
    · intro h hm
      rcases hs.second_round hm with ⟨hf, -⟩ | ⟨p, x, q, y, r, he, hq⟩
      · simp at hf
      · exact hq (h p x q y r he)
    · intro h p x q y r he
      rw [he] at hs h
      exact hs.lowered_between fun hm => h (by simp [hm])
  · intro hcs hothers hb
    obtain ⟨es', hj', hes'⟩ := leads_orderly hb hcs (fun j => hk ▸ hothers j) depth plan (.fresh r)
    rw [show s.journal = es' from hj']
    exact hes'

def pair : Bool → Control
  | true => .combined 1 [.plain 0 0]
  | false => .plain 0 0

def eager (again : Bool) : Behaviour Bool Unit Unit where
  detect _ r := (true, r)
  record _ r := r
  hear _ _ _ _ := if again then .call (.check true none) fun _ => .done else .done
  foreign _ := ⟨fun _ _ => .done, fun _ => .done, fun _ => .done, fun _ => false, fun _ => false⟩

def listenAndCheck : Conduct Bool Unit Unit :=
  .call (.listen true ()) fun _ => .call (.listen false ()) fun _ =>
    .call (.check true none) fun _ => .done

theorem spares_eager : (eager false).Spares pair 1 where
  hear _ _ _ _ _ := trivial
  check _ _ _ := trivial
  reset _ _ := trivial
  resetFirst _ _ := trivial

theorem combined_rounds_pair :
    pair true = .combined 1 [.plain 0 0] ∧
    let s := run pair (eager false) 4 listenAndCheck (.fresh ())
    s.journal.countP (·.raises 1 false) = 1 ∧ s.journal.countP (·.announces 1) = 1 := by
  have h := combined_rounds pair true 1 [.plain 0 0] rfl (eager false) 4 listenAndCheck ()
  have hothers : ∀ j, pair j = pair true ∨ 1 ∉ (pair j).flags := by
    rintro ⟨_ | _⟩
    · exact .inr (by decide)
    · exact .inl rfl
  have hover := h.2.2.2 (by decide) hothers spares_eager
  refine ⟨rfl, by decide, ?_⟩
  rw [h.2.1.mpr hover]
  decide

/-- The child's listener checks the combined control while that asks the child: there are two
rounds for one transition of its flag. -/
theorem two_rounds_pair :
    let s := run pair (eager true) 4 listenAndCheck (.fresh ())
    s.journal.countP (·.raises 1 false) = 1 ∧ s.journal.countP (·.announces 1) = 2 := by
  decide

end Run

end LiveConfig.Control
