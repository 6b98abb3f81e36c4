import LiveConfig.Proofs.Reload.Quiet

/-! What is pending beneath a control. Where listeners do not call back, a check that answers no
has raised nothing at any depth, and a reset has lowered everything. A new control on which nobody
calls from within is therefore settled: nothing beneath it is pending unless it is. -/

namespace LiveConfig.Control

variable {ι σ : Type} {b : Behaviour Empty ι σ} {g : Nat}

theorem isPending_of_isOwn {c : Control} (hc : c.isOwn = true) (w : Wiring σ) (s : σ) :
    c.isPending w s = w.isRaised c.flag s := by
  cases c with
  | plain f d | combined f cs => rfl
  | foreign f n => contradiction

theorem keepsChecks_quiet (g : Nat) : b.quiet.KeepsChecks (· ≠ g)
    fun s t => t.isRaised g = s.isRaised g where
  refl s := rfl
  trans h h' := Eq.trans h' h
  detect d s := rfl
  announce c hc data s := by
    rw [sameFlags_notify]
    simp [Behaviour.quiet, hc.symm]
  foreignCheck n data s := congrFun (sameFlags_run 1 _ s) g

theorem check_eq_ask {w : Wiring σ} {c : Control} {s : σ} (hc : c.isOwn = true)
    (data : Option Payload) (h : (c.check w data s).1 = false) :
    (c.ask w s).1 = false ∧ c.check w data s = c.ask w s := by
  cases hp : c.isPending w s with
  | true => simp [check_of_isPending hc hp] at h
  | false =>
    rcases ha : c.ask w s with ⟨changed, t⟩
    cases changed with
    | false => exact ⟨rfl, check_of_same hc hp ha data⟩
    | true => simp [check_of_changed hc hp ha] at h

mutual

theorem sameFlags_check (c : Control) (data : Option Payload) (s : Scene ι σ)
    (h : (c.check b.quiet data s).1 = false) : s.SameFlags (c.check b.quiet data s).2 := by
  cases c with
  | plain f d =>
    rw [(check_eq_ask (c := plain f d) rfl data h).2]
    rfl
  | combined f cs =>
    obtain ⟨ha, heq⟩ := check_eq_ask (c := combined f cs) rfl data h
    rw [heq]
    exact sameFlags_checkAll cs s ha
  | foreign f n => exact sameFlags_run 1 _ s

theorem sameFlags_checkAll (cs : List Control) (s : Scene ι σ)
    (h : (checkAll b.quiet cs s).1 = false) : s.SameFlags (checkAll b.quiet cs s).2 := by
  cases cs with
  | nil => rfl
  | cons c cs =>
    unfold checkAll at h ⊢
    obtain ⟨hc, hcs⟩ := Bool.or_eq_false_iff.mp h
    have hfirst := sameFlags_check c none s hc
    have hothers := sameFlags_checkAll cs _ hcs
    exact Eq.trans hothers hfirst

end

mutual

theorem isRaised_reset (c : Control) (h : g ∈ c.flags) (s : Scene ι σ) :
    (c.reset b.quiet s).isRaised g = false := by
  cases c with
  | plain f d =>
    obtain rfl := List.mem_singleton.mp h
    exact isPending_reset (c := .plain g d) rfl s
  | combined f cs =>
    unfold reset
    rcases List.mem_cons.mp h with rfl | h
    · exact keepsResets_quiet.resetAll cs _ g (by simp [Behaviour.quiet])
    · exact isRaised_resetAll cs h _
  | foreign f n => contradiction

theorem isRaised_resetAll (cs : List Control) (h : g ∈ flagsAll cs) (s : Scene ι σ) :
    (resetAll b.quiet cs s).isRaised g = false := by
  cases cs with
  | nil => contradiction
  | cons c cs =>
    unfold resetAll
    rcases List.mem_append.mp h with h | h
    · exact keepsResets_quiet.resetAll cs _ g (isRaised_reset c h s)
    · exact isRaised_resetAll cs h _

end

mutual

theorem isRaised_resetFirst (c : Control) (h : g ∈ c.flags) (s : Scene ι σ) :
    (c.resetFirst b.quiet s).isRaised g = false := by
  cases c with
  | plain f d =>
    obtain rfl := List.mem_singleton.mp h
    unfold resetFirst
    simp [Behaviour.quiet]
  | combined f cs =>
    unfold resetFirst
    rcases List.mem_cons.mp h with rfl | h
    · exact keepsResets_quiet.resetFirstAll cs _ g (by simp [Behaviour.quiet])
    · exact isRaised_resetFirstAll cs h _
  | foreign f n => contradiction

theorem isRaised_resetFirstAll (cs : List Control) (h : g ∈ flagsAll cs) (s : Scene ι σ) :
    (resetFirstAll b.quiet cs s).isRaised g = false := by
  cases cs with
  | nil => contradiction
  | cons c cs =>
    unfold resetFirstAll
    rcases List.mem_append.mp h with h | h
    · exact keepsResets_quiet.resetFirstAll cs _ g (isRaised_resetFirst c h s)
    · exact isRaised_resetFirstAll cs h _

end

/-- Nothing beneath a control is pending unless it is itself. -/
def Settled (c : Control) (s : Scene ι σ) : Prop :=
  s.isRaised c.flag = false → ∀ g ∈ c.flags, s.isRaised g = false

theorem Settled.of_sameFlags {c : Control} {s t : Scene ι σ} (hs : c.Settled s)
    (h : s.SameFlags t) : c.Settled t := by
  unfold Settled
  rw [h]
  exact hs

theorem settled_perform {κ : Type} (controls : κ → Control) {c : Control} (hc : c.isOwn = true)
    (hk : ∀ k, controls k = c) (op : Operation κ ι) {s : Scene ι σ} (hs : c.Settled s) :
    c.Settled (perform controls b.quiet op s).2 := by
  cases op with
  | check k data =>
    simp only [perform, hk]
    generalize hstart : s.note _ = start
    have hstart : c.Settled start := hstart ▸ hs
    cases hdue : (c.check b.quiet data start).1 with
    | false => exact (hstart.of_sameFlags (sameFlags_check c data start hdue)).of_sameFlags rfl
    | true =>
      -- The control is pending itself now.
      have hpending := isPending_check hc data hdue
      rw [isPending_of_isOwn hc] at hpending
      exact fun hclear => absurd hpending (Bool.eq_false_iff.mp hclear)
  | reset k =>
    simp only [perform, hk]
    exact fun _ g hg => isRaised_reset c hg _
  | resetFirst k =>
    simp only [perform, hk]
    exact fun _ g hg => isRaised_resetFirst c hg _
  | isPending k => exact hs
  | listen k l => exact hs
  | unlisten k id => exact hs

end LiveConfig.Control
