import LiveConfig.Proofs.Reload.Program

/-! Programs whose listeners do not call back. They may change everything but the controls, and so
checks and resets move the flags of these only as they say. -/

namespace LiveConfig.Control

variable {ι σ : Type}

def Behaviour.quiet (b : Behaviour Empty ι σ) : Wiring (Scene ι σ) := b.wiring (run Empty.elim b 1)

variable {b : Behaviour Empty ι σ} {c : Control} {s t : Scene ι σ}

def Scene.SameFlags (s t : Scene ι σ) : Prop := t.isRaised = s.isRaised

theorem sameFlags_run (depth : Nat) (plan : Conduct Empty ι σ) (s : Scene ι σ) :
    s.SameFlags (run Empty.elim b depth plan s) := by
  apply run_keeps_all _ _ _ _ depth plan s
  · exact fun s => rfl
  · exact fun h h' => Eq.trans h' h
  · exact fun r s => rfl
  · intro depth _ op s
    -- There is no control that an operation could be on.
    cases op with
    | check k | reset k | resetFirst k | isPending k | listen k | unlisten k => exact k.elim

theorem sameFlags_tell (c : Control) (data : Option Payload) (l : ι) (s : Scene ι σ) :
    s.SameFlags (b.tell (run Empty.elim b 1) c data l s) :=
  sameFlags_run 1 _ (s.note (.told l))

theorem isPending_of_sameFlags (hc : c.isOwn = true) (h : s.SameFlags t) :
    c.isPending b.quiet t = c.isPending b.quiet s := by
  cases c with
  | plain f d => exact congrFun h f
  | combined f cs => exact congrFun h f
  | foreign f n => contradiction

theorem isPending_setRest (hc : c.isOwn = true) (r : σ) (s : Scene ι σ) :
    c.isPending b.quiet (s.setRest r) = c.isPending b.quiet s :=
  isPending_of_sameFlags hc rfl

theorem sameFlags_notify (c : Control) (data : Option Payload) (s : Scene ι σ) :
    s.SameFlags (b.quiet.notify c data s) := by
  have hfire := (s.listeners c.flag).fire_keeps (R := Scene.SameFlags) (fun _ => rfl)
    (fun h h' => Eq.trans h' h) (sameFlags_tell (b := b) c data)
    (s.note (.announced c.flag (s.listeners c.flag).all))
  exact hfire

theorem isRaised_announce (c : Control) (data : Option Payload) (s : Scene ι σ) :
    (b.quiet.notify c data (b.quiet.setFlag c.flag true s)).isRaised c.flag = true := by
  rw [sameFlags_notify c data (b.quiet.setFlag c.flag true s)]
  simp [Behaviour.quiet]

theorem isPending_check (hc : c.isOwn = true) (data : Option Payload)
    (h : (c.check b.quiet data s).1 = true) :
    c.isPending b.quiet (c.check b.quiet data s).2 = true := by
  cases hp : c.isPending b.quiet s with
  | true =>
    rw [check_of_isPending hc hp]
    exact hp
  | false =>
    rcases ha : c.ask b.quiet s with ⟨changed, t⟩
    cases changed with
    | false => simp [check_of_same hc hp ha] at h
    | true =>
      rw [check_of_changed hc hp ha]
      have hraised := isRaised_announce (b := b) c data t
      cases c with
      | plain f d => exact hraised
      | combined f cs => exact hraised
      | foreign f n => contradiction

theorem keepsResets_quiet : b.quiet.KeepsResets
    fun s t => ∀ f, s.isRaised f = false → t.isRaised f = false where
  refl s f h := h
  trans h h' f hf := h' f (h f hf)
  record d s f h := h
  lower g s f h := by
    by_cases hg : f = g <;> simp [Behaviour.quiet, hg, h]
  foreignReset n s f h := by
    have hsame := sameFlags_run (b := b) 1 ((b.foreign n).reset s.rest) s
    exact (congrFun hsame f).trans h
  foreignResetFirst n s f h := by
    have hsame := sameFlags_run (b := b) 1 ((b.foreign n).resetFirst s.rest) s
    exact (congrFun hsame f).trans h

theorem isPending_reset (hc : c.isOwn = true) (s : Scene ι σ) :
    c.isPending b.quiet (c.reset b.quiet s) = false := by
  cases c with
  | plain f d =>
    cases h : s.isRaised f with
    | true =>
      rw [reset_plain_of_isRaised h]
      simp [Behaviour.quiet]
    | false =>
      rw [reset_plain_of_not_isRaised h]
      exact h
  | combined f cs =>
    unfold Control.reset
    exact keepsResets_quiet.resetAll cs (b.quiet.setFlag f false s) f (by simp [Behaviour.quiet])
  | foreign f n => contradiction

end LiveConfig.Control
