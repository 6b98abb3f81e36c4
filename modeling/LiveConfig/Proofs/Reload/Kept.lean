import LiveConfig.Reload.Control

/-! What checks and resets of controls keep. A relation between states that holds over every part
of what a program does for its controls also holds over whole checks and resets, however deep the
controls are combined. -/

namespace LiveConfig.Control

mutual

def flags : Control → List Nat
  | plain f _ => [f]
  | combined f cs => f :: flagsAll cs
  | foreign _ _ => []

def flagsAll : List Control → List Nat
  | [] => []
  | c :: cs => flags c ++ flagsAll cs

end

namespace Wiring

variable {σ : Type}

/-- A relation over all that a reset does. -/
structure KeepsResets (w : Wiring σ) (R : σ → σ → Prop) : Prop where
  refl (s : σ) : R s s
  trans {s t u : σ} : R s t → R t u → R s u
  record (d : Nat) (s : σ) : R s (w.record d s)
  lower (f : Nat) (s : σ) : R s (w.setFlag f false s)
  foreignReset (n : Nat) (s : σ) : R s ((w.foreign n).reset s)
  foreignResetFirst (n : Nat) (s : σ) : R s ((w.foreign n).resetFirst s)

/-- A relation over all that a check does which raises no flags but those with `P`. -/
structure KeepsChecks (w : Wiring σ) (P : Nat → Prop) (R : σ → σ → Prop) : Prop where
  refl (s : σ) : R s s
  trans {s t u : σ} : R s t → R t u → R s u
  detect (d : Nat) (s : σ) : R s (w.detect d s).2
  announce (c : Control) (h : P c.flag) (data : Option Payload) (s : σ) :
    R s (w.notify c data (w.setFlag c.flag true s))
  foreignCheck (n : Nat) (data : Option Payload) (s : σ) : R s ((w.foreign n).check data s).2

variable {w : Wiring σ} {P : Nat → Prop} {R : σ → σ → Prop}

mutual

theorem KeepsChecks.check (k : w.KeepsChecks P R) (c : Control) (h : ∀ f ∈ c.flags, P f)
    (data : Option Payload) (s : σ) : R s (c.check w data s).2 := by
  cases c with
  | plain f d =>
    have hf : P f := h f (by simp [flags])
    unfold Control.check
    split
    · exact k.refl s
    · split
      next changed t hd =>
      have ht : R s t := by simpa only [hd] using k.detect d s
      split
      · exact k.trans ht (k.announce (.plain f d) hf data t)
      · exact ht
  | combined f cs =>
    have hf : P f := h f (by simp [flags])
    unfold Control.check
    split
    · exact k.refl s
    -- The children are asked before the flag is raised.
    · split
      next changed t hd =>
      have ht : R s t := by
        simpa only [hd] using k.checkAll cs (fun g hg => h g (by simp [flags, hg])) s
      split
      · exact k.trans ht (k.announce (.combined f cs) hf data t)
      · exact ht
  | foreign f n =>
    unfold Control.check
    exact k.foreignCheck n data s

theorem KeepsChecks.checkAll (k : w.KeepsChecks P R) (cs : List Control)
    (h : ∀ f ∈ flagsAll cs, P f) (s : σ) : R s (Control.checkAll w cs s).2 := by
  cases cs with
  | nil =>
    unfold Control.checkAll
    exact k.refl s
  | cons c cs =>
    unfold Control.checkAll
    have hc := k.check c (fun g hg => h g (by simp [flagsAll, hg])) none s
    have hcs := k.checkAll cs (fun g hg => h g (by simp [flagsAll, hg])) (c.check w none s).2
    exact k.trans hc hcs

end

mutual

theorem KeepsResets.reset (k : w.KeepsResets R) (c : Control) (s : σ) : R s (c.reset w s) := by
  cases c with
  | plain f d =>
    unfold Control.reset
    split
    · exact k.trans (k.record d s) (k.lower f _)
    · exact k.refl s
  | combined f cs =>
    unfold Control.reset
    exact k.trans (k.lower f s) (k.resetAll cs _)
  | foreign f n =>
    unfold Control.reset
    exact k.foreignReset n s

theorem KeepsResets.resetAll (k : w.KeepsResets R) (cs : List Control) (s : σ) :
    R s (Control.resetAll w cs s) := by
  cases cs with
  | nil =>
    unfold Control.resetAll
    exact k.refl s
  | cons c cs =>
    unfold Control.resetAll
    exact k.trans (k.reset c s) (k.resetAll cs _)

end

mutual

theorem KeepsResets.resetFirst (k : w.KeepsResets R) (c : Control) (s : σ) :
    R s (c.resetFirst w s) := by
  cases c with
  | plain f d =>
    unfold Control.resetFirst
    exact k.trans (k.record d s) (k.lower f _)
  | combined f cs =>
    unfold Control.resetFirst
    exact k.trans (k.lower f s) (k.resetFirstAll cs _)
  | foreign f n =>
    unfold Control.resetFirst
    exact k.foreignResetFirst n s

theorem KeepsResets.resetFirstAll (k : w.KeepsResets R) (cs : List Control) (s : σ) :
    R s (Control.resetFirstAll w cs s) := by
  cases cs with
  | nil =>
    unfold Control.resetFirstAll
    exact k.refl s
  | cons c cs =>
    unfold Control.resetFirstAll
    exact k.trans (k.resetFirst c s) (k.resetFirstAll cs _)

end

end Wiring
end LiveConfig.Control
