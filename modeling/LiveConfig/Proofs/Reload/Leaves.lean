import LiveConfig.Proofs.Reload.Settled

/-! Trees of combined controls, and the leaves at their bottom. Where a program is seen through an
outline in which the flags of the combined controls below the root are hidden, its checks and
resets are those of the leaves, one after the other. -/

namespace LiveConfig.Control

mutual

def leaves : Control → List Control
  | plain f d => [plain f d]
  | combined _ cs => leavesAll cs
  | foreign f n => [foreign f n]

def leavesAll : List Control → List Control
  | [] => []
  | c :: cs => leaves c ++ leavesAll cs

end

mutual

def branches : Control → List Nat
  | plain _ _ => []
  | combined f cs => f :: branchesAll cs
  | foreign _ _ => []

def branchesAll : List Control → List Nat
  | [] => []
  | c :: cs => branches c ++ branchesAll cs

end

mutual

theorem mem_flags {g : Nat} (c : Control) (h : g ∈ c.flags) :
    g ∈ c.branches ∨ ∃ l ∈ c.leaves, l.flag = g := by
  cases c with
  | plain f d =>
    obtain rfl := List.mem_singleton.mp h
    exact .inr ⟨_, List.mem_singleton.mpr rfl, rfl⟩
  | combined f cs =>
    rcases List.mem_cons.mp h with rfl | h
    · exact .inl List.mem_cons_self
    · exact (mem_flagsAll cs h).imp_left (List.mem_cons_of_mem f)
  | foreign f n => contradiction

theorem mem_flagsAll {g : Nat} (cs : List Control) (h : g ∈ flagsAll cs) :
    g ∈ branchesAll cs ∨ ∃ l ∈ leavesAll cs, l.flag = g := by
  cases cs with
  | nil => contradiction
  | cons c cs =>
    rcases List.mem_append.mp h with h | h
    · rcases mem_flags c h with h | ⟨l, hl, hg⟩
      · exact .inl (List.mem_append_left _ h)
      · exact .inr ⟨l, List.mem_append_left _ hl, hg⟩
    · rcases mem_flagsAll cs h with h | ⟨l, hl, hg⟩
      · exact .inl (List.mem_append_right _ h)
      · exact .inr ⟨l, List.mem_append_right _ hl, hg⟩

end

mutual

theorem branches_subset_flags (c : Control) : c.branches ⊆ c.flags := by
  cases c with
  | plain f d => exact List.nil_subset _
  | combined f cs => exact List.cons_subset_cons f (branchesAll_subset_flagsAll cs)
  | foreign f n => exact List.nil_subset _

theorem branchesAll_subset_flagsAll (cs : List Control) : branchesAll cs ⊆ flagsAll cs := by
  cases cs with
  | nil => exact List.nil_subset _
  | cons c cs =>
    have hfirst : c.branches ⊆ flagsAll (c :: cs) :=
      List.subset_append_of_subset_left _ (branches_subset_flags c)
    have hothers : branchesAll cs ⊆ flagsAll (c :: cs) :=
      List.subset_append_of_subset_right _ (branchesAll_subset_flagsAll cs)
    exact List.append_subset.mpr ⟨hfirst, hothers⟩

end

mutual

theorem mem_flags_of_mem_leaves {g d : Nat} (c : Control) (h : plain g d ∈ c.leaves) :
    g ∈ c.flags := by
  cases c with
  | plain f d' =>
    cases List.mem_singleton.mp h
    exact List.mem_singleton.mpr rfl
  | combined f cs => exact List.mem_cons_of_mem f (mem_flagsAll_of_mem_leavesAll cs h)
  | foreign f n => cases List.mem_singleton.mp h

theorem mem_flagsAll_of_mem_leavesAll {g d : Nat} (cs : List Control)
    (h : plain g d ∈ leavesAll cs) : g ∈ flagsAll cs := by
  cases cs with
  | nil => contradiction
  | cons c cs =>
    rcases List.mem_append.mp h with h | h
    · exact List.mem_append_left _ (mem_flags_of_mem_leaves c h)
    · exact List.mem_append_right _ (mem_flagsAll_of_mem_leavesAll cs h)

end

theorem leavesAll_of_plain {ls : List Control} (h : ∀ l ∈ ls, ∃ g d, l = plain g d) :
    leavesAll ls = ls := by
  induction ls with
  | nil => rfl
  | cons l ls ih =>
    obtain ⟨g, d, rfl⟩ := h l List.mem_cons_self
    rw [leavesAll, ih fun l hl => h l (List.mem_cons_of_mem _ hl)]
    rfl

theorem branchesAll_of_plain {ls : List Control} (h : ∀ l ∈ ls, ∃ g d, l = plain g d) :
    branchesAll ls = [] := by
  induction ls with
  | nil => rfl
  | cons l ls ih =>
    obtain ⟨g, d, rfl⟩ := h l List.mem_cons_self
    rw [branchesAll, ih fun l hl => h l (List.mem_cons_of_mem _ hl)]
    rfl

section Lists

variable {σ : Type} (w : Wiring σ)

theorem checkAll_append (xs ys : List Control) (s : σ) :
    checkAll w (xs ++ ys) s =
      ((checkAll w xs s).1 || (checkAll w ys (checkAll w xs s).2).1,
        (checkAll w ys (checkAll w xs s).2).2) := by
  induction xs generalizing s with
  | nil => simp [checkAll]
  | cons x xs ih => simp [checkAll, ih, Bool.or_assoc]

theorem resetAll_append (xs ys : List Control) (s : σ) :
    resetAll w (xs ++ ys) s = resetAll w ys (resetAll w xs s) := by
  induction xs generalizing s with
  | nil => simp [resetAll]
  | cons x xs ih => simp [resetAll, ih]

theorem resetFirstAll_append (xs ys : List Control) (s : σ) :
    resetFirstAll w (xs ++ ys) s = resetFirstAll w ys (resetFirstAll w xs s) := by
  induction xs generalizing s with
  | nil => simp [resetFirstAll]
  | cons x xs ih => simp [resetFirstAll, ih]

end Lists

/-- Of a program only the flags that are not hidden are seen, and of the rest a part that `v` picks
out. In this part everything is done as with another connection. -/
structure Wiring.Outlines {σ τ : Type} (w : Wiring σ) (w' : Wiring τ) (hidden : List Nat)
    (v : σ → τ) : Prop where
  isRaised {f : Nat} (h : f ∉ hidden) (s : σ) : w'.isRaised f (v s) = w.isRaised f s
  setFlag {f : Nat} (h : f ∉ hidden) (b : Bool) (s : σ) :
    v (w.setFlag f b s) = w'.setFlag f b (v s)
  setFlag_of_hidden {f : Nat} (h : f ∈ hidden) (b : Bool) (s : σ) : v (w.setFlag f b s) = v s
  detect (d : Nat) (s : σ) : Prod.map id v (w.detect d s) = w'.detect d (v s)
  record (d : Nat) (s : σ) : v (w.record d s) = w'.record d (v s)
  notify {c c' : Control} (h : c.flag ∉ hidden) (hc : c'.flag = c.flag) (data : Option Payload)
    (s : σ) : v (w.notify c data s) = w'.notify c' data (v s)
  notify_of_hidden {c : Control} (h : c.flag ∈ hidden) (data : Option Payload) (s : σ) :
    v (w.notify c data s) = v s
  frame (g : Nat) : w.KeepsChecks (· ≠ g) fun s t => w.isRaised g t = w.isRaised g s

/-- Trees of which the combined controls are hidden, each of them different, and the leaves are
plain controls that are seen. -/
structure Fits (hidden bs : List Nat) (ls : List Control) : Prop where
  unseen : ∀ g ∈ bs, g ∈ hidden
  distinct : bs.Nodup
  seen : ∀ l ∈ ls, ∃ g d, l = .plain g d ∧ g ∉ hidden

namespace Fits

variable {hidden bs bs' : List Nat} {ls ls' : List Control}

theorem left (h : Fits hidden (bs ++ bs') (ls ++ ls')) : Fits hidden bs ls where
  unseen g hg := h.unseen g (List.mem_append_left _ hg)
  distinct := (List.nodup_append.mp h.distinct).1
  seen l hl := h.seen l (List.mem_append_left _ hl)

theorem right (h : Fits hidden (bs ++ bs') (ls ++ ls')) : Fits hidden bs' ls' where
  unseen g hg := h.unseen g (List.mem_append_right _ hg)
  distinct := (List.nodup_append.mp h.distinct).2.1
  seen l hl := h.seen l (List.mem_append_right _ hl)

theorem children {f : Nat} {cs : List Control}
    (h : Fits hidden (combined f cs).branches (combined f cs).leaves) :
    Fits hidden (branchesAll cs) (leavesAll cs) where
  unseen g hg := h.unseen g (List.mem_cons_of_mem f hg)
  distinct := (List.nodup_cons.mp h.distinct).2
  seen := h.seen

theorem flatten {cs : List Control} (h : Fits hidden (branchesAll cs) (leavesAll cs)) :
    Fits hidden (branchesAll (leavesAll cs)) (leavesAll (leavesAll cs)) := by
  have hplain : ∀ l ∈ leavesAll cs, ∃ g d, l = plain g d := fun l hl =>
    (h.seen l hl).imp fun _ => Exists.imp fun _ => And.left
  rw [branchesAll_of_plain hplain, leavesAll_of_plain hplain]
  exact ⟨by simp, List.nodup_nil, h.seen⟩

theorem notMem_flags {c : Control} (h : Fits hidden (c.branches ++ bs') (c.leaves ++ ls')) {g : Nat}
    (hg : g ∈ bs') : g ∉ c.flags := by
  intro hc
  rcases mem_flags c hc with hc | ⟨l, hl, rfl⟩
  · exact (List.nodup_append.mp h.distinct).2.2 g hc g hg rfl
  · obtain ⟨f, d, rfl, hf⟩ := h.seen l (List.mem_append_left _ hl)
    exact hf (h.unseen f (List.mem_append_right _ hg))

end Fits

namespace Wiring.Outlines

variable {σ τ : Type} {w : Wiring σ} {w' : Wiring τ} {hidden : List Nat} {v : σ → τ}

/-- Two controls with one flag that ask alike answer alike. -/
theorem check_of_ask (o : w.Outlines w' hidden v) (c c' : Control) (hc : c.isOwn = true)
    (hc' : c'.isOwn = true) (hflag : c'.flag = c.flag) (hf : c.flag ∉ hidden)
    (data : Option Payload) (s : σ)
    (h : w.isRaised c.flag s = false → Prod.map id v (c.ask w s) = c'.ask w' (v s)) :
    Prod.map id v (c.check w data s) = c'.check w' data (v s) := by
  have hpending : c'.isPending w' (v s) = c.isPending w s := by
    rw [isPending_of_isOwn hc, isPending_of_isOwn hc', hflag, o.isRaised hf]
  cases hp : c.isPending w s with
  | true =>
    rw [check_of_isPending hc hp, check_of_isPending hc' (hpending.trans hp), Prod.map_apply, id]
  | false =>
    have hask := h ((isPending_of_isOwn hc w s).symm.trans hp)
    rcases ha : c.ask w s with ⟨changed, t⟩
    rw [ha] at hask
    cases changed with
    | false =>
      rw [check_of_same hc hp ha, check_of_same hc' (hpending.trans hp) hask.symm, Prod.map_apply,
        id]
    | true =>
      rw [check_of_changed hc hp ha, check_of_changed hc' (hpending.trans hp) hask.symm,
        Prod.map_apply, id, o.notify hf hflag, o.setFlag hf, hflag]

mutual

theorem check (o : w.Outlines w' hidden v) (c : Control) (h : Fits hidden c.branches c.leaves)
    (s : σ) (hs : ∀ g ∈ c.branches, w.isRaised g s = false) :
    Prod.map id v (c.check w none s) = Control.checkAll w' c.leaves (v s) := by
  cases c with
  | plain f d =>
    obtain ⟨_, _, ⟨⟩, hf⟩ := h.seen (.plain f d) (List.mem_singleton.mpr rfl)
    have hcheck := o.check_of_ask (.plain f d) (.plain f d) rfl rfl rfl hf none s
      fun _ => o.detect d s
    simp [hcheck, leaves, Control.checkAll]
  | combined f cs =>
    have hcs : Fits hidden (branchesAll cs) (leavesAll cs) := h.children
    have hf : f ∈ hidden := h.unseen f List.mem_cons_self
    have hpending : (combined f cs).isPending w s = false := hs f List.mem_cons_self
    rw [leaves, ← o.checkAll cs hcs s fun g hg => hs g (List.mem_cons_of_mem f hg)]
    rcases ha : Control.checkAll w cs s with ⟨changed, t⟩
    cases changed with
    | false => rw [check_of_same rfl hpending ha]
    | true =>
      have hnotify := o.notify_of_hidden (c := combined f cs) hf none (w.setFlag f true t)
      rw [check_of_changed rfl hpending ha, Prod.map_apply, Prod.map_apply, flag_combined, hnotify,
        o.setFlag_of_hidden hf]
  | foreign f n =>
    obtain ⟨_, _, ⟨⟩, -⟩ := h.seen (.foreign f n) (List.mem_singleton.mpr rfl)

theorem checkAll (o : w.Outlines w' hidden v) (cs : List Control)
    (h : Fits hidden (branchesAll cs) (leavesAll cs)) (s : σ)
    (hs : ∀ g ∈ branchesAll cs, w.isRaised g s = false) :
    Prod.map id v (Control.checkAll w cs s) = Control.checkAll w' (leavesAll cs) (v s) := by
  cases cs with
  | nil => rfl
  | cons c cs =>
    have hclear : ∀ g ∈ branchesAll cs, w.isRaised g (c.check w none s).2 = false := by
      intro g hg
      have hframe := (o.frame g).check c (fun f hf hfg => h.notMem_flags hg (hfg ▸ hf)) none s
      rw [hframe]
      exact hs g (List.mem_append_right _ hg)
    have hfirst := o.check c h.left s fun g hg => hs g (List.mem_append_left _ hg)
    have hothers := o.checkAll cs h.right (c.check w none s).2 hclear
    rw [leavesAll, checkAll_append, ← hfirst, Prod.map_fst, Prod.map_snd, ← hothers]
    rw [Control.checkAll]
    rfl

end

/-- A combined control is seen to do the same as one that combines the leaves beneath it. -/
theorem check_combined (o : w.Outlines w' hidden v) {f : Nat} (hf : f ∉ hidden)
    {cs : List Control} (h : Fits hidden (branchesAll cs) (leavesAll cs))
    (data : Option Payload) (s : σ)
    (hs : w.isRaised f s = false → ∀ g ∈ branchesAll cs, w.isRaised g s = false) :
    Prod.map id v ((combined f cs).check w data s) =
      (combined f (leavesAll cs)).check w' data (v s) :=
  o.check_of_ask (combined f cs) (combined f (leavesAll cs)) rfl rfl rfl hf data s fun hclear =>
    o.checkAll cs h s (hs hclear)

mutual

theorem reset (o : w.Outlines w' hidden v) (c : Control) (h : Fits hidden c.branches c.leaves)
    (s : σ) : v (c.reset w s) = Control.resetAll w' c.leaves (v s) := by
  cases c with
  | plain f d =>
    obtain ⟨_, _, ⟨⟩, hf⟩ := h.seen (.plain f d) (List.mem_singleton.mpr rfl)
    simp only [leaves, Control.resetAll, Control.reset, o.isRaised hf]
    split
    · rw [o.setFlag hf, o.record]
    · rfl
  | combined f cs =>
    have hcs : Fits hidden (branchesAll cs) (leavesAll cs) := h.children
    have hf : f ∈ hidden := h.unseen f List.mem_cons_self
    rw [Control.reset, o.resetAll cs hcs, o.setFlag_of_hidden hf, leaves]
  | foreign f n =>
    obtain ⟨_, _, ⟨⟩, -⟩ := h.seen (.foreign f n) (List.mem_singleton.mpr rfl)

theorem resetAll (o : w.Outlines w' hidden v) (cs : List Control)
    (h : Fits hidden (branchesAll cs) (leavesAll cs)) (s : σ) :
    v (Control.resetAll w cs s) = Control.resetAll w' (leavesAll cs) (v s) := by
  cases cs with
  | nil => rfl
  | cons c cs => rw [leavesAll, resetAll_append, Control.resetAll, o.resetAll cs h.right,
      o.reset c h.left]

end

mutual

theorem resetFirst (o : w.Outlines w' hidden v) (c : Control)
    (h : Fits hidden c.branches c.leaves) (s : σ) :
    v (c.resetFirst w s) = Control.resetFirstAll w' c.leaves (v s) := by
  cases c with
  | plain f d =>
    obtain ⟨_, _, ⟨⟩, hf⟩ := h.seen (.plain f d) (List.mem_singleton.mpr rfl)
    simp only [leaves, Control.resetFirstAll, Control.resetFirst]
    rw [o.setFlag hf, o.record]
  | combined f cs =>
    have hcs : Fits hidden (branchesAll cs) (leavesAll cs) := h.children
    have hf : f ∈ hidden := h.unseen f List.mem_cons_self
    rw [Control.resetFirst, o.resetFirstAll cs hcs, o.setFlag_of_hidden hf, leaves]
  | foreign f n =>
    obtain ⟨_, _, ⟨⟩, -⟩ := h.seen (.foreign f n) (List.mem_singleton.mpr rfl)

theorem resetFirstAll (o : w.Outlines w' hidden v) (cs : List Control)
    (h : Fits hidden (branchesAll cs) (leavesAll cs)) (s : σ) :
    v (Control.resetFirstAll w cs s) = Control.resetFirstAll w' (leavesAll cs) (v s) := by
  cases cs with
  | nil => rfl
  | cons c cs => rw [leavesAll, resetFirstAll_append, Control.resetFirstAll,
      o.resetFirstAll cs h.right, o.resetFirst c h.left]

end

theorem reset_combined (o : w.Outlines w' hidden v) {f : Nat} (hf : f ∉ hidden)
    {cs : List Control} (h : Fits hidden (branchesAll cs) (leavesAll cs)) (s : σ) :
    v ((combined f cs).reset w s) = (combined f (leavesAll cs)).reset w' (v s) := by
  rw [Control.reset, Control.reset, o.resetAll cs h, o.setFlag hf]

theorem resetFirst_combined (o : w.Outlines w' hidden v) {f : Nat} (hf : f ∉ hidden)
    {cs : List Control} (h : Fits hidden (branchesAll cs) (leavesAll cs)) (s : σ) :
    v ((combined f cs).resetFirst w s) = (combined f (leavesAll cs)).resetFirst w' (v s) := by
  rw [Control.resetFirst, Control.resetFirst, o.resetFirstAll cs h, o.setFlag hf]

end Wiring.Outlines

end LiveConfig.Control
