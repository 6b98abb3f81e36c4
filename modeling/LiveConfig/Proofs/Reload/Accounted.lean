import LiveConfig.Proofs.Reload.HeldWindow

/-! What a reload by hand accounts for. It resets a control only where a check has found a change
before; a change that nobody has found stays to be found, and a get loads it once more. -/

namespace LiveConfig

open Control (Scene Behaviour)

inductive Move (σ : Type) where
  | use (u : Use σ)
  | check (data : Option Payload)
  | reset
  | resetFirst

/-- Moves that change nothing in the world but the time, and are no reloads by hand. -/
inductive Move.Calm {τ : Type} : Move (Site τ) → Prop
  | get : Calm (.use .get)
  | current : Calm (.use .current)
  | read : Calm (.use .read)
  | epoch : Calm (.use .epoch)
  | wait (n : Nat) : Calm (.use (.change (Site.waited n)))
  | check (data : Option Payload) : Calm (.check data)
  | reset : Calm .reset
  | resetFirst : Calm .resetFirst

theorem Detector.exists_isDue (d : Detector) (now : Nat) : ∃ n, d.isDue (now + n) = true := by
  cases d with
  | manual raised => exact ⟨0, rfl⟩
  | scripted answers checks recordings => exact ⟨0, rfl⟩
  | timed l w a =>
    refine ⟨w.delay + w.lastLook + 1, decide_eq_true ?_⟩
    show w.delay < now + (w.delay + w.lastLook + 1) - w.lastLook
    omega

namespace Held

section Moves

variable {ι σ α : Type} (b : Behaviour Empty ι σ) (k : Client σ α) (c : Control)

def move (m : Move σ) (s : Held ι σ α) : Held ι σ α :=
  match m with
  | .use u => perform b k c u s
  | .check data => { s with scene := (c.check b.quiet data s.scene).2 }
  | .reset => { s with scene := c.reset b.quiet s.scene }
  | .resetFirst => { s with scene := c.resetFirst b.quiet s.scene }

def moves (ms : List (Move σ)) (s : Held ι σ α) : Held ι σ α :=
  ms.foldl (fun s m => move b k c m s) s

end Moves

variable {ι τ α : Type} {hear : Hearing ι τ} {k : Client (Site τ) α} {f d : Nat}
  {s t : Held ι (Site τ) α}

theorem AtRest.move (h : AtRest f s) {m : Move (Site τ)} (hm : m.Calm) :
    RestsFrom f s (move (Site.behaviour hear) k (.plain f d) m s) := by
  cases hm with
  | get => exact h.get
  | current | read | epoch =>
    refine ⟨⟨h.lowered, h.hasBaseline, h.noNews⟩, ?_, rfl⟩
    simp [Held.move, perform, note, loads, Notice.isLoad]
  | wait n => exact ⟨⟨h.lowered, h.hasBaseline, h.noNews⟩, rfl, rfl⟩
  | check data =>
    obtain ⟨d', hcheck, hd, hn⟩ := h.check hear d data
    rw [Held.move, hcheck]
    exact ⟨⟨h.lowered, hd, hn⟩, rfl, rfl⟩
  | reset =>
    rw [Held.move, Control.reset_plain_of_not_isRaised h.lowered]
    exact h.rests
  | resetFirst =>
    refine ⟨⟨?_, ?_, ?_⟩, rfl, rfl⟩
    · simp [Held.move, Control.resetFirst, Behaviour.quiet]
    · exact Detector.hasBaseline_record.trans h.hasBaseline
    · exact Detector.isNews_record h.hasBaseline

theorem AtRest.moves (h : AtRest f s) {ms : List (Move (Site τ))} (hms : ∀ m ∈ ms, m.Calm) :
    RestsFrom f s (moves (Site.behaviour hear) k (.plain f d) ms s) := by
  induction ms generalizing s with
  | nil => exact h.rests
  | cons m ms ih =>
    obtain ⟨hm, hms⟩ := List.forall_mem_cons.mp hms
    have first : RestsFrom f s (Held.move (Site.behaviour hear) k (.plain f d) m s) := h.move hm
    exact first.trans (ih first.atRest hms)

/-- A reload by hand that succeeds lets the detector record the present state if a change had been
found before, and leaves the controller and its detector alone otherwise. -/
theorem reload_leaves
    (hs : (perform (Site.behaviour hear) k (.plain f d) .reload s).holder.epoch ≠ s.holder.epoch)
    (hd : (perform (Site.behaviour hear) k (.plain f d) .reload s).site.detector.hasBaseline =
      true) :
    let u := beforeReset (Site.behaviour hear) k (.plain f d) .reload s
    let t := perform (Site.behaviour hear) k (.plain f d) .reload s
    t.scene.isRaised f = false ∧
    (s.scene.isRaised f = true → t.site.isNews = false) ∧
    (s.scene.isRaised f = false → t.scene = u.scene) := by
  intro u t
  have hc : (Control.plain f d).isOwn = true := rfl
  obtain ⟨hscene, hraised⟩ := scene_of_success hc .reload hs
  have hu : u.scene.isRaised f = s.scene.isRaised f := hraised
  refine ⟨?_, fun hp => ?_, fun hp => ?_⟩
  · rw [show t.scene = _ from hscene]
    exact Control.isPending_reset hc u.scene
  · have hsite : t.site = { u.site with detector := u.site.detector.record u.site.moment } := by
      rw [site, show t.scene = _ from hscene, Control.reset_plain_of_isRaised (hu.trans hp)]
      rfl
    rw [show (perform _ k (.plain f d) .reload s).site = _ from hsite,
      Detector.hasBaseline_record] at hd
    rw [hsite]
    exact Detector.isNews_record hd
  · rw [show t.scene = _ from hscene]
    exact Control.reset_plain_of_not_isRaised (hu.trans hp)

/-- A reload by hand that succeeds accounts for all there is to find exactly where a check had
found a change before it, or where there is nothing to find after it: then nobody who only looks
makes anything load again. Otherwise it leaves the control and its detector alone, and a get loads
once more as soon as the detector is ready to look. -/
theorem reload_accounts (hear : Hearing ι τ) (k : Client (Site τ) α) (f d : Nat)
    (s : Held ι (Site τ) α)
    (hs : (perform (Site.behaviour hear) k (.plain f d) .reload s).holder.epoch ≠ s.holder.epoch)
    (hd : (perform (Site.behaviour hear) k (.plain f d) .reload s).site.detector.hasBaseline =
      true) :
    let t := perform (Site.behaviour hear) k (.plain f d) .reload s
    ((∀ ms, (∀ m ∈ ms, m.Calm) →
        let v := moves (Site.behaviour hear) k (.plain f d) ms t
        v.loads = t.loads ∧ v.holder.epoch = t.holder.epoch) ↔
      s.scene.isRaised f = true ∨ t.site.isNews = false) ∧
    (s.scene.isRaised f = false →
      t.scene = (beforeReset (Site.behaviour hear) k (.plain f d) .reload s).scene ∧
      ∀ us, t.site.detector.isDue (t.site.now + Later.total us) = true →
        (t.loads < (runLater hear k f d (us ++ [.get]) t).loads ↔ t.site.isNews = true)) := by
  intro t
  obtain ⟨ht, hrecorded, hleft⟩ := reload_leaves hs hd
  refine ⟨⟨fun h => ?_, fun h ms hms => ?_⟩, fun hp => ⟨hleft hp, fun us hdue => ?_⟩⟩
  -- Wait until the detector is ready, and then get.
  · cases hn : t.site.isNews with
    | false => exact .inr rfl
    | true =>
      obtain ⟨n, hdue⟩ := t.site.detector.exists_isDue t.site.now
      have hload : t.loads < (runLater hear k f d ([.wait n] ++ [.get]) t).loads :=
        loads_of_news [.wait n] ht hn hdue
      have hsame := (h [.use (.change (Site.waited n)), .use .get]
        (by simp [Move.Calm.wait, Move.Calm.get])).1
      exact absurd (hsame ▸ hload) (Nat.lt_irrefl _)
  · have hn : t.site.isNews = false := h.elim hrecorded id
    have hrest : AtRest f t := ⟨ht, hd, hn⟩
    have hrests : RestsFrom f t (moves (Site.behaviour hear) k (.plain f d) ms t) := hrest.moves hms
    exact ⟨hrests.loads, hrests.epoch⟩
  · exact loads_iff_news us ht hd hdue

def constant : Client (Site Unit) Nat where
  load r := (.ok 1, r)
  onChange _ r := r
  onError _ r := r

theorem reload_accounts_found :
    let b := Site.behaviour unheard
    let s₀ : Held Unit (Site Unit) Nat := ⟨.first 1, .fresh (flagOnly true), []⟩
    let s := move b constant (.plain 0 0) (.check none) s₀
    let t := perform b constant (.plain 0 0) .reload s
    t.holder.epoch ≠ s.holder.epoch ∧ t.site.detector.hasBaseline = true ∧
      ∀ ms, (∀ m ∈ ms, m.Calm) → (moves b constant (.plain 0 0) ms t).loads = t.loads := by
  intro b s₀ s t
  have hs : t.holder.epoch ≠ s.holder.epoch := by decide
  have hd : t.site.detector.hasBaseline = true := by decide
  have h := reload_accounts unheard constant 0 0 s hs hd
  exact ⟨hs, hd, fun ms hms => (h.1.mpr (.inl (by decide)) ms hms).1⟩

/-- The flag is raised, and nobody has looked when the reload is made. It succeeds, and the next get
loads again. -/
theorem loaded_twice :
    let b := Site.behaviour unheard
    let raise : Use (Site Unit) := .change fun r => { r with detector := r.detector.raise }
    ∃ s₀ : Held Unit (Site Unit) Nat,
      build b constant (.plain 0 0) true (.fresh (flagOnly false)) = .ok s₀ ∧
      let s := run b constant (.plain 0 0) [raise] s₀
      let t := perform b constant (.plain 0 0) .reload s
      let v := perform b constant (.plain 0 0) .get t
      t.holder.epoch = s.holder.epoch + 1 ∧
        v.loads = t.loads + 1 ∧ v.holder.epoch = t.holder.epoch + 1 := by
  intro b raise
  exact ⟨_, rfl, by decide, by decide, by decide⟩

end Held
end LiveConfig
