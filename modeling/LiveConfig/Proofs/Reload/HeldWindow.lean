import LiveConfig.Proofs.Reload.HeldRun
import LiveConfig.Reload.Detector

/-! Changes of the resource while a held configuration is being reloaded. A reset takes the state of
its moment for the baseline, and not the one that was loaded. -/

namespace LiveConfig

open Control (Scene Behaviour Conduct)

structure Site (τ : Type) where
  detector : Detector
  now : Nat
  storage : Storage
  own : τ

abbrev Hearing (ι τ : Type) := ι → Control → Option Payload → Site τ → Conduct Empty ι (Site τ)

namespace Site

variable {ι τ : Type}

def moment (r : Site τ) : Moment := ⟨r.now, r.storage⟩

def isNews (r : Site τ) : Bool := r.detector.isNews r.storage

def waited (n : Nat) (r : Site τ) : Site τ := { r with now := r.now + n }

def behaviour (hear : Hearing ι τ) : Behaviour Empty ι (Site τ) where
  detect _ r :=
    let (changed, d) := r.detector.check r.moment
    (changed, { r with detector := d })
  record _ r := { r with detector := r.detector.record r.moment }
  hear := hear
  foreign _ := ⟨fun _ _ => .done, fun _ => .done, fun _ => .done, fun _ => false, fun _ => false⟩

theorem detect_behaviour (hear : Hearing ι τ) (n : Nat) {r : Site τ} {changed : Bool}
    {d : Detector} (h : r.detector.check r.moment = (changed, d)) :
    (behaviour hear).detect n r = (changed, { r with detector := d }) := by
  simp [behaviour, h]

end Site

/-- What happens later while nothing else changes. -/
inductive Later where
  | get
  | wait (n : Nat)

namespace Later

def use {τ : Type} : Later → Use (Site τ)
  | get => .get
  | wait n => .change (Site.waited n)

def total : List Later → Nat
  | [] => 0
  | get :: us => total us
  | wait n :: us => n + total us

end Later

namespace Held

variable {ι τ α : Type} {hear : Hearing ι τ} {k : Client (Site τ) α} {f d : Nat}
  {s t : Held ι (Site τ) α}

def site (s : Held ι (Site τ) α) : Site τ := s.scene.rest

def runLater (hear : Hearing ι τ) (k : Client (Site τ) α) (f d : Nat) (us : List Later)
    (s : Held ι (Site τ) α) : Held ι (Site τ) α :=
  run (Site.behaviour hear) k (.plain f d) (us.map Later.use) s

section

variable (hear k d)

theorem detect_quiet {changed : Bool} {d' : Detector}
    (h : s.site.detector.check s.site.moment = (changed, d')) :
    (Site.behaviour hear).quiet.detect d s.scene =
      (changed, (s.scene.setRest { s.site with detector := d' }).note (.asked d changed)) := by
  simp [Behaviour.quiet, show (Site.behaviour hear).detect d s.scene.rest = _ from
    Site.detect_behaviour hear d h, site]

theorem get_of_no_news {d' : Detector} (hp : s.scene.isRaised f = false)
    (h : s.site.detector.check s.site.moment = (false, d')) :
    let t := perform (Site.behaviour hear) k (.plain f d) .get s
    t.loads = s.loads ∧ t.scene.isRaised f = false ∧ t.site = { s.site with detector := d' } := by
  have hget := get_of_same (k := k) (Control.check_plain_of_same hp (detect_quiet hear d h) none)
  rw [hget]
  exact ⟨loads_of_notices (s := s) (t := ⟨_, _, s.notices ++ [_]⟩) rfl, hp, rfl⟩

theorem loads_get_of_news {d' : Detector} (hp : s.scene.isRaised f = false)
    (h : s.site.detector.check s.site.moment = (true, d')) :
    (perform (Site.behaviour hear) k (.plain f d) .get s).loads = s.loads + 1 :=
  loads_get_of_due rfl (Control.check_plain_of_changed hp (detect_quiet hear d h) none)

end

/-- Nothing is pending at the control with flag `f`, and there is nothing to find. -/
structure AtRest (f : Nat) (s : Held ι (Site τ) α) : Prop where
  lowered : s.scene.isRaised f = false
  hasBaseline : s.site.detector.hasBaseline = true
  noNews : s.site.isNews = false

/-- At rest, and nothing has been loaded since. -/
structure RestsFrom (f : Nat) (s t : Held ι (Site τ) α) : Prop where
  atRest : AtRest f t
  loads : t.loads = s.loads
  epoch : t.holder.epoch = s.holder.epoch

theorem AtRest.rests (h : AtRest f s) : RestsFrom f s s := ⟨h, rfl, rfl⟩

theorem RestsFrom.trans {u : Held ι (Site τ) α} (h : RestsFrom f s t) (h' : RestsFrom f t u) :
    RestsFrom f s u := ⟨h'.atRest, h'.loads.trans h.loads, h'.epoch.trans h.epoch⟩

theorem AtRest.check (h : AtRest f s) (hear : Hearing ι τ) (d : Nat) (data : Option Payload) : ∃ d',
    (Control.plain f d).check (Site.behaviour hear).quiet data s.scene =
      (false, (s.scene.setRest { s.site with detector := d' }).note (.asked d false)) ∧
    d'.hasBaseline = true ∧ d'.isNews s.site.storage = false := by
  rcases hcheck : s.site.detector.check s.site.moment with ⟨changed, d'⟩
  have hfst := Detector.check_fst (d := s.site.detector) (m := s.site.moment)
  have hbase := Detector.hasBaseline_check (d := s.site.detector) (m := s.site.moment)
  have hnews := Detector.isNews_check (m := s.site.moment) h.hasBaseline s.site.storage
  rw [hcheck] at hfst hbase hnews
  obtain rfl : changed = false := by
    rw [show changed = _ from hfst,
      show s.site.detector.isNews s.site.moment.storage = false from h.noNews, Bool.and_false]
  exact ⟨d', Control.check_plain_of_same h.lowered (detect_quiet hear d hcheck) data,
    hbase.trans h.hasBaseline, hnews.trans h.noNews⟩

theorem AtRest.get (h : AtRest f s) :
    RestsFrom f s (perform (Site.behaviour hear) k (.plain f d) .get s) := by
  obtain ⟨d', hcheck, hd, hn⟩ := h.check hear d none
  rw [get_of_same hcheck]
  exact ⟨⟨h.lowered, hd, hn⟩, loads_of_notices (t := ⟨_, _, s.notices ++ [_]⟩) rfl, rfl⟩

/-- While nothing changes, later gets and the time that passes leave everything at rest. -/
theorem AtRest.later (h : AtRest f s) (us : List Later) :
    RestsFrom f s (runLater hear k f d us s) := by
  induction us generalizing s with
  | nil => exact h.rests
  | cons u us ih =>
    have first : RestsFrom f s (perform (Site.behaviour hear) k (.plain f d) u.use s) := by
      cases u with
      | get => exact h.get
      | wait n => exact ⟨⟨h.lowered, h.hasBaseline, h.noNews⟩, rfl, rfl⟩
    exact first.trans (ih first.atRest)

theorem loads_of_no_news (us : List Later) (hp : s.scene.isRaised f = false)
    (hd : s.site.detector.hasBaseline = true) (hn : s.site.isNews = false) :
    (runLater hear k f d us s).loads = s.loads :=
  (AtRest.later ⟨hp, hd, hn⟩ us).loads

theorem loads_of_news (us : List Later) (hp : s.scene.isRaised f = false)
    (hn : s.site.isNews = true)
    (hdue : s.site.detector.isDue (s.site.now + Later.total us) = true) :
    s.loads < (runLater hear k f d (us ++ [.get]) s).loads := by
  induction us generalizing s with
  | nil =>
    rcases hcheck : s.site.detector.check s.site.moment with ⟨changed, d'⟩
    have hfst := Detector.check_fst (d := s.site.detector) (m := s.site.moment)
    rw [hcheck, show s.site.detector.isNews s.site.moment.storage = true from hn,
      Bool.and_true] at hfst
    obtain rfl : changed = true := hfst.trans hdue
    have hget := loads_get_of_news hear k d hp hcheck
    exact Nat.lt_of_lt_of_eq (Nat.lt_succ_self _) hget.symm
  | cons u us ih =>
    cases u with
    | get =>
      rcases hcheck : s.site.detector.check s.site.moment with ⟨changed, d'⟩
      show s.loads < (runLater hear k f d (us ++ [.get]) (perform _ k (.plain f d) .get s)).loads
      cases changed with
      | true =>
        have hget := loads_get_of_news hear k d hp hcheck
        have hmono := loads_le_run (b := Site.behaviour hear) (k := k) (c := .plain f d) rfl
          ((us ++ [Later.get]).map Later.use) (perform (Site.behaviour hear) k (.plain f d) .get s)
        exact Nat.lt_of_lt_of_le (Nat.lt_of_lt_of_eq (Nat.lt_succ_self _) hget.symm) hmono
      | false =>
        -- The detector was not ready to look, and so it stays as it is.
        have hwait : s.site.detector.isDue s.site.now = false := by
          have hfst := Detector.check_fst (d := s.site.detector) (m := s.site.moment)
          rw [hcheck, show s.site.detector.isNews s.site.moment.storage = true from hn,
            Bool.and_true] at hfst
          exact hfst.symm
        have hsame := Detector.check_of_not_due (m := s.site.moment) hwait
        obtain ⟨hloads, hraised, hsite⟩ := get_of_no_news hear k d hp hsame
        rw [← hloads]
        apply ih hraised
        · rw [hsite]
          exact hn
        · rw [hsite]
          exact hdue
    | wait n =>
      refine ih (s := s.setRest (s.site.waited n)) hp hn ?_
      rw [Later.total, ← Nat.add_assoc] at hdue
      exact hdue

/-- While no reload is pending, later gets load exactly where there is news. -/
theorem loads_iff_news (us : List Later) (hp : s.scene.isRaised f = false)
    (hd : s.site.detector.hasBaseline = true)
    (hdue : s.site.detector.isDue (s.site.now + Later.total us) = true) :
    s.loads < (runLater hear k f d (us ++ [.get]) s).loads ↔ s.site.isNews = true := by
  constructor
  · intro h
    cases hn : s.site.isNews with
    | true => rfl
    | false =>
      rw [loads_of_no_news _ hp hd hn] at h
      exact absurd h (Nat.lt_irrefl _)
  · exact fun hn => loads_of_news us hp hn hdue

/-- A change between the load of a call that succeeds and its reset. Where a reload is pending, the
reset takes the state of its moment for the baseline, and no later get loads. A reload that finds
none pending resets nothing, and then later gets load exactly where there is news. So they do where
something changes after the call. -/
theorem window_update (hear : Hearing ι τ) (k : Client (Site τ) α) (f d : Nat) (caller : Caller)
    (s : Held ι (Site τ) α)
    (hs : (perform (Site.behaviour hear) k (.plain f d) caller.use s).holder.epoch ≠
      s.holder.epoch)
    (hd : (beforeReset (Site.behaviour hear) k (.plain f d) caller s).site.detector.hasBaseline =
      true) :
    let u := beforeReset (Site.behaviour hear) k (.plain f d) caller s
    let t := perform (Site.behaviour hear) k (.plain f d) caller.use s
    (u.scene.isRaised f = true ↔ caller = .get ∨ s.scene.isRaised f = true) ∧
    (u.scene.isRaised f = true → ∀ us, (runLater hear k f d us t).loads = t.loads) ∧
    (u.scene.isRaised f = false → t.site = u.site ∧
      ∀ us, u.site.detector.isDue (u.site.now + Later.total us) = true →
        (t.loads < (runLater hear k f d (us ++ [.get]) t).loads ↔ u.site.isNews = true)) ∧
    ∀ (r : Site τ) us, r.detector.hasBaseline = true →
      r.detector.isDue (r.now + Later.total us) = true →
        (t.loads < (runLater hear k f d (us ++ [.get]) (t.setRest r)).loads ↔
          r.isNews = true) := by
  intro u t
  have hc : (Control.plain f d).isOwn = true := rfl
  obtain ⟨hscene, hpending⟩ := scene_of_success hc caller hs
  have ht : t.scene.isRaised f = false := by
    rw [show t.scene = _ from hscene]
    exact Control.isPending_reset hc u.scene
  refine ⟨?_, ?_, ?_, ?_⟩
  · rw [show u.scene.isRaised f = _ from hpending, Bool.or_eq_true]
    cases caller <;> simp [Caller.use, Use.isGet, pending, Behaviour.quiet]
  -- The reset has recorded, and there is no news until something changes.
  · intro hu us
    have hsite : t.site = { u.site with detector := u.site.detector.record u.site.moment } := by
      rw [site, show t.scene = _ from hscene, Control.reset_plain_of_isRaised hu]
      rfl
    apply loads_of_no_news us ht
    · rw [hsite]
      exact Detector.hasBaseline_record.trans hd
    · rw [hsite]
      exact Detector.isNews_record hd
  -- The reset has done nothing, and the news of the window is there still.
  · intro hu
    have hsite : t.site = u.site := by
      rw [site, show t.scene = _ from hscene, Control.reset_plain_of_not_isRaised hu]
      rfl
    refine ⟨hsite, fun us hdue => ?_⟩
    rw [← hsite] at hd hdue ⊢
    exact loads_iff_news us ht hd hdue
  · intro r us hr hdue
    exact loads_iff_news (s := t.setRest r) us ht hr hdue

def flagOnly (raised : Bool) : Site Unit where
  detector := .manual raised
  now := 0
  storage := ⟨⟨fun _ => .ok false, fun _ => .ok (.dated 0)⟩,
    fun _ => ⟨fun _ => .ok (.file ⟨[]⟩), fun _ => .ok false, fun _ => .ok (.dated 0),
      fun _ => false⟩⟩
  own := ()

def raising : Client (Site Unit) Nat where
  load r := (.ok 1, r)
  onChange _ r := { r with detector := r.detector.raise }
  onError _ r := r

def unheard : Hearing Unit Unit := fun _ _ _ _ => .done

theorem window_update_reload :
    let s : Held Unit (Site Unit) Nat := ⟨.first 0, .fresh (flagOnly false), []⟩
    let t := perform (Site.behaviour unheard) raising (.plain 0 0) .reload s
    t.holder.epoch ≠ s.holder.epoch ∧
      t.loads < (runLater unheard raising 0 0 [.get] t).loads := by
  intro s t
  have hs : t.holder.epoch ≠ s.holder.epoch := by decide
  have h := window_update unheard raising 0 0 .reload s hs (by decide)
  exact ⟨hs, ((h.2.2.1 (by decide)).2 [] (by decide)).mpr (by decide)⟩

/-- A get whose callback raises the flag again lowers it, and no get finds out later. -/
theorem lost_update :
    let s : Held Unit (Site Unit) Nat := ⟨.first 0, .fresh (flagOnly true), []⟩
    let u := beforeReset (Site.behaviour unheard) raising (.plain 0 0) .get s
    let t := perform (Site.behaviour unheard) raising (.plain 0 0) .get s
    u.site.isNews = true ∧ t.loads = 1 ∧
      ∀ us, (runLater unheard raising 0 0 us t).loads = 1 := by
  intro s u t
  have ht : t.loads = 1 := by decide
  refine ⟨by decide, ht, fun us => ?_⟩
  rw [loads_of_no_news us (by decide) (by decide) (by decide), ht]

end Held
end LiveConfig
