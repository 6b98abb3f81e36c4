import LiveConfig.Proofs.Reload.HeldWindow
import LiveConfig.Proofs.Reload.Looks

/-! A held configuration that watches the date of a resource. Whether a get loads can be told from a
ledger with three entries: whether a reload is pending, the date recorded last, and the instant of
the last look. -/

namespace LiveConfig

open Control (Scene Behaviour)

/-- A loader, callbacks and listeners that leave the resource, the clock and the detector alone. -/
structure Company (ι τ α : Type) where
  load : Site τ → Except ConfigError α × τ
  onChange : Change α → Site τ → τ
  onError : ConfigError → Site τ → τ
  hear : ι → Option Payload → Site τ → τ

namespace Company

variable {ι τ α : Type} (p : Company ι τ α)

def client : Client (Site τ) α where
  load r := ((p.load r).1, { r with own := (p.load r).2 })
  onChange ch r := { r with own := p.onChange ch r }
  onError e r := { r with own := p.onError e r }

def hearing : Hearing ι τ := fun l _ data _ =>
  .act (fun r => { r with own := p.hear l data r }) fun _ => .done

abbrev behaviour : Behaviour Empty ι (Site τ) := Site.behaviour p.hearing

end Company

/-- A call and the moment of it. Anything may have become of the resource since the call before, in
the storage of the moment or as a stand-in shows it. -/
structure Occasion where
  caller : Caller
  moment : Moment
  shown : Sight

namespace Occasion

def seen (l : Locator) (o : Occasion) : Option Stamp :=
  ((l.showing o.shown).sight o.moment.storage).stamp?

def arrive {τ : Type} (o : Occasion) (r : Site τ) : Site τ :=
  { r with
    detector := r.detector.show_ fun _ => o.shown
    now := o.moment.now
    storage := o.moment.storage }

def uses {τ : Type} (o : Occasion) : List (Use (Site τ)) := [.change o.arrive, o.caller.use]

end Occasion

/-- Whether a date is later than a baseline. Without a baseline every date is, and what cannot be
read never is. -/
def Newer (baseline seen : Option Stamp) : Prop :=
  ∃ t, seen = some t ∧ ∀ b, baseline = some b → b.earlier t = true

theorem Watch.isNews_iff_newer {w : Watch} {seen : Option Stamp} :
    w.isNews seen = true ↔ Newer w.baseline seen := Watch.isNews_iff

/-- What decides whether a get loads. -/
structure Ledger where
  pending : Bool
  baseline : Option Stamp
  lastCheck : Nat

namespace Ledger

def start (baseline : Option Stamp) (lastCheck : Nat) : Ledger := ⟨false, baseline, lastCheck⟩

section

variable (delay now : Nat) (seen : Option Stamp) (g : Ledger)

def Looks : Prop := g.pending = false ∧ g.lastCheck + delay < now

instance : Decidable (g.Looks delay now) := inferInstanceAs (Decidable (_ ∧ _))

/-- Whether a get loads: for a change that was found before, or for one that it finds itself. -/
def Loads : Prop := g.pending = true ∨ g.lastCheck + delay < now ∧ Newer g.baseline seen

def checked : Ledger := if g.Looks delay now then { g with lastCheck := now } else g

/-- Only a load that succeeds while a reload is pending gives a new baseline. -/
def loaded (ok : Bool) : Ledger := if ok && g.pending then ⟨false, seen, g.lastCheck⟩ else g

/-- What a call makes of the ledger when its load has come to `outcome`, if it loads. -/
def next : Caller → Option Bool → Ledger
  | .get, none => g.checked delay now
  | .get, some ok => { g.checked delay now with pending := true }.loaded seen ok
  | .reload, none => g
  | .reload, some ok => g.loaded seen ok

def watch : Watch := ⟨delay, g.baseline, g.lastCheck⟩

variable {delay now g}

theorem checked_of_looks (h : g.Looks delay now) :
    g.checked delay now = { g with lastCheck := now } := if_pos h

theorem checked_of_not_looks (h : ¬ g.Looks delay now) : g.checked delay now = g := if_neg h

theorem checked_of_pending (h : g.pending = true) :
    { g.checked delay now with pending := true } = g := by
  rw [checked_of_not_looks fun hlooks => Bool.noConfusion (h.symm.trans hlooks.1), ← h]

theorem next_of_quiet (delay now : Nat) (seen : Option Stamp) {caller : Caller}
    {outcome : Option Bool} (hp : g.pending = false) (h : caller = .get → outcome = none) :
    (g.next delay now seen caller outcome).pending = false ∧
      (g.next delay now seen caller outcome).baseline = g.baseline := by
  cases caller with
  | get =>
    rw [h rfl, next, checked]
    split <;> exact ⟨hp, rfl⟩
  | reload =>
    cases outcome with
    | none => exact ⟨hp, rfl⟩
    | some ok =>
      rw [next, loaded, hp, Bool.and_false]
      exact ⟨hp, rfl⟩

end

def after (l : Locator) (delay : Nat) (g : Ledger) (history : List (Occasion × Option Bool)) :
    Ledger :=
  history.foldl (fun g h => g.next delay h.1.moment.now (h.1.seen l) h.1.caller h.2) g

end Ledger

/-! Nobody around a configuration touches what its detector depends on. -/

section Around

variable {ι τ α : Type} {p : Company ι τ α}

def Site.watched (r : Site τ) : Detector × Moment := (r.detector, r.moment)

def SameWatch (s t : Scene ι (Site τ)) : Prop := t.rest.watched = s.rest.watched

theorem sameWatch_tell (c : Control) (data : Option Payload) (l : ι) (s : Scene ι (Site τ)) :
    SameWatch s (p.behaviour.tell (Control.run Empty.elim p.behaviour 1) c data l s) := rfl

theorem sameWatch_notify (c : Control) (data : Option Payload) (s : Scene ι (Site τ)) :
    SameWatch s (p.behaviour.quiet.notify c data s) := by
  have hfire := (s.listeners c.flag).fire_keeps (R := SameWatch) (fun _ => rfl)
    (fun h h' => Eq.trans h' h) (sameWatch_tell (p := p) c data)
    (s.note (.announced c.flag (s.listeners c.flag).all))
  exact hfire

end Around

namespace Held

variable {ι τ α : Type} {p : Company ι τ α} {f d : Nat} {s : Held ι (Site τ) α}

section

variable (p f d)

def calls (os : List Occasion) (s : Held ι (Site τ) α) : Held ι (Site τ) α :=
  run p.behaviour p.client (.plain f d) (os.flatMap Occasion.uses) s

def call (o : Occasion) (s : Held ι (Site τ) α) : Held ι (Site τ) α := calls p f d [o] s

def outcome (s t : Held ι (Site τ) α) : Option Bool :=
  if t.loads = s.loads then none else some (t.holder.epoch ≠ s.holder.epoch)

def history : List Occasion → Held ι (Site τ) α → List (Occasion × Option Bool)
  | [], _ => []
  | o :: os, s => (o, outcome s (call p f d o s)) :: history os (call p f d o s)

end

/-- A call has loaded, and what its control and detector have come to then. The detector records
after a success while a reload is pending. -/
structure Loaded (f : Nat) (s : Held ι (Site τ) α) (pending : Bool) (watched : Detector × Moment)
    (ok : Bool) (t : Held ι (Site τ) α) : Prop where
  loads : t.loads = s.loads + 1
  epoch : t.holder.epoch = s.holder.epoch + ok.toNat
  isRaised : t.scene.isRaised f = (pending && !ok)
  detector : t.site.detector =
    if ok && pending then watched.1.record watched.2 else watched.1

theorem Loaded.outcome_eq {pending ok : Bool} {watched : Detector × Moment}
    {t : Held ι (Site τ) α} (h : Loaded f s pending watched ok t) : outcome s t = some ok := by
  rw [outcome, if_neg (by rw [h.loads]; omega), h.epoch]
  cases ok <;> simp

theorem loads_of_loaded {t : Held ι (Site τ) α} {caller : Caller} {result : Except ConfigError α}
    {es : List (Notice α)} (h : t.notices = s.notices ++ .loaded caller result :: es)
    (hes : es.countP Notice.isLoad = 0) : t.loads = s.loads + 1 := by
  rw [loads_of_notices h, List.countP_cons_of_pos rfl, hes]

theorem loaded_get {scene : Scene ι (Site τ)}
    (h : (Control.plain f d).check p.behaviour.quiet none s.scene = (true, scene)) :
    ∃ ok, Loaded f s true scene.rest.watched ok
      (perform p.behaviour p.client (.plain f d) .get s) := by
  have hp : scene.isRaised f = true := isPending_of_due (c := .plain f d) rfl h
  rcases hl : p.client.load scene.rest with ⟨e | x, r⟩
  · refine ⟨false, ?_⟩
    rw [get_of_error rfl h hl]
    obtain rfl : _ = r := congrArg Prod.snd hl
    exact ⟨loads_of_loaded rfl rfl, rfl, hp, rfl⟩
  · refine ⟨true, ?_⟩
    rw [get_of_ok rfl h hl, Control.reset_plain_of_isRaised hp]
    obtain rfl : _ = r := congrArg Prod.snd hl
    exact ⟨loads_of_loaded rfl rfl, rfl, if_pos rfl, rfl⟩

theorem loaded_get_of_news {d' : Detector} (hp : s.scene.isRaised f = false)
    (h : s.site.detector.check s.site.moment = (true, d')) :
    ∃ ok, Loaded f s true (d', s.site.moment) ok
      (perform p.behaviour p.client (.plain f d) .get s) := by
  obtain ⟨ok, hload⟩ := loaded_get (p := p) (Control.check_plain_of_changed hp
    (detect_quiet p.hearing d h) none)
  rw [sameWatch_notify] at hload
  exact ⟨ok, hload⟩

theorem loaded_reload (s : Held ι (Site τ) α) :
    ∃ ok, Loaded f s (s.scene.isRaised f) s.site.watched ok
      (perform p.behaviour p.client (.plain f d) .reload s) := by
  rcases hl : p.client.load s.scene.rest with ⟨e | x, r⟩
  · refine ⟨false, ?_⟩
    rw [reload_of_error hl]
    obtain rfl : _ = r := congrArg Prod.snd hl
    exact ⟨loads_of_loaded rfl rfl, rfl, (Bool.and_true _).symm, rfl⟩
  · refine ⟨true, ?_⟩
    rw [reload_of_ok hl]
    obtain rfl : _ = r := congrArg Prod.snd hl
    cases hp : s.scene.isRaised f with
    | true =>
      rw [Control.reset_plain_of_isRaised hp]
      exact ⟨loads_of_loaded rfl rfl, rfl, if_pos rfl, rfl⟩
    | false =>
      rw [Control.reset_plain_of_not_isRaised hp]
      exact ⟨loads_of_loaded rfl rfl, rfl, hp, rfl⟩

/-- A ledger tells whether a reload is pending, and what the detector goes by. -/
structure Tells (f : Nat) (l : Locator) (delay : Nat) (g : Ledger) (s : Held ι (Site τ) α) :
    Prop where
  isRaised : s.scene.isRaised f = g.pending
  detector : ∃ a, s.site.detector = .timed l (g.watch delay) a

variable {l : Locator} {delay : Nat} {g : Ledger} {a : Accesses} {m : Moment}

theorem Loaded.tells {ok : Bool} {t : Held ι (Site τ) α}
    (h : Loaded f s g.pending (.timed l (g.watch delay) a, m) ok t) :
    Tells f l delay (g.loaded (l.sight m.storage).stamp? ok) t := by
  obtain ⟨-, -, hraised, hdetector⟩ := h
  rw [Ledger.loaded]
  cases hok : ok && g.pending with
  | true =>
    obtain ⟨rfl, hp⟩ := Bool.and_eq_true_iff.mp hok
    rw [hp] at hraised
    rw [hok] at hdetector
    exact ⟨hraised, _, hdetector⟩
  | false =>
    rw [hok] at hdetector
    refine ⟨hraised.trans ?_, _, hdetector⟩
    cases ok <;> simp_all

theorem outcome_eq_none {t : Held ι (Site τ) α} (h : t.loads = s.loads) : outcome s t = none :=
  if_pos h

/-- A get has loaded exactly where the ledger says so, and the ledger is kept. -/
structure Governs (f : Nat) (l : Locator) (delay : Nat) (m : Moment) (g : Ledger)
    (s t : Held ι (Site τ) α) : Prop where
  loads : g.Loads delay m.now (l.sight m.storage).stamp? → t.loads = s.loads + 1
  spares : ¬ g.Loads delay m.now (l.sight m.storage).stamp? → t.loads = s.loads
  tells : Tells f l delay (g.next delay m.now (l.sight m.storage).stamp? .get (outcome s t)) t

variable {t : Held ι (Site τ) α}

theorem Loaded.governs {ok : Bool} (hg : g.Loads delay m.now (l.sight m.storage).stamp?)
    (h : Loaded f s true
      (.timed l ({ g.checked delay m.now with pending := true }.watch delay) a, m) ok t) :
    Governs f l delay m g s t where
  loads _ := h.loads
  spares hn := absurd hg hn
  tells := by
    rw [h.outcome_eq, Ledger.next]
    exact h.tells (g := { g.checked delay m.now with pending := true })

theorem governs_of_same (hg : ¬ g.Loads delay m.now (l.sight m.storage).stamp?)
    (hloads : t.loads = s.loads) (h : Tells f l delay (g.checked delay m.now) t) :
    Governs f l delay m g s t where
  loads hl := absurd hl hg
  spares _ := hloads
  tells := by
    rw [outcome_eq_none hloads, Ledger.next]
    exact h

theorem governs_get_of_look (h : Tells f l delay g s) (hl : g.Looks delay s.site.moment.now) :
    Governs f l delay s.site.moment g s (perform p.behaviour p.client (.plain f d) .get s) := by
  obtain ⟨hraised, a, hdetector⟩ := h
  have hlow := hraised.trans hl.1
  have ht : (Detector.timed l (g.watch delay) a).Touches s.site.moment :=
    Detector.touches_iff.mpr hl.2
  have hcheck := Detector.check_of_touches ht
  rw [← hdetector] at hcheck
  cases hn : (g.watch delay).isNews (l.sight s.site.moment.storage).stamp? with
  | true =>
    rw [hn] at hcheck
    obtain ⟨ok, hload⟩ := loaded_get_of_news (p := p) (d := d) hlow hcheck
    have hfound : Loaded f s true
        (.timed l ({ g.checked delay s.site.moment.now with pending := true }.watch delay)
          (a.add (l.sight s.site.moment.storage)), s.site.moment) ok
        (perform p.behaviour p.client (.plain f d) .get s) := by
      rw [Ledger.checked_of_looks hl]
      exact hload
    exact hfound.governs (.inr ⟨hl.2, Watch.isNews_iff_newer.mp hn⟩)
  | false =>
    rw [hn] at hcheck
    obtain ⟨hloads, hlow', hsite⟩ := get_of_no_news p.hearing p.client d hlow hcheck
    refine governs_of_same ?_ hloads ?_
    · rintro (hpending | ⟨-, hnewer⟩)
      · exact Bool.noConfusion (hpending.symm.trans hl.1)
      · exact Bool.noConfusion (hn.symm.trans (Watch.isNews_iff_newer.mpr hnewer))
    · rw [Ledger.checked_of_looks hl]
      exact ⟨hlow'.trans hl.1.symm, _, congrArg Site.detector hsite⟩

theorem governs_get (h : Tells f l delay g s) : Governs f l delay s.site.moment g s
    (perform p.behaviour p.client (.plain f d) .get s) := by
  by_cases hl : g.Looks delay s.site.moment.now
  · exact governs_get_of_look h hl
  -- without a look the detector has nothing to say, and only what is pending loads
  obtain ⟨hraised, a, hdetector⟩ := h
  cases hp : g.pending with
  | true =>
    obtain ⟨ok, hload⟩ := loaded_get (p := p) (d := d)
      (Control.check_plain_of_isRaised (hraised.trans hp) none)
    have hg : { g.checked delay s.site.moment.now with pending := true } = g :=
      Ledger.checked_of_pending hp
    rw [Site.watched, show s.scene.rest.detector = _ from hdetector, ← hg] at hload
    exact hload.governs (m := s.site.moment) (.inl hp)
  | false =>
    have hearly : ¬ g.lastCheck + delay < s.site.moment.now := fun h => hl ⟨hp, h⟩
    have ht : ¬ (Detector.timed l (g.watch delay) a).Touches s.site.moment :=
      fun ht => hearly (Detector.touches_iff.mp ht)
    have hcheck := Detector.check_of_not_touches ht
    rw [← hdetector] at hcheck
    obtain ⟨hloads, hlow, hsite⟩ :=
      get_of_no_news p.hearing p.client d (hraised.trans hp) hcheck
    refine governs_of_same ?_ hloads ?_
    · rintro (hpending | ⟨hlate, -⟩)
      · exact Bool.noConfusion (hpending.symm.trans hp)
      · exact hearly hlate
    · rw [Ledger.checked_of_not_looks hl]
      exact ⟨hlow.trans hp.symm, a, (congrArg Site.detector hsite).trans hdetector⟩

theorem tells_reload (h : Tells f l delay g s) :
    let m := s.site.moment
    let seen := (l.sight m.storage).stamp?
    let t := perform p.behaviour p.client (.plain f d) .reload s
    t.loads = s.loads + 1 ∧ Tells f l delay (g.next delay m.now seen .reload (outcome s t)) t := by
  intro m seen t
  obtain ⟨hraised, a, hdetector⟩ := h
  obtain ⟨ok, hload⟩ := loaded_reload (p := p) (f := f) (d := d) s
  refine ⟨hload.loads, ?_⟩
  rw [hload.outcome_eq, Ledger.next]
  rw [hraised, Site.watched, hdetector] at hload
  exact hload.tells

def Follows (f : Nat) (l : Locator) (delay : Nat) (g : Ledger) (s : Held ι (Site τ) α) : Prop :=
  ∃ l', (∀ shown, l'.showing shown = l.showing shown) ∧ Tells f l' delay g s

theorem Follows.tells_arrive (h : Follows f l delay g s) (o : Occasion) :
    Tells f (l.showing o.shown) delay g (s.setRest (o.arrive s.site)) := by
  obtain ⟨l', hl', hraised, a, hdetector⟩ := h
  refine ⟨hraised, a, ?_⟩
  have hfacing := Detector.facing_timed (l := l') (w := g.watch delay) (a := a)
    (v := ⟨.check, o.moment, o.shown⟩)
  rw [hl', ← hdetector] at hfacing
  exact hfacing

theorem follows_of_tells_showing {shown : Sight} (h : Tells f (l.showing shown) delay g s) :
    Follows f l delay g s :=
  ⟨_, fun _ => l.showing_showing _ _, h⟩

theorem Follows.call (h : Follows f l delay g s) (o : Occasion) :
    Follows f l delay
      (g.next delay o.moment.now (o.seen l) o.caller (outcome s (call p f d o s)))
      (call p f d o s) := by
  rcases o with ⟨caller, moment, shown⟩
  cases caller with
  | get => exact follows_of_tells_showing (governs_get (h.tells_arrive _)).tells
  | reload => exact follows_of_tells_showing (tells_reload (h.tells_arrive _)).2

theorem Follows.calls (h : Follows f l delay g s) (os : List Occasion) :
    Follows f l delay (g.after l delay (history p f d os s)) (calls p f d os s) := by
  induction os generalizing g s with
  | nil => exact h
  | cons o os ih => exact ih (h.call o)

/-- A get loads exactly where the ledger says so. -/
theorem Follows.loads_get (h : Follows f l delay g s) {o : Occasion} (ho : o.caller = .get) :
    (g.Loads delay o.moment.now (o.seen l) → (Held.call p f d o s).loads = s.loads + 1) ∧
    (¬ g.Loads delay o.moment.now (o.seen l) → (Held.call p f d o s).loads = s.loads) := by
  rcases o with ⟨caller, moment, shown⟩
  obtain rfl : caller = .get := ho
  have hgoverns := governs_get (p := p) (d := d) (h.tells_arrive ⟨.get, moment, shown⟩)
  exact ⟨hgoverns.loads, hgoverns.spares⟩

theorem Follows.loads_reload (h : Follows f l delay g s) {o : Occasion} (ho : o.caller = .reload) :
    (Held.call p f d o s).loads = s.loads + 1 := by
  rcases o with ⟨caller, moment, shown⟩
  obtain rfl : caller = .reload := ho
  exact (tells_reload (p := p) (d := d) (h.tells_arrive ⟨.reload, moment, shown⟩)).1

theorem Follows.quiet (h : Follows f l delay g s) (hp : g.pending = false) {vs : List Occasion}
    (hv : ∀ v ∈ vs, v.caller = .get → ¬ Newer g.baseline (v.seen l)) :
    ∃ g', Follows f l delay g' (Held.calls p f d vs s) ∧ g'.pending = false ∧
      g'.baseline = g.baseline := by
  induction vs generalizing g s with
  | nil => exact ⟨g, h, hp, rfl⟩
  | cons v vs ih =>
    -- no get among the calls loads, and a reload that loads leaves the baseline where it is
    have hnone : v.caller = .get → outcome s (Held.call p f d v s) = none := by
      intro ho
      refine outcome_eq_none ((h.loads_get ho).2 ?_)
      rintro (hpending | ⟨-, hnewer⟩)
      · exact Bool.noConfusion (hpending.symm.trans hp)
      · exact hv v List.mem_cons_self ho hnewer
    obtain ⟨hp', hb'⟩ := Ledger.next_of_quiet delay v.moment.now (v.seen l) hp hnone
    obtain ⟨g', hg', hpending, hbaseline⟩ := ih (h.call v) hp' fun x hx => by
      rw [hb']
      exact hv x (List.mem_cons_of_mem v hx)
    exact ⟨g', hg', hpending, hbaseline.trans hb'⟩

theorem tells_build {scene : Scene ι (Site τ)} {w : Watch}
    (hd : scene.rest.detector = .timed l w a)
    (hb : build p.behaviour p.client (.plain f d) true scene = .ok s) :
    Tells f l w.delay (.start (l.sight scene.rest.storage).stamp? w.lastLook) s := by
  unfold build at hb
  split at hb
  next x r hl =>
    obtain rfl := Except.ok.inj hb
    obtain rfl : _ = r := congrArg Prod.snd hl
    refine ⟨if_pos rfl, a.add (l.sight scene.rest.storage), ?_⟩
    have hdetector : scene.rest.detector.record scene.rest.moment =
        .timed l ((Ledger.start (l.sight scene.rest.storage).stamp? w.lastLook).watch w.delay)
          (a.add (l.sight scene.rest.storage)) := by
      rw [hd]
      rfl
    exact hdetector
  next => contradiction

theorem calls_append (vs : List Occasion) (v : Occasion) (s : Held ι (Site τ) α) :
    calls p f d (vs ++ [v]) s = call p f d v (calls p f d vs s) := by
  simp [calls, call, run]

/-- After a get that has loaded no other one does, until it sees something newer than what the first
one saw. -/
theorem Follows.spared (h : Follows f l delay g s) {o : Occasion} (ho : o.caller = .get)
    (hok : outcome s (Held.call p f d o s) = some true) {vs : List Occasion} {v : Occasion}
    (hv : ∀ x ∈ vs ++ [v], x.caller = .get → ¬ Newer (o.seen l) (x.seen l))
    (hget : v.caller = .get) :
    (Held.calls p f d (vs ++ [v]) (Held.call p f d o s)).loads =
      (Held.calls p f d vs (Held.call p f d o s)).loads := by
  have hcall := h.call (p := p) (d := d) o
  rw [hok, ho] at hcall
  have hvs : ∀ x ∈ vs, x.caller = .get → ¬ Newer (o.seen l) (x.seen l) :=
    fun x hx => hv x (List.mem_append_left [v] hx)
  obtain ⟨g', hg', hp, hb⟩ := hcall.quiet (p := p) (d := d) rfl hvs
  rw [calls_append]
  refine (hg'.loads_get hget).2 ?_
  rintro (hpending | ⟨-, hnewer⟩)
  · exact Bool.noConfusion (hpending.symm.trans hp)
  · rw [hb] at hnewer
    exact hv v (by simp) hget hnewer

/-- Any calls of a configuration, whatever the clock shows, its resource comes to and its loader
does. A get loads where the ledger says that a reload is pending, or where more than the delay has
passed since the last look and the date is later than the baseline. What the ledger says is what the
control and the detector hold. After a get that has loaded, no other get loads before it sees a
date later than the one that was seen then. -/
theorem timed_run (p : Company ι τ α) (f d : Nat) {scene : Scene ι (Site τ)} {l : Locator}
    {w : Watch} {a : Accesses} (hd : scene.rest.detector = .timed l w a) {s₀ : Held ι (Site τ) α}
    (hb : build p.behaviour p.client (.plain f d) true scene = .ok s₀) (os : List Occasion)
    (o : Occasion) :
    let s := calls p f d os s₀
    let t := call p f d o s
    let g := (Ledger.start (l.sight scene.rest.storage).stamp? w.lastLook).after l w.delay
      (history p f d os s₀)
    s.scene.isRaised f = g.pending ∧ s.site.detector.baseline? = g.baseline ∧
      s.site.detector.lastLook? = some g.lastCheck ∧
    (o.caller = .get →
      (g.Loads w.delay o.moment.now (o.seen l) → t.loads = s.loads + 1) ∧
      (¬ g.Loads w.delay o.moment.now (o.seen l) → t.loads = s.loads)) ∧
    (o.caller = .reload → t.loads = s.loads + 1) ∧
    (o.caller = .get → outcome s t = some true → ∀ vs v,
      (∀ x ∈ vs ++ [v], x.caller = .get → ¬ Newer (o.seen l) (x.seen l)) → v.caller = .get →
        (calls p f d (vs ++ [v]) t).loads = (calls p f d vs t).loads) := by
  intro s t g
  have hfirst : Follows f l w.delay (.start (l.sight scene.rest.storage).stamp? w.lastLook) s₀ :=
    ⟨l, fun _ => rfl, tells_build hd hb⟩
  have hs : Follows f l w.delay g s := hfirst.calls os
  obtain ⟨l', -, hraised, a', hdetector⟩ := id hs
  refine ⟨hraised, ?_, ?_, fun ho => hs.loads_get ho, fun ho => hs.loads_reload ho, ?_⟩
  · rw [hdetector]
    rfl
  · rw [hdetector]
    rfl
  · exact fun ho hok vs v hv hget => hs.spared ho hok hv hget

def steady : Company Unit Unit Nat where
  load r := (.ok r.now, ())
  onChange _ _ := ()
  onError _ _ := ()
  hear _ _ _ := ()

def dated (n : Int) : Site Unit where
  detector := .watching (.standIn ⟨.ok true, .ok (.dated n)⟩) 10 0
  now := 0
  storage := (flagOnly false).storage
  own := ()

def getAt (now : Nat) (n : Int) : Occasion :=
  ⟨.get, ⟨now, (flagOnly false).storage⟩, ⟨.ok true, .ok (.dated n)⟩⟩

theorem build_steady :
    build steady.behaviour steady.client (.plain 0 0) true (.fresh (dated 3)) = .ok
      ⟨.first 0, (Control.plain 0 0).resetFirst steady.behaviour.quiet (.fresh (dated 3)), []⟩ :=
  rfl

theorem detector_fresh (n : Int) : (Scene.fresh (dated n) : Scene Unit (Site Unit)).rest.detector =
    .timed (.standIn ⟨.ok true, .ok (.dated n)⟩) (.start 10 0) ⟨0, 0⟩ := rfl

/-- The first get comes too early for the new date, the second one loads, and no later one does
while the date is not changed again. -/
theorem timed_run_steady :
    ∃ s₀, build steady.behaviour steady.client (.plain 0 0) true (.fresh (dated 3)) = .ok s₀ ∧
      (call steady 0 0 (getAt 5 7) s₀).loads = s₀.loads ∧
      let s := call steady 0 0 (getAt 5 7) s₀
      let t := call steady 0 0 (getAt 20 7) s
      t.loads = s.loads + 1 ∧ ∀ (nows : List Nat) now,
        (calls steady 0 0 (nows.map (getAt · 7) ++ [getAt now 7]) t).loads =
          (calls steady 0 0 (nows.map (getAt · 7)) t).loads := by
  refine ⟨_, build_steady, ?_, ?_⟩
  · obtain ⟨-, -, -, hget, -⟩ :=
      timed_run steady 0 0 (detector_fresh 3) build_steady [] (getAt 5 7)
    refine (hget rfl).2 ?_
    rintro (hpending | ⟨hlate, -⟩)
    · contradiction
    · exact absurd hlate (by decide)
  · obtain ⟨-, -, -, hget, -, hspared⟩ :=
      timed_run steady 0 0 (detector_fresh 3) build_steady [getAt 5 7] (getAt 20 7)
    refine ⟨(hget rfl).1 (.inr ⟨by decide, .dated 7, rfl, ?_⟩), fun nows now => ?_⟩
    · rintro b hb
      obtain rfl := Option.some.inj hb
      decide
    · refine hspared rfl (by decide) _ _ (fun x hx _ => ?_) rfl
      have hseen : x.seen (.standIn ⟨.ok true, .ok (.dated 3)⟩) = some (.dated 7) := by
        simp only [List.mem_append, List.mem_map, List.mem_singleton] at hx
        rcases hx with ⟨n, -, rfl⟩ | rfl <;> rfl
      rintro ⟨t, ht, hnewer⟩
      obtain rfl := Option.some.inj (hseen.symm.trans ht)
      exact absurd (hnewer (.dated 7) rfl) (by decide)

end Held

end LiveConfig
