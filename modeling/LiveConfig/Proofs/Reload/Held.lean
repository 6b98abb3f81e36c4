import LiveConfig.Proofs.Reload.Quiet
import LiveConfig.Reload.Holder

/-! A held configuration in a program whose listeners and callbacks do not call back. What the
loader and the callbacks see, and what the calls answer, is noted in order. -/

namespace LiveConfig

open Control (Scene Behaviour)

inductive Caller where
  | get
  | reload
  deriving DecidableEq

inductive Notice (α : Type) where
  | loaded (caller : Caller) (result : Except ConfigError α)
  | changed (c : Change α)
  | failed (e : ConfigError)
  | answered (result : Except ConfigError α)
  | counted (epoch : Nat)

namespace Notice

variable {α : Type}

def value? : Notice α → Option α
  | loaded _ (.ok x) => some x
  | _ => none

def caller? : Notice α → Option Caller
  | loaded caller (.ok _) => some caller
  | _ => none

def change? : Notice α → Option (Change α)
  | changed c => some c
  | _ => none

def isLoad : Notice α → Bool
  | loaded .. => true
  | _ => false

def isFailure : Notice α → Bool
  | loaded _ (.error _) => true
  | _ => false

def isError : Notice α → Bool
  | failed _ => true
  | _ => false

end Notice

/-- A loader and the callbacks. They may change everything but the configuration and the
controls. -/
structure Client (σ α : Type) where
  load : σ → Except ConfigError α × σ
  onChange : Change α → σ → σ
  onError : ConfigError → σ → σ

structure Held (ι σ α : Type) where
  holder : Holder α
  scene : Scene ι σ
  notices : List (Notice α)

inductive Use (σ : Type) where
  | get
  | reload
  | current
  | read
  | epoch
  | change (deed : σ → σ)

def Caller.use {σ : Type} : Caller → Use σ
  | get => .get
  | reload => .reload

namespace Use

variable {σ : Type}

def isGet : Use σ → Bool
  | get => true
  | _ => false

def isLoading : Use σ → Bool
  | get | reload => true
  | _ => false

end Use

namespace Held

variable {ι σ α : Type}

def values (s : Held ι σ α) : List α := s.notices.filterMap Notice.value?
def changes (s : Held ι σ α) : List (Change α) := s.notices.filterMap Notice.change?
def callers (s : Held ι σ α) : List Caller := s.notices.filterMap Notice.caller?
def loads (s : Held ι σ α) : Nat := s.notices.countP Notice.isLoad
def failures (s : Held ι σ α) : Nat := s.notices.countP Notice.isFailure
def errors (s : Held ι σ α) : Nat := s.notices.countP Notice.isError

theorem loads_of_notices {s t : Held ι σ α} {es : List (Notice α)}
    (h : t.notices = s.notices ++ es) : t.loads = s.loads + es.countP Notice.isLoad := by
  rw [loads, loads, h, List.countP_append]

def note (n : Notice α) (s : Held ι σ α) : Held ι σ α := { s with notices := s.notices ++ [n] }

def setRest (r : σ) (s : Held ι σ α) : Held ι σ α := { s with scene := s.scene.setRest r }

section Rules

variable (b : Behaviour Empty ι σ) (k : Client σ α) (c : Control)

def pending (s : Held ι σ α) : Bool := c.isPending b.quiet s.scene

def wiring (caller : Caller) : Holder.Wiring (Held ι σ α) α where
  holder s := s.holder
  setHolder h s := { s with holder := h }
  load s :=
    let (result, r) := k.load s.scene.rest
    (result, (s.setRest r).note (.loaded caller result))
  onChange ch s := (s.setRest (k.onChange ch s.scene.rest)).note (.changed ch)
  onError e s := (s.setRest (k.onError e s.scene.rest)).note (.failed e)
  check s :=
    let (due, scene) := c.check b.quiet none s.scene
    (due, { s with scene })
  isPending s := s.pending b c
  reset s := { s with scene := c.reset b.quiet s.scene }

def build (made : Bool) (scene : Scene ι σ) : Except ConfigError (Held ι σ α) :=
  match k.load scene.rest with
  | (.ok x, r) =>
    let scene := scene.setRest r
    .ok ⟨.first x, if made then c.resetFirst b.quiet scene else scene, []⟩
  | (.error e, _) => .error e

def perform (u : Use σ) (s : Held ι σ α) : Held ι σ α :=
  match u with
  | .get =>
    let (x, s) := Holder.get (wiring b k c .get) s
    s.note (.answered (.ok x))
  | .reload =>
    let (result, s) := Holder.reload (wiring b k c .reload) s
    s.note (.answered result)
  | .current | .read => s.note (.answered (.ok s.holder.value))
  | .epoch => s.note (.counted s.holder.epoch)
  | .change deed => s.setRest (deed s.scene.rest)

def beforeReset (caller : Caller) (s : Held ι σ α) : Held ι σ α :=
  match caller with
  | .get => (Holder.load (wiring b k c .get) .detected ((wiring b k c .get).check s).2).2
  | .reload => (Holder.load (wiring b k c .reload) .manual s).2

def run (us : List (Use σ)) (s : Held ι σ α) : Held ι σ α :=
  us.foldl (fun s u => perform b k c u s) s

end Rules

variable {b : Behaviour Empty ι σ} {k : Client σ α} {c : Control} {s : Held ι σ α}
  {scene : Scene ι σ} {r : σ} {e : ConfigError} {x : α}

/-! What a get and a reload do, case by case. -/

theorem get_of_same (h : c.check b.quiet none s.scene = (false, scene)) :
    perform b k c .get s =
      ⟨s.holder, scene, s.notices ++ [.answered (.ok s.holder.value)]⟩ := by
  simp [perform, Holder.get, wiring, h, note]

theorem isPending_of_due (hc : c.isOwn = true)
    (h : c.check b.quiet none s.scene = (true, scene)) : c.isPending b.quiet scene = true := by
  have hcheck := Control.isPending_check (b := b) (s := s.scene) hc none (by rw [h])
  rwa [h] at hcheck

theorem get_of_error (hc : c.isOwn = true) (h : c.check b.quiet none s.scene = (true, scene))
    (hl : k.load scene.rest = (.error e, r)) :
    perform b k c .get s = ⟨s.holder, scene.setRest (k.onError e r),
      s.notices ++ [.loaded .get (.error e), .failed e, .answered (.ok s.holder.value)]⟩ := by
  have hp : c.isPending b.quiet scene = true := isPending_of_due hc h
  simp [perform, Holder.get, Holder.load, wiring, pending, h, hp, hl, note, setRest, Scene.setRest]

theorem get_of_ok (hc : c.isOwn = true) (h : c.check b.quiet none s.scene = (true, scene))
    (hl : k.load scene.rest = (.ok x, r)) :
    perform b k c .get s = ⟨s.holder.put x,
      c.reset b.quiet (scene.setRest (k.onChange (s.holder.change x .detected) r)),
      s.notices ++ [.loaded .get (.ok x), .changed (s.holder.change x .detected),
        .answered (.ok x)]⟩ := by
  have hp : c.isPending b.quiet scene = true := isPending_of_due hc h
  simp [perform, Holder.get, Holder.load, wiring, pending, h, hp, hl, note, setRest, Scene.setRest]

theorem loads_get_of_due (hc : c.isOwn = true)
    (h : c.check b.quiet none s.scene = (true, scene)) :
    (perform b k c .get s).loads = s.loads + 1 := by
  rcases hl : k.load scene.rest with ⟨e | x, r⟩
  · have hget := get_of_error hc h hl
    exact loads_of_notices (congrArg notices hget)
  · have hget := get_of_ok hc h hl
    exact loads_of_notices (congrArg notices hget)

theorem reload_of_error (hl : k.load s.scene.rest = (.error e, r)) :
    perform b k c .reload s = ⟨s.holder, s.scene.setRest (k.onError e r),
      s.notices ++ [.loaded .reload (.error e), .failed e, .answered (.error e)]⟩ := by
  simp [perform, Holder.reload, Holder.load, wiring, hl, note, setRest, Scene.setRest]

theorem reload_of_ok (hl : k.load s.scene.rest = (.ok x, r)) :
    perform b k c .reload s = ⟨s.holder.put x,
      c.reset b.quiet (s.scene.setRest (k.onChange (s.holder.change x .manual) r)),
      s.notices ++ [.loaded .reload (.ok x), .changed (s.holder.change x .manual),
        .answered (.ok x)]⟩ := by
  simp [perform, Holder.reload, Holder.load, wiring, hl, note, setRest, Scene.setRest]

theorem scene_of_success (hc : c.isOwn = true) (caller : Caller)
    (h : (perform b k c caller.use s).holder.epoch ≠ s.holder.epoch) :
    (perform b k c caller.use s).scene = c.reset b.quiet (beforeReset b k c caller s).scene ∧
      (beforeReset b k c caller s).pending b c =
        (caller.use (σ := σ).isGet || s.pending b c) := by
  cases caller with
  | get =>
    rw [Caller.use] at h ⊢
    rcases hcheck : c.check b.quiet none s.scene with ⟨due, scene⟩
    cases due with
    | false =>
      rw [get_of_same hcheck] at h
      contradiction
    | true =>
      rcases hl : k.load scene.rest with ⟨e | x, r⟩
      · rw [get_of_error hc hcheck hl] at h
        contradiction
      · have hp := isPending_of_due hc hcheck
        rw [get_of_ok hc hcheck hl]
        have hbefore : (beforeReset b k c .get s).scene =
            scene.setRest (k.onChange (s.holder.change x .detected) r) := by
          simp [beforeReset, Holder.load, wiring, hcheck, hl, note, setRest, Scene.setRest]
        rw [pending, hbefore, Control.isPending_setRest hc, hp]
        exact ⟨rfl, rfl⟩
  | reload =>
    rw [Caller.use] at h ⊢
    rcases hl : k.load s.scene.rest with ⟨e | x, r⟩
    · rw [reload_of_error hl] at h
      contradiction
    · rw [reload_of_ok hl]
      have hbefore : (beforeReset b k c .reload s).scene =
          s.scene.setRest (k.onChange (s.holder.change x .manual) r) := by
        simp [beforeReset, Holder.load, wiring, hl, note, setRest, Scene.setRest]
      rw [pending, hbefore, Control.isPending_setRest hc]
      exact ⟨rfl, rfl⟩

/-- One use of a configuration: the value held and whether a reload is pending, before and after
it, with what is noted. -/
inductive Step : Holder α → Bool → Use σ → List (Notice α) → Holder α → Bool → Prop
  | same (h : Holder α) (a : Bool) : Step h false .get [.answered (.ok h.value)] h a
  | getFailed (h : Holder α) (a : Bool) (e : ConfigError) : Step h a .get
      [.loaded .get (.error e), .failed e, .answered (.ok h.value)] h true
  | getLoaded (h : Holder α) (a : Bool) (x : α) : Step h a .get
      [.loaded .get (.ok x), .changed (h.change x .detected), .answered (.ok x)] (h.put x) false
  | reloadFailed (h : Holder α) (a : Bool) (e : ConfigError) : Step h a .reload
      [.loaded .reload (.error e), .failed e, .answered (.error e)] h a
  | reloadLoaded (h : Holder α) (a : Bool) (x : α) : Step h a .reload
      [.loaded .reload (.ok x), .changed (h.change x .manual), .answered (.ok x)] (h.put x) false
  | current (h : Holder α) (a : Bool) : Step h a .current [.answered (.ok h.value)] h a
  | read (h : Holder α) (a : Bool) : Step h a .read [.answered (.ok h.value)] h a
  | epoch (h : Holder α) (a : Bool) : Step h a .epoch [.counted h.epoch] h a
  | change (h : Holder α) (a : Bool) (deed : σ → σ) : Step h a (.change deed) [] h a

theorem step_perform (hc : c.isOwn = true) (u : Use σ) (s : Held ι σ α) :
    ∃ es, (perform b k c u s).notices = s.notices ++ es ∧
      Step s.holder (s.pending b c) u es (perform b k c u s).holder
        ((perform b k c u s).pending b c) := by
  cases u with
  | get =>
    rcases hcheck : c.check b.quiet none s.scene with ⟨due, scene⟩
    cases due with
    | false =>
      rw [get_of_same hcheck]
      refine ⟨_, rfl, ?_⟩
      cases hp : s.pending b c with
      | false => exact .same _ _
      | true =>
        -- A pending control would have answered that it is.
        have hdue := Control.check_of_isPending hc hp none
        rw [hdue] at hcheck
        simp at hcheck
    | true =>
      -- The check leaves a reload pending, and the load decides whether it stays so.
      rcases hl : k.load scene.rest with ⟨e | x, r⟩
      · have hp : c.isPending b.quiet scene = true := isPending_of_due hc hcheck
        rw [get_of_error hc hcheck hl]
        refine ⟨_, rfl, ?_⟩
        rw [pending, pending, Control.isPending_setRest hc, hp]
        exact .getFailed _ _ e
      · rw [get_of_ok hc hcheck hl]
        refine ⟨_, rfl, ?_⟩
        rw [pending, pending, Control.isPending_reset hc]
        exact .getLoaded _ _ x
  | reload =>
    rcases hl : k.load s.scene.rest with ⟨e | x, r⟩
    · rw [reload_of_error hl]
      refine ⟨_, rfl, ?_⟩
      rw [pending, pending, Control.isPending_setRest hc]
      exact .reloadFailed _ _ e
    · rw [reload_of_ok hl]
      refine ⟨_, rfl, ?_⟩
      rw [pending, pending, Control.isPending_reset hc]
      exact .reloadLoaded _ _ x
  | current => exact ⟨_, rfl, .current _ _⟩
  | read => exact ⟨_, rfl, .read _ _⟩
  | epoch => exact ⟨_, rfl, .epoch _ _⟩
  | change deed =>
    refine ⟨[], (List.append_nil _).symm, ?_⟩
    rw [pending, pending, perform, setRest, Control.isPending_setRest hc]
    exact .change _ _ deed

end Held

end LiveConfig
