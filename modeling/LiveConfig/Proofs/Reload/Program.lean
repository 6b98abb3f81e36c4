import LiveConfig.Proofs.Reload.Kept
import LiveConfig.Reload.Listeners

/-! Programs around controls. Users, listeners and controls from elsewhere work with a family of
controls, one thing after the other, and listeners do so while they are being notified; detectors
and everything else that they do are arbitrary. A journal keeps what happens to the controls. -/

namespace LiveConfig.Control

inductive Operation (κ ι : Type) where
  | check (k : κ) (data : Option Payload)
  | reset (k : κ)
  | resetFirst (k : κ)
  | isPending (k : κ)
  | listen (k : κ) (l : ι)
  | unlisten (k : κ) (id : Nat)

inductive Reply where
  | done
  | truth (b : Bool)
  | number (n : Nat)

/-- One thing after the other: operations on controls and deeds on the rest of the program, where
each may depend on what came before. -/
inductive Conduct (κ ι σ : Type) where
  | done
  | call (op : Operation κ ι) (next : Reply → Conduct κ ι σ)
  | act (deed : σ → σ) (next : σ → Conduct κ ι σ)

inductive Event (ι : Type) where
  | checked (flag : Nat) (wasRaised : Bool)
  | answered (flag : Nat) (due : Bool)
  | reset (flag : Nat) (wasRaised : Bool)
  | resetFirst (flag : Nat) (wasRaised : Bool)
  | listened (flag id : Nat) (l : ι)
  | unlistened (flag id : Nat) (found : Bool)
  | asked (detector : Nat) (changed : Bool)
  | recorded (detector : Nat)
  | raised (flag : Nat) (wasRaised : Bool)
  | lowered (flag : Nat) (wasRaised : Bool)
  | announced (flag : Nat) (heard : List ι)
  | told (l : ι)

structure Scene (ι σ : Type) where
  isRaised : Nat → Bool
  listeners : Nat → Listeners ι
  rest : σ
  journal : List (Event ι)

structure Manner (κ ι σ : Type) where
  check : Option Payload → σ → Conduct κ ι σ
  reset : σ → Conduct κ ι σ
  resetFirst : σ → Conduct κ ι σ
  answer : σ → Bool
  isPending : σ → Bool

structure Behaviour (κ ι σ : Type) where
  detect : Nat → σ → Bool × σ
  record : Nat → σ → σ
  hear : ι → Control → Option Payload → σ → Conduct κ ι σ
  foreign : Nat → Manner κ ι σ

variable {κ ι σ : Type}

namespace Scene

def fresh (r : σ) : Scene ι σ := ⟨fun _ => false, fun _ => .empty, r, []⟩

def note (e : Event ι) (s : Scene ι σ) : Scene ι σ := { s with journal := s.journal ++ [e] }

def setRest (r : σ) (s : Scene ι σ) : Scene ι σ := { s with rest := r }

def setFlag (f : Nat) (b : Bool) (s : Scene ι σ) : Scene ι σ :=
  { s with isRaised := fun g => if g = f then b else s.isRaised g }

def setListeners (f : Nat) (ls : Listeners ι) (s : Scene ι σ) : Scene ι σ :=
  { s with listeners := fun g => if g = f then ls else s.listeners g }

variable (s : Scene ι σ)

@[simp] theorem isRaised_note (e : Event ι) : (s.note e).isRaised = s.isRaised := rfl
@[simp] theorem listeners_note (e : Event ι) : (s.note e).listeners = s.listeners := rfl
@[simp] theorem rest_note (e : Event ι) : (s.note e).rest = s.rest := rfl
@[simp] theorem journal_note (e : Event ι) : (s.note e).journal = s.journal ++ [e] := rfl
@[simp] theorem isRaised_setRest (r : σ) : (s.setRest r).isRaised = s.isRaised := rfl
@[simp] theorem journal_setRest (r : σ) : (s.setRest r).journal = s.journal := rfl

@[simp] theorem listeners_setFlag (f : Nat) (b : Bool) :
    (s.setFlag f b).listeners = s.listeners := rfl

@[simp] theorem journal_setFlag (f : Nat) (b : Bool) : (s.setFlag f b).journal = s.journal := rfl

@[simp] theorem isRaised_setFlag (f g : Nat) (b : Bool) :
    (s.setFlag f b).isRaised g = if g = f then b else s.isRaised g := rfl

@[simp] theorem isRaised_setListeners (f : Nat) (ls : Listeners ι) :
    (s.setListeners f ls).isRaised = s.isRaised := rfl

@[simp] theorem journal_setListeners (f : Nat) (ls : Listeners ι) :
    (s.setListeners f ls).journal = s.journal := rfl

/-- From a scene to a later one the journal grows by events that lead, in the sense of `T`, from
the flag as it was to the flag as it is. -/
def Leads (T : Bool → List (Event ι) → Bool → Prop) (f : Nat) (s t : Scene ι σ) : Prop :=
  ∃ es, t.journal = s.journal ++ es ∧ T (s.isRaised f) es (t.isRaised f)

variable {s} {t u : Scene ι σ} {f : Nat} {T T' T'' : Bool → List (Event ι) → Bool → Prop}

theorem Leads.nil (h : T (s.isRaised f) [] (s.isRaised f)) : Leads T f s s :=
  ⟨[], (List.append_nil _).symm, h⟩

theorem Leads.single {e : Event ι} (hj : t.journal = s.journal ++ [e])
    (h : T (s.isRaised f) [e] (t.isRaised f)) : Leads T f s t := ⟨[e], hj, h⟩

theorem Leads.append (hT : ∀ {a b c es es'}, T a es b → T' b es' c → T'' a (es ++ es') c)
    (h : Leads T f s t) (h' : Leads T' f t u) : Leads T'' f s u := by
  obtain ⟨es, hj, hes⟩ := h
  obtain ⟨es', hj', hes'⟩ := h'
  exact ⟨es ++ es', by rw [hj', hj, List.append_assoc], hT hes hes'⟩

end Scene

namespace Behaviour

variable (b : Behaviour κ ι σ) (act : Conduct κ ι σ → Scene ι σ → Scene ι σ)

def tell (c : Control) (data : Option Payload) (l : ι) (s : Scene ι σ) : Scene ι σ :=
  act (b.hear l c data s.rest) (s.note (.told l))

def wiring : Wiring (Scene ι σ) where
  isRaised f s := s.isRaised f
  setFlag f v s :=
    (s.setFlag f v).note (if v then .raised f (s.isRaised f) else .lowered f (s.isRaised f))
  detect d s :=
    let (changed, r) := b.detect d s.rest
    (changed, (s.setRest r).note (.asked d changed))
  record d s := (s.setRest (b.record d s.rest)).note (.recorded d)
  notify c data s :=
    let ls := s.listeners c.flag
    ls.fire (b.tell act c data) (s.note (.announced c.flag ls.all))
  foreign n :=
    let m := b.foreign n
    { check data s :=
        let s := act (m.check data s.rest) s
        (m.answer s.rest, s)
      reset s := act (m.reset s.rest) s
      resetFirst s := act (m.resetFirst s.rest) s
      isPending s := m.isPending s.rest }

variable (f d : Nat) (c : Control) (data : Option Payload) (s : Scene ι σ)

@[simp] theorem isRaised_wiring : (b.wiring act).isRaised f s = s.isRaised f := rfl

@[simp] theorem setFlag_true_wiring : (b.wiring act).setFlag f true s =
    (s.setFlag f true).note (.raised f (s.isRaised f)) := rfl

@[simp] theorem setFlag_false_wiring : (b.wiring act).setFlag f false s =
    (s.setFlag f false).note (.lowered f (s.isRaised f)) := rfl

@[simp] theorem detect_wiring : (b.wiring act).detect d s =
    ((b.detect d s.rest).1,
      (s.setRest (b.detect d s.rest).2).note (.asked d (b.detect d s.rest).1)) := rfl

@[simp] theorem record_wiring : (b.wiring act).record d s =
    (s.setRest (b.record d s.rest)).note (.recorded d) := rfl

@[simp] theorem notify_wiring : (b.wiring act).notify c data s =
    (s.listeners c.flag).fire (b.tell act c data)
      (s.note (.announced c.flag (s.listeners c.flag).all)) := rfl

end Behaviour

variable (controls : κ → Control)

def perform (w : Wiring (Scene ι σ)) (op : Operation κ ι) (s : Scene ι σ) : Reply × Scene ι σ :=
  match op with
  | .check k data =>
    let c := controls k
    let (due, s) := c.check w data (s.note (.checked c.flag (c.isPending w s)))
    (.truth due, s.note (.answered c.flag due))
  | .reset k =>
    let c := controls k
    (.done, c.reset w (s.note (.reset c.flag (c.isPending w s))))
  | .resetFirst k =>
    let c := controls k
    (.done, c.resetFirst w (s.note (.resetFirst c.flag (c.isPending w s))))
  | .isPending k => (.truth ((controls k).isPending w s), s)
  | .listen k l =>
    let f := (controls k).flag
    let (id, ls) := (s.listeners f).add l
    (.number id, (s.setListeners f ls).note (.listened f id l))
  | .unlisten k id =>
    let f := (controls k).flag
    let (found, ls) := (s.listeners f).remove id
    (.truth found, (s.setListeners f ls).note (.unlistened f id found))

def follow (w : Wiring (Scene ι σ)) : Conduct κ ι σ → Scene ι σ → Scene ι σ
  | .done, s => s
  | .call op next, s =>
    let (r, s) := perform controls w op s
    follow w (next r) s
  | .act deed next, s => follow w (next (deed s.rest)) (s.setRest (deed s.rest))

/-- Runs a conduct, and while listeners are notified theirs. Conducts within conducts go down to a
depth, below which nobody does anything. -/
def run (b : Behaviour κ ι σ) : Nat → Conduct κ ι σ → Scene ι σ → Scene ι σ
  | 0, _, s => s
  | depth + 1, plan, s => follow controls (b.wiring (run b depth)) plan s

def Conduct.All (P : Operation κ ι → Prop) : Conduct κ ι σ → Prop
  | .done => True
  | .call op next => P op ∧ ∀ r, (next r).All P
  | .act _ next => ∀ r, (next r).All P

theorem Conduct.all_of_forall {P : Operation κ ι → Prop} (h : ∀ op, P op) :
    ∀ plan : Conduct κ ι σ, plan.All P
  | .done => trivial
  | .call op next => ⟨h op, fun r => all_of_forall h (next r)⟩
  | .act _ next => fun r => all_of_forall h (next r)

variable {controls} {b : Behaviour κ ι σ} {P : Operation κ ι → Prop}
  {R : Scene ι σ → Scene ι σ → Prop}

/-- What every operation with `P` keeps if runs one depth down do, whole runs keep. -/
theorem run_keeps (refl : ∀ s, R s s) (trans : ∀ {s t u}, R s t → R t u → R s u)
    (rest : ∀ r s, R s (s.setRest r))
    (step : ∀ depth, (∀ plan, plan.All P → ∀ s, R s (run controls b depth plan s)) →
      ∀ op, P op → ∀ s, R s (perform controls (b.wiring (run controls b depth)) op s).2)
    (depth : Nat) {plan : Conduct κ ι σ} (hp : plan.All P) (s : Scene ι σ) :
    R s (run controls b depth plan s) := by
  induction depth generalizing plan s with
  | zero => exact refl s
  | succ depth ih =>
    -- Inside one depth the conduct itself gets shorter.
    unfold run
    induction plan generalizing s with
    | done => exact refl s
    | call op next ihp =>
      exact trans (step depth (fun _ h t => ih h t) op hp.1 s) (ihp _ (hp.2 _) _)
    | act deed next ihp => exact trans (rest _ s) (ihp _ (hp _) _)

theorem run_keeps_all (refl : ∀ s, R s s) (trans : ∀ {s t u}, R s t → R t u → R s u)
    (rest : ∀ r s, R s (s.setRest r))
    (step : ∀ depth, (∀ plan s, R s (run controls b depth plan s)) →
      ∀ op s, R s (perform controls (b.wiring (run controls b depth)) op s).2)
    (depth : Nat) (plan : Conduct κ ι σ) (s : Scene ι σ) : R s (run controls b depth plan s) := by
  have any (plan : Conduct κ ι σ) : plan.All fun _ => True :=
    Conduct.all_of_forall (fun _ => trivial) plan
  apply run_keeps refl trans rest _ depth (any plan) s
  intro depth ih op _ s
  exact step depth (fun plan t => ih plan (any plan) t) op s

end LiveConfig.Control
