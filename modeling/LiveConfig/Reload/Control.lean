/-! Controls: a detector with a flag that stays raised until the reload is done, and combinations
of controls with a flag of their own. The rules work in the state of any program that is connected
to them. -/

namespace LiveConfig

inductive Payload where
  | text (s : String)
  | number (n : Int)
  deriving DecidableEq, Repr

/-- Flags, detectors and controls from elsewhere are known by number. -/
inductive Control where
  | plain (flag detector : Nat)
  | combined (flag : Nat) (children : List Control)
  | foreign (flag number : Nat)

namespace Control

def flag : Control → Nat
  | plain f _ => f
  | combined f _ => f
  | foreign f _ => f

structure Foreign (σ : Type) where
  check : Option Payload → σ → Bool × σ
  reset : σ → σ
  resetFirst : σ → σ
  isPending : σ → Bool

/-- How the controls are connected with the program around them. -/
structure Wiring (σ : Type) where
  isRaised : Nat → σ → Bool
  setFlag : Nat → Bool → σ → σ
  detect : Nat → σ → Bool × σ
  record : Nat → σ → σ
  notify : Control → Option Payload → σ → σ
  foreign : Nat → Foreign σ

variable {σ : Type}

def isPending (w : Wiring σ) (c : Control) (s : σ) : Bool :=
  match c with
  | plain f _ => w.isRaised f s
  | combined f _ => w.isRaised f s
  | foreign _ n => (w.foreign n).isPending s

@[simp] theorem flag_plain (f d : Nat) : (plain f d).flag = f := rfl
@[simp] theorem flag_combined (f : Nat) (cs : List Control) : (combined f cs).flag = f := rfl

@[simp] theorem isPending_plain (w : Wiring σ) (f d : Nat) (s : σ) :
    (plain f d).isPending w s = w.isRaised f s := rfl

@[simp] theorem isPending_combined (w : Wiring σ) (f : Nat) (cs : List Control) (s : σ) :
    (combined f cs).isPending w s = w.isRaised f s := rfl

mutual

/-- Whether a reload is pending. Where none is yet, the detector or the children are asked, and a
change raises the flag and is announced once. -/
def check (w : Wiring σ) (c : Control) (data : Option Payload) (s : σ) : Bool × σ :=
  match c with
  | plain f d =>
    if w.isRaised f s then (true, s)
    else
      let (changed, s) := w.detect d s
      if changed then (true, w.notify (plain f d) data (w.setFlag f true s)) else (false, s)
  | combined f cs =>
    if w.isRaised f s then (true, s)
    else
      let (changed, s) := checkAll w cs s
      if changed then (true, w.notify (combined f cs) data (w.setFlag f true s)) else (false, s)
  | foreign _ n => (w.foreign n).check data s

/-- Asks all children, also those behind one that has changed, and hands them nothing. -/
def checkAll (w : Wiring σ) (cs : List Control) (s : σ) : Bool × σ :=
  match cs with
  | [] => (false, s)
  | c :: cs =>
    let (first, s) := check w c none s
    let (others, s) := checkAll w cs s
    (first || others, s)

end

mutual

/-- After a reload: where one was pending, the detector records the present state. -/
def reset (w : Wiring σ) (c : Control) (s : σ) : σ :=
  match c with
  | plain f d => if w.isRaised f s then w.setFlag f false (w.record d s) else s
  | combined f cs => resetAll w cs (w.setFlag f false s)
  | foreign _ n => (w.foreign n).reset s

def resetAll (w : Wiring σ) (cs : List Control) (s : σ) : σ :=
  match cs with
  | [] => s
  | c :: cs => resetAll w cs (reset w c s)

end

mutual

/-- After the first load: every detector records the present state, whatever was pending. -/
def resetFirst (w : Wiring σ) (c : Control) (s : σ) : σ :=
  match c with
  | plain f d => w.setFlag f false (w.record d s)
  | combined f cs => resetFirstAll w cs (w.setFlag f false s)
  | foreign _ n => (w.foreign n).resetFirst s

def resetFirstAll (w : Wiring σ) (cs : List Control) (s : σ) : σ :=
  match cs with
  | [] => s
  | c :: cs => resetFirstAll w cs (resetFirst w c s)

end

/-! Plain and combined controls follow the same rule, each with a question of its own. -/

section Own

def isOwn : Control → Bool
  | foreign .. => false
  | _ => true

def ask (w : Wiring σ) (c : Control) (s : σ) : Bool × σ :=
  match c with
  | plain _ d => w.detect d s
  | combined _ cs => checkAll w cs s
  | foreign _ _ => (false, s)

variable {w : Wiring σ} {c : Control} {s t : σ}

theorem check_of_isPending (hc : c.isOwn = true) (h : c.isPending w s = true)
    (data : Option Payload) : c.check w data s = (true, s) := by
  cases c with
  | plain f d =>
    unfold check
    exact if_pos h
  | combined f cs =>
    unfold check
    exact if_pos h
  | foreign f n => contradiction

theorem check_of_same (hc : c.isOwn = true) (h : c.isPending w s = false)
    (ha : c.ask w s = (false, t)) (data : Option Payload) : c.check w data s = (false, t) := by
  cases c with
  | plain f d => simp_all [check, ask]
  | combined f cs => simp_all [check, ask]
  | foreign f n => contradiction

theorem check_of_changed (hc : c.isOwn = true) (h : c.isPending w s = false)
    (ha : c.ask w s = (true, t)) (data : Option Payload) :
    c.check w data s = (true, w.notify c data (w.setFlag c.flag true t)) := by
  cases c with
  | plain f d => simp_all [check, ask]
  | combined f cs => simp_all [check, ask]
  | foreign f n => contradiction

end Own

/-! The rules of a plain control, case by case. -/

section Plain

variable {w : Wiring σ} {f d : Nat} {s t : σ}

theorem check_plain_of_isRaised (h : w.isRaised f s = true) (data : Option Payload) :
    (plain f d).check w data s = (true, s) :=
  check_of_isPending (c := plain f d) rfl h data

theorem check_plain_of_same (h : w.isRaised f s = false) (hd : w.detect d s = (false, t))
    (data : Option Payload) : (plain f d).check w data s = (false, t) :=
  check_of_same (c := plain f d) rfl h hd data

theorem check_plain_of_changed (h : w.isRaised f s = false) (hd : w.detect d s = (true, t))
    (data : Option Payload) :
    (plain f d).check w data s = (true, w.notify (plain f d) data (w.setFlag f true t)) :=
  check_of_changed (c := plain f d) rfl h hd data

theorem reset_plain_of_isRaised (h : w.isRaised f s = true) :
    (plain f d).reset w s = w.setFlag f false (w.record d s) := by
  simp [reset, h]

theorem reset_plain_of_not_isRaised (h : w.isRaised f s = false) : (plain f d).reset w s = s := by
  simp [reset, h]

end Plain

end Control
end LiveConfig
