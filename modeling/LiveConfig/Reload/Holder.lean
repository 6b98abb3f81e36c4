import LiveConfig.Reload.Error

/-! A held configuration: the value loaded last, reloaded on access when a reload is pending. As
with controls, the rules work in the state of any program connected to them. -/

namespace LiveConfig

inductive Cause where
  | detected
  | manual
  deriving DecidableEq, Repr

def Cause.display : Cause → String
  | detected => "change detected"
  | manual => "manual reload"

structure Change (α : Type) where
  old : α
  new : α
  epoch : Nat
  cause : Cause
  deriving DecidableEq, Repr

structure Holder (α : Type) where
  value : α
  epoch : Nat
  deriving DecidableEq, Repr

namespace Holder

variable {α σ : Type}

def first (x : α) : Holder α := ⟨x, 0⟩

def put (x : α) (h : Holder α) : Holder α := ⟨x, h.epoch + 1⟩

def change (x : α) (cause : Cause) (h : Holder α) : Change α :=
  ⟨h.value, x, h.epoch + 1, cause⟩

@[simp] theorem value_put (x : α) (h : Holder α) : (h.put x).value = x := rfl
@[simp] theorem epoch_put (x : α) (h : Holder α) : (h.put x).epoch = h.epoch + 1 := rfl

def hasChangedSince (epoch : Nat) (h : Holder α) : Bool := h.epoch ≠ epoch

structure Wiring (σ α : Type) where
  holder : σ → Holder α
  setHolder : Holder α → σ → σ
  load : σ → Except ConfigError α × σ
  onChange : Change α → σ → σ
  onError : ConfigError → σ → σ
  check : σ → Bool × σ
  isPending : σ → Bool
  reset : σ → σ

/-- Loads, and keeps what has been loaded; a failure leaves the value as it was. -/
def load (w : Wiring σ α) (cause : Cause) (s : σ) : Except ConfigError α × σ :=
  match w.load s with
  | (.ok x, s) =>
    let h := w.holder s
    (.ok x, w.onChange (h.change x cause) (w.setHolder (h.put x) s))
  | (.error e, s) => (.error e, w.onError e s)

/-- Loads whether or not a reload is pending; none is after a success. -/
def reload (w : Wiring σ α) (s : σ) : Except ConfigError α × σ :=
  match load w .manual s with
  | (.ok x, s) => (.ok x, w.reset s)
  | (.error e, s) => (.error e, s)

/-- The value, after a reload if one is pending. A listener may have done the reload already. -/
def get (w : Wiring σ α) (s : σ) : α × σ :=
  let (due, s) := w.check s
  let s :=
    if due && w.isPending s then
      match load w .detected s with
      | (.ok _, s) => w.reset s
      | (.error _, s) => s
    else s
  ((w.holder s).value, s)

end Holder
end LiveConfig
