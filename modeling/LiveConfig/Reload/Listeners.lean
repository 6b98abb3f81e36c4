/-! Registered listeners, in order of registration, each with a number by which it is removed. -/

namespace LiveConfig

structure Listeners (α : Type) where
  next : Nat
  entries : List (Nat × α)

namespace Listeners

variable {α : Type}

def empty : Listeners α := ⟨0, []⟩

def add (x : α) (ls : Listeners α) : Nat × Listeners α :=
  (ls.next, ⟨ls.next + 1, ls.entries ++ [(ls.next, x)]⟩)

def remove (id : Nat) (ls : Listeners α) : Bool × Listeners α :=
  (ls.entries.any (·.1 = id), { ls with entries := ls.entries.filter (·.1 ≠ id) })

def size (ls : Listeners α) : Nat := ls.entries.length

def all (ls : Listeners α) : List α := ls.entries.map (·.2)

/-- One round of notification: it reaches the listeners that are registered when it starts, in
order, whatever they do meanwhile. -/
def fire {σ : Type} (tell : α → σ → σ) (ls : Listeners α) (s : σ) : σ :=
  ls.all.foldl (fun s x => tell x s) s

theorem fire_keeps {σ : Type} {R : σ → σ → Prop} {tell : α → σ → σ} (refl : ∀ s, R s s)
    (trans : ∀ {s t u}, R s t → R t u → R s u) (h : ∀ x s, R s (tell x s)) (ls : Listeners α)
    (s : σ) : R s (ls.fire tell s) := by
  unfold fire
  induction ls.all generalizing s with
  | nil => exact refl s
  | cons x rest ih => exact trans (h x s) (ih _)

theorem remove_eq_true_iff {id : Nat} {ls : Listeners α} :
    (ls.remove id).1 = true ↔ ∃ x, (id, x) ∈ ls.entries := by
  simp [remove]

end Listeners
end LiveConfig
