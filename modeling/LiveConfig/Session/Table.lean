import LiveConfig.Dict

/-! Objects by number, and the numbers of those that have a name. An object keeps its number when
its name goes to another one. -/

namespace LiveConfig.Session

structure Table (α : Type) where
  objects : List α
  names : Dict Nat

namespace Table

variable {α : Type}

def empty : Table α := ⟨[], []⟩

def push (x : α) (t : Table α) : Nat × Table α :=
  (t.objects.length, { t with objects := t.objects ++ [x] })

def add (name : String) (x : α) (t : Table α) : Table α :=
  let (n, t) := t.push x
  { t with names := Dict.insert name n t.names }

def number? (name : String) (t : Table α) : Option Nat := Dict.get? name t.names

def at? (n : Nat) (t : Table α) : Option α := t.objects[n]?

def find? (name : String) (t : Table α) : Option α := (t.number? name).bind t.at?

def modifyAt (n : Nat) (f : α → α) (t : Table α) : Table α :=
  { t with objects := t.objects.modify n f }

def modify (name : String) (f : α → α) (t : Table α) : Table α :=
  match t.number? name with
  | some n => t.modifyAt n f
  | none => t

end Table
end LiveConfig.Session
