import LiveConfig.Bean.Class
import LiveConfig.Record.Layout

/-! Records at work: the contents of the fields of a bean, written property by property as the
layout of its type says. -/

namespace LiveConfig.Record

inductive Content (β : Type) where
  | datum (t : FieldType) (x : t.Datum)
  | single (b : β)
  | optional (b : Option β)
  | list (bs : List β)

inductive SlotKind where
  | datum (t : FieldType)
  | nested (shape : NestedShape) (typeName : String) (className : String)
  deriving DecidableEq, Repr

structure Slot where
  field : String
  property : String
  kind : SlotKind
  deriving DecidableEq, Repr

def fieldType? : TypeExpr → Option FieldType
  | .path names args =>
    match names.getLast?, args with
    | some "Option", some [.inr t] => (fieldType? t).map .option
    | some "Vec", some [.inr t] => (fieldType? t).map .list
    | some name, none => FieldType.ofName? name
    | _, _ => none
  | _ => none

def slot? (typeName : TypeExpr → String) (c : Column) : Option Slot :=
  match c.kind with
  | .value t => (fieldType? t).map fun t => ⟨c.field, c.property, .datum t⟩
  | .nested shape bean className =>
    some ⟨c.field, c.property, .nested shape (typeName bean) className⟩

def Layout.slots? (typeName : TypeExpr → String) (l : Layout) : Option (List Slot) :=
  l.columns.mapM (slot? typeName)

namespace SlotKind

variable {β : Type} [Typed β]

def convert (p : Property β) : SlotKind → Except PropertyError (Content β)
  | .datum t => (Property.convert t p).map (.datum t)
  | .nested .single type _ => (p.toBean type).map .single
  | .nested .optional type _ =>
    match p with
    | .value .absent => .ok (.optional none)
    | p => (p.toBean type).map fun b => .optional (some b)
  | .nested .list type _ => (p.toBeans type).map .list

def className? : SlotKind → Option String
  | .datum _ => none
  | .nested _ _ c => some c

end SlotKind

abbrev Contents (β : Type) := List (String × Content β)

namespace Contents

variable {β : Type}

def put (field : String) (c : Content β) (cs : Contents β) : Contents β :=
  cs.map fun e => if e.1 = field then (field, c) else e

/-- Writes a property in place: the answer of the setter, and the contents that it leaves. A value
is converted before anything is written. -/
def assign [Typed β] (slots : List Slot) (name : String) (p : Property β) :
    ExceptT PropertyError (StateM (Contents β)) Unit :=
  match slots.find? (·.property = name) with
  | none => throw .notWritable
  | some s => do
    let c ← liftExcept (s.kind.convert p)
    modify (put s.field c)

def set [Typed β] (slots : List Slot) (cs : Contents β) (name : String) (p : Property β) :
    Except PropertyError (Contents β) :=
  let (result, cs) := (assign slots name p).run cs
  result.map fun () => cs

end Contents

def classOf (slots : List Slot) (name : String) : Option String :=
  (slots.find? (·.property = name)).bind (·.kind.className?)

end LiveConfig.Record
