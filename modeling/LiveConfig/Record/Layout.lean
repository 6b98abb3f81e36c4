import LiveConfig.Record.Options

/-! The layout derived from a record type: which properties it has, and which of them hold nested
beans of which class. -/

namespace LiveConfig.Record

inductive NestedShape where
  | single | optional | list
  deriving DecidableEq, Repr

inductive ColumnKind where
  | value (type : TypeExpr)
  | nested (shape : NestedShape) (bean : TypeExpr) (className : String)

structure Column where
  field : String
  property : String
  kind : ColumnKind

structure Layout where
  name : String
  columns : List Column

def bareName (s : String) : String :=
  let rec strip : List Char → List Char
    | 'r' :: '#' :: rest => strip rest
    | cs => cs
  String.ofList (strip s.toList)

def nestedShape (t : TypeExpr) : NestedShape × TypeExpr :=
  match t.inner? "Option" with
  | some bean => (.optional, bean)
  | none =>
    match t.inner? "Vec" with
    | some bean => (.list, bean)
    | none => (.single, t)

namespace Column

def ofField (f : FieldExpr) : Except DeriveError (Option Column) := do
  let o ← FieldOptions.read f.attributes
  if o.skip then .ok none
  else
    match f.name with
    | none => .error .unnamedField
    | some name =>
      let property := o.rename.getD (bareName name)
      if o.nested then
        let (shape, bean) := nestedShape f.type
        match o.className <|> bean.last?.map (·.1) with
        | none => .error .noClassName
        | some c => .ok (some ⟨name, property, .nested shape bean c⟩)
      else .ok (some ⟨name, property, .value f.type⟩)

def className? (c : Column) : Option String :=
  match c.kind with
  | .value _ => none
  | .nested _ _ name => some name

end Column

def repeated? (seen : List String) : List Column → Option String
  | [] => none
  | c :: rest => if seen.contains c.property then some c.property
    else repeated? (c.property :: seen) rest

def columnsOf : List FieldExpr → Except DeriveError (List Column)
  | [] => .ok []
  | f :: rest => do
    let c ← Column.ofField f
    let cs ← columnsOf rest
    .ok (c.toList ++ cs)

namespace Layout

/-- Only record types with named fields have a layout, and no two fields share a property. -/
def derive (item : Item) : Except DeriveError Layout :=
  match item.kind with
  | .tuple => .error .tupleRecord
  | .unit => .error .unitRecord
  | .enum => .error .enumeration
  | .union => .error .union
  | .struct => do
    let cs ← columnsOf item.fields
    match repeated? [] cs with
    | some p => .error (.duplicateProperty p item.name)
    | none => .ok ⟨item.name, cs⟩

def propertyNames (l : Layout) : List String :=
  l.columns.map (·.property)

def propertyClass (l : Layout) (name : String) : Option String :=
  (l.columns.find? (·.property = name)).bind Column.className?

end Layout
end LiveConfig.Record
