/-! Written descriptions of record types: the fields with their types, and the options that say
how a field becomes a property. -/

namespace LiveConfig.Record

inductive TypeExpr where
  | path (names : List String) (args : Option (List (String ⊕ TypeExpr)))
  | reference (t : TypeExpr)
  | tuple (ts : List TypeExpr)
  | slice (t : TypeExpr)

inductive Written where
  | nothing
  | text (s : String)
  | token (s : String)
  deriving DecidableEq, Repr

structure OptionExpr where
  key : List String
  value : Written
  deriving DecidableEq, Repr

structure AttributeExpr where
  path : List String
  options : List OptionExpr
  deriving DecidableEq, Repr

structure FieldExpr where
  name : Option String
  type : TypeExpr
  attributes : List AttributeExpr

inductive ItemKind where
  | struct | tuple | unit | enum | union
  deriving DecidableEq, Repr

structure Item where
  name : String
  kind : ItemKind
  fields : List FieldExpr

namespace TypeExpr

instance : Inhabited TypeExpr := ⟨tuple []⟩

def last? : TypeExpr → Option (String × Option (List (String ⊕ TypeExpr)))
  | path names args => names.getLast?.map (·, args)
  | _ => none

def inner? (wrapper : String) (t : TypeExpr) : Option TypeExpr :=
  match t.last? with
  | some (name, some (.inr arg :: _)) => if name = wrapper then some arg else none
  | _ => none

mutual

def render : TypeExpr → String
  | path names none => "::".intercalate names
  | path names (some args) =>
    "::".intercalate names ++ "<" ++ ",".intercalate (renderArgs args) ++ ">"
  | reference t => "&" ++ render t
  | tuple ts => "(" ++ String.join (renderMembers ts) ++ ")"
  | slice t => "[" ++ render t ++ "]"

def renderArgs : List (String ⊕ TypeExpr) → List String
  | [] => []
  | .inl lifetime :: rest => ("'" ++ lifetime) :: renderArgs rest
  | .inr t :: rest => render t :: renderArgs rest

def renderMembers : List TypeExpr → List String
  | [] => []
  | t :: ts => (render t ++ ",") :: renderMembers ts

end

end TypeExpr
end LiveConfig.Record
