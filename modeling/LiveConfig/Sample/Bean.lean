import LiveConfig.Record.Contents

/-! Sample beans: the types of objects that a session can create without a program around it. -/

namespace LiveConfig

inductive Taken (β : Type) where
  | property (p : Property β)
  | datum (t : FieldType) (x : t.Datum)
  | bean (b : β)
  | size (n : Nat)
  | refused (e : BeanError)

inductive Sample where
  | number (n : Nat)
  | text (s : String)
  | record (type : String) (contents : List (String × Record.Content Sample))
  | node (name : String) (child : Option Sample) (items : List Sample)
  | hider (hidden : Option String)
  | endpoint (host : String) (port : Nat) (via : String)
  | open_ (constructor : Nat) (taken : List (Taken Sample))
      (stored : List (String × Property Sample))

namespace Sample

def fullName (short : String) : String :=
  match short with
  | "u32" => "u32"
  | "String" => "alloc::string::String"
  | "Limit" => "reconf_oracle::beans::Limit<u32>"
  | other => "reconf_oracle::beans::" ++ other

instance : Typed Sample where
  typeName
    | .number _ => fullName "u32"
    | .text _ => fullName "String"
    | .record type _ => fullName type
    | .node .. => fullName "Node"
    | .hider _ => fullName "Liar"
    | .endpoint .. => fullName "Endpoint"
    | .open_ .. => fullName "Dyn"

end Sample
end LiveConfig
