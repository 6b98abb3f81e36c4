import LiveConfig.Record.Literal
import LiveConfig.Record.Syntax
import LiveConfig.Text.Blank

/-! The options of a field: which there are, how they are written and which go together. -/

namespace LiveConfig.Record

inductive DeriveError where
  | notAName
  | unknownOption (key : String)
  | duplicateOption (key : String)
  | valueMissing
  | valueNotText
  | valueUnexpected
  | blankProperty
  | blankClass
  | skipConflict (keys : List String)
  | unnamedField
  | noClassName
  | duplicateProperty (property record : String)
  | tupleRecord
  | unitRecord
  | enumeration
  | union
  deriving DecidableEq, Repr

def DeriveError.message : DeriveError → String
  | notAName => "Expected Identifier"
  | unknownOption key => s!"Unknown option `{key}`"
  | duplicateOption key => s!"Duplicate option: `{key}`"
  | valueMissing => "expected `=`"
  | valueNotText => "expected string literal"
  | valueUnexpected => "expected `,`"
  | blankProperty => "property name must not be empty"
  | blankClass => "class name must not be empty"
  | skipConflict keys => "`skip` cannot be combined with: " ++ ", ".intercalate keys
  | unnamedField => "Bean requires named fields"
  | noClassName => "cannot derive a class name from this type; add #[bean(class = \"...\")]"
  | duplicateProperty property record =>
    s!"duplicate property name `{property}` in `{record}`"
  | tupleRecord => "Bean does not support tuple structs"
  | unitRecord => "Bean does not support unit structs"
  | enumeration => "Bean can only be derived for structs, not enums"
  | union => "Bean can only be derived for structs, not unions"

inductive OptionName where
  | rename | skip | nested | className
  deriving DecidableEq, Repr

def OptionName.key : OptionName → String
  | rename => "rename"
  | skip => "skip"
  | nested => "nested"
  | className => "class"

def OptionName.ofKey? (s : String) : Option OptionName :=
  [rename, skip, nested, className].find? (·.key = s)

structure FieldOptions where
  rename : Option String
  skip : Bool
  nested : Bool
  className : Option String
  deriving DecidableEq, Repr

namespace FieldOptions

def none : FieldOptions := ⟨.none, false, false, .none⟩

def notBlank (blank : DeriveError) (s : String) : Except DeriveError String :=
  if (Text.trimmed? s).isNone then .error blank else .ok s

def textOf (blank : DeriveError) : Written → Except DeriveError String
  | .nothing => .error .valueMissing
  | .text s => notBlank blank s
  | .token word =>
    match Literal.read? (Text.trimChars word.toList) with
    | .none => .error .valueNotText
    | some (s, rest) => do
      let s ← notBlank blank s
      if rest = [] then .ok s else .error .valueUnexpected

def flag (o : FieldOptions) : Written → Except DeriveError FieldOptions
  | .nothing => .ok o
  | _ => .error .valueUnexpected

def put (o : FieldOptions) (w : Written) : OptionName → Except DeriveError FieldOptions
  | .rename => (textOf .blankProperty w).map fun s => { o with rename := some s }
  | .className => (textOf .blankClass w).map fun s => { o with className := some s, nested := true }
  | .skip => flag { o with skip := true } w
  | .nested => flag { o with nested := true } w

def readAll (seen : List OptionName) (o : FieldOptions) :
    List OptionExpr → Except DeriveError (List OptionName × FieldOptions)
  | [] => .ok (seen, o)
  | ⟨[key], w⟩ :: rest =>
    match OptionName.ofKey? key with
    | .none => .error (.unknownOption key)
    | some name =>
      if seen.contains name then .error (.duplicateOption key)
      else do
        let o ← o.put w name
        readAll (name :: seen) o rest
  | _ :: _ => .error .notAName

def conflicts (seen : List OptionName) : List String :=
  ([.rename, .nested, .className].filter seen.contains).map OptionName.key

def read (attributes : List AttributeExpr) : Except DeriveError FieldOptions := do
  let given := (attributes.filter (·.path = ["bean"])).flatMap (·.options)
  let (seen, o) ← readAll [] none given
  if o.skip ∧ conflicts seen ≠ [] then .error (.skipConflict (conflicts seen))
  else .ok o

end FieldOptions
end LiveConfig.Record
