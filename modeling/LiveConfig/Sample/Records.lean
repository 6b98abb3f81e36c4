import LiveConfig.Sample.Bean

/-! The sample types that are records: each is given by a written description, and its properties
are those of the layout derived from it. -/

namespace LiveConfig.Sample

open Record

structure RecordType where
  item : Item
  initial : Contents Sample

namespace RecordType

def typeName (t : TypeExpr) : String :=
  match t.last? with
  | some (name, _) => fullName name
  | none => t.render

def slots (r : RecordType) : List Slot :=
  match Layout.derive r.item with
  | .ok l => (l.slots? typeName).getD []
  | .error _ => []

def fresh (r : RecordType) : Sample := .record r.item.name r.initial

def table (r : RecordType) : PropertyTable Sample where
  names := r.slots.map (·.property)
  classOf := classOf r.slots
  set b name p :=
    match b with
    | .record type cs => (Contents.set r.slots cs name p).map (.record type)
    | _ => .error .notWritable

end RecordType

def plain (name : String) : TypeExpr := .path [name] none

def optionOf (t : TypeExpr) : TypeExpr := .path ["Option"] (some [.inr t])

def vecOf (t : TypeExpr) : TypeExpr := .path ["Vec"] (some [.inr t])

def field (name : String) (t : TypeExpr) (options : List (String × Written)) : FieldExpr :=
  ⟨some name, t, [⟨["bean"], options.map fun (k, w) => ⟨[k], w⟩⟩]⟩

def zero (k : IntKind) : Content Sample :=
  .datum (.integer k) ⟨0, by cases k <;> decide⟩

def noText : Content Sample := .datum .text ""

def noNumber (k : IntKind) : Content Sample := .datum (.option (.integer k)) none

def widget : RecordType where
  item := ⟨"Widget", .struct, [
    field "name" (plain "String") [],
    field "maxSize" (optionOf (plain "u32")) [],
    field "uses" (plain "u32") [("skip", .nothing)]]⟩
  initial := [("name", noText), ("maxSize", noNumber .u32), ("uses", zero .u32)]

def address : RecordType where
  item := ⟨"Address", .struct, [
    field "city" (plain "String") [],
    field "zip" (plain "String") []]⟩
  initial := [("city", noText), ("zip", noText)]

def person : RecordType where
  item := ⟨"Person", .struct, [
    field "name" (plain "String") [],
    field "address" (plain "Address") [("nested", .nothing)],
    field "previous" (optionOf (plain "Address")) [("nested", .nothing)],
    field "others" (vecOf (plain "Address")) [("class", .text "Address")],
    field "tags" (vecOf (plain "String")) []]⟩
  initial := [
    ("name", noText), ("address", .single address.fresh), ("previous", .optional none),
    ("others", .list []), ("tags", .datum (.list .text) [])]

def limit : RecordType where
  item := ⟨"Limit", .struct, [
    field "value" (plain "u32") [],
    field "enabled" (plain "bool") []]⟩
  initial := [("value", zero .u32), ("enabled", .datum .bool false)]

def prims : RecordType where
  item := ⟨"Prims", .struct, [
    field "flag" (plain "bool") [],
    field "i8" (plain "i8") [], field "i16" (plain "i16") [],
    field "i32" (plain "i32") [], field "i64" (plain "i64") [],
    field "u8" (plain "u8") [], field "u16" (plain "u16") [],
    field "u32" (plain "u32") [], field "u64" (plain "u64") [],
    field "f32" (plain "f32") [], field "f64" (plain "f64") [],
    field "text" (plain "String") [],
    field "path" (plain "PathBuf") [],
    field "any" (optionOf (plain "ConfigValue")) [],
    field "type_" (optionOf (plain "String")) [("rename", .text "type")],
    field "ints" (vecOf (plain "i64")) [],
    field "opts" (vecOf (optionOf (plain "u8"))) [],
    field "grid" (vecOf (vecOf (plain "u16"))) [],
    field "limit" (optionOf (.path ["Limit"] (some [.inr (plain "u32")])))
      [("rename", .text "class-limit"), ("nested", .nothing)]]⟩
  initial := [
    ("flag", .datum .bool false),
    ("i8", zero .i8), ("i16", zero .i16), ("i32", zero .i32), ("i64", zero .i64),
    ("u8", zero .u8), ("u16", zero .u16), ("u32", zero .u32), ("u64", zero .u64),
    ("f32", .datum .single (.ofInt 0)), ("f64", .datum .double (.ofInt 0)),
    ("text", noText), ("path", .datum .path ""),
    ("any", .datum (.option .value) none), ("type_", .datum (.option .text) none),
    ("ints", .datum (.list (.integer .i64)) []),
    ("opts", .datum (.list (.option (.integer .u8))) []),
    ("grid", .datum (.list (.list (.integer .u16))) []),
    ("limit", .optional none)]

def recordTypes : List RecordType := [widget, address, person, prims, limit]

def addressOf (city : String) : Sample :=
  .record "Address" (Contents.put "city" (.datum .text city) address.initial)

def textField? (field : String) : Sample → Option String
  | .record _ cs =>
    match cs.lookup field with
    | some (.datum .text s) => some s
    | _ => none
  | _ => none

end LiveConfig.Sample
