import LiveConfig.Number.Binary

/-! JSON documents as trees. A number is kept as the narrowest of three kinds that holds it. -/

namespace LiveConfig

inductive Json.Number where
  | natural (n : UInt64)
  | negative (n : Int64)
  | float (x : Double)
  deriving DecidableEq

inductive Json where
  | null
  | bool (b : Bool)
  | number (n : Json.Number)
  | text (s : String)
  | array (items : List Json)
  | object (members : List (String × Json))

end LiveConfig
