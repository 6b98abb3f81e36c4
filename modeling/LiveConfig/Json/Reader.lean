import LiveConfig.Json.Token

/-! Reading a JSON document from its words, with the containers that are still open on a stack.
Containers nest to depth 127. -/

namespace LiveConfig.Json

inductive Frame where
  | array (done : List Json)
  | object (done : List (String × Json)) (key : String)

inductive Reading where
  | value (open_ : List Frame)
  | firstItem (open_ : List Frame)
  | firstKey (open_ : List Frame)
  | key (done : List (String × Json)) (open_ : List Frame)
  | colon (done : List (String × Json)) (key : String) (open_ : List Frame)
  | more (frame : Frame) (open_ : List Frame)
  | finished (j : Json)

namespace Reading

def deepest : Nat := 127

def put (j : Json) : List Frame → Reading
  | [] => finished j
  | .array done :: rest => more (.array (j :: done)) rest
  | .object done k :: rest => more (.object ((k, j) :: done) k) rest

def close : Frame → Json
  | .array done => .array done.reverse
  | .object done _ => .object done.reverse

def start (open_ : List Frame) : Token → Option Reading
  | .null => some (put .null open_)
  | .bool b => some (put (.bool b) open_)
  | .text s => some (put (.text s) open_)
  | .number n => some (put (.number n) open_)
  | .openArray => if open_.length < deepest then some (firstItem open_) else none
  | .openObject => if open_.length < deepest then some (firstKey open_) else none
  | _ => none

def step : Reading → Token → Option Reading
  | value open_, t => start open_ t
  | firstItem open_, .closeArray => some (put (.array []) open_)
  | firstItem open_, t => start (.array [] :: open_) t
  | firstKey open_, .closeObject => some (put (.object []) open_)
  | firstKey open_, .text k => some (colon [] k open_)
  | key done open_, .text k => some (colon done k open_)
  | colon done k open_, .colon => some (value (.object done k :: open_))
  | more (.array done) open_, .comma => some (value (.array done :: open_))
  | more (.object done _) open_, .comma => some (key done open_)
  | more (.array done) open_, .closeArray => some (put (close (.array done)) open_)
  | more (.object done k) open_, .closeObject => some (put (close (.object done k)) open_)
  | _, _ => none

end Reading

def ofTokens? (ts : List Token) : Option Json :=
  match ts.foldlM Reading.step (.value []) with
  | some (.finished j) => some j
  | _ => none

def read? (s : String) : Option Json :=
  (Token.scan? s).bind ofTokens?

end LiveConfig.Json
