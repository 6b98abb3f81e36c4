import LiveConfig.Location.FilePath
import LiveConfig.Location.Host
import LiveConfig.Text.Pieces

/-! URLs of local files. The path of such a URL is a list of names; dots move in it, and a drive
letter in front of it is never left. -/

namespace LiveConfig.FileUrl

def isSlash (c : Char) : Bool := c = '/' || c = '\\'

def isEnd (c : Char) : Bool := c = '?' || c = '#'

def isBreak (c : Char) : Bool := c = '\t' || c = '\n' || c = '\r'

def dots? : List Char → Option Nat
  | [] => some 0
  | '.' :: rest => (dots? rest).map (· + 1)
  | '%' :: '2' :: 'e' :: rest => (dots? rest).map (· + 1)
  | '%' :: '2' :: 'E' :: rest => (dots? rest).map (· + 1)
  | _ => none

def isDrive : List Char → Bool
  | [c, mark] => c.isAlpha && (mark = ':' || mark = '|')
  | _ => false

def unbroken (cs : List Char) : List Char := cs.filter (!isBreak ·)

def breaksAtColon (cs : List Char) : Bool :=
  (cs.dropWhile (· ≠ ':')).tail.head?.any isBreak

structure Walk where
  names : List (List Char)
  drive : Bool
  deriving DecidableEq, Repr

namespace Walk

def start : Walk := ⟨[], false⟩

def up (w : Walk) : Walk :=
  match w.names.getLast? with
  | some name => if isDrive name then w else { w with names := w.names.dropLast }
  | none => w

def down (w : Walk) (name : List Char) : Walk :=
  if w.names = [] ∧ isDrive name then ⟨[[name.headD 'C', ':']], true⟩
  else { w with names := w.names ++ [name] }

/-- A first name in which a break cuts a letter and its colon off: what follows is a name of its
own, whatever it says. -/
def cutApart? (w : Walk) (name : List Char) : Option Walk :=
  match w.names, unbroken name with
  | [], c :: ':' :: rest =>
    if c.isAlpha ∧ rest ≠ [] ∧ breaksAtColon name then some { w with names := [[c, ':'], rest] }
    else none
  | _, _ => none

def move (w : Walk) (name : List Char) : Walk :=
  (w.cutApart? name).getD <|
    match dots? (unbroken name) with
    | some 1 => w
    | some 2 => w.up
    | _ => w.down (unbroken name)

def finish (w : Walk) (name : List Char) : Walk :=
  (w.cutApart? name).getD <|
    match dots? (unbroken name) with
    | some 1 => w.down []
    | some 2 => w.up.down []
    | _ => w.down (unbroken name)

def along (names : List (List Char)) : Walk :=
  (names.dropLast.foldl move start).finish (names.getLastD [])

end Walk

def walk (cs : List Char) : Walk :=
  Walk.along (Text.splitOn isSlash (cs.takeWhile (!isEnd ·)))

def bytes (w : Walk) : List UInt8 :=
  let names := match w.names.dropWhile (· = []) with
    | [] => [[]]
    | names => names
  let bs := names.flatMap fun name => 0x2F :: Host.percentDecode name
  match bs.reverse with
  | mark :: letter :: _ =>
    if 2 < bs.length ∧ (mark = 0x3A ∨ mark = 0x7C) ∧ (Char.ofNat letter.toNat).isAlpha then
      bs ++ [0x2F]
    else bs
  | _ => bs

def path (w : Walk) : FilePath := ⟨bytes w⟩

def slash? (cs : List Char) : Option (List Char) :=
  match cs.dropWhile isBreak with
  | c :: cs => if isSlash c then some cs else none
  | [] => none

def dropSlash (cs : List Char) : List Char := (slash? cs).getD cs

/-- The path behind a host. A drive letter in place of a host is already the path, and one behind
another machine makes that void. On this machine the path starts at its slash, so that no name is
a drive letter to it. -/
def behindHost (cs : List Char) : Option FilePath :=
  let host := unbroken (cs.takeWhile fun c => !isSlash c && !isEnd c)
  let rest := cs.dropWhile fun c => !isSlash c && !isEnd c
  if isDrive host then some (path (walk cs))
  else
    match Host.kind host with
    | .thisMachine => some (path (walk rest))
    | .other =>
      let w := walk (dropSlash rest)
      if w.drive then some (path w) else none
    | .invalid => none

def toPath? (cs : List Char) : Option FilePath :=
  let cs := (cs.reverse.dropWhile (·.toNat ≤ 0x20)).reverse
  match (slash? cs).bind slash? with
  | some rest => behindHost rest
  | none => some (path (walk (dropSlash cs)))

end LiveConfig.FileUrl
