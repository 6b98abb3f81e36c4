import LiveConfig.Text.Hidden

/-! Text in quotes for diagnostics: what a reader could not see is written as an escape. -/

namespace LiveConfig.Text

def hexDigits (n : Nat) : List Char := Nat.toDigits 16 n

def escape (c : Char) : List Char :=
  if c = '"' then ['\\', '"']
  else if c = '\\' then ['\\', '\\']
  else if c = '\n' then ['\\', 'n']
  else if c = '\r' then ['\\', 'r']
  else if c = '\t' then ['\\', 't']
  else if c.toNat = 0 then ['\\', '0']
  else if isHidden c then ['\\', 'u', '\x7b'] ++ hexDigits c.toNat ++ ['\x7d']
  else [c]

def quoted (s : String) : String :=
  String.ofList ('"' :: s.toList.flatMap escape ++ ['"'])

def quotedSet (ss : List String) : String :=
  "\x7b" ++ ", ".intercalate (ss.map quoted) ++ "\x7d"

end LiveConfig.Text
