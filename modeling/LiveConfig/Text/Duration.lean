/-! Spans of time in words for diagnostics. -/

namespace LiveConfig.Text

def thousandths (n : Nat) : List Char :=
  let digits := Nat.toDigits 10 (1000 + n % 1000)
  ((digits.drop 1).reverse.dropWhile (· = '0')).reverse

def duration (millis : Nat) : String :=
  if millis = 0 then "0ns"
  else if millis < 1000 then s!"{millis}ms"
  else
    let seconds := millis / 1000
    match thousandths millis with
    | [] => s!"{seconds}s"
    | digits =>
      let behind := String.ofList digits
      s!"{seconds}.{behind}s"

end LiveConfig.Text
