import RefExpand.Text.Basic

namespace RefExpand

/-!
# Escaped text

Inside an expansion every text is kept escaped: a character with a meaning of
its own travels as a percent sign and two hexadecimal digits, so a literal `;`
is never taken for a separator. Writing uses upper-case digits; reading takes
either case and leaves a malformed sequence as it stands.
-/

namespace Text

/-- The nine characters that are written as a percent triple. -/
def isReserved (c : Char) : Bool :=
  c == '%' || c == '*' || c == '?' || c == '@' || c == '$' || c == '(' || c == ')' ||
    c == ';' || c == '\''

/-- The upper-case hexadecimal digit of a number below sixteen. -/
def hexDigit (n : Nat) : Char :=
  if n < 10 then Char.ofNat (n + 48) else Char.ofNat (n + 55)

/-- The number that a hexadecimal digit of either case stands for. -/
def hexValue? (c : Char) : Option Nat :=
  if '0' ≤ c ∧ c ≤ '9' then some (c.toNat - 48)
  else if 'a' ≤ c ∧ c ≤ 'f' then some (c.toNat - 87)
  else if 'A' ≤ c ∧ c ≤ 'F' then some (c.toNat - 55)
  else none

/-- One character in escaped form. -/
def escapeChar (c : Char) : Text :=
  if isReserved c then
    ['%', hexDigit (c.toNat / 16), hexDigit (c.toNat % 16)]
  else
    [c]

/-- Write every reserved character as a percent triple. -/
def escape (text : Text) : Text :=
  text.flatMap escapeChar

/-- The character of a percent triple with these two digits, if they are digits. -/
def decodeTriple? (high low : Char) : Option Char := do
  let h ← hexValue? high
  let l ← hexValue? low
  some (Char.ofNat (16 * h + l))

/-- Read the percent triples, from the left, each once. -/
def unescape : Text → Text
  | '%' :: high :: low :: rest =>
      match decodeTriple? high low with
      | some c => c :: unescape rest
      | none => '%' :: unescape (high :: low :: rest)
  | c :: rest => c :: unescape rest
  | [] => []

/-- The text holds `*` or `?`. -/
def hasWildcards (text : Text) : Bool :=
  text.any fun c => c == '*' || c == '?'

/-- The text holds the escaped form of `*` or of `?`, in either case. -/
def hasEscapedWildcards (text : Text) : Bool :=
  let upper := text.upperAscii
  holds "%2A" upper || holds "%3F" upper

end Text

end RefExpand
