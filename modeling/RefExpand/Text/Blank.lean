import RefExpand.Text.Basic

namespace RefExpand

/-!
# Blank characters

Two classes of blanks: the white space of Unicode, which trimming removes, and
the five blanks of ASCII, which the scanners skip. Vertical tab is in the first
only.
-/

/-- The property `White_Space` of Unicode. -/
def isBlank (c : Char) : Bool :=
  let code := c.toNat
  (0x9 ≤ code && code ≤ 0xD) || code == 0x20 || code == 0x85 || code == 0xA0 ||
    code == 0x1680 || (0x2000 ≤ code && code ≤ 0x200A) || code == 0x2028 ||
    code == 0x2029 || code == 0x202F || code == 0x205F || code == 0x3000

/-- Space, tab, line feed, form feed and carriage return. -/
def isAsciiBlank (c : Char) : Bool :=
  c == ' ' || c == '\t' || c == '\n' || c == '\x0c' || c == '\r'

namespace Text

/-- Remove the leading characters of a class. -/
def trimStartBy (p : Char → Bool) (text : Text) : Text :=
  text.dropWhile p

/-- Remove the trailing characters of a class. -/
def trimEndBy (p : Char → Bool) (text : Text) : Text :=
  (text.reverse.dropWhile p).reverse

/-- Remove the characters of a class from both ends. -/
def trimBy (p : Char → Bool) (text : Text) : Text :=
  trimEndBy p (trimStartBy p text)

/-- Remove the blanks from both ends. -/
def trim (text : Text) : Text :=
  trimBy isBlank text

/-- The text after its leading ASCII blanks. -/
def skipBlanks (text : Text) : Text :=
  text.dropWhile isAsciiBlank

theorem trimStartBy_suffix (p : Char → Bool) (text : Text) :
    text.trimStartBy p <:+ text :=
  List.dropWhile_suffix p

theorem trimEndBy_isPrefix (p : Char → Bool) (text : Text) :
    text.trimEndBy p <+: text := by
  have dropped := List.dropWhile_suffix p (l := text.reverse)
  simpa [trimEndBy] using List.reverse_prefix.mpr dropped

theorem trimBy_isInfix (p : Char → Bool) (text : Text) :
    text.trimBy p <:+: text :=
  (trimEndBy_isPrefix p _).isInfix.trans (trimStartBy_suffix p text).isInfix

theorem trim_isInfix (text : Text) : text.trim <:+: text :=
  trimBy_isInfix isBlank text

theorem skipBlanks_suffix (text : Text) : text.skipBlanks <:+ text :=
  List.dropWhile_suffix isAsciiBlank

end Text

end RefExpand
