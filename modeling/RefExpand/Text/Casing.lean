import RefExpand.Text.Basic
import RefExpand.Text.Unicode.CaseTable
import RefExpand.Text.Unicode.ClassTable

namespace RefExpand

/-!
# Case of texts

Lower and upper case as Unicode 17 defines them for whole texts: some characters
become several, and a capital sigma at the end of a word becomes the final
small sigma.
-/

namespace Unicode

/-- The property `Alphabetic`. -/
def isAlphabetic (c : Char) : Bool :=
  if c.toNat < 0x80 then c.isAlpha else inRuns alphabeticRuns c.toNat

/-- The property `Lowercase`. -/
def isLowercase (c : Char) : Bool :=
  if c.toNat < 0x80 then c.isLower else inRuns lowercaseRuns c.toNat

/-- The property `Uppercase`. -/
def isUppercase (c : Char) : Bool :=
  if c.toNat < 0x80 then c.isUpper else inRuns uppercaseRuns c.toNat

/-- A decimal digit of any script. -/
def isDecimalDigit (c : Char) : Bool :=
  if c.toNat < 0x80 then c.isDigit else inRuns decimalDigitRuns c.toNat

/-- A number of any kind. -/
def isNumeric (c : Char) : Bool :=
  if c.toNat < 0x80 then c.isDigit
  else inRuns decimalDigitRuns c.toNat || inRuns otherNumberRuns c.toNat

/-- The property `Cased`. -/
def isCased (c : Char) : Bool :=
  isLowercase c || isUppercase c || inRuns titleCasedRuns c.toNat

/-- The property `Case_Ignorable`. -/
def isCaseIgnorable (c : Char) : Bool :=
  inRuns caseIgnorableRuns c.toNat

/-- The character a case table leads to, if it names one. -/
def shifted? (runs : List CaseRun) (c : Char) : Option Char :=
  (runs.find? (·.codes.contains c.toNat)).map fun run =>
    Char.ofNat ((c.toNat : Int) + run.shift).toNat

/-- The one lower-case partner of a character, or itself. -/
def simpleLower (c : Char) : Char :=
  if c.toNat < 0x80 then c.toLower else (shifted? toLowerRuns c).getD c

/-- The one upper-case partner of a character, or itself. -/
def simpleUpper (c : Char) : Char :=
  if c.toNat < 0x80 then c.toUpper else (shifted? toUpperRuns c).getD c

/-- The lower-case form of one character. -/
def lowerChar (c : Char) : Text :=
  if c == 'İ' then ['i', '\u0307'] else [simpleLower c]

/-- The upper-case form of one character. -/
def upperChar (c : Char) : Text :=
  if c.toNat < 0x80 then [c.toUpper]
  else
    match toUpperExpansions.find? (·.1 == c.toNat) with
    | some (_, codes) => codes.map Char.ofNat
    | none => [simpleUpper c]

/-- A cased character comes next, case-ignorable ones aside. -/
def meetsCased (text : Text) : Bool :=
  match text.dropWhile isCaseIgnorable with
  | [] => false
  | c :: _ => isCased c

end Unicode

namespace Text

open Unicode

/-- Lower case of the rest of a text, given what stands before it, last character first. -/
def lowerAfter (before : Text) : Text → Text
  | [] => []
  | c :: rest =>
      let lowered :=
        if c == 'Σ' then
          if meetsCased before && !meetsCased rest then ['ς'] else ['σ']
        else
          lowerChar c
      lowered ++ lowerAfter (c :: before) rest

/-- The text in lower case. -/
def lower (text : Text) : Text :=
  lowerAfter [] text

/-- The text in upper case. -/
def upper (text : Text) : Text :=
  text.flatMap upperChar

end Text

end RefExpand
