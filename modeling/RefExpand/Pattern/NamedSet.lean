import RefExpand.Pattern.Unicode.Age
import RefExpand.Pattern.Unicode.Boundary
import RefExpand.Pattern.Unicode.Script

namespace RefExpand.CharSet

/-!
# Sets by name

The classes of ASCII, and the properties of Unicode by their names and values.
In the names of properties and values case, blanks, dashes, underscores and an
initial "is" do not count.
-/

/-- The small letters of ASCII. -/
def asciiLower : CharSet := .range 0x61 0x7A

/-- The capital letters of ASCII. -/
def asciiUpper : CharSet := .range 0x41 0x5A

/-- The digits of ASCII. -/
def asciiDigit : CharSet := .range 0x30 0x39

/-- The letters of ASCII. -/
def asciiLetter : CharSet := asciiLower.union asciiUpper

/-- The letters and digits of ASCII. -/
def asciiAlphanumeric : CharSet := asciiLetter.union asciiDigit

/-- What words of ASCII are made of: letters, digits and the underscore. -/
def asciiWord : CharSet := asciiAlphanumeric.union (.ofChar '_')

/-- The blanks of ASCII, vertical tab included. -/
def asciiBlank : CharSet := .ofSets [.range 0x9 0xD, .ofChar ' ']

/-- The printed characters of ASCII without the space. -/
def asciiGraph : CharSet := .range 0x21 0x7E

/-- The set of a name that stands between brackets and colons. -/
def ofAsciiName? (name : Text) : Option CharSet :=
  match name.toString with
  | "alnum" => some asciiAlphanumeric
  | "alpha" => some asciiLetter
  | "ascii" => some ascii
  | "blank" => some (.ofSets [.ofChar ' ', .ofChar '\t'])
  | "cntrl" => some (.ofSets [.range 0x0 0x1F, .single 0x7F])
  | "digit" => some asciiDigit
  | "graph" => some asciiGraph
  | "lower" => some asciiLower
  | "print" => some (.range 0x20 0x7E)
  | "punct" => some (asciiGraph.difference asciiAlphanumeric)
  | "space" => some asciiBlank
  | "upper" => some asciiUpper
  | "word" => some asciiWord
  | "xdigit" => some asciiHexDigit
  | _ => Option.none

/-- The set with a name in a table. -/
def lookup? (table : List (List String × CharSet)) (name : String) : Option CharSet :=
  (table.find? (·.1.contains name)).map (·.2)

/-- The script with a name. -/
def script? (name : String) : Option Script :=
  scripts.find? (·.names.contains name)

/-- The characters that are used with a script, be it as their first script or as one of several. -/
def Script.extension (script : Script) : CharSet :=
  let shared := sharedBlocks.filter fun block => script.names.any block.scripts.contains
  (script.members.difference (.ofSets (sharedBlocks.map (·.members)))).union
    (.ofSets (shared.map (·.members)))

/-- The characters that the version with a name had. -/
def age? (name : String) : Option CharSet :=
  let earlier := versions.takeWhile (!·.names.contains name)
  (versions[earlier.length]?).map fun version =>
    .ofSets (version.added :: earlier.map (·.added))

/-- A name with only what counts: letters and other marks of ASCII, in lower case. -/
def plainLetters (name : Text) : Text :=
  Text.lowerAscii <| name.filter fun c =>
    !(c == ' ' || c == '_' || c == '-') && c.toNat < 0x80

/-- A name without what does not count in it; `isc` is a name of its own. -/
def plainName (name : Text) : String :=
  match name with
  | first :: second :: rest =>
      if first.toLower == 'i' && second.toLower == 's' then
        let plain := plainLetters rest
        if plain == ['c'] then "isc" else plain.toString
      else
        (plainLetters name).toString
  | name => (plainLetters name).toString

/-- The set of a property, category or script with a name. -/
def ofName? (name : Text) : Option CharSet :=
  let plain := plainName name
  (lookup? binaryProperties plain).or <|
    (lookup? categories plain).or <| (script? plain).map (·.members)

/-- The set of the characters for which a property has a value. -/
def ofValue? (property value : Text) : Option CharSet :=
  let plain := plainName value
  match plainName property with
  | "gc" | "generalcategory" => lookup? categories plain
  | "sc" | "script" => (script? plain).map (·.members)
  | "scx" | "scriptextensions" => (script? plain).map Script.extension
  | "age" => age? plain
  | "gcb" | "graphemeclusterbreak" => lookup? graphemeBreaks plain
  | "wb" | "wordbreak" => lookup? wordBreaks plain
  | "sb" | "sentencebreak" => lookup? sentenceBreaks plain
  | _ => Option.none

end RefExpand.CharSet
