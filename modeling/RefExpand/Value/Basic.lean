import RefExpand.Number.Shortest
import RefExpand.Text.Escaping
import RefExpand.Value.DateTime
import RefExpand.Value.Version

namespace RefExpand

/-!
# Values

What a lone property reference may yield. A text at the top is always escaped;
texts inside a sequence or a table are raw and are escaped on the way out.
-/

/-- The result of a property function or of an expansion. -/
inductive Value where
  | null
  | str (text : Text)
  | char (c : Char)
  | bool (b : Bool)
  | int (n : Int64)
  | float (f : Float)
  | version (v : Version)
  | dateTime (moment : DateTime)
  | seq (items : List Value)
  | table (entries : List (Value × Value))
  deriving Inhabited

namespace Value

mutual

/-- The text of a value as it reads, without escaping. -/
def raw : Value → Text
  | .null => []
  | .str text => text
  | .char c => [c]
  | .bool b => if b then "True" else "False"
  | .int n => Decimal.ofInt64 n
  | .float f => Number.floatText f
  | .version v => v.text
  | .dateTime moment => moment.text
  | .seq items => Text.join [';'] (rawItems items)
  | .table entries => Text.join [';'] (rawEntries entries)

/-- The raw texts of the items of a sequence. -/
def rawItems : List Value → List Text
  | [] => []
  | item :: items => item.raw :: rawItems items

/-- The entries of a table as `key=value`. -/
def rawEntries : List (Value × Value) → List Text
  | [] => []
  | (key, value) :: entries => (key.raw ++ '=' :: value.raw) :: rawEntries entries

end

/-- The text of a value in escaped form, its parts separated by semicolons. -/
def escaped : Value → Text
  | .null => []
  | .str text => text
  | .seq items => Text.join [';'] ((rawItems items).map Text.escape)
  | .table entries =>
      Text.join [';'] (entries.map fun (key, value) => key.raw.escape ++ '=' :: value.raw.escape)
  | other => other.raw.escape

/-- The name of the type of a value. -/
def typeName : Value → Text
  | .null => "null"
  | .str _ => "System.String"
  | .char _ => "System.Char"
  | .bool _ => "System.Boolean"
  | .int _ => "System.Int64"
  | .float _ => "System.Double"
  | .version _ => "System.Version"
  | .dateTime _ => "System.DateTime"
  | .seq _ => "System.Object[]"
  | .table _ => "System.Collections.IDictionary"

/-- The value is null. -/
def isNull : Value → Bool
  | .null => true
  | _ => false

/-- The value is null or the empty text. -/
def isEmpty : Value → Bool
  | .null => true
  | .str text => text.isEmpty
  | _ => false

/-- The text of a value that is a text. -/
def text? : Value → Option Text
  | .str text => some text
  | _ => none

mutual

/-- Equality of values, doubles comparing as numbers. -/
def same : Value → Value → Bool
  | .null, .null => true
  | .str left, .str right => left == right
  | .char left, .char right => left == right
  | .bool left, .bool right => left == right
  | .int left, .int right => left == right
  | .float left, .float right => left == right
  | .version left, .version right => left == right
  | .dateTime left, .dateTime right => left == right
  | .seq left, .seq right => sameItems left right
  | .table left, .table right => sameEntries left right
  | _, _ => false

/-- Equality of sequences, item by item. -/
def sameItems : List Value → List Value → Bool
  | [], [] => true
  | left :: lefts, right :: rights => left.same right && sameItems lefts rights
  | _, _ => false

/-- Equality of tables, entry by entry. -/
def sameEntries : List (Value × Value) → List (Value × Value) → Bool
  | [], [] => true
  | (leftKey, left) :: lefts, (rightKey, right) :: rights =>
      leftKey.same rightKey && left.same right && sameEntries lefts rights
  | _, _ => false

end

end Value

end RefExpand
