import RefExpand.Text.Basic

namespace RefExpand

/-!
# Parameter types

A member takes a fixed list of parameters. Integers of two widths share one
value type, an enumeration is an integer with named members, and an out
parameter only takes the out placeholder.
-/

/-- An enumeration: named numbers that combine if it is a set of flags. -/
structure EnumType where
  name : Text
  members : List (Text × Int64)
  flags : Bool
  deriving Repr, DecidableEq, Inhabited

namespace EnumType

/-- The number of a member, its name compared up to ASCII case. -/
def valueOf? (enumType : EnumType) (member : Text) : Option Int64 :=
  (enumType.members.find? fun (name, _) => Text.sameName name member).map (·.2)

/-- The name after its last point. -/
def shortName (enumType : EnumType) : Text :=
  (Text.splitAtChars (· == '.') enumType.name).getLast?.getD enumType.name

/-- How texts are compared; the odd ones ignore case. -/
def stringComparison : EnumType :=
  { name := "System.StringComparison"
    members := [
      ("CurrentCulture", 0),
      ("CurrentCultureIgnoreCase", 1),
      ("InvariantCulture", 2),
      ("InvariantCultureIgnoreCase", 3),
      ("Ordinal", 4),
      ("OrdinalIgnoreCase", 5)]
    flags := false }

/-- What a split does to its pieces. -/
def stringSplitOptions : EnumType :=
  { name := "System.StringSplitOptions"
    members := [("None", 0), ("RemoveEmptyEntries", 1), ("TrimEntries", 2)]
    flags := true }

end EnumType

/-- The type of one parameter. -/
inductive ParameterType where
  | str
  | int
  | long
  | float
  | bool
  | char
  | charArray
  | enumeration (enumType : EnumType)
  | version
  | any
  | out
  deriving Repr, DecidableEq, Inhabited

namespace ParameterType

/-- Wider numeric types have higher ranks; all else has none. -/
def numericRank : ParameterType → Nat
  | .int => 1
  | .long => 2
  | .float => 3
  | _ => 0

/-- The name of the type. -/
def name : ParameterType → Text
  | .str => "System.String"
  | .int => "System.Int32"
  | .long => "System.Int64"
  | .float => "System.Double"
  | .bool => "System.Boolean"
  | .char => "System.Char"
  | .charArray => "System.Char[]"
  | .enumeration enumType => enumType.name
  | .version => "System.Version"
  | .any => "System.Object"
  | .out => "out"

end ParameterType

end RefExpand
