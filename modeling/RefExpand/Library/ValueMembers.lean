import RefExpand.Library.TextMembers
import RefExpand.Value.DatePattern
import RefExpand.Value.NumberPattern

namespace RefExpand

/-!
# Members of values

What can be called on a value that is no text: sequences, tables, versions,
numbers, truth values, characters and moments. Every value but null tells its
type.
-/

namespace ValueMembers

/-- The number of items or entries of the receiver. -/
def size : Body := fun call => do
  match ← call.this with
  | .seq items => return .int (Int64.ofNat items.length)
  | .table entries => return .int (Int64.ofNat entries.length)
  | other => return .int (Int64.ofNat other.raw.length)

/-- The item of a sequence at a position. -/
def itemAt : Body := fun call => do
  match ← call.this with
  | .seq items =>
      let n ← call.integer 0
      match if n < 0 then none else items[n.toInt.toNat]? with
      | some item => return item
      | none => throw (.failed "Index was outside the bounds of the array.")
  | _ => throw (.failed "receiver is not a sequence")

/-- The value of the first entry whose key has the raw text of a key. -/
def valueUnder? (entries : List (Value × Value)) (key : Value) : Option Value :=
  (entries.find? fun (known, _) => known.raw == key.raw).map (·.2)

/-- The entries of the receiver. -/
def thisEntries (call : Invocation) : Except CallError (List (Value × Value)) := do
  match ← call.this with
  | .table entries => return entries
  | _ => throw (.failed "receiver is not a dictionary")

/-- The value under a key, null if there is none. -/
def entryAt : Body := fun call => do
  return (valueUnder? (← thisEntries call) (call.argument 0)).getD .null

/-- There is a value under a key. -/
def containsKey : Body := fun call => do
  return .bool (valueUnder? (← thisEntries call) (call.argument 0)).isSome

/-- The members of a sequence. -/
def sequenceMembers : List Member := [
  .single "Length" [] size,
  .single "Count" [] size,
  .single "get_Item" [.int] itemAt,
  .single "GetValue" [.int] itemAt,
  TextMembers.typeMember]

/-- The members of a table. -/
def tableMembers : List Member := [
  .single "Count" [] size,
  .single "get_Item" [.any] entryAt,
  .single "ContainsKey" [.any] containsKey,
  TextMembers.typeMember]

/-- The version that is the receiver. -/
def thisVersion (call : Invocation) : Except CallError Version := do
  match ← call.this with
  | .version v => return v
  | _ => throw (.failed "receiver is not a version")

/-- A component of the receiver, -1 if it is not defined. -/
def component (read : Version → Option Nat) : Body := fun call => do
  return .int (((read (← thisVersion call)).map Int64.ofNat).getD (-1))

/-- The text of the first components of the receiver. -/
def versionFields : Body := fun call => do
  let n ← call.integer 0
  let v ← thisVersion call
  match if n < 0 then none else v.textOfFields? n.toInt.toNat with
  | some text => return .str text
  | none => throw (.failed "fieldCount exceeds the number of defined components")

/-- The order of the receiver and another version. -/
def versionCompareTo : Body := fun call => do
  let v ← thisVersion call
  return .int (orderNumber (v.order (← call.version 0)))

/-- The receiver and another version have the same components. -/
def versionEquals : Body := fun call => do
  let v ← thisVersion call
  return .bool (v == (← call.version 0))

/-- The members of a version. -/
def versionMembers : List Member := [
  .single "Major" [] (component fun v => some v.major),
  .single "Minor" [] (component fun v => some v.minor),
  .single "Build" [] (component (·.build)),
  .single "Revision" [] (component (·.revision)),
  { name := "ToString"
    overloads := [
      { parameters := [], body := TextMembers.toText },
      { parameters := [.int], body := versionFields }] },
  .single "CompareTo" [.version] versionCompareTo,
  .single "Equals" [.version] versionEquals,
  TextMembers.typeMember]

/-- The text of a number under a pattern; its own text where the pattern does not apply. -/
def formatted : Body := fun call => do
  let this ← call.this
  let pattern ← call.textOrEmpty 0
  let text ← (this.formatNumber pattern).mapError .halted
  return .str (text.getD this.raw)

/-- The order of two scalars of one type. -/
def scalarOrder? : Value → Value → Option Ordering
  | .int left, .int right => some (compare left.toInt right.toInt)
  | .float left, .float right => some (compare (Number.orderKey left) (Number.orderKey right))
  | .bool left, .bool right => some (compare left.toNat right.toNat)
  | .char left, .char right => some (compare left.toNat right.toNat)
  | _, _ => none

/-- The order of the receiver and a scalar of its type. -/
def scalarCompareTo : Body := fun call => do
  let this ← call.this
  match scalarOrder? this (call.argument 0) with
  | some ordering => return .int (orderNumber ordering)
  | none =>
      throw <| .failed <|
        "cannot compare ".toList ++ this.typeName ++ " with ".toList ++ (call.argument 0).typeName

/-- The receiver is the same value as the argument. -/
def scalarEquals : Body := fun call => do
  return .bool ((← call.this).same (call.argument 0))

/-- The members that compare a scalar with one of its type. -/
def comparisons (type : ParameterType) : List Member := [
  .single "CompareTo" [type] scalarCompareTo,
  .single "Equals" [type] scalarEquals,
  TextMembers.typeMember]

/-- The text of a number, perhaps under a pattern. -/
def numberText : Member :=
  { name := "ToString"
    overloads := [
      { parameters := [], body := TextMembers.toText },
      { parameters := [.str], body := formatted }] }

/-- The moment that is the receiver. -/
def thisMoment (call : Invocation) : Except CallError DateTime := do
  match ← call.this with
  | .dateTime moment => return moment
  | _ => throw (.failed "receiver is not a date-time")

/-- A part of the receiver as an integer. -/
def momentPart (read : DateTime → Int) : Body := fun call => do
  return .int (Int64.ofInt (read (← thisMoment call)))

/-- The text of the receiver under a date pattern. -/
def momentText : Body := fun call => do
  let moment ← thisMoment call
  return .str (moment.format (← call.textOrEmpty 0))

/-- Round a double to the nearest integer of 64 bits, halves away from zero. -/
def nearestAway (f : Float) : Int64 :=
  Number.toInt64Clamped f.round

/-- The receiver moved by a number of days, to the nearest millisecond. -/
def addDays : Body := fun call => do
  let milliseconds := nearestAway ((← call.float 0) * 86400000.0)
  let moment ← thisMoment call
  match moment.addMilliseconds? milliseconds.toInt with
  | some later => return .dateTime later
  | none =>
      throw <| .failed
        "The added or subtracted value results in an un-representable DateTime."

/-- The members of a moment. -/
def momentMembers : List Member := [
  { name := "ToString"
    overloads := [
      { parameters := [], body := TextMembers.toText },
      { parameters := [.str], body := momentText }] },
  .single "Year" [] (momentPart (·.date.year)),
  .single "Month" [] (momentPart (·.date.month)),
  .single "Day" [] (momentPart (·.date.day)),
  .single "Hour" [] (momentPart (·.hour)),
  .single "Minute" [] (momentPart (·.minute)),
  .single "Second" [] (momentPart (·.second)),
  .single "DayOfYear" [] (momentPart (·.dayOfYear)),
  .single "AddDays" [.float] addDays,
  TextMembers.typeMember]

/-- The members of a value. -/
def of : Value → List Member
  | .null => []
  | .str _ => TextMembers.members
  | .seq _ => sequenceMembers
  | .table _ => tableMembers
  | .version _ => versionMembers
  | .int _ => numberText :: comparisons .long
  | .float _ => numberText :: comparisons .float
  | .bool _ => .single "ToString" [] TextMembers.toText :: comparisons .bool
  | .char _ => .single "ToString" [] TextMembers.toText :: comparisons .char
  | .dateTime _ => momentMembers

end ValueMembers

end RefExpand
