import RefExpand.Call.Invocation
import RefExpand.Number.FloatReading
import RefExpand.Text.Part
import RefExpand.Value.DatePattern
import RefExpand.Value.NumberPattern

namespace RefExpand

/-!
# Composite formats

A composite format is text with items `{index,width:pattern}`, where width and
pattern may be left out. Braces that stand for themselves are doubled.
-/

namespace Composite

/-- One item of a composite format. -/
structure FormatItem where
  index : Nat
  width : Option Int64
  pattern : Option Text
  deriving Repr, DecidableEq

/-- Read an item between its braces. -/
def readItem? (text : Text) : Option FormatItem := do
  let (head, pattern) :=
    match Text.breakAt? (· == ':') text with
    | some (head, pattern) => (head, some pattern)
    | none => (text, none)
  match Text.breakAt? (· == ',') head with
  | some (index, width) =>
      let width ← Number.readInteger? width
      let index ← Decimal.readNat64? index.trim
      return { index, width := some width, pattern }
  | none =>
      let index ← Decimal.readNat64? head.trim
      return { index, width := none, pattern }

/-- A value under the pattern of an item; its own text where the pattern does not apply. -/
def formatValue (value : Value) (pattern : Option Text) : Except CallError Text :=
  match pattern, value with
  | none, value => .ok value.raw
  | some pattern, .dateTime moment => .ok (moment.format pattern)
  | some pattern, value =>
      ((value.formatNumber pattern).mapError .halted).map (·.getD value.raw)

/-- Pad with blanks, before a text for a positive width and behind it for a negative one. -/
def align (width : Int64) (text : Text) : Text :=
  let gap := List.replicate (width.toInt.natAbs - text.length) ' '
  if width < 0 then text ++ gap else gap ++ text

/-- Format one item. -/
def fillItem (arguments : List Value) (item : FormatItem) : Except CallError Text :=
  match arguments[item.index]? with
  | none =>
      .error <| .failed
        "Index (zero based) must be greater than or equal to zero and less than the size of the argument list."
  | some value => do
      let text ← formatValue value item.pattern
      return match item.width with
        | some width => align width text
        | none => text

/-- What is said of a malformed format. -/
def malformed : CallError :=
  .failed "Input string was not in a correct format."

/-- Fill the items of a composite format with arguments. -/
def format (arguments : List Value) (text : Text) : Except CallError Text :=
  match text with
  | [] => .ok []
  | '{' :: '{' :: rest => (format arguments rest).map ('{' :: ·)
  | '}' :: '}' :: rest => (format arguments rest).map ('}' :: ·)
  | '}' :: _ => .error malformed
  | '{' :: rest =>
      match _found : Text.breakAt? (· == '}') rest with
      | none => .error malformed
      | some (inner, after) =>
          match readItem? inner with
          | none => .error malformed
          | some item => do
              let filled ← fillItem arguments item
              let tail ← format arguments after
              return filled ++ tail
  | c :: rest => (format arguments rest).map (c :: ·)
termination_by text.length
decreasing_by
  all_goals try simp only [List.length_cons]
  all_goals try omega
  obtain ⟨_, _, rfl⟩ := Text.breakAt?_eq_append _found
  simp only [List.length_append, List.length_cons]
  omega

end Composite

end RefExpand
