import RefExpand.Call.Catalog

namespace RefExpand

/-!
# Binding

Of the overloads of a member that take as many arguments as are given, the first
whose parameters the arguments fit is run, or else the one that takes only
texts, or else the first to which the arguments can be converted. With an out
placeholder every overload that can be run is run, and all must agree.
-/

/-- Why no value comes out of the overloads of a member. -/
inductive BindFault where
  | noMatch
  | ambiguous
  | failed (cause : CallError)
  deriving Repr, DecidableEq

namespace Overload

/-- Put an overload before the first one of a higher or equal rank. -/
def insertByRank (overload : Overload) : List Overload → List Overload
  | [] => [overload]
  | first :: rest =>
      if overload.rank ≤ first.rank then overload :: first :: rest
      else first :: insertByRank overload rest

/-- Sort by rank, keeping the order among equals. -/
def sortByRank : List Overload → List Overload
  | [] => []
  | first :: rest => insertByRank first (sortByRank rest)

/-- Every operand has its parameter's type as it is. -/
def fits (overload : Overload) (operands : List Operand) : Bool :=
  (operands.zip overload.parameters).all fun (operand, parameter) => operand.fits parameter

/-- Run the body. -/
def run (overload : Overload) (receiver : Option Value) (surroundings : Surroundings)
    (arguments : List Value) : Except BindFault Value :=
  (overload.body { receiver, arguments, surroundings }).mapError .failed

/-- The arguments of the overload, if the operands can be converted to them. -/
def arguments? (overload : Overload) (operands : List Operand) : Option (List Value) :=
  Operand.coerceAll? operands overload.parameters

/-- The overload and arguments to run, by the three rules in their order. -/
def choose? (candidates : List Overload) (operands : List Operand) :
    Option (Overload × List Value) :=
  match candidates.find? (·.fits operands) with
  | some overload => some (overload, operands.filterMap Operand.value?)
  | none =>
      let byConversion (overload : Overload) : Option (Overload × List Value) :=
        (overload.arguments? operands).map fun values => (overload, values)
      ((candidates.find? takesTexts).bind byConversion).or (candidates.findSome? byConversion)

/-- Run every overload to which the operands can be converted; the results must be the same. -/
def agree (receiver : Option Value) (surroundings : Surroundings) (operands : List Operand) :
    (agreed : Option Value) → List Overload → Except BindFault Value
  | none, [] => .error .noMatch
  | some value, [] => .ok value
  | agreed, overload :: rest =>
      match overload.arguments? operands with
      | none => agree receiver surroundings operands agreed rest
      | some values => do
          let result ← overload.run receiver surroundings values
          match agreed with
          | none => agree receiver surroundings operands (some result) rest
          | some previous =>
              if previous.same result then
                agree receiver surroundings operands (some previous) rest
              else
                throw .ambiguous

end Overload

namespace Member

/-- The overloads that take so many arguments, the narrowest numbers first if that is asked for. -/
def candidates (member : Member) (count : Nat) (byRank : Bool) : List Overload :=
  let found := member.overloads.filter fun overload => overload.arity == count
  if byRank then Overload.sortByRank found else found

/-- Call a member with operands. -/
def bind (member : Member) (receiver : Option Value) (surroundings : Surroundings)
    (operands : List Operand) (byRank : Bool) : Except BindFault Value :=
  let candidates := member.candidates operands.length byRank
  if candidates.isEmpty then
    .error .noMatch
  else if operands.any Operand.isOut then
    Overload.agree receiver surroundings operands none candidates
  else
    match Overload.choose? candidates operands with
    | some (overload, values) => overload.run receiver surroundings values
    | none => .error .noMatch

end Member

end RefExpand
