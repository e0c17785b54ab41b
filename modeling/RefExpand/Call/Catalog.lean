import RefExpand.Call.Coercion
import RefExpand.Call.Invocation

namespace RefExpand

/-!
# Catalogs

All that can be called is listed: a member is a name with overloads, an overload
is a list of parameter types with a body, and a type is a name with members and
a rule that says which of them anyone may call. Nothing else is reachable.
-/

/-- One way to call a member. -/
structure Overload where
  parameters : List ParameterType
  body : Body

namespace Overload

/-- The number of parameters. -/
def arity (overload : Overload) : Nat :=
  overload.parameters.length

/-- Every parameter is a text. -/
def takesTexts (overload : Overload) : Bool :=
  overload.parameters.all (· == .str)

/-- The sum of the numeric ranks of the parameters. -/
def rank (overload : Overload) : Nat :=
  overload.parameters.foldl (fun rank parameter => rank + parameter.numericRank) 0

/-- The parameter types in parentheses. -/
def text (overload : Overload) : Text :=
  '(' :: (Text.join ", " (overload.parameters.map ParameterType.name) ++ [')'])

end Overload

/-- A name with the ways to call it. -/
structure Member where
  name : Text
  overloads : List Overload

namespace Member

/-- The member of a name, up to ASCII case. -/
def find? (members : List Member) (name : Text) : Option Member :=
  members.find? fun member => Text.sameName member.name name

/-- A member with one overload. -/
def single (name : String) (parameters : List ParameterType) (body : Body) : Member :=
  { name, overloads := [{ parameters, body }] }

/-- A member whose overloads share one body. -/
def shared (name : String) (parameterLists : List (List ParameterType)) (body : Body) : Member :=
  { name, overloads := parameterLists.map fun parameters => { parameters, body } }

end Member

/-- Which members of a type anyone may call. -/
inductive Allowance where
  | all
  | only (names : List Text)
  deriving Repr, DecidableEq

/-- A type whose members are called by its name. -/
structure TypeEntry where
  name : Text
  members : List Member
  allowance : Allowance := .all
  /-- The type belongs to the engine, and nothing of it is withheld. -/
  isIntrinsic : Bool := false
  /-- The members whose overloads are tried from the narrowest numbers on. -/
  arithmetic : List Text := []
  /-- The members whose text results are already escaped. -/
  preescaped : List Text := []

namespace TypeEntry

/-- The member of a name. -/
def member? (entry : TypeEntry) (name : Text) : Option Member :=
  Member.find? entry.members name

/-- Anyone may call the member. -/
def allows (entry : TypeEntry) (member : Text) : Bool :=
  match entry.allowance with
  | .all => true
  | .only names => names.any fun name => Text.sameName name member

/-- The overloads of the member are tried from the narrowest numbers on. -/
def isArithmetic (entry : TypeEntry) (member : Text) : Bool :=
  entry.arithmetic.any (Text.sameName member)

/-- The text results of the member are already escaped. -/
def returnsEscaped (entry : TypeEntry) (member : Text) : Bool :=
  entry.preescaped.any (Text.sameName member)

/-- The type of a name, up to ASCII case. -/
def find? (types : List TypeEntry) (name : Text) : Option TypeEntry :=
  types.find? fun entry => Text.sameName entry.name name

end TypeEntry

/-- What the arguments of a common call are read as. -/
inductive DirectArguments where
  | texts
  | integers
  deriving Repr, DecidableEq

/-- A common call that is recognised by its name and the number of its arguments. -/
structure DirectCall where
  /-- The name of the member in lower case. -/
  member : Text
  counts : List Nat
  takes : DirectArguments := .texts
  body : Body

/-- Everything that can be called. -/
structure Catalog where
  types : List TypeEntry
  /-- Types that only a probe finds. -/
  additional : List TypeEntry
  /-- The members of a value. -/
  membersOf : Value → List Member
  /-- The common calls on types, by the name under which the type is listed. -/
  directTypeCalls : List (Text × List DirectCall)
  /-- The common calls on texts. -/
  directTextCalls : List DirectCall

namespace Catalog

/-- The type of a name. -/
def type? (catalog : Catalog) (name : Text) : Option TypeEntry :=
  TypeEntry.find? catalog.types name

/-- The type of a name among those that only a probe finds. -/
def additionalType? (catalog : Catalog) (name : Text) : Option TypeEntry :=
  TypeEntry.find? catalog.additional name

/-- The common calls on a type. -/
def directCallsOn (catalog : Catalog) (typeName : Text) : List DirectCall :=
  (catalog.directTypeCalls.lookup typeName).getD []

end Catalog

end RefExpand
