import Mathlib.Data.List.Forall2
import RefExpand.Call.Resolver
import RefExpand.Proofs.Text.Name

namespace RefExpand

/-!
# Members behind the gate

A policy that does not lift the gate withholds some members: of a type those
that it does not list as open, and of a value the one that tells its type. Two
catalogs are the same outside the gate if they differ in withheld members only,
and in the types that none but a probe finds. Resolvers with such catalogs give
the same results.
-/

/-- Members of one name, which are the same member if the name is open. -/
structure Member.SameIf
    (opens : Text → Bool)
    (left right : Member) : Prop where
  name :
    left.name = right.name
  same :
    opens left.name = true → left = right

/-- An open name leads to the same member in both lists. -/
theorem Member.find?_eq_of_sameIf
    {opens : Text → Bool}
    (respects :
      ∀ {known name : Text},
        Text.sameName known name = true → opens known = opens name)
    {left right : List Member}
    (alike : List.Forall₂ (Member.SameIf opens) left right)
    {name : Text}
    (isOpen : opens name = true) :
    Member.find? left name = Member.find? right name := by
  induction alike with
  | nil =>
      rfl
  | @cons first second lefts rights head _ inductionHypothesis =>
      simp only [Member.find?, List.find?_cons] at inductionHypothesis ⊢
      rw [← head.name]
      cases here : Text.sameName first.name name with
      | true =>
          have firstOpen : opens first.name = true :=
            (respects here).trans isOpen
          simp [head.same firstOpen]
      | false =>
          exact inductionHypothesis

namespace TypeEntry

/-- The member may be called although the gate is not lifted. -/
def opens
    (entry : TypeEntry)
    (member : Text) :
    Bool :=
  entry.isIntrinsic || entry.allows member

/-- The names of the members that the gate withholds. -/
def withheld
    (entry : TypeEntry) :
    List Text :=
  (entry.members.map (·.name)).filter fun name => !entry.opens name

/-- Two types that differ in withheld members only. -/
structure SameOutside
    (left right : TypeEntry) : Prop where
  name :
    left.name = right.name
  allowance :
    left.allowance = right.allowance
  isIntrinsic :
    left.isIntrinsic = right.isIntrinsic
  arithmetic :
    left.arithmetic = right.arithmetic
  preescaped :
    left.preescaped = right.preescaped
  members :
    List.Forall₂ (Member.SameIf left.opens) left.members right.members

theorem opens_congr
    (entry : TypeEntry)
    {known name : Text}
    (same : Text.sameName known name = true) :
    entry.opens known = entry.opens name := by
  simp only [opens, allows, Text.sameName_congr_right same]

namespace SameOutside

variable {left right : TypeEntry}

theorem opens
    (same : left.SameOutside right)
    (member : Text) :
    right.opens member = left.opens member := by
  simp only [TypeEntry.opens, TypeEntry.allows, same.isIntrinsic, same.allowance]

theorem member?
    (same : left.SameOutside right)
    {name : Text}
    (isOpen : left.opens name = true) :
    Member.find? left.members name = Member.find? right.members name :=
  Member.find?_eq_of_sameIf left.opens_congr same.members isOpen

end SameOutside

/-- Types that are the same outside the gate are found under the same names. -/
theorem find?_sameOutside
    {left right : List TypeEntry}
    (alike : List.Forall₂ SameOutside left right)
    (name : Text) :
    Option.Rel SameOutside (find? left name) (find? right name) := by
  induction alike with
  | nil =>
      exact .none
  | @cons first second lefts rights head _ inductionHypothesis =>
      simp only [find?, List.find?_cons] at inductionHypothesis ⊢
      rw [← head.name]
      cases Text.sameName first.name name with
      | true =>
          exact .some head
      | false =>
          exact inductionHypothesis

end TypeEntry

/-- The name of a member of a value is open: it does not tell the type. -/
def Member.isOpenOnValue
    (name : Text) :
    Bool :=
  !Text.sameName name "GetType"

theorem Member.isOpenOnValue_congr
    {known name : Text}
    (same : Text.sameName known name = true) :
    Member.isOpenOnValue known = Member.isOpenOnValue name := by
  unfold Member.isOpenOnValue Text.sameName
  rw [Text.sameName_iff.mp same]

/-- Two catalogs that differ in what is behind the gate and in what only a probe finds. -/
structure Catalog.SameOutside
    (left right : Catalog) : Prop where
  types :
    List.Forall₂ TypeEntry.SameOutside left.types right.types
  membersOf :
    ∀ value,
      List.Forall₂ (Member.SameIf Member.isOpenOnValue)
        (left.membersOf value) (right.membersOf value)
  directTypeCalls :
    left.directTypeCalls = right.directTypeCalls
  directTextCalls :
    left.directTextCalls = right.directTextCalls

/-- Two resolvers behind the gate whose catalogs are the same outside it. -/
structure Resolver.SameOutside
    (left right : Resolver) : Prop where
  catalog :
    left.catalog.SameOutside right.catalog
  policy :
    left.policy = right.policy
  gated :
    left.policy.allowAll = false
  listedOnly :
    left.policy.probesTypes = false

namespace Resolver.SameOutside

variable {left right : Resolver}

/-- A call on a type that both resolvers found has the same result. -/
theorem callOpen
    (same : left.SameOutside right)
    {first second : TypeEntry}
    (alike : first.SameOutside second)
    {name : Text}
    (isOpen : first.opens name = true)
    (operands : List Operand)
    (surroundings : Surroundings)
    (context : Text) :
    left.callOpen first name operands surroundings context =
      right.callOpen second name operands surroundings context := by
  simp only [Resolver.callOpen, Catalog.directCallsOn, callMember,
    TypeEntry.isArithmetic, same.catalog.directTypeCalls, alike.name,
    alike.arithmetic, alike.member? isOpen]

/-- A call on a type has the same result, also where the gate is closed. -/
theorem callStatic
    (same : left.SameOutside right)
    {leftFound rightFound : Option TypeEntry}
    (alike : Option.Rel TypeEntry.SameOutside leftFound rightFound)
    (typeName name : Text)
    (operands : List Operand)
    (surroundings : Surroundings)
    (context : Text) :
    left.callStatic leftFound typeName name operands surroundings context =
      right.callStatic rightFound typeName name operands surroundings context := by
  cases alike with
  | none =>
      rfl
  | @some first second entries =>
      have leftPermits : left.permits first name = first.opens name := by
        simp [permits, TypeEntry.opens, same.gated]
      have rightPermits : right.permits second name = first.opens name := by
        rw [← entries.opens]
        simp [permits, TypeEntry.opens, ← same.policy, same.gated]
      simp only [Resolver.callStatic, leftPermits, rightPermits]
      cases isOpen : first.opens name with
      | false =>
          rfl
      | true =>
          simp only [↓reduceIte, TypeEntry.returnsEscaped, entries.preescaped,
            same.callOpen entries isOpen]

/-- A call on a value has the same result, also where the gate is closed. -/
theorem callInstance
    (same : left.SameOutside right)
    (kind : MemberKind)
    (written : Text)
    (receiver : Value)
    (operands : List Operand)
    (surroundings : Surroundings)
    (context : Text) :
    left.callInstance kind written receiver operands surroundings context =
      right.callInstance kind written receiver operands surroundings context := by
  simp only [Resolver.callInstance, ← same.policy, same.gated]
  generalize plainReceiver receiver = plain
  generalize (if kind = .indexer then indexerName plain else written) = name
  -- The member that tells the type is for the policy alone, and the policies are the same.
  cases tellsType : Text.sameName name "GetType" with
  | true =>
      rfl
  | false =>
      have isOpen : Member.isOpenOnValue name = true := by
        rw [Member.isOpenOnValue, tellsType]
        rfl
      have members :
          Member.find? (left.catalog.membersOf plain) name =
            Member.find? (right.catalog.membersOf plain) name :=
        Member.find?_eq_of_sameIf Member.isOpenOnValue_congr
          (same.catalog.membersOf plain) isOpen
      have directCalls :
          left.directCallsOnValue plain = right.directCallsOnValue plain := by
        cases plain <;> simp [directCallsOnValue, same.catalog.directTextCalls]
      simp only [callOnPlain, callMember, members, directCalls]

end Resolver.SameOutside

/-- The member with other bodies, one for each list of parameters. -/
def Member.withBodies
    (member : Member)
    (bodies : List ParameterType → Body) :
    Member :=
  { member with
    overloads :=
      member.overloads.map fun overload =>
        { overload with body := bodies overload.parameters } }

/-- Members, of which those that are not open get other bodies. -/
def Member.replaceUnless
    (opens : Text → Bool)
    (bodies : Text → List ParameterType → Body)
    (members : List Member) :
    List Member :=
  members.map fun member =>
    if opens member.name then member else member.withBodies (bodies member.name)

/-- Replacing bodies keeps the open members. -/
theorem Member.replaceUnless_sameIf
    (opens : Text → Bool)
    (bodies : Text → List ParameterType → Body)
    (members : List Member) :
    List.Forall₂ (SameIf opens) members (replaceUnless opens bodies members) := by
  rw [replaceUnless, List.forall₂_map_right_iff, List.forall₂_same]
  intro member _
  cases isOpen : opens member.name with
  | true =>
      exact ⟨rfl, fun _ => rfl⟩
  | false =>
      exact ⟨rfl, fun claimed => absurd claimed (by simp [isOpen])⟩

/-- Bodies for everything that is behind the gate. -/
structure WithheldBodies where
  /-- The bodies of withheld members, by the names of type and member. -/
  onType : Text → Text → List ParameterType → Body
  /-- The bodies of the member that tells the type of a value. -/
  onValue : Value → List ParameterType → Body
  /-- The bodies of the members of the types that only a probe finds. -/
  probed : Text → Text → List ParameterType → Body

/-- The catalog with other bodies for everything that is behind the gate. -/
def Catalog.replaceWithheld
    (catalog : Catalog)
    (bodies : WithheldBodies) :
    Catalog :=
  { catalog with
    types :=
      catalog.types.map fun entry =>
        { entry with
          members := Member.replaceUnless entry.opens (bodies.onType entry.name) entry.members }
    additional :=
      catalog.additional.map fun entry =>
        { entry with
          members :=
            Member.replaceUnless (fun _ => false) (bodies.probed entry.name) entry.members }
    membersOf := fun value =>
      Member.replaceUnless Member.isOpenOnValue (fun _ => bodies.onValue value)
        (catalog.membersOf value) }

/-- Other bodies behind the gate make no difference outside it. -/
theorem Catalog.replaceWithheld_sameOutside
    (catalog : Catalog)
    (bodies : WithheldBodies) :
    catalog.SameOutside (catalog.replaceWithheld bodies) where
  types := by
    unfold replaceWithheld
    rw [List.forall₂_map_right_iff, List.forall₂_same]
    intro entry _
    exact
      { name := rfl
        allowance := rfl
        isIntrinsic := rfl
        arithmetic := rfl
        preescaped := rfl
        members := Member.replaceUnless_sameIf _ _ _ }
  membersOf value :=
    Member.replaceUnless_sameIf Member.isOpenOnValue (fun _ => bodies.onValue value)
      (catalog.membersOf value)
  directTypeCalls := rfl
  directTextCalls := rfl

end RefExpand
