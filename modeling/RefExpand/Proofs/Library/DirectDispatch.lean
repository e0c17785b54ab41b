import Mathlib.Data.List.Nodup
import RefExpand.Library.Standard
import RefExpand.Proofs.Call.DirectDispatch
import RefExpand.Proofs.Library.Standard

namespace RefExpand

/-!
# The common calls of the standard catalog

Each of them mirrors the members of its type, or of texts. So which calls are
common is a matter of speed: with them or without them a call gives the same
value, or fails in the same way. They are recognised by names alone, so a probe
that gives a type of its own the name of a catalogued one does not get its own
members called where a common call has their names.
-/

namespace Catalog

/-- A call on texts mirrors a member of its name that takes so many texts. -/
theorem mirrors_direct
    {members : List Member}
    {member : String}
    {counts : List Nat}
    {body : Body} :
    (direct member counts body).Mirrors members ↔
      ∀ count ∈ counts,
        (Member.find? members member).map (·.candidates count false) =
          some [{ parameters := List.replicate count .str, body }] :=
  Iff.rfl

/-- The common calls on a type belong to a listed type of that name, whose members they mirror. -/
theorem exists_type_of_typeCalls :
    ∀ listed ∈ typeCalls, ∃ entry ∈ standardTypes,
      entry.name = listed.1 ∧ ∀ call ∈ listed.2, call.Mirrors entry.members := by
  unfold typeCalls
  simp only [List.forall_mem_cons, mirrors_direct, List.not_mem_nil, false_implies, implies_true,
    and_true]
  refine
    ⟨⟨Intrinsics.entry, by simp [standardTypes], rfl, ?_⟩,
      ⟨SystemTypes.pathType, by simp [standardTypes], rfl, ?_⟩,
      ⟨SystemTypes.fileType, by simp [standardTypes], rfl, ?_⟩,
      ⟨SystemTypes.directoryType, by simp [standardTypes], rfl, ?_⟩,
      ⟨SystemTypes.environmentType, by simp [standardTypes], rfl, ?_⟩⟩
  all_goals
    and_intros <;> rfl

theorem mirrors_textCalls :
    ∀ call ∈ textCalls, call.Mirrors TextMembers.members := by
  have substring :
      DirectCall.Mirrors TextMembers.members
        { member := "substring", counts := [1, 2], takes := .integers,
          body := TextMembers.substring } := by
    simp only [DirectCall.Mirrors, List.forall_mem_cons, List.not_mem_nil, false_implies,
      implies_true, and_true]
    and_intros <;> rfl
  unfold textCalls
  simp only [List.forall_mem_cons, mirrors_direct, List.not_mem_nil, false_implies, implies_true,
    and_true]
  refine ⟨substring, ?_⟩
  and_intros <;> rfl

/-- No two listed types have one name. -/
theorem eq_of_name_standardTypes
    {left right : TypeEntry}
    (isLeft : left ∈ standardTypes)
    (isRight : right ∈ standardTypes)
    (sameName : left.name = right.name) :
    left = right := by
  have names : (standardTypes.map TypeEntry.name).Nodup := by
    decide
  exact List.inj_on_of_nodup_map names isLeft isRight sameName

/-- A type that is the only one of its name has common calls that mirror its members, if any. -/
theorem mirrors_directCallsOn
    {entry : TypeEntry}
    (only : ∀ listed ∈ standardTypes, listed.name = entry.name → listed = entry) :
    ∀ call ∈ standard.directCallsOn entry.name, call.Mirrors entry.members := by
  unfold directCallsOn
  cases found : standard.directTypeCalls.lookup entry.name with
  | none =>
      exact List.forall_mem_nil _
  | some calls =>
      obtain ⟨_, _, split, -⟩ := List.lookup_eq_some_iff.mp found
      have listed : (entry.name, calls) ∈ typeCalls :=
        List.mem_iff_append.mpr ⟨_, _, split⟩
      obtain ⟨owner, isOwner, sameName, mirror⟩ := exists_type_of_typeCalls _ listed
      rw [← only owner isOwner sameName]
      exact mirror

/-- No listed type has the name of another type of the catalog. -/
theorem eq_of_isKnown
    {entry : TypeEntry}
    (isKnown : entry ∈ standard.types ++ standard.additional) :
    ∀ listed ∈ standardTypes, listed.name = entry.name → listed = entry := by
  intro listed isListed sameName
  have unlisted : ∀ listed ∈ standardTypes, listed.name ≠ SystemTypes.runtimeType.name := by
    decide
  rcases List.mem_append.mp isKnown with isType | isAdditional
  · exact eq_of_name_standardTypes isListed isType sameName
  · rw [List.mem_singleton.mp isAdditional] at sameName
    exact absurd sameName (unlisted listed isListed)

/--
Whether the common calls are looked at makes no difference. On every type of the
catalog, and on one that a probe makes up if no common call has its name and the
member's, and on every value, texts, nulls and placeholders give the same value or
the same failure.
-/
theorem direct_calls_are_invisible
    (policy : CallPolicy)
    (probe : TypeProbe)
    (operands : List Operand)
    (evaluated : ∀ operand ∈ operands, operand.isEvaluated = true) :
    let resolver : Resolver := { catalog := standard, policy, probe }
    (∀ entry name,
      (entry ∈ standard.types ++ standard.additional ∨
          ∀ call ∈ standard.directCallsOn entry.name, call.member ≠ name.lowerAscii) →
        ∀ typeName surroundings context,
          resolver.withoutDirectCalls.callStatic (some entry) typeName name operands surroundings
              context =
            resolver.callStatic (some entry) typeName name operands surroundings context) ∧
      ∀ kind written receiver surroundings context,
        resolver.withoutDirectCalls.callInstance kind written receiver operands surroundings
            context =
          resolver.callInstance kind written receiver operands surroundings context := by
  intro resolver
  refine ⟨fun entry name known typeName => ?_, ?_⟩
  · refine resolver.callStatic_withoutDirectCalls ?_ evaluated typeName
    intro call isCall sameName
    rcases known with isKnown | unrecognised
    · exact mirrors_directCallsOn (eq_of_isKnown isKnown) call isCall
    · exact absurd sameName (unrecognised call isCall)
  · refine resolver.callInstance_withoutDirectCalls (fun receiver => ?_) evaluated
    cases receiver with
    | str text =>
        exact mirrors_textCalls
    | _ =>
        exact List.forall_mem_nil _

/-- A position is read as an integer by the common call, and converted by binding. -/
theorem direct_calls_are_invisible_at_position :
    let resolver : Resolver :=
      { catalog := standard, probe := standard.additionalType? }
    let operands : List Operand := [.value (.str " 1 ")]
    (∀ operand ∈ operands, operand.isEvaluated = true) ∧
      Intrinsics.entry ∈ standard.types ++ standard.additional ∧
      resolver.callInstance .method "SubString" (.str "a%3Bb") operands emptySurroundings [] =
        .ok (.str "%3Bb") ∧
      resolver.withoutDirectCalls.callInstance .method "SubString" (.str "a%3Bb") operands
          emptySurroundings [] =
        .ok (.str "%3Bb") ∧
      resolver.withoutDirectCalls.callStatic (some Intrinsics.entry) "msbuild" "escape" operands
          emptySurroundings [] =
        resolver.callStatic (some Intrinsics.entry) "msbuild" "escape" operands emptySurroundings
          [] := by
  intro resolver operands
  have evaluated : ∀ operand ∈ operands, operand.isEvaluated = true := by
    simp [operands, Operand.isEvaluated]
  have isKnown : Intrinsics.entry ∈ standard.types ++ standard.additional :=
    List.mem_append_left _ (.head _)
  have direct :
      resolver.callInstance .method "SubString" (.str "a%3Bb") operands emptySurroundings [] =
        .ok (.str "%3Bb") := by
    rfl
  have same := direct_calls_are_invisible resolver.policy resolver.probe operands evaluated
  exact
    ⟨evaluated, isKnown, direct, (same.2 _ _ _ _ _).trans direct,
      same.1 Intrinsics.entry _ (.inl isKnown) _ _ _⟩

/-- On a type that a probe makes up under the name of a listed one, the body of that one is run. -/
theorem not_every_direct_call_invisible :
    ¬ ∀ (policy : CallPolicy) (probe : TypeProbe) (operands : List Operand),
      (∀ operand ∈ operands, operand.isEvaluated = true) →
        let resolver : Resolver := { catalog := standard, policy, probe }
        ∀ entry typeName name surroundings context,
          (TypeCache.resolve {} standard resolver.allowedProbe typeName).1 = some entry →
            resolver.withoutDirectCalls.callStatic (some entry) typeName name operands surroundings
                context =
              resolver.callStatic (some entry) typeName name operands surroundings context := by
  intro claimed
  let madeUp : TypeEntry :=
    { name := "System.IO.Path"
      members := [.single "GetFileName" [.str] fun _ => .ok (.str "own")] }
  let probe : TypeProbe := fun name => if name = "Acme.Path" then some madeUp else none
  let resolver : Resolver := { catalog := standard, policy := .unrestricted, probe }
  have evaluated : ∀ operand ∈ [Operand.value (.str "a/b")], operand.isEvaluated = true := by
    simp [Operand.isEvaluated]
  have found :
      (TypeCache.resolve {} standard resolver.allowedProbe "Acme.Path").1 = some madeUp := by
    rfl
  have bound :
      resolver.withoutDirectCalls.callStatic (some madeUp) "Acme.Path" "GetFileName"
        [.value (.str "a/b")] emptySurroundings [] = .ok (.str "own") := by
    rfl
  have direct :
      resolver.callStatic (some madeUp) "Acme.Path" "GetFileName" [.value (.str "a/b")]
        emptySurroundings [] = .ok (.str "b") := by
    rfl
  have same :=
    claimed _ probe _ evaluated madeUp "Acme.Path" "GetFileName" emptySurroundings [] found
  rw [bound, direct] at same
  cases same

end Catalog

end RefExpand
