import RefExpand.Library.Standard
import RefExpand.Proofs.Call.Binding
import RefExpand.Proofs.Library.Intrinsics
import RefExpand.Proofs.Library.NumberTypes
import RefExpand.Proofs.Library.SystemTypes
import RefExpand.Proofs.Library.TextTypes
import RefExpand.Proofs.Library.ValueMembers

namespace RefExpand

/-!
# Nothing in the standard catalog misfits

Each list of the catalog holds bodies that heed their parameters, and binding
gives a body what its parameters promise. So no call on a type or on a value runs
a body on an argument of another shape, or without the receiver it asks for.
-/

namespace Catalog

theorem heeds_standardTypes :
    ∀ entry ∈ standardTypes, ∀ member ∈ entry.members, member.Heeds false := by
  unfold standardTypes
  simp only [List.forall_mem_cons, List.not_mem_nil, false_implies, implies_true, and_true]
  exact
    ⟨Intrinsics.heeds_members,
      TextTypes.heeds_textType,
      SystemTypes.heeds_pathType,
      NumberTypes.heeds_mathType,
      SystemTypes.heeds_environmentType,
      SystemTypes.heeds_fileType,
      SystemTypes.heeds_directoryType,
      NumberTypes.heeds_convertType,
      TextTypes.heeds_charType,
      NumberTypes.heeds_readers_append _ _ _ _,
      NumberTypes.heeds_readers_append _ _ _ _,
      NumberTypes.heeds_readers_append _ _ _ _,
      NumberTypes.heeds_readers _ _,
      SystemTypes.heeds_guidType,
      SystemTypes.heeds_versionType,
      SystemTypes.heeds_dateTimeType,
      TextTypes.heeds_patternType⟩

/-- A common call on texts heeds a text for each argument that it is recognised with. -/
theorem heeds_direct
    {onValue : Bool}
    {member : String}
    {counts : List Nat}
    {body : Body} :
    (direct member counts body).Heeds onValue ↔
      ∀ count ∈ counts, body.Heeds onValue (List.replicate count .str) :=
  Iff.rfl

theorem heeds_typeCalls :
    ∀ listed ∈ typeCalls, ∀ call ∈ listed.2, call.Heeds false := by
  unfold typeCalls
  simp only [List.forall_mem_cons, heeds_direct, List.not_mem_nil, false_implies, implies_true,
    and_true]
  open Intrinsics SystemTypes in
  exact
    ⟨⟨heeds_escape rfl,
        heeds_unescape rfl,
        heeds_valueOrDefault rfl rfl,
        heeds_ensureTrailingSlash rfl,
        ⟨heeds_normalizePath rfl, heeds_normalizePath rfl, heeds_normalizePath rfl,
          heeds_normalizePath rfl⟩,
        ⟨heeds_normalizeDirectory rfl, heeds_normalizeDirectory rfl, heeds_normalizeDirectory rfl,
          heeds_normalizeDirectory rfl⟩,
        heeds_makeRelative rfl rfl,
        heeds_getDirectoryNameOfFileAbove rfl rfl,
        ⟨heeds_getPathOfFileAbove rfl rfl, heeds_getPathOfFileAbove rfl rfl⟩⟩,
      ⟨⟨heeds_combine rfl, heeds_combine rfl, heeds_combine rfl⟩,
        heeds_onPath _ rfl,
        heeds_onPath _ rfl,
        heeds_onPath _ rfl,
        heeds_onPath _ rfl,
        heeds_getFullPath rfl,
        heeds_testingPath _ rfl⟩,
      heeds_existence _ rfl,
      heeds_existence _ rfl,
      heeds_getVariable rfl⟩

theorem heeds_directCallsOn
    (typeName : Text) :
    ∀ call ∈ standard.directCallsOn typeName, call.Heeds false := by
  unfold directCallsOn
  cases found : standard.directTypeCalls.lookup typeName with
  | none =>
      exact List.forall_mem_nil _
  | some calls =>
      obtain ⟨_, _, split, -⟩ := List.lookup_eq_some_iff.mp found
      have listed : (typeName, calls) ∈ typeCalls :=
        List.mem_iff_append.mpr ⟨_, _, split⟩
      exact heeds_typeCalls _ listed

theorem heeds_textCalls :
    ∀ call ∈ textCalls, call.Heeds true := by
  have substring :
      DirectCall.Heeds true
        { member := "substring", counts := [1, 2], takes := .integers,
          body := TextMembers.substring } := by
    simp only [DirectCall.Heeds, List.forall_mem_cons, List.not_mem_nil, false_implies,
      implies_true, and_true]
    exact ⟨TextMembers.heeds_substring rfl rfl, TextMembers.heeds_substring rfl rfl⟩
  unfold textCalls
  simp only [List.forall_mem_cons, heeds_direct, List.not_mem_nil, false_implies, implies_true,
    and_true]
  open TextMembers in
  exact
    ⟨substring,
      heeds_startsWith rfl rfl,
      heeds_endsWith rfl rfl,
      heeds_contains rfl,
      heeds_equals rfl rfl,
      heeds_indexOf rfl rfl,
      heeds_replace rfl rfl,
      heeds_toLower,
      heeds_toLower,
      heeds_toUpper,
      heeds_toUpper,
      heeds_trim rfl⟩

/-- Whatever is called, and however it is bound, bodies find arguments of the shapes that
they ask for, and bodies that ask for a receiver find one. -/
theorem standard_never_misfits :
    (∀ typeName, DirectCall.NeverMisfit none (standard.directCallsOn typeName)) ∧
      (∀ entry ∈ standard.types ++ standard.additional,
        ∀ member ∈ entry.members, member.NeverMisfits none) ∧
      (∀ text, DirectCall.NeverMisfit (some (.str text)) standard.directTextCalls) ∧
      (∀ receiver, ∀ member ∈ standard.membersOf receiver,
        member.NeverMisfits (some receiver)) := by
  have onTypes :
      ∀ entry ∈ standard.types ++ standard.additional,
        ∀ member ∈ entry.members, member.Heeds false :=
    List.forall_mem_append.mpr
      ⟨heeds_standardTypes, List.forall_mem_singleton.mpr SystemTypes.heeds_runtimeType⟩
  refine ⟨fun typeName => ?_, fun entry isEntry member isMember => ?_, fun text => ?_,
    fun receiver member isMember => ?_⟩
  · exact DirectCall.neverMisfit_of_heeds (heeds_directCallsOn typeName)
  · exact Member.neverMisfits_of_heeds (onTypes entry isEntry member isMember)
  · exact DirectCall.neverMisfit_of_heeds heeds_textCalls
  · exact Member.neverMisfits_of_heeds (ValueMembers.heeds_of receiver member isMember)

/-- A machine without files and variables, whose clock stands still. -/
def emptySurroundings : Surroundings :=
  { host := { now := default, freshId := fun _ => [] }
    fileSystem := ({} : ListedFiles).toFileSystem }

/-- A position beyond the text is converted to an integer, and what fails is no misfit. -/
theorem standard_never_misfits_beyond_text :
    (Member.single "Chars" [.int] TextMembers.charAt).bind (some (.str "ab".toList))
        emptySurroundings [.value (.str "5".toList)] false =
      .error (.failed (.failed "Index was outside the bounds of the array.".toList)) ∧
    (BindFault.failed (.failed "Index was outside the bounds of the array.".toList)).isMisfit true =
      false := by
  have listed :
      Member.single "Chars" [.int] TextMembers.charAt ∈ standard.membersOf (.str "ab".toList) :=
    .tail _ (.head _)
  have onText := standard_never_misfits.2.2.2 _ _ listed
  exact ⟨rfl, onText emptySurroundings [.value (.str "5".toList)] false _ rfl⟩

end Catalog

end RefExpand
