import RefExpand.Library.SystemTypes
import RefExpand.Proofs.Call.Shape

namespace RefExpand

/-!
# Types of the system heed their parameters

Paths, files and the environment are asked for with texts; what the machine says
to that is no misfit.
-/

/-- The machine that a call runs on fails with messages only. -/
theorem Surroundings.noMisfit_currentDirectory
    (surroundings : Surroundings) :
    NoMisfit false surroundings.currentDirectory :=
  .mapError (fun _ => rfl) _

theorem Surroundings.noMisfit_startingDirectory
    (surroundings : Surroundings) :
    NoMisfit false surroundings.startingDirectory := by
  unfold startingDirectory
  split
  · exact .ok _
  · exact surroundings.noMisfit_currentDirectory

namespace SystemTypes

open Invocation (Serves)

variable {parameters : List ParameterType}

theorem heeds_onPath
    (operation : Text → Value)
    (first : parameters[0]?.all (· == .str) = true) :
    (onPath operation).Heeds false parameters :=
  fun _ serves => .bind (serves.optionalText first) fun _ => .pure _

theorem heeds_testingPath
    (test : Text → Bool)
    (first : parameters[0]?.all (· == .str) = true) :
    (testingPath test).Heeds false parameters :=
  fun _ serves => .bind (serves.optionalText first) fun _ => .pure _

theorem heeds_combine
    (texts : parameters.all (· == .str) = true) :
    combine.Heeds false parameters :=
  fun _ serves =>
    .bind (.mapM fun _ _ => serves.text (ParameterType.promised_of_all texts)) fun _ => .pure _

theorem noMisfit_resolve
    (call : Invocation)
    (path : Text) :
    NoMisfit false (resolve call path) :=
  .bind call.surroundings.noMisfit_currentDirectory fun _ => .pure _

theorem heeds_getFullPath
    (first : parameters[0]?.all (· == .str) = true) :
    getFullPath.Heeds false parameters := by
  intro call serves
  refine .bind (serves.text first) fun path => .ite (fun _ => .failedOnType _) fun _ => ?_
  exact .bind (noMisfit_resolve call path) fun full => .pure _

theorem heeds_changeExtension
    (first : parameters[0]?.all (· == .str) = true)
    (second : parameters[1]?.all (· == .str) = true) :
    changeExtension.Heeds false parameters :=
  fun call serves => .bind (serves.optionalText second) fun _ => heeds_onPath _ first call serves

theorem heeds_constant
    (name : String)
    (value : Value) :
    (constant name value).Heeds false :=
  Member.heeds_single.mpr fun _ _ => .ok value

theorem heeds_temporaryDirectory :
    temporaryDirectory.Heeds false parameters :=
  fun _ _ => .ok _

theorem heeds_pathType :
    ∀ member ∈ pathType.members, member.Heeds false := by
  unfold pathType
  simp only [List.forall_mem_cons, Member.heeds_single, Member.heeds_shared, List.not_mem_nil,
    false_implies, implies_true, and_true]
  exact
    ⟨⟨heeds_combine rfl, heeds_combine rfl, heeds_combine rfl⟩,
      heeds_onPath _ rfl,
      heeds_onPath _ rfl,
      heeds_onPath _ rfl,
      heeds_onPath _ rfl,
      heeds_getFullPath rfl,
      heeds_testingPath _ rfl,
      heeds_changeExtension rfl rfl,
      heeds_testingPath _ rfl,
      heeds_onPath _ rfl,
      heeds_constant _ _,
      heeds_constant _ _,
      heeds_constant _ _,
      heeds_temporaryDirectory⟩

theorem heeds_getVariable
    (first : parameters[0]?.all (· == .str) = true) :
    getVariable.Heeds false parameters :=
  fun _ serves => .bind (serves.text first) fun _ => .pure _

theorem heeds_getVariables :
    getVariables.Heeds false parameters :=
  fun _ _ => .ok _

theorem heeds_machineName :
    machineName.Heeds false parameters :=
  fun _ _ => .ok _

theorem heeds_userName :
    userName.Heeds false parameters :=
  fun _ _ => .ok _

theorem heeds_expandEnvironmentVariables
    (first : parameters[0]?.all (· == .str) = true) :
    expandEnvironmentVariables.Heeds false parameters :=
  fun _ serves => .bind (serves.text first) fun _ => .pure _

theorem heeds_processorCount :
    processorCount.Heeds false parameters :=
  fun _ _ => .ok _

theorem heeds_environmentType :
    ∀ member ∈ environmentType.members, member.Heeds false := by
  unfold environmentType
  simp only [List.forall_mem_cons, Member.heeds_single, List.not_mem_nil, false_implies,
    implies_true, and_true]
  exact
    ⟨heeds_getVariable rfl,
      heeds_getVariables,
      heeds_constant _ _,
      heeds_processorCount,
      heeds_machineName,
      heeds_userName,
      heeds_constant _ _,
      heeds_constant _ _,
      heeds_expandEnvironmentVariables rfl⟩

theorem heeds_existence
    (ask : FileSystem → Text → Bool)
    (first : parameters[0]?.all (· == .str) = true) :
    (existence ask).Heeds false parameters := by
  intro call serves
  refine .bind (serves.optionalText first) fun asked => ?_
  cases asked.filter (!·.isEmpty) with
  | some path =>
      exact .bind (noMisfit_resolve call path) fun full => .pure _
  | none =>
      exact .pure _

theorem heeds_readAllText
    (first : parameters[0]?.all (· == .str) = true) :
    readAllText.Heeds false parameters := by
  intro call serves
  refine .bind (serves.text first) fun path => .bind (noMisfit_resolve call path) fun full => ?_
  cases call.surroundings.fileSystem.read full with
  | ok content =>
      exact .pure _
  | error failure =>
      exact .failedOnType _

theorem heeds_fileType :
    ∀ member ∈ fileType.members, member.Heeds false := by
  unfold fileType
  simp only [List.forall_mem_cons, Member.heeds_single, List.not_mem_nil, false_implies,
    implies_true, and_true]
  exact ⟨heeds_existence _ rfl, heeds_readAllText rfl⟩

theorem heeds_getCurrentDirectory :
    getCurrentDirectory.Heeds false parameters :=
  fun call _ => .map call.surroundings.noMisfit_currentDirectory _

theorem heeds_directoryType :
    ∀ member ∈ directoryType.members, member.Heeds false := by
  unfold directoryType
  simp only [List.forall_mem_cons, Member.heeds_single, List.not_mem_nil, false_implies,
    implies_true, and_true]
  exact ⟨heeds_existence _ rfl, heeds_getCurrentDirectory⟩

theorem heeds_newId :
    newId.Heeds false parameters :=
  fun _ _ => .ok _

theorem heeds_guidType :
    ∀ member ∈ guidType.members, member.Heeds false := by
  unfold guidType
  simp only [List.forall_mem_cons, Member.heeds_single, List.not_mem_nil, false_implies,
    implies_true, and_true]
  exact ⟨heeds_newId, heeds_constant _ _⟩

theorem heeds_parseVersion
    (first : parameters[0]?.all (· == .str) = true) :
    parseVersion.Heeds false parameters := by
  intro call serves
  refine .bind (serves.text first) fun text => ?_
  cases Version.read? text with
  | some v =>
      exact .pure _
  | none =>
      exact .failedOnType _

theorem heeds_canParseVersion
    (first : parameters[0]?.all (· == .str) = true) :
    canParseVersion.Heeds false parameters :=
  fun _ serves => .bind (serves.textOrEmpty first) fun _ => .pure _

theorem heeds_newVersion
    (integers : parameters.all (·.takesInteger) = true) :
    newVersion.Heeds false parameters := by
  intro call serves
  have components :
      NoMisfit false ((List.range call.count).mapM (component call)) := by
    refine .mapM fun index inRange => ?_
    have promised : parameters[index]?.all (·.takesInteger) = true :=
      ParameterType.promised_of_all integers
    refine .bind (serves.natural promised (List.mem_range.mp inRange) (by simp)) fun n => ?_
    exact .ite (fun _ => .pure n) fun _ => .failedOnType _
  refine .bind components fun found => ?_
  cases Version.ofComponents? found with
  | some v =>
      exact .pure _
  | none =>
      exact .failedOnType _

theorem heeds_versionType :
    ∀ member ∈ versionType.members, member.Heeds false := by
  unfold versionType
  simp only [List.forall_mem_cons, Member.heeds_single, Member.heeds_overloads, List.not_mem_nil,
    false_implies, implies_true, and_true]
  exact
    ⟨⟨heeds_parseVersion rfl, heeds_newVersion rfl, heeds_newVersion rfl, heeds_newVersion rfl⟩,
      heeds_parseVersion rfl,
      heeds_canParseVersion rfl⟩

theorem heeds_now :
    now.Heeds false parameters :=
  fun _ _ => .ok _

theorem heeds_today :
    today.Heeds false parameters :=
  fun _ _ => .ok _

theorem heeds_dateTimeType :
    ∀ member ∈ dateTimeType.members, member.Heeds false := by
  unfold dateTimeType
  simp only [List.forall_mem_cons, Member.heeds_single, List.not_mem_nil, false_implies,
    implies_true, and_true]
  exact ⟨heeds_now, heeds_now, heeds_today⟩

theorem heeds_runtimeType :
    ∀ member ∈ runtimeType.members, member.Heeds false := by
  unfold runtimeType
  simp only [List.forall_mem_cons, List.not_mem_nil, false_implies, implies_true, and_true]
  exact ⟨heeds_constant _ _, heeds_constant _ _, heeds_constant _ _, heeds_constant _ _⟩

end SystemTypes

end RefExpand
