import RefExpand.Library.ValueMembers
import RefExpand.Proofs.Library.TextMembers

namespace RefExpand

/-!
# Members of values heed their parameters

A body may find a receiver that its member is not listed for, and says so; it
never finds none.
-/

namespace ValueMembers

open Invocation (Serves)
open TextMembers (heeds_toText heeds_typeMember)

variable {parameters : List ParameterType} {call : Invocation}

theorem heeds_size :
    size.Heeds true parameters := by
  intro call serves
  refine .bind serves.this fun receiver => ?_
  cases receiver <;> exact .pure _

theorem heeds_itemAt
    (first : parameters[0]?.any (·.takesInteger) = true) :
    itemAt.Heeds true parameters := by
  intro call serves
  refine .bind serves.this fun receiver => ?_
  cases receiver with
  | seq items =>
      refine .bind (serves.integer first) fun n => ?_
      split
      · exact .pure _
      · exact .failed (by simp)
  | _ =>
      exact .failed (by simp)

theorem noMisfit_thisEntries
    (serves : call.Serves true parameters) :
    NoMisfit true (thisEntries call) := by
  refine .bind serves.this fun receiver => ?_
  cases receiver with
  | table entries =>
      exact .pure _
  | _ =>
      exact .failed (by simp)

theorem heeds_entryAt :
    entryAt.Heeds true parameters :=
  fun _ serves => .bind (noMisfit_thisEntries serves) fun _ => .pure _

theorem heeds_containsKey :
    containsKey.Heeds true parameters :=
  fun _ serves => .bind (noMisfit_thisEntries serves) fun _ => .pure _

theorem noMisfit_thisVersion
    (serves : call.Serves true parameters) :
    NoMisfit true (thisVersion call) := by
  refine .bind serves.this fun receiver => ?_
  cases receiver with
  | version v =>
      exact .pure v
  | _ =>
      exact .failed (by simp)

theorem heeds_component
    (read : Version → Option Nat) :
    (component read).Heeds true parameters :=
  fun _ serves => .bind (noMisfit_thisVersion serves) fun _ => .pure _

theorem heeds_versionFields
    (first : parameters[0]?.any (·.takesInteger) = true) :
    versionFields.Heeds true parameters := by
  intro call serves
  refine .bind (serves.integer first) fun n => .bind (noMisfit_thisVersion serves) fun v => ?_
  split
  · exact .pure _
  · exact .failed (by simp)

theorem heeds_versionCompareTo
    (first : parameters[0]?.any (· == .version) = true) :
    versionCompareTo.Heeds true parameters :=
  fun _ serves =>
    .bind (noMisfit_thisVersion serves) fun _ => .bind (serves.version first) fun _ => .pure _

theorem heeds_versionEquals
    (first : parameters[0]?.any (· == .version) = true) :
    versionEquals.Heeds true parameters :=
  fun _ serves =>
    .bind (noMisfit_thisVersion serves) fun _ => .bind (serves.version first) fun _ => .pure _

theorem heeds_formatted
    (first : parameters[0]?.all (· == .str) = true) :
    formatted.Heeds true parameters := by
  intro call serves
  refine .bind serves.this fun this => .bind (serves.textOrEmpty first) fun pattern => ?_
  exact .bind (.mapError (fun _ => rfl) _) fun text => .pure _

theorem heeds_scalarCompareTo :
    scalarCompareTo.Heeds true parameters := by
  intro call serves
  refine .bind serves.this fun this => ?_
  split
  · exact .pure _
  · exact .failed (by simp)

theorem heeds_scalarEquals :
    scalarEquals.Heeds true parameters :=
  fun _ serves => .bind serves.this fun _ => .pure _

theorem heeds_comparisons
    (type : ParameterType) :
    ∀ member ∈ comparisons type, member.Heeds true := by
  unfold comparisons
  simp only [List.forall_mem_cons, Member.heeds_single, List.not_mem_nil,
    false_implies, implies_true, and_true]
  exact ⟨heeds_scalarCompareTo, heeds_scalarEquals, heeds_typeMember⟩

theorem heeds_numberText :
    numberText.Heeds true := by
  unfold numberText
  simp only [List.forall_mem_cons, Member.heeds_overloads, List.not_mem_nil,
    false_implies, implies_true, and_true]
  exact ⟨heeds_toText, heeds_formatted rfl⟩

theorem noMisfit_thisMoment
    (serves : call.Serves true parameters) :
    NoMisfit true (thisMoment call) := by
  refine .bind serves.this fun receiver => ?_
  cases receiver with
  | dateTime moment =>
      exact .pure moment
  | _ =>
      exact .failed (by simp)

theorem heeds_momentPart
    (read : DateTime → Int) :
    (momentPart read).Heeds true parameters :=
  fun _ serves => .bind (noMisfit_thisMoment serves) fun _ => .pure _

theorem heeds_momentText
    (first : parameters[0]?.all (· == .str) = true) :
    momentText.Heeds true parameters :=
  fun _ serves =>
    .bind (noMisfit_thisMoment serves) fun _ => .bind (serves.textOrEmpty first) fun _ => .pure _

theorem heeds_addDays
    (first : parameters[0]?.any (· == .float) = true) :
    addDays.Heeds true parameters := by
  intro call serves
  refine .bind (serves.float first) fun days => .bind (noMisfit_thisMoment serves) fun moment => ?_
  split
  · exact .pure _
  · exact .failed (by simp)

theorem heeds_sequenceMembers :
    ∀ member ∈ sequenceMembers, member.Heeds true := by
  unfold sequenceMembers
  simp only [List.forall_mem_cons, Member.heeds_single, List.not_mem_nil,
    false_implies, implies_true, and_true]
  exact ⟨heeds_size, heeds_size, heeds_itemAt rfl, heeds_itemAt rfl, heeds_typeMember⟩

theorem heeds_tableMembers :
    ∀ member ∈ tableMembers, member.Heeds true := by
  unfold tableMembers
  simp only [List.forall_mem_cons, Member.heeds_single, List.not_mem_nil,
    false_implies, implies_true, and_true]
  exact ⟨heeds_size, heeds_entryAt, heeds_containsKey, heeds_typeMember⟩

theorem heeds_versionMembers :
    ∀ member ∈ versionMembers, member.Heeds true := by
  unfold versionMembers
  simp only [List.forall_mem_cons, Member.heeds_single, Member.heeds_overloads,
    List.not_mem_nil, false_implies, implies_true, and_true]
  exact
    ⟨heeds_component _, heeds_component _, heeds_component _, heeds_component _,
      ⟨heeds_toText, heeds_versionFields rfl⟩,
      heeds_versionCompareTo rfl,
      heeds_versionEquals rfl,
      heeds_typeMember⟩

theorem heeds_momentMembers :
    ∀ member ∈ momentMembers, member.Heeds true := by
  unfold momentMembers
  simp only [List.forall_mem_cons, Member.heeds_single, Member.heeds_overloads,
    List.not_mem_nil, false_implies, implies_true, and_true]
  exact
    ⟨⟨heeds_toText, heeds_momentText rfl⟩,
      heeds_momentPart _, heeds_momentPart _, heeds_momentPart _, heeds_momentPart _,
      heeds_momentPart _, heeds_momentPart _, heeds_momentPart _,
      heeds_addDays rfl,
      heeds_typeMember⟩

/-- No member of a value is run on what it is not made for. -/
theorem heeds_of
    (receiver : Value) :
    ∀ member ∈ of receiver, member.Heeds true := by
  have word : (Member.single "ToString" [] TextMembers.toText).Heeds true :=
    Member.heeds_single.mpr heeds_toText
  cases receiver with
  | null =>
      exact List.forall_mem_nil _
  | str text =>
      exact TextMembers.heeds_members
  | seq items =>
      exact heeds_sequenceMembers
  | table entries =>
      exact heeds_tableMembers
  | version v =>
      exact heeds_versionMembers
  | int n =>
      exact List.forall_mem_cons.mpr ⟨heeds_numberText, heeds_comparisons .long⟩
  | float f =>
      exact List.forall_mem_cons.mpr ⟨heeds_numberText, heeds_comparisons .float⟩
  | bool b =>
      exact List.forall_mem_cons.mpr ⟨word, heeds_comparisons .bool⟩
  | char c =>
      exact List.forall_mem_cons.mpr ⟨word, heeds_comparisons .char⟩
  | dateTime moment =>
      exact heeds_momentMembers

end ValueMembers

end RefExpand
