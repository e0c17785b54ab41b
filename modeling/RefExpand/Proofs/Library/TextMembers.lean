import RefExpand.Library.TextMembers
import RefExpand.Proofs.Call.Shape

namespace RefExpand

/-!
# Members of texts heed their parameters

Each body asks for arguments in the shapes that its parameters promise, whichever
of its parameter lists they come from: an argument that a list leaves out is only
asked for if it is given, or is read as null.
-/

namespace TextMembers

open Invocation (Serves)

variable {onValue : Bool} {parameters : List ParameterType} {call : Invocation} {index : Nat}

theorem noMisfit_within
    (part : Option Text) :
    NoMisfit onValue (within part) := by
  cases part with
  | some text =>
      exact .ok text
  | none =>
      exact .failed (by simp)

theorem noMisfit_position
    (serves : call.Serves onValue parameters)
    (promised : parameters[index]?.all (·.takesInteger) = true)
    (isGiven : index < call.count) :
    NoMisfit onValue (position call index) :=
  serves.natural promised isGiven (by simp)

theorem noMisfit_ignoresCaseAt
    (serves : call.Serves onValue parameters)
    (promised : parameters[index]?.all (·.takesInteger) = true) :
    NoMisfit onValue (ignoresCaseAt call index) :=
  .ite (fun isGiven => (serves.integerIfGiven promised isGiven).map _) fun _ => .ok false

theorem heeds_length :
    length.Heeds true parameters :=
  fun _ serves => .bind serves.thisText fun _ => .pure _

theorem heeds_charAt
    (first : parameters[0]?.any (·.takesInteger) = true) :
    charAt.Heeds true parameters := by
  intro call serves
  obtain ⟨promised, isGiven⟩ := serves.given first
  refine .bind (noMisfit_position serves promised isGiven) fun index => ?_
  refine .bind serves.thisText fun this => ?_
  cases this[index]? with
  | some c =>
      exact .pure _
  | none =>
      exact .failed (by simp)

theorem heeds_substring
    (first : parameters[0]?.any (·.takesInteger) = true)
    (second : parameters[1]?.all (·.takesInteger) = true) :
    substring.Heeds true parameters := by
  intro call serves
  obtain ⟨promised, isGiven⟩ := serves.given first
  refine .bind (noMisfit_position serves promised isGiven) fun start => .ite (fun two => ?_) ?_
  · refine .bind (noMisfit_position serves second (by omega)) fun length => ?_
    exact .bind serves.thisText fun this => .bind (noMisfit_within _) fun part => .pure _
  · intro _
    exact .bind serves.thisText fun this => .bind (noMisfit_within _) fun part => .pure _

theorem heeds_toUpper :
    toUpper.Heeds true parameters :=
  fun _ serves => .bind serves.thisText fun _ => .pure _

theorem heeds_toLower :
    toLower.Heeds true parameters :=
  fun _ serves => .bind serves.thisText fun _ => .pure _

theorem noMisfit_trimmed
    (serves : call.Serves onValue parameters)
    (first : parameters[0]?.all (· == .charArray) = true) :
    NoMisfit onValue (trimmed call) := by
  refine .ite (fun _ => .bind (.pure _) fun _ => .pure _) fun some => ?_
  exact .bind (serves.charsIfGiven first (by omega)) fun set => .pure _

theorem heeds_trim
    (first : parameters[0]?.all (· == .charArray) = true) :
    trim.Heeds true parameters :=
  fun _ serves =>
    .bind (noMisfit_trimmed serves first) fun _ => .bind serves.thisText fun _ => .pure _

theorem heeds_trimStart
    (first : parameters[0]?.all (· == .charArray) = true) :
    trimStart.Heeds true parameters :=
  fun _ serves =>
    .bind (noMisfit_trimmed serves first) fun _ => .bind serves.thisText fun _ => .pure _

theorem heeds_trimEnd
    (first : parameters[0]?.all (· == .charArray) = true) :
    trimEnd.Heeds true parameters :=
  fun _ serves =>
    .bind (noMisfit_trimmed serves first) fun _ => .bind serves.thisText fun _ => .pure _

theorem heeds_replace
    (first : parameters[0]?.all (· == .str) = true)
    (second : parameters[1]?.all (· == .str) = true) :
    replace.Heeds true parameters := by
  intro call serves
  refine .bind (serves.text first) fun needle => .ite (fun _ => .failed (by simp)) fun _ => ?_
  exact .bind serves.thisText fun this => .bind (serves.textOrEmpty second) fun other => .pure _

theorem heeds_contains
    (first : parameters[0]?.all (· == .str) = true) :
    contains.Heeds true parameters :=
  fun _ serves => .bind serves.thisText fun _ => .bind (serves.text first) fun _ => .pure _

theorem heeds_startsWith
    (first : parameters[0]?.all (· == .str) = true)
    (second : parameters[1]?.all (·.takesInteger) = true) :
    startsWith.Heeds true parameters := by
  intro call serves
  refine .bind (noMisfit_ignoresCaseAt serves second) fun ignoreCase => ?_
  exact .bind serves.thisText fun this => .bind (serves.text first) fun beginning => .pure _

theorem heeds_endsWith
    (first : parameters[0]?.all (· == .str) = true)
    (second : parameters[1]?.all (·.takesInteger) = true) :
    endsWith.Heeds true parameters := by
  intro call serves
  refine .bind (noMisfit_ignoresCaseAt serves second) fun ignoreCase => ?_
  exact .bind serves.thisText fun this => .bind (serves.text first) fun ending => .pure _

theorem heeds_equals
    (first : parameters[0]?.all (· == .str) = true)
    (second : parameters[1]?.all (·.takesInteger) = true) :
    equals.Heeds true parameters := by
  intro call serves
  refine .bind (noMisfit_ignoresCaseAt serves second) fun ignoreCase => ?_
  refine .bind (serves.optionalText first) fun other => ?_
  cases other with
  | some text =>
      exact .bind serves.thisText fun this => .pure _
  | none =>
      exact .pure _

theorem heeds_indexOf
    (first : parameters[0]?.all (· == .str) = true)
    (second : parameters[1]?.all (·.takesInteger) = true) :
    indexOf.Heeds true parameters := by
  intro call serves
  refine .bind (noMisfit_ignoresCaseAt serves second) fun ignoreCase => ?_
  exact .bind serves.thisText fun this => .bind (serves.text first) fun needle => .pure _

theorem heeds_indexOfFrom
    (first : parameters[0]?.all (· == .str) = true)
    (second : parameters[1]?.any (·.takesInteger) = true) :
    indexOfFrom.Heeds true parameters := by
  intro call serves
  obtain ⟨promised, isGiven⟩ := serves.given second
  refine .bind serves.thisText fun this => ?_
  refine .bind (noMisfit_position serves promised isGiven) fun start => ?_
  exact .ite (fun _ => .failed (by simp)) fun _ => .bind (serves.text first) fun needle => .pure _

theorem heeds_lastIndexOf
    (first : parameters[0]?.all (· == .str) = true)
    (second : parameters[1]?.all (·.takesInteger) = true) :
    lastIndexOf.Heeds true parameters := by
  intro call serves
  refine .bind (noMisfit_ignoresCaseAt serves second) fun ignoreCase => ?_
  exact .bind serves.thisText fun this => .bind (serves.text first) fun needle => .pure _

theorem heeds_indexOfAny
    (first : parameters[0]?.any (· == .charArray) = true) :
    indexOfAny.Heeds true parameters := by
  intro call serves
  obtain ⟨promised, isGiven⟩ := serves.given first
  refine .bind (serves.charsIfGiven promised isGiven) fun set => ?_
  exact .bind serves.thisText fun this => .pure _

theorem noMisfit_splitOptions
    (serves : call.Serves onValue parameters)
    (second : parameters[1]?.all (·.takesInteger) = true) :
    NoMisfit onValue (splitOptions call) :=
  .ite (fun isGiven => serves.integerIfGiven second isGiven) fun _ => .ok 0

theorem heeds_split
    (first : parameters[0]?.any (· == .charArray) = true)
    (second : parameters[1]?.all (·.takesInteger) = true) :
    split.Heeds true parameters := by
  intro call serves
  obtain ⟨promised, isGiven⟩ := serves.given first
  refine .bind (serves.charsIfGiven promised isGiven) fun separators => ?_
  refine .bind (noMisfit_splitOptions serves second) fun options => ?_
  exact .bind serves.thisText fun this => .pure _

theorem heeds_splitByText
    (first : parameters[0]?.all (· == .str) = true)
    (second : parameters[1]?.all (·.takesInteger) = true) :
    splitByText.Heeds true parameters := by
  intro call serves
  refine .bind (serves.textOrEmpty first) fun separator => ?_
  refine .bind (noMisfit_splitOptions serves second) fun options => ?_
  exact .bind serves.thisText fun this => .pure _

theorem noMisfit_padding
    (serves : call.Serves true parameters)
    (first : parameters[0]?.any (·.takesInteger) = true)
    (second : parameters[1]?.all (· == .char) = true) :
    NoMisfit true (padding call) := by
  obtain ⟨promised, isGiven⟩ := serves.given first
  refine .bind (serves.natural promised isGiven (by simp)) fun width => ?_
  refine .ite (fun isFillGiven => ?_) ?_
  · refine .bind (serves.charIfGiven second isFillGiven) fun fill => ?_
    exact .bind serves.thisText fun this => .pure _
  · intro _
    exact .bind (.pure _) fun fill => .bind serves.thisText fun this => .pure _

theorem heeds_padLeft
    (first : parameters[0]?.any (·.takesInteger) = true)
    (second : parameters[1]?.all (· == .char) = true) :
    padLeft.Heeds true parameters :=
  fun _ serves => .bind (noMisfit_padding serves first second) fun _ => .pure _

theorem heeds_padRight
    (first : parameters[0]?.any (·.takesInteger) = true)
    (second : parameters[1]?.all (· == .char) = true) :
    padRight.Heeds true parameters :=
  fun _ serves => .bind (noMisfit_padding serves first second) fun _ => .pure _

theorem heeds_insert
    (first : parameters[0]?.any (·.takesInteger) = true)
    (second : parameters[1]?.all (· == .str) = true) :
    insert.Heeds true parameters := by
  intro call serves
  obtain ⟨promised, isGiven⟩ := serves.given first
  refine .bind serves.thisText fun this => ?_
  refine .bind (noMisfit_position serves promised isGiven) fun start => ?_
  refine .bind (noMisfit_within _) fun head => .bind (noMisfit_within _) fun tail => ?_
  exact .bind (serves.text second) fun inserted => .pure _

theorem heeds_remove
    (first : parameters[0]?.any (·.takesInteger) = true)
    (second : parameters[1]?.all (·.takesInteger) = true) :
    remove.Heeds true parameters := by
  intro call serves
  obtain ⟨promised, isGiven⟩ := serves.given first
  refine .bind serves.thisText fun this => ?_
  refine .bind (noMisfit_position serves promised isGiven) fun start => ?_
  refine .bind (noMisfit_within _) fun head => .ite (fun two => ?_) fun _ => .pure _
  refine .bind (noMisfit_position serves second (by omega)) fun length => ?_
  exact .bind (noMisfit_within _) fun tail => .pure _

theorem heeds_compareTo
    (first : parameters[0]?.all (· == .str) = true) :
    compareTo.Heeds true parameters := by
  intro call serves
  refine .bind (serves.optionalText first) fun other => ?_
  cases other with
  | some text =>
      exact .bind serves.thisText fun this => .pure _
  | none =>
      exact .pure _

theorem heeds_toCharArray :
    toCharArray.Heeds true parameters :=
  fun _ serves => .bind serves.thisText fun _ => .pure _

theorem heeds_toText :
    toText.Heeds true parameters :=
  fun _ serves => .bind serves.this fun _ => .pure _

theorem heeds_getType :
    getType.Heeds true parameters :=
  fun _ serves => .bind serves.this fun _ => .pure _

theorem heeds_typeMember :
    typeMember.Heeds true :=
  Member.heeds_single.mpr heeds_getType

/-- No member of a text is run on what it is not made for. -/
theorem heeds_members :
    ∀ member ∈ members, member.Heeds true := by
  unfold members
  simp only [textAndComparison, List.forall_mem_cons, Member.heeds_single,
    Member.heeds_shared, Member.heeds_overloads, List.not_mem_nil, false_implies, implies_true,
    and_true]
  exact
    ⟨heeds_length,
      heeds_charAt rfl,
      ⟨heeds_substring rfl rfl, heeds_substring rfl rfl⟩,
      heeds_toUpper,
      heeds_toLower,
      heeds_toUpper,
      heeds_toLower,
      ⟨heeds_trim rfl, heeds_trim rfl⟩,
      ⟨heeds_trimStart rfl, heeds_trimStart rfl⟩,
      ⟨heeds_trimEnd rfl, heeds_trimEnd rfl⟩,
      heeds_replace rfl rfl,
      heeds_contains rfl,
      ⟨heeds_startsWith rfl rfl, heeds_startsWith rfl rfl⟩,
      ⟨heeds_endsWith rfl rfl, heeds_endsWith rfl rfl⟩,
      ⟨heeds_equals rfl rfl, heeds_equals rfl rfl⟩,
      ⟨heeds_indexOf rfl rfl, heeds_indexOfFrom rfl rfl, heeds_indexOf rfl rfl⟩,
      ⟨heeds_lastIndexOf rfl rfl, heeds_lastIndexOf rfl rfl⟩,
      heeds_indexOfAny rfl,
      ⟨heeds_split rfl rfl, heeds_split rfl rfl, heeds_splitByText rfl rfl⟩,
      ⟨heeds_padLeft rfl rfl, heeds_padLeft rfl rfl⟩,
      ⟨heeds_padRight rfl rfl, heeds_padRight rfl rfl⟩,
      heeds_insert rfl rfl,
      ⟨heeds_remove rfl rfl, heeds_remove rfl rfl⟩,
      heeds_compareTo rfl,
      heeds_toText,
      heeds_toCharArray,
      heeds_typeMember⟩

end TextMembers

end RefExpand
