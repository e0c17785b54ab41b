import RefExpand.Library.Intrinsics
import RefExpand.Proofs.Library.SystemTypes

namespace RefExpand

/-!
# Intrinsic functions heed their parameters
-/

namespace Intrinsics

open Invocation (Serves)

variable {parameters : List ParameterType} {call : Invocation} {index : Nat}

theorem heeds_onIntegers
    (operation : Int64 → Int64 → Int64)
    (first : parameters[0]?.any (·.takesInteger) = true)
    (second : parameters[1]?.any (·.takesInteger) = true) :
    (onIntegers operation).Heeds false parameters :=
  fun _ serves =>
    .bind (serves.integer first) fun _ => .bind (serves.integer second) fun _ => .pure _

theorem heeds_onFloats
    (operation : Float → Float → Float)
    (first : parameters[0]?.any (· == .float) = true)
    (second : parameters[1]?.any (· == .float) = true) :
    (onFloats operation).Heeds false parameters :=
  fun _ serves => .bind (serves.float first) fun _ => .bind (serves.float second) fun _ => .pure _

theorem heeds_dividing
    (operation : Int64 → Int64 → Int64)
    (first : parameters[0]?.any (·.takesInteger) = true)
    (second : parameters[1]?.any (·.takesInteger) = true) :
    (dividing operation).Heeds false parameters := by
  intro call serves
  refine .bind (serves.integer second) fun divisor => .ite (fun _ => .failedOnType _) fun _ => ?_
  refine .bind (serves.integer first) fun dividend => ?_
  exact .ite (fun _ => .failedOnType _) fun _ => .pure _

theorem noMisfit_integer32
    (serves : call.Serves false parameters)
    (promised : parameters[index]?.any (·.takesInteger) = true) :
    NoMisfit false (integer32 call index) :=
  .bind (serves.integer promised) fun n => .ite (fun _ => .pure n) fun _ => .failedOnType _

theorem heeds_onBits
    (operation : Int64 → Int64 → Int64)
    (first : parameters[0]?.any (·.takesInteger) = true)
    (second : parameters[1]?.any (·.takesInteger) = true) :
    (onBits operation).Heeds false parameters :=
  fun _ serves =>
    .bind (noMisfit_integer32 serves first) fun _ =>
      .bind (noMisfit_integer32 serves second) fun _ => .pure _

theorem heeds_complement
    (first : parameters[0]?.any (·.takesInteger) = true) :
    complement.Heeds false parameters :=
  fun _ serves => .bind (noMisfit_integer32 serves first) fun _ => .pure _

theorem heeds_escape
    (first : parameters[0]?.all (· == .str) = true) :
    escape.Heeds false parameters :=
  fun _ serves => .bind (serves.textOrEmpty first) fun _ => .pure _

theorem heeds_unescape
    (first : parameters[0]?.all (· == .str) = true) :
    unescape.Heeds false parameters :=
  fun _ serves => .bind (serves.textOrEmpty first) fun _ => .pure _

theorem heeds_toBase64
    (first : parameters[0]?.all (· == .str) = true) :
    toBase64.Heeds false parameters :=
  fun _ serves => .bind (serves.textOrEmpty first) fun _ => .pure _

theorem heeds_fromBase64
    (first : parameters[0]?.all (· == .str) = true) :
    fromBase64.Heeds false parameters := by
  intro call serves
  refine .bind (serves.textOrEmpty first) fun written => ?_
  dsimp only
  split
  · exact .failedOnType _
  · split
    · exact .failedOnType _
    · exact .pure _

theorem heeds_valueOrDefault
    (first : parameters[0]?.all (· == .str) = true)
    (second : parameters[1]?.all (· == .str) = true) :
    valueOrDefault.Heeds false parameters := by
  intro call serves
  refine .bind (serves.textOrEmpty first) fun value => .ite (fun _ => ?_) fun _ => .pure _
  exact .bind (serves.textOrEmpty second) fun other => .pure _

theorem heeds_substringByAsciiChars
    (first : parameters[0]?.all (· == .str) = true)
    (second : parameters[1]?.any (·.takesInteger) = true)
    (third : parameters[2]?.any (·.takesInteger) = true) :
    substringByAsciiChars.Heeds false parameters := by
  intro call serves
  obtain ⟨startPromised, startGiven⟩ := serves.given second
  obtain ⟨lengthPromised, lengthGiven⟩ := serves.given third
  refine .bind (serves.textOrEmpty first) fun text => ?_
  refine .bind (serves.natural startPromised startGiven (by simp)) fun start => ?_
  exact .bind (serves.natural lengthPromised lengthGiven (by simp)) fun length => .pure _

theorem heeds_stableStringHash
    (first : parameters[0]?.all (· == .str) = true) :
    stableStringHash.Heeds false parameters :=
  fun _ serves => .bind (serves.textOrEmpty first) fun _ => .pure _

theorem noMisfit_normalizedPath
    (serves : call.Serves false parameters)
    (texts : parameters.all (· == .str) = true) :
    NoMisfit false (normalizedPath call) := by
  refine .bind (.mapM fun _ _ => serves.text (ParameterType.promised_of_all texts)) fun parts => ?_
  exact .bind call.surroundings.noMisfit_currentDirectory fun directory => .pure _

theorem heeds_normalizePath
    (texts : parameters.all (· == .str) = true) :
    normalizePath.Heeds false parameters :=
  fun _ serves => .map (noMisfit_normalizedPath serves texts) _

theorem heeds_normalizeDirectory
    (texts : parameters.all (· == .str) = true) :
    normalizeDirectory.Heeds false parameters :=
  fun _ serves => .map (noMisfit_normalizedPath serves texts) _

theorem heeds_ensureTrailingSlash
    (first : parameters[0]?.all (· == .str) = true) :
    ensureTrailingSlash.Heeds false parameters :=
  fun _ serves => .bind (serves.textOrEmpty first) fun _ => .pure _

theorem heeds_makeRelative
    (first : parameters[0]?.all (· == .str) = true)
    (second : parameters[1]?.all (· == .str) = true) :
    makeRelative.Heeds false parameters := by
  intro call serves
  refine .bind (serves.textOrEmpty first) fun base => ?_
  refine .bind (serves.textOrEmpty second) fun path => ?_
  exact .bind call.surroundings.noMisfit_currentDirectory fun directory => .pure _

theorem noMisfit_directoryOfFileAbove
    (call : Invocation)
    (start file : Text) :
    NoMisfit false (directoryOfFileAbove call start file) :=
  .bind call.surroundings.noMisfit_currentDirectory fun _ => .pure _

theorem heeds_getDirectoryNameOfFileAbove
    (first : parameters[0]?.all (· == .str) = true)
    (second : parameters[1]?.all (· == .str) = true) :
    getDirectoryNameOfFileAbove.Heeds false parameters := by
  intro call serves
  refine .bind (serves.textOrEmpty first) fun start => .bind (serves.text second) fun file => ?_
  exact .bind (noMisfit_directoryOfFileAbove call start file) fun directory => .pure _

theorem heeds_getPathOfFileAbove
    (first : parameters[0]?.all (· == .str) = true)
    (second : parameters[1]?.all (· == .str) = true) :
    getPathOfFileAbove.Heeds false parameters := by
  intro call serves
  have search :
      ∀ file start,
        NoMisfit false do
          let directory ← directoryOfFileAbove call start file
          if directory.isEmpty then return Value.str []
          else return Value.str (Path.normalize (Path.combine directory file)) := by
    intro file start
    refine .bind (noMisfit_directoryOfFileAbove call start file) fun directory => ?_
    exact .ite (fun _ => .pure _) fun _ => .pure _
  refine .bind (serves.text first) fun file => .ite (fun _ => .failedOnType _) fun _ => ?_
  refine .ite (fun _ => ?_) fun _ => ?_
  · exact .bind call.surroundings.noMisfit_startingDirectory fun start => search file start
  · exact .bind (serves.textOrEmpty second) fun start => search file start

theorem noMisfit_simpleVersion
    (text : Text) :
    NoMisfit false (simpleVersion text) := by
  unfold simpleVersion
  split
  · exact .ok _
  · exact .failedOnType _

theorem heeds_comparingVersions
    (test : Ordering → Bool)
    (first : parameters[0]?.all (· == .str) = true)
    (second : parameters[1]?.all (· == .str) = true) :
    (comparingVersions test).Heeds false parameters := by
  intro call serves
  refine .bind (serves.textOrEmpty first) fun leftText => ?_
  refine .bind (noMisfit_simpleVersion leftText) fun left => ?_
  refine .bind (serves.textOrEmpty second) fun rightText => ?_
  exact .bind (noMisfit_simpleVersion rightText) fun right => .pure _

theorem heeds_isOSPlatform
    (first : parameters[0]?.all (· == .str) = true) :
    isOSPlatform.Heeds false parameters :=
  fun _ serves => .bind (serves.textOrEmpty first) fun _ => .pure _

theorem heeds_constant
    (value : Value) :
    (constant value).Heeds false parameters :=
  fun _ _ => .ok value

theorem heeds_numeric
    {name : String}
    {integers floats : Body}
    (onIntegers : integers.Heeds false [.long, .long])
    (onFloats : floats.Heeds false [.float, .float]) :
    (numeric name integers floats).Heeds false := by
  unfold numeric
  simp only [List.forall_mem_cons, Member.heeds_overloads, List.not_mem_nil, false_implies,
    implies_true, and_true]
  exact ⟨onIntegers, onFloats⟩

theorem heeds_members :
    ∀ member ∈ members, member.Heeds false := by
  unfold members textLists
  simp only [List.forall_mem_cons, Member.heeds_single, Member.heeds_shared, List.not_mem_nil,
    false_implies, implies_true, and_true]
  exact
    ⟨heeds_numeric (heeds_onIntegers _ rfl rfl) (heeds_onFloats _ rfl rfl),
      heeds_numeric (heeds_onIntegers _ rfl rfl) (heeds_onFloats _ rfl rfl),
      heeds_numeric (heeds_onIntegers _ rfl rfl) (heeds_onFloats _ rfl rfl),
      heeds_numeric (heeds_dividing _ rfl rfl) (heeds_onFloats _ rfl rfl),
      heeds_numeric (heeds_dividing _ rfl rfl) (heeds_onFloats _ rfl rfl),
      heeds_onBits _ rfl rfl,
      heeds_onBits _ rfl rfl,
      heeds_onBits _ rfl rfl,
      heeds_complement rfl,
      heeds_escape rfl,
      heeds_unescape rfl,
      heeds_toBase64 rfl,
      heeds_fromBase64 rfl,
      heeds_valueOrDefault rfl rfl,
      ⟨heeds_normalizePath rfl, heeds_normalizePath rfl, heeds_normalizePath rfl,
        heeds_normalizePath rfl⟩,
      ⟨heeds_normalizeDirectory rfl, heeds_normalizeDirectory rfl, heeds_normalizeDirectory rfl,
        heeds_normalizeDirectory rfl⟩,
      heeds_ensureTrailingSlash rfl,
      heeds_makeRelative rfl rfl,
      heeds_getDirectoryNameOfFileAbove rfl rfl,
      ⟨heeds_getPathOfFileAbove rfl rfl, heeds_getPathOfFileAbove rfl rfl⟩,
      heeds_comparingVersions _ rfl rfl,
      heeds_comparingVersions _ rfl rfl,
      heeds_comparingVersions _ rfl rfl,
      heeds_comparingVersions _ rfl rfl,
      heeds_comparingVersions _ rfl rfl,
      heeds_comparingVersions _ rfl rfl,
      heeds_isOSPlatform rfl,
      heeds_constant _,
      heeds_constant _,
      heeds_stableStringHash rfl,
      heeds_constant _,
      heeds_substringByAsciiChars rfl rfl rfl⟩

end Intrinsics

end RefExpand
