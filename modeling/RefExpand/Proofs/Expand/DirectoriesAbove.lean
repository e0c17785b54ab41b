import Mathlib.Data.List.Perm.Basic
import RefExpand.Proofs.Expand.Run
import RefExpand.Proofs.Expand.StepNames
import RefExpand.Proofs.Project.Directories
import RefExpand.Proofs.Text.Order

namespace RefExpand

/-!
# All directories above a batch

The directories above the specs of a batch stand in one row, sorted by upper-case
text, each once up to case. The row holds whatever is above a spec and nothing else,
so it is closed under parents, but the empty path is above none: the first part of a
path without a root stands there without a parent. Which of two spellings the row keeps
depends on the order of the batch; what it holds up to case does not.
-/

/-- A traversal succeeds where each of its steps does. -/
theorem mapM_eq_ok_iff
    {action : α → Except ε β}
    {inputs : List α}
    {results : List β} :
    inputs.mapM action = .ok results ↔
      List.Forall₂ (fun input result => action input = .ok result) inputs results := by
  induction inputs generalizing results with
  | nil =>
      rw [List.forall₂_nil_left_iff]
      exact ⟨fun done => (Except.ok.inj done).symm, fun isNil => isNil ▸ rfl⟩
  | cons input rest inductionHypothesis =>
      rw [List.mapM_cons]
      constructor
      · intro ran
        obtain ⟨result, atFirst, ran⟩ := exists_of_bind_eq_ok ran
        obtain ⟨later, atRest, ran⟩ := exists_of_bind_eq_ok ran
        cases ran
        exact .cons atFirst (inductionHypothesis.mp atRest)
      · intro each
        cases each with
        | cons atFirst atRest =>
            rw [atFirst, inductionHypothesis.mpr atRest]
            rfl

/-- A traversal that succeeds succeeds in any other order. -/
theorem exists_mapM_of_perm
    {action : α → Except ε β}
    {inputs others : List α}
    {results : List β}
    (ran : inputs.mapM action = .ok results)
    (reordered : others.Perm inputs) :
    ∃ otherResults, others.mapM action = .ok otherResults ∧ otherResults.Perm results := by
  obtain ⟨otherResults, each, reorderedResults⟩ :=
    List.perm_comp_forall₂ reordered (mapM_eq_ok_iff.mp ran)
  exact ⟨otherResults, mapM_eq_ok_iff.mpr each, reorderedResults⟩

namespace Pipeline

/-- A row increases by its upper-case texts. -/
def Ascends (row : List Text) : Prop :=
  row.Pairwise fun first second => Text.order first.upper second.upper = .lt

section Rows

variable {new directory : Text} {row : List Text}

theorem mem_of_mem_insertDirectory
    (isMember : directory ∈ insertDirectory new row) :
    directory = new ∨ directory ∈ row := by
  fun_induction insertDirectory new row with
  | case1 =>
      exact .inl (List.mem_singleton.mp isMember)
  | case2 first rest before =>
      exact List.mem_cons.mp isMember
  | case3 first rest same =>
      exact .inr isMember
  | case4 first rest behind inductionHypothesis =>
      rcases List.mem_cons.mp isMember with rfl | inRest
      · exact .inr List.mem_cons_self
      · exact (inductionHypothesis inRest).imp_right (List.mem_cons_of_mem first)

/-- Up to case, a row holds what it held and the directory that is put in. -/
theorem mem_upper_insertDirectory_iff
    {key : Text} :
    key ∈ (insertDirectory new row).map Text.upper ↔
      key = new.upper ∨ key ∈ row.map Text.upper := by
  fun_induction insertDirectory new row with
  | case1 =>
      simp
  | case2 first rest before =>
      simp
  | case3 first rest same =>
      have isFirst : new.upper = first.upper :=
        Std.LawfulEqCmp.eq_of_compare same
      rw [isFirst, List.map_cons, List.mem_cons]
      tauto
  | case4 first rest behind inductionHypothesis =>
      rw [List.map_cons, List.mem_cons, inductionHypothesis, List.map_cons, List.mem_cons]
      tauto

theorem ascends_insertDirectory
    (ascends : Ascends row) :
    Ascends (insertDirectory new row) := by
  fun_induction insertDirectory new row with
  | case1 =>
      exact List.pairwise_singleton _ _
  | case2 first rest before =>
      refine .cons (fun directory isMember => ?_) ascends
      rcases List.mem_cons.mp isMember with rfl | inRest
      · exact before
      · exact Std.TransCmp.lt_trans before (List.rel_of_pairwise_cons ascends inRest)
  | case3 first rest same =>
      exact ascends
  | case4 first rest behind inductionHypothesis =>
      refine .cons (fun directory isMember => ?_) (inductionHypothesis ascends.of_cons)
      rcases mem_of_mem_insertDirectory isMember with rfl | inRest
      · exact Std.OrientedCmp.gt_iff_lt.mp behind
      · exact List.rel_of_pairwise_cons ascends inRest

/-- The row of all directories of a list. -/
def rowOf (directories : List Text) : List Text :=
  directories.foldl (fun row directory => insertDirectory directory row) []

theorem ascends_rowOf
    (directories : List Text) :
    Ascends (rowOf directories) :=
  List.foldlRecOn directories _ .nil fun _ ascends _ _ => ascends_insertDirectory ascends

theorem mem_of_mem_rowOf
    {directories : List Text}
    (isMember : directory ∈ rowOf directories) :
    directory ∈ directories := by
  refine
    List.foldlRecOn (motive := fun row => ∀ directory ∈ row, directory ∈ directories) directories _
      (List.forall_mem_nil _) ?_ directory isMember
  intro row within new isNew directory isMember
  rcases mem_of_mem_insertDirectory isMember with rfl | inRow
  · exact isNew
  · exact within directory inRow

/-- Up to case, the row of a list holds what the list holds. -/
theorem mem_upper_rowOf_iff
    {directories : List Text}
    {key : Text} :
    key ∈ (rowOf directories).map Text.upper ↔ key ∈ directories.map Text.upper := by
  have fromRow : ∀ {row},
      key ∈
          (directories.foldl (fun row directory => insertDirectory directory row) row).map
            Text.upper ↔
        key ∈ row.map Text.upper ∨ key ∈ directories.map Text.upper := by
    induction directories with
    | nil =>
        simp
    | cons first rest inductionHypothesis =>
        intro row
        rw [List.foldl_cons, inductionHypothesis, mem_upper_insertDirectory_iff, List.map_cons,
          List.mem_cons]
        tauto
  rw [rowOf, fromRow]
  simp

/-- Two rows that hold the same up to case are the same up to case. -/
theorem map_upper_rowOf_of_perm
    {directories others : List Text}
    (reordered : others.Perm directories) :
    (rowOf others).map Text.upper = (rowOf directories).map Text.upper := by
  have increases :
      ∀ directories,
        ((rowOf directories).map Text.upper).Pairwise fun key next => Text.order key next = .lt :=
    fun directories => List.pairwise_map.mpr (ascends_rowOf directories)
  have sameKeys : ((rowOf others).map Text.upper).Perm ((rowOf directories).map Text.upper) := by
    rw [List.perm_ext_iff_of_nodup ((increases others).imp Text.ne_of_order_eq_lt)
      ((increases directories).imp Text.ne_of_order_eq_lt)]
    intro key
    rw [mem_upper_rowOf_iff, mem_upper_rowOf_iff]
    exact (reordered.map Text.upper).mem_iff
  refine sameKeys.eq_of_pairwise ?_ (increases others) (increases directories)
  intro key next _ _ before behind
  exact absurd rfl (Text.ne_of_order_eq_lt (Std.TransCmp.lt_trans before behind))

end Rows

variable {pipeline : Pipeline} {transform : Transform} {batch pairs : List ItemPair}
  {directory : Text}

/-- A directory above the normal form of the path of a pair that has a spec. -/
def IsAbovePair (pipeline : Pipeline) (pair : ItemPair) (directory : Text) : Prop :=
  pair.isEmpty = false ∧
    ∃ path,
      pipeline.rooted pair.text pair.source = .ok path ∧
        Path.IsAbove (Path.normalize path) directory

theorem mem_directoriesAbove_iff
    {pair : ItemPair}
    {found : List Text}
    (given : pipeline.directoriesAbove pair = .ok found) :
    directory ∈ found ↔ pipeline.IsAbovePair pair directory := by
  rw [directoriesAbove] at given
  cases empty : pair.isEmpty with
  | true =>
      rw [empty, if_pos rfl] at given
      cases given
      refine iff_of_false List.not_mem_nil fun above => ?_
      cases empty.symm.trans above.1
  | false =>
      rw [empty, if_neg (by decide)] at given
      obtain ⟨path, isPath, given⟩ := exists_of_bind_eq_ok given
      cases given
      rw [Path.mem_ancestors_iff (Path.isSingle_normalize path)]
      constructor
      · exact fun above => ⟨empty, path, isPath, above⟩
      · rintro ⟨-, other, isOther, above⟩
        rw [isPath] at isOther
        cases isOther
        exact above

/-- What is found for the pairs of a batch is what is above one of them. -/
theorem mem_flatten_iff
    {found : List (List Text)}
    (given : batch.mapM (fun pair => ofResult (pipeline.directoriesAbove pair)) = .ok found) :
    directory ∈ found.flatten ↔ ∃ pair ∈ batch, pipeline.IsAbovePair pair directory := by
  have each := mapM_eq_ok_iff.mp given
  clear given
  induction each with
  | nil =>
      simp
  | cons atFirst _ inductionHypothesis =>
      rw [List.flatten_cons, List.mem_append,
        mem_directoriesAbove_iff (eq_ok_of_mapError atFirst)]
      simp only [inductionHypothesis, List.mem_cons, exists_eq_or_imp]

/-- A row of directories that is sorted, complete and closed under parents, up to case. -/
structure ClosesUpward
    (pipeline : Pipeline)
    (batch : List ItemPair)
    (directories : List Text) :
    Prop where
  ascends : Ascends directories
  complete :
    ∀ pair ∈ batch, ∀ directory,
      pipeline.IsAbovePair pair directory → directory.upper ∈ directories.map Text.upper
  sound : ∀ directory ∈ directories, ∃ pair ∈ batch, pipeline.IsAbovePair pair directory
  /-- Of directories that are not roots, only a single segment without a root has no parent. -/
  parents :
    ∀ directory ∈ directories,
      Path.afterRoot directory ≠ [] →
        ∃ parent,
          Path.directoryName? directory = some parent ∧
            (parent.upper ∈ directories.map Text.upper ∨
              parent = [] ∧ Path.isRooted directory = false)

theorem closesUpward_rowOf
    {found : List (List Text)}
    (given : batch.mapM (fun pair => ofResult (pipeline.directoriesAbove pair)) = .ok found) :
    pipeline.ClosesUpward batch (rowOf found.flatten) := by
  have complete :
      ∀ pair ∈ batch, ∀ directory,
        pipeline.IsAbovePair pair directory →
          directory.upper ∈ (rowOf found.flatten).map Text.upper := by
    intro pair inBatch directory above
    rw [mem_upper_rowOf_iff]
    exact List.mem_map_of_mem ((mem_flatten_iff given).mpr ⟨pair, inBatch, above⟩)
  have sound :
      ∀ directory ∈ rowOf found.flatten, ∃ pair ∈ batch, pipeline.IsAbovePair pair directory :=
    fun _ isMember => (mem_flatten_iff given).mp (mem_of_mem_rowOf isMember)
  refine { ascends := ascends_rowOf _, complete, sound, parents := ?_ }
  intro directory isMember behind
  obtain ⟨pair, inBatch, filled, path, isPath, above⟩ := sound directory isMember
  obtain ⟨parent, found⟩ := Path.exists_directoryName? behind
  refine ⟨parent, found, ?_⟩
  by_cases written : parent = []
  · -- The directory of a rooted path is rooted, and the empty text is not.
    refine .inr ⟨written, Bool.eq_false_iff.mpr fun rooted => ?_⟩
    subst written
    cases Path.isRooted_of_directoryName? rooted found
  · have single := Path.isSingle_normalize path
    have parentAbove : Path.IsAbove (Path.normalize path) parent :=
      (Path.mem_ancestors_iff single).mp
        (Path.parent_mem_ancestors ((Path.mem_ancestors_iff single).mpr above) found written)
    exact .inl (complete pair inBatch parent ⟨filled, path, isPath, parentAbove⟩)

/-- What is found for the pairs makes one row, whose directories are the specs of the result. -/
theorem apply_directoriesAbove_iff
    {arguments : List Text}
    (looksUp : pipeline.step transform = .ok (.list .directoriesAbove arguments)) :
    pipeline.apply transform batch = .ok pairs ↔
      ∃ found,
        batch.mapM (fun pair => ofResult (pipeline.directoriesAbove pair)) = .ok found ∧
          pairs = (rowOf found.flatten).map fun directory => .of directory.escape none := by
  rw [apply_of_step looksUp, run, runList]
  constructor
  · intro ran
    obtain ⟨found, isFound, ran⟩ := exists_of_bind_eq_ok ran
    cases ran
    exact ⟨found, isFound, rfl⟩
  · rintro ⟨found, isFound, rfl⟩
    rw [isFound]
    rfl

/--
What is above the specs of a batch is a row that increases by upper-case text, holds up
to case all directories above the normal forms of their paths and no others, and with
each directory its parent, unless that is the empty path. In another order of the batch
the row is the same up to case.
-/
theorem directories_above_close_upward
    {arguments : List Text}
    (looksUp : pipeline.step transform = .ok (.list .directoriesAbove arguments))
    (applied : pipeline.apply transform batch = .ok pairs) :
    let directories := pairs.map fun pair => pair.text.unescape
    pairs = directories.map (fun directory => ItemPair.of directory.escape none) ∧
      pipeline.ClosesUpward batch directories ∧
      ∀ other : List ItemPair,
        other.Perm batch →
          ∃ otherPairs,
            pipeline.apply transform other = .ok otherPairs ∧
              otherPairs.map (fun pair => pair.text.unescape.upper) =
                directories.map Text.upper := by
  have texts :
      ∀ row : List Text,
        (row.map fun directory => ItemPair.of directory.escape none).map
            (fun pair => pair.text.unescape) = row := by
    intro row
    rw [List.map_map]
    exact List.map_id'' (fun directory => Text.unescape_escape directory) row
  obtain ⟨found, isFound, rfl⟩ := (apply_directoriesAbove_iff looksUp).mp applied
  dsimp only
  rw [texts]
  refine ⟨rfl, closesUpward_rowOf isFound, fun other reordered => ?_⟩
  obtain ⟨otherFound, isOther, reorderedFound⟩ := exists_mapM_of_perm isFound reordered
  refine ⟨_, (apply_directoriesAbove_iff looksUp).mpr ⟨otherFound, isOther, rfl⟩, ?_⟩
  have upperTexts := congrArg (List.map Text.upper) (texts (rowOf otherFound.flatten))
  rw [List.map_map] at upperTexts
  exact upperTexts.trans (map_upper_rowOf_of_perm reorderedFound.flatten)

/-- Two spellings of one directory give one of them, by the order of the batch. -/
theorem directories_above_close_upward_of_spellings :
    let files : ListedFiles := { currentDirectory := "/cwd" }
    let pipeline : Pipeline :=
      { context := { ExpandContext.onEmptyMachine with fileSystem := files.toFileSystem }
        keepsPlaceholders := true
        expression := "@(A->GetPathsOfAllDirectoriesAbove())" }
    let transform : Transform :=
      { written := "GetPathsOfAllDirectoriesAbove()"
        offset := 5
        kind := .function "GetPathsOfAllDirectoriesAbove" "" }
    let batch : List ItemPair :=
      [.of "src/../Lib/x" none, .placeholder none, .of "/CWD/%62/" none]
    pipeline.apply transform batch =
        .ok [.of "/" none, .of "/cwd" none, .of "/CWD/b" none, .of "/cwd/Lib" none] ∧
      pipeline.apply transform batch.reverse =
        .ok [.of "/" none, .of "/CWD" none, .of "/CWD/b" none, .of "/cwd/Lib" none] ∧
      pipeline.ClosesUpward batch ["/", "/cwd", "/CWD/b", "/cwd/Lib"] := by
  intro files pipeline transform batch
  have looksUp : pipeline.step transform = .ok (.list .directoriesAbove []) := by
    rfl
  have applied :
      pipeline.apply transform batch =
        .ok [.of "/" none, .of "/cwd" none, .of "/CWD/b" none, .of "/cwd/Lib" none] := by
    decide +kernel
  have appliedReversed :
      pipeline.apply transform batch.reverse =
        .ok [.of "/" none, .of "/CWD" none, .of "/CWD/b" none, .of "/cwd/Lib" none] := by
    decide +kernel
  have closes := (directories_above_close_upward looksUp applied).2.1
  exact ⟨applied, appliedReversed, closes⟩

/-- The project directory `proj` is given, though the path above it is empty and is not. -/
theorem not_every_parent_given :
    ¬ ∀ (pipeline : Pipeline) (transform : Transform) (arguments : List Text)
        (batch pairs : List ItemPair),
      pipeline.step transform = .ok (.list .directoriesAbove arguments) →
        pipeline.apply transform batch = .ok pairs →
          let directories := pairs.map fun pair => pair.text.unescape
          ∀ directory ∈ directories,
            Path.afterRoot directory ≠ [] →
              ∃ parent,
                Path.directoryName? directory = some parent ∧
                  parent.upper ∈ directories.map Text.upper := by
  intro claimed
  let pipeline : Pipeline :=
    { context := ExpandContext.onEmptyMachine
      keepsPlaceholders := false
      expression := "@(A->GetPathsOfAllDirectoriesAbove())" }
  let transform : Transform :=
    { written := "GetPathsOfAllDirectoriesAbove()"
      offset := 5
      kind := .function "GetPathsOfAllDirectoriesAbove" "" }
  let item : Item := { itemType := "A", spec := "x", directory := some "proj" }
  have looksUp : pipeline.step transform = .ok (.list .directoriesAbove []) := by
    rfl
  have applied : pipeline.apply transform [.of "x" (some item)] = .ok [.of "proj" none] := by
    decide +kernel
  obtain ⟨parent, isParent, isGiven⟩ :=
    claimed pipeline transform [] _ _ looksUp applied "proj" (.head _) (by decide)
  have isEmpty : Path.directoryName? "proj" = some [] := by
    rfl
  rw [isEmpty] at isParent
  cases isParent
  revert isGiven
  decide

end Pipeline

end RefExpand
