import RefExpand.Proofs.Expand.Run
import RefExpand.Proofs.Expand.StepNames

namespace RefExpand

/-!
# The first pair of each class

Two functions on the list drop pairs that are like an earlier one: one compares
specs as they are written, the other in lower case. A placeholder is like every
other placeholder. One run over the batch carries the keys of what it kept, and
whatever it drops has such a key, so each class keeps the pair that stands first.
Running a function twice, or the coarser one after the finer one, is running the
coarser one alone.
-/

/-- A batch and what is left of it if the first pair of each key is kept, and no other. -/
structure KeepsFirsts
    (key : ItemPair → β)
    (batch kept : List ItemPair) :
    Prop where
  inOrder : kept.Sublist batch
  noTwoAlike : kept.Pairwise fun pair other => key pair ≠ key other
  /-- Each pair of the batch has its like among the pairs kept up to its place. -/
  keptBefore :
    ∀ front pair back,
      batch = front ++ pair :: back →
        ∃ keptFront keptBack,
          kept = keptFront ++ keptBack ∧
            keptFront.Sublist (front ++ [pair]) ∧ keptBack.Sublist back ∧
            ∃ first ∈ keptFront, key first = key pair

namespace Pipeline

section KeepFirst

variable [BEq β] [LawfulBEq β] {key : ItemPair → β} {seen : List β} {batch : List ItemPair}

theorem keepFirst_cons_of_mem
    {pair : ItemPair}
    (wasSeen : key pair ∈ seen)
    (rest : List ItemPair) :
    keepFirst key seen (pair :: rest) = keepFirst key seen rest := by
  rw [keepFirst, if_pos (List.contains_iff_mem.mpr wasSeen)]

theorem keepFirst_cons_of_not_mem
    {pair : ItemPair}
    (isNew : key pair ∉ seen)
    (rest : List ItemPair) :
    keepFirst key seen (pair :: rest) = pair :: keepFirst key (key pair :: seen) rest := by
  rw [keepFirst, if_neg fun wasSeen => isNew (List.contains_iff_mem.mp wasSeen)]

theorem keepFirst_sublist :
    (keepFirst key seen batch).Sublist batch := by
  induction batch generalizing seen with
  | nil =>
      exact .slnil
  | cons pair rest inductionHypothesis =>
      by_cases wasSeen : key pair ∈ seen
      · rw [keepFirst_cons_of_mem wasSeen]
        exact inductionHypothesis.cons pair
      · rw [keepFirst_cons_of_not_mem wasSeen]
        exact inductionHypothesis.cons_cons pair

/-- No pair is kept that was seen before. -/
theorem keepFirst_unseen :
    ∀ pair ∈ keepFirst key seen batch, key pair ∉ seen := by
  induction batch generalizing seen with
  | nil =>
      intro pair isKept
      cases isKept
  | cons first rest inductionHypothesis =>
      intro pair isKept
      by_cases wasSeen : key first ∈ seen
      · rw [keepFirst_cons_of_mem wasSeen] at isKept
        exact inductionHypothesis pair isKept
      · rw [keepFirst_cons_of_not_mem wasSeen] at isKept
        rcases List.mem_cons.mp isKept with rfl | inRest
        · exact wasSeen
        · exact fun inSeen => inductionHypothesis pair inRest (List.mem_cons_of_mem _ inSeen)

theorem keepFirst_pairwise :
    (keepFirst key seen batch).Pairwise fun pair other => key pair ≠ key other := by
  induction batch generalizing seen with
  | nil =>
      exact .nil
  | cons pair rest inductionHypothesis =>
      by_cases wasSeen : key pair ∈ seen
      · rw [keepFirst_cons_of_mem wasSeen]
        exact inductionHypothesis
      · rw [keepFirst_cons_of_not_mem wasSeen]
        refine .cons (fun other isKept sameKey => ?_) inductionHypothesis
        exact keepFirst_unseen other isKept (sameKey ▸ List.mem_cons_self)

/-- Whatever is not kept is like a pair that is, or like one that was seen before. -/
theorem exists_kept_of_mem
    {pair : ItemPair}
    (isMember : pair ∈ batch)
    (isNew : key pair ∉ seen) :
    ∃ first ∈ keepFirst key seen batch, key first = key pair := by
  induction batch generalizing seen with
  | nil =>
      cases isMember
  | cons head rest inductionHypothesis =>
      by_cases wasSeen : key head ∈ seen
      · rw [keepFirst_cons_of_mem wasSeen]
        rcases List.mem_cons.mp isMember with rfl | inRest
        · exact absurd wasSeen isNew
        · exact inductionHypothesis inRest isNew
      · rw [keepFirst_cons_of_not_mem wasSeen]
        by_cases sameKey : key head = key pair
        · exact ⟨head, List.mem_cons_self, sameKey⟩
        · have inRest : pair ∈ rest :=
            (List.mem_cons.mp isMember).resolve_left fun isHead => sameKey (isHead ▸ rfl)
          have stillNew : key pair ∉ key head :: seen := by
            rw [List.mem_cons, not_or]
            exact ⟨fun same => sameKey same.symm, isNew⟩
          obtain ⟨first, isKept, same⟩ := inductionHypothesis inRest stillNew
          exact ⟨first, List.mem_cons_of_mem _ isKept, same⟩

/-- What is kept of the front is kept whatever stands behind it. -/
theorem exists_keepFirst_append
    (key : ItemPair → β)
    (seen : List β)
    (front back : List ItemPair) :
    ∃ later,
      keepFirst key seen (front ++ back) =
        keepFirst key seen front ++ keepFirst key later back := by
  induction front generalizing seen with
  | nil =>
      exact ⟨seen, rfl⟩
  | cons pair rest inductionHypothesis =>
      by_cases wasSeen : key pair ∈ seen
      · obtain ⟨later, kept⟩ := inductionHypothesis seen
        refine ⟨later, ?_⟩
        rw [List.cons_append, keepFirst_cons_of_mem wasSeen, keepFirst_cons_of_mem wasSeen, kept]
      · obtain ⟨later, kept⟩ := inductionHypothesis (key pair :: seen)
        refine ⟨later, ?_⟩
        rw [List.cons_append, keepFirst_cons_of_not_mem wasSeen,
          keepFirst_cons_of_not_mem wasSeen, kept, List.cons_append]

theorem keepsFirsts_keepFirst
    (key : ItemPair → β)
    (batch : List ItemPair) :
    KeepsFirsts key batch (keepFirst key [] batch) where
  inOrder := keepFirst_sublist
  noTwoAlike := keepFirst_pairwise
  keptBefore := by
    intro front pair back isBatch
    subst isBatch
    rw [List.append_cons]
    obtain ⟨later, kept⟩ := exists_keepFirst_append key [] (front ++ [pair]) back
    refine ⟨_, _, kept, keepFirst_sublist, keepFirst_sublist, ?_⟩
    exact exists_kept_of_mem (List.mem_append_right front List.mem_cons_self) List.not_mem_nil

/-- Where the finer key was seen the coarser one was, so what it drops is dropped anyway. -/
theorem keepFirst_keepFirst
    [BEq γ]
    [LawfulBEq γ]
    {fine : ItemPair → γ}
    (coarser : ∀ pair other, fine pair = fine other → key pair = key other)
    {seenFine : List γ}
    (seenBoth : ∀ pair, fine pair ∈ seenFine → key pair ∈ seen) :
    keepFirst key seen (keepFirst fine seenFine batch) = keepFirst key seen batch := by
  induction batch generalizing seen seenFine with
  | nil =>
      rfl
  | cons pair rest inductionHypothesis =>
      by_cases wasSeenFine : fine pair ∈ seenFine
      · rw [keepFirst_cons_of_mem wasSeenFine, keepFirst_cons_of_mem (seenBoth pair wasSeenFine)]
        exact inductionHypothesis seenBoth
      · rw [keepFirst_cons_of_not_mem wasSeenFine]
        by_cases wasSeen : key pair ∈ seen
        · rw [keepFirst_cons_of_mem wasSeen, keepFirst_cons_of_mem wasSeen]
          refine inductionHypothesis fun other inFine => ?_
          rcases List.mem_cons.mp inFine with sameFine | inFine
          · exact coarser other pair sameFine ▸ wasSeen
          · exact seenBoth other inFine
        · rw [keepFirst_cons_of_not_mem wasSeen, keepFirst_cons_of_not_mem wasSeen]
          congr 1
          refine inductionHypothesis fun other inFine => ?_
          rcases List.mem_cons.mp inFine with sameFine | inFine
          · exact coarser other pair sameFine ▸ List.mem_cons_self
          · exact List.mem_cons_of_mem _ (seenBoth other inFine)

end KeepFirst

variable {pipeline : Pipeline} {folding minding : Transform}

/--
Of every batch the functions keep the first pair of each spec, one of each spec in
lower case and the other of each spec as it is written. Neither drops anything more
when it is run again, and after the one that minds case the other keeps what it
keeps alone.
-/
theorem distinct_keeps_firsts
    {arguments mindingArguments : List Text}
    (isFolding : pipeline.step folding = .ok (.list .distinct arguments))
    (isMinding : pipeline.step minding = .ok (.list .distinctWithCase mindingArguments))
    (batch : List ItemPair) :
    ∃ kept keptMinding,
      pipeline.apply folding batch = .ok kept ∧
        pipeline.apply minding batch = .ok keptMinding ∧
        KeepsFirsts (fun pair => pair.spec.map Text.lower) batch kept ∧
        KeepsFirsts (fun pair => pair.spec) batch keptMinding ∧
        pipeline.apply folding kept = .ok kept ∧
        pipeline.apply minding keptMinding = .ok keptMinding ∧
        pipeline.apply folding keptMinding = .ok kept := by
  rw [funext (apply_of_step isFolding), funext (apply_of_step isMinding)]
  refine
    ⟨_, _, rfl, rfl, keepsFirsts_keepFirst _ batch, keepsFirsts_keepFirst _ batch, ?_, ?_, ?_⟩
  · refine congrArg Except.ok (keepFirst_keepFirst (fun _ _ same => same) ?_)
    exact fun _ inSeen => inSeen
  · refine congrArg Except.ok (keepFirst_keepFirst (fun _ _ same => same) ?_)
    exact fun _ inSeen => inSeen
  · refine congrArg Except.ok (keepFirst_keepFirst (fun _ _ same => ?_) ?_)
    · exact congrArg (Option.map Text.lower) same
    · intro pair inSeen
      cases inSeen

/-- Two spellings, an empty spec and two placeholders are three classes, or four by case. -/
theorem distinct_keeps_firsts_of_spellings :
    let pipeline : Pipeline :=
      { context := .onEmptyMachine
        keepsPlaceholders := true
        expression := "@(A->Distinct())" }
    let folding : Transform :=
      { written := "Distinct()", offset := 5, kind := .function "Distinct" "" }
    let minding : Transform :=
      { written := "DistinctWithCase()", offset := 5, kind := .function "DistinctWithCase" "" }
    let batch : List ItemPair :=
      [.of "É" none, .placeholder none, .of "é" none, .of "" none, .placeholder none, .of "É" none]
    pipeline.apply folding batch = .ok [.of "É" none, .placeholder none, .of "" none] ∧
      pipeline.apply minding batch =
        .ok [.of "É" none, .placeholder none, .of "é" none, .of "" none] ∧
      KeepsFirsts (fun pair => pair.spec.map Text.lower) batch
        [.of "É" none, .placeholder none, .of "" none] := by
  intro pipeline folding minding batch
  have isFolding : pipeline.step folding = .ok (.list .distinct []) := by
    rfl
  have isMinding : pipeline.step minding = .ok (.list .distinctWithCase []) := by
    rfl
  obtain ⟨kept, keptMinding, folded, minded, keepsFirsts, -⟩ :=
    distinct_keeps_firsts isFolding isMinding batch
  have isKept :
      pipeline.apply folding batch = .ok [.of "É" none, .placeholder none, .of "" none] := by
    rfl
  have isKeptMinding :
      pipeline.apply minding batch =
        .ok [.of "É" none, .placeholder none, .of "é" none, .of "" none] := by
    rfl
  rw [folded, Except.ok.injEq] at isKept
  subst isKept
  exact ⟨folded, isKeptMinding, keepsFirsts⟩

end Pipeline

end RefExpand
