import RefExpand.Proofs.Call.Gate

namespace RefExpand

/-!
# Histories of the type cache

A cache is shared by everyone who resolves calls, so what an expansion meets in
it is what any number of earlier calls left there. The listed part of such a
cache agrees with the catalog, whoever asked and whatever was probed.
-/

/-- What is asked of a cache: to find a type, perhaps with a probe, or to forget everything. -/
inductive CacheCall where
  | resolve (probe : Option (Catalog → TypeProbe)) (name : Text)
  | clear

namespace TypeCache

/-- What a call leaves in the cache. -/
def serve
    (catalog : Catalog)
    (cache : TypeCache) :
    CacheCall → TypeCache
  | .resolve probe name => (cache.resolve catalog (probe.map (· catalog)) name).2
  | .clear => {}

/-- What a sequence of calls leaves in a cache that was empty at first. -/
def history
    (catalog : Catalog)
    (calls : List CacheCall) :
    TypeCache :=
  calls.foldl (serve catalog) {}

/-- Looking for a type that is not listed keeps the listed ones. -/
theorem resolveProbed_listed
    (cache : TypeCache)
    (probe : TypeProbe)
    (name : Text) :
    (cache.resolveProbed probe name).2.listed = cache.listed := by
  unfold resolveProbed
  cases cache.probed.lookup name.lowerAscii with
  | some entry =>
      rfl
  | none =>
      cases probe name <;> rfl

/-- A listed type is remembered when it is first found; a probe adds nothing to the listed ones. -/
theorem resolve_listed
    (cache : TypeCache)
    (catalog : Catalog)
    (probe : Option TypeProbe)
    (name : Text) :
    (cache.resolve catalog probe name).2.listed =
      match cache.listed.lookup name.lowerAscii, catalog.type? name with
      | none, some entry => (name.lowerAscii, entry) :: cache.listed
      | _, _ => cache.listed := by
  unfold resolve
  cases cache.listed.lookup name.lowerAscii with
  | some known =>
      rfl
  | none =>
      cases catalog.type? name with
      | some entry =>
          rfl
      | none =>
          cases probe with
          | none =>
              rfl
          | some probe =>
              exact cache.resolveProbed_listed probe name

/-- Without a probe a name stands for the remembered type, or else for the type of the catalog. -/
theorem resolve_unprobed
    (cache : TypeCache)
    (catalog : Catalog)
    (name : Text) :
    (cache.resolve catalog none name).1 =
      (cache.listed.lookup name.lowerAscii).or (catalog.type? name) := by
  unfold resolve
  cases cache.listed.lookup name.lowerAscii with
  | some known =>
      rfl
  | none =>
      cases catalog.type? name <;> rfl

/-- Caches that list the same names, with types that are the same outside the gate. -/
def SameOutside
    (left right : TypeCache) :
    Prop :=
  List.Forall₂
    (fun first second => first.1 = second.1 ∧ first.2.SameOutside second.2)
    left.listed right.listed

theorem lookup_sameOutside
    {left right : List (Text × TypeEntry)}
    (same :
      List.Forall₂
        (fun first second => first.1 = second.1 ∧ first.2.SameOutside second.2)
        left right)
    (name : Text) :
    Option.Rel TypeEntry.SameOutside (left.lookup name) (right.lookup name) := by
  induction same with
  | nil =>
      exact .none
  | @cons first second lefts rights head _ inductionHypothesis =>
      obtain ⟨leftName, leftEntry⟩ := first
      obtain ⟨rightName, rightEntry⟩ := second
      obtain ⟨sameName, entries⟩ := head
      dsimp only at sameName entries
      subst sameName
      simp only [List.lookup_cons]
      cases name == leftName with
      | true =>
          exact .some entries
      | false =>
          exact inductionHypothesis

namespace SameOutside

variable {left right : TypeCache} {leftCatalog rightCatalog : Catalog}

theorem resolve
    (same : left.SameOutside right)
    (catalogs : leftCatalog.SameOutside rightCatalog)
    (leftProbe rightProbe : Option TypeProbe)
    (name : Text) :
    (left.resolve leftCatalog leftProbe name).2.SameOutside
      (right.resolve rightCatalog rightProbe name).2 := by
  have cached := lookup_sameOutside same name.lowerAscii
  have listed := TypeEntry.find?_sameOutside catalogs.types name
  unfold SameOutside at same ⊢
  rw [resolve_listed, resolve_listed, Catalog.type?, Catalog.type?]
  generalize left.listed.lookup name.lowerAscii = leftKnown at cached
  generalize right.listed.lookup name.lowerAscii = rightKnown at cached
  generalize TypeEntry.find? leftCatalog.types name = leftType at listed
  generalize TypeEntry.find? rightCatalog.types name = rightType at listed
  cases cached with
  | some known =>
      exact same
  | none =>
      cases listed with
      | none =>
          exact same
      | some entries =>
          exact .cons ⟨rfl, entries⟩ same

/-- Without probes a name stands for types that are the same outside the gate. -/
theorem resolve_unprobed
    (same : left.SameOutside right)
    (catalogs : leftCatalog.SameOutside rightCatalog)
    (name : Text) :
    Option.Rel TypeEntry.SameOutside
      (left.resolve leftCatalog none name).1
      (right.resolve rightCatalog none name).1 := by
  have cached := lookup_sameOutside same name.lowerAscii
  have listed := TypeEntry.find?_sameOutside catalogs.types name
  rw [TypeCache.resolve_unprobed, TypeCache.resolve_unprobed, Catalog.type?, Catalog.type?]
  generalize left.listed.lookup name.lowerAscii = leftKnown at cached
  generalize right.listed.lookup name.lowerAscii = rightKnown at cached
  cases cached with
  | some known =>
      exact .some known
  | none =>
      exact listed

theorem serve
    (same : left.SameOutside right)
    (catalogs : leftCatalog.SameOutside rightCatalog)
    (call : CacheCall) :
    (left.serve leftCatalog call).SameOutside (right.serve rightCatalog call) := by
  cases call with
  | resolve probe name =>
      exact same.resolve catalogs _ _ name
  | clear =>
      exact .nil

theorem serveAll
    (same : left.SameOutside right)
    (catalogs : leftCatalog.SameOutside rightCatalog)
    (calls : List CacheCall) :
    (calls.foldl (TypeCache.serve leftCatalog) left).SameOutside
      (calls.foldl (TypeCache.serve rightCatalog) right) := by
  induction calls generalizing left right with
  | nil =>
      exact same
  | cons call rest inductionHypothesis =>
      exact inductionHypothesis (same.serve catalogs call)

/-- One history leaves caches that are the same outside the gate. -/
theorem history
    (catalogs : leftCatalog.SameOutside rightCatalog)
    (calls : List CacheCall) :
    (TypeCache.history leftCatalog calls).SameOutside
      (TypeCache.history rightCatalog calls) := by
  have empty : SameOutside {} {} :=
    List.Forall₂.nil
  exact empty.serveAll catalogs calls

end SameOutside

/-- What the cache lists, the catalog lists under a name of this lower-case form. -/
def Faithful
    (catalog : Catalog)
    (cache : TypeCache) :
    Prop :=
  ∀ key entry,
    cache.listed.lookup key = some entry →
      ∃ name, name.lowerAscii = key ∧ catalog.type? name = some entry

/-- A type is found under every name of the same lower-case form. -/
theorem type?_congr
    (catalog : Catalog)
    {left right : Text}
    (same : left.lowerAscii = right.lowerAscii) :
    catalog.type? left = catalog.type? right := by
  have sameTest :
      (fun entry : TypeEntry => Text.sameName entry.name left) =
        fun entry => Text.sameName entry.name right := by
    funext entry
    exact Text.sameName_congr_right (Text.sameName_iff.mpr same) entry.name
  rw [Catalog.type?, Catalog.type?, TypeEntry.find?, TypeEntry.find?, sameTest]

namespace Faithful

variable {catalog : Catalog} {cache : TypeCache}

/-- A type of the catalog is found through the cache, with or without a probe. -/
theorem resolve_eq
    (faithful : cache.Faithful catalog)
    {name : Text}
    {entry : TypeEntry}
    (isListed : catalog.type? name = some entry)
    (probe : Option TypeProbe) :
    (cache.resolve catalog probe name).1 = some entry := by
  unfold TypeCache.resolve
  cases known : cache.listed.lookup name.lowerAscii with
  | some remembered =>
      obtain ⟨other, sameForm, otherListed⟩ := faithful _ _ known
      rw [type?_congr catalog sameForm, isListed] at otherListed
      exact otherListed.symm
  | none =>
      rw [isListed]

theorem resolve
    (faithful : cache.Faithful catalog)
    (probe : Option TypeProbe)
    (name : Text) :
    (cache.resolve catalog probe name).2.Faithful catalog := by
  intro key entry found
  rw [resolve_listed] at found
  cases known : cache.listed.lookup name.lowerAscii with
  | some remembered =>
      rw [known] at found
      exact faithful key entry found
  | none =>
      cases isListed : catalog.type? name with
      | none =>
          rw [known, isListed] at found
          exact faithful key entry found
      | some added =>
          rw [known, isListed] at found
          dsimp only at found
          by_cases here : key = name.lowerAscii
          · subst here
            rw [List.lookup_cons_self, Option.some.injEq] at found
            subst found
            exact ⟨name, rfl, isListed⟩
          · have elsewhere : (key == name.lowerAscii) = false :=
              beq_eq_false_iff_ne.mpr here
            rw [List.lookup_cons, elsewhere] at found
            exact faithful key entry found

theorem serve
    (faithful : cache.Faithful catalog)
    (call : CacheCall) :
    (cache.serve catalog call).Faithful catalog := by
  cases call with
  | resolve probe name =>
      exact faithful.resolve _ name
  | clear =>
      intro key entry found
      cases found

/-- Every history leaves a faithful cache. -/
theorem history
    (catalog : Catalog)
    (calls : List CacheCall) :
    (TypeCache.history catalog calls).Faithful catalog := by
  have serveAll :
      ∀ start : TypeCache,
        start.Faithful catalog →
          (calls.foldl (TypeCache.serve catalog) start).Faithful catalog := by
    induction calls with
    | nil =>
        exact fun _ faithful => faithful
    | cons call rest inductionHypothesis =>
        exact fun _ faithful => inductionHypothesis _ (faithful.serve call)
  refine serveAll {} ?_
  intro key entry found
  cases found

end Faithful

end TypeCache

end RefExpand
