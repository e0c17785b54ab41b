import RefExpand.Text.Blank

namespace RefExpand

/-!
# Policies

Two switches say what may be called beyond the open members of the listed
types. Both are off unless the environment turns them on.
-/

/-- What may be called. -/
structure CallPolicy where
  /-- Every member of every type may be called. -/
  allowAll : Bool := false
  /-- Types that are not listed are looked for by a probe. -/
  probesTypes : Bool := false
  deriving Repr, DecidableEq, Inhabited

namespace CallPolicy

/-- Everything may be called. -/
def unrestricted : CallPolicy :=
  { allowAll := true, probesTypes := true }

/-- A variable is on if it holds `1` or the word for truth. -/
def isOn (value : Option Text) : Bool :=
  value.any fun text => text.trim == ['1'] || Text.sameName text.trim "true"

/-- The policy that environment variables ask for. -/
def ofVariables (valueOf? : Text → Option Text) : CallPolicy :=
  { allowAll := isOn (valueOf? "MSBUILDENABLEALLPROPERTYFUNCTIONS")
    probesTypes := isOn (valueOf? "MSBUILDPROBEEXTERNALTYPES") }

end CallPolicy

end RefExpand
