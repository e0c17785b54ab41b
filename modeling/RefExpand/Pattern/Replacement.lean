import RefExpand.Pattern.Search
import RefExpand.Pattern.Written

namespace RefExpand.Pattern

/-!
# Replacing matches

Each match is replaced by a template, in which a dollar refers to a captured
group by its number or its name; a group that is not there gives nothing.
-/

/-- The text that a part of a replacement stands for at a match. -/
def Written.fillPart (written : Written) (text : Text) (found : Match) :
    ReplacementPart → Text
  | .literal fixed => fixed
  | .numbered index => (found.group? text index).getD []
  | .named name => ((written.names.lookup name).bind (found.group? text)).getD []

/-- Replace every match in a text. -/
def Written.replaceAll (written : Written) (replacement text : Text) : Text :=
  let parts := readReplacement replacement
  go parts 0 (written.pattern.allMatches text)
where
  /-- The text from a position on, with its matches replaced. -/
  go (parts : List ReplacementPart) (position : Nat) : List Match → Text
    | [] => text.drop position
    | found :: later =>
        slice text position found.start ++ parts.flatMap (written.fillPart text found) ++
          go parts found.finish later

end RefExpand.Pattern
