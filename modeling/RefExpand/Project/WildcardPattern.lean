import RefExpand.Project.Path

namespace RefExpand

/-!
# Wildcard patterns

A pattern is cut after the last separator before its first wildcard: a fixed
directory, and a part that is matched.
-/

/-- A fixed directory and the part of a pattern that holds wildcards. -/
structure WildcardPattern where
  fixed : Text
  wildcard : Text
  deriving Repr, DecidableEq

namespace WildcardPattern

/-- Either wildcard. -/
def isWildcard (c : Char) : Bool :=
  c == '*' || c == '?'

/-- Cut a pattern before the segment of its first wildcard. -/
def split (pattern : Text) : WildcardPattern :=
  let plain := pattern.takeWhile fun c => !isWildcard c
  let fixed := Text.trimEndBy (fun c => !Path.isSeparator c) plain
  { fixed, wildcard := pattern.drop fixed.length }

/-- The pattern in one piece. -/
def text (pattern : WildcardPattern) : Text :=
  pattern.fixed ++ pattern.wildcard

/-- What lies between the fixed directory and the file name of a match. -/
def recursivePart (pattern : WildcardPattern) (file : Text) : Text :=
  let directory := Path.fixSeparators (Path.directoryWithSeparator file)
  let fixed := Path.fixSeparators pattern.fixed
  if fixed.length ≤ directory.length ∧ Text.sameName (directory.take fixed.length) fixed then
    directory.drop fixed.length
  else
    []

end WildcardPattern

end RefExpand
