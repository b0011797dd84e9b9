import LeakCheck.Text.Blank

/-!
# Suppressing comments

A comment suppresses reports if one of its lines begins with the word `secretflow:ignore`, after the
signs of a comment and white space.
-/

namespace LeakCheck.Suppression

/-- The word that suppresses reports. -/
def ignoreWord : List Char := "secretflow:ignore".toList

/-- A text without a given beginning, if it has that. -/
def dropStart (start cs : List Char) : List Char :=
  if start.isPrefixOf cs then cs.drop start.length else cs

/-- A text without a given end, if it has that. -/
def dropEnd (tail cs : List Char) : List Char :=
  if tail.isSuffixOf cs then cs.take (cs.length - tail.length) else cs

/-- The lines of a text. -/
def lines (cs : List Char) : List (List Char) :=
  cs.foldr (fun c acc =>
    if c = '\n' then [] :: acc
    else
      match acc with
      | line :: rest => (c :: line) :: rest
      | [] => [[c]]) [[]]

/-- A line without white space at its ends and the signs that open a comment. -/
def lineBody (line : List Char) : List Char :=
  let line := Text.trimBoth Text.isBlank line
  let line := dropStart ['/', '*'] (dropStart ['/', '/'] line)
  Text.trimBoth Text.isBlank line

/-- Whether a comment suppresses reports. -/
def isSuppressingComment (comment : String) : Bool :=
  (lines (dropEnd ['*', '/'] comment.toList)).any fun line => ignoreWord.isPrefixOf (lineBody line)

/-- Whether a group of comments suppresses reports. -/
def isSuppressing (group : List String) : Bool := group.any isSuppressingComment

end LeakCheck.Suppression
