import DenseBench.Yaml.Cursor

/-!
# Gaps between words

Between two words of a text there are blanks, which count as they are, or line breaks, which are
folded: one break counts as a space, and of several breaks all but the first one count.  After a
break that is escaped, every break counts.
-/

namespace DenseBench
namespace Yaml

/-- What stands between two words. -/
inductive Gap where
  /-- Blanks, last one first. -/
  | blanks (between : List Char)
  /-- A line break and so many more. -/
  | breaks (more : Nat)
  /-- An escaped line break and so many more. -/
  | escaped (more : Nat)
  deriving DecidableEq, Repr

namespace Gap

/-- Nothing. -/
def empty : Gap :=
  blanks []

/-- Whether there is a line break. -/
def hasBreak : Gap → Bool
  | blanks _ => false
  | breaks _ => true
  | escaped _ => true

/-- The gap with one more line break.  Blanks before a break do not count. -/
def addBreak : Gap → Gap
  | blanks _ => breaks 0
  | breaks more => breaks (more + 1)
  | escaped more => escaped (more + 1)

/-- What a gap counts for, put in front of characters in reverse order. -/
def foldOnto (read : List Char) : Gap → List Char
  | blanks between => between ++ read
  | breaks 0 => ' ' :: read
  | breaks more => List.replicate more '\n' ++ read
  | escaped more => List.replicate more '\n' ++ read

/-- Read blanks and line breaks onto a gap.  A tab does not indent: left of the column `margin` it
may stand, at most, in a line without words, and not even there if `strict`.  The fuel is at least
the length of the text. -/
def read? (strict : Bool) (margin : Int) : Nat → Gap → Cursor → Option (Gap × Cursor)
  | 0, gap, cursor => some (gap, cursor)
  | fuel + 1, gap, cursor =>
    match cursor.rest with
    | [] => some (gap, cursor)
    | c :: _ =>
      if isBreak c then read? strict margin fuel gap.addBreak cursor.nextLine
      else if !isBlank c then some (gap, cursor)
      else match gap with
        | blanks between => read? strict margin fuel (blanks (c :: between)) cursor.step
        | _ =>
          if c = '\t' ∧ cursor.column < margin then
            if strict then none
            else do
              let after ← cursor.skipLineSpace?
              if endsLine after.rest then read? strict margin fuel gap after else none
          else read? strict margin fuel gap cursor.step

end Gap
end Yaml
end DenseBench
