/-!
# YAML tokens

The parts that a YAML text is made of.  Beginnings and ends of blocks, which the text shows by its
indentation alone, are tokens of their own.
-/

namespace DenseBench
namespace Yaml

/-- A part of a YAML text. -/
inductive Token where
  /-- A directive that tells the version of the format. -/
  | version
  /-- A directive that tells what a handle of tags stands for. -/
  | handle (name stem : String)
  /-- Three dashes: a document begins. -/
  | documentStart
  /-- Three dots: a document ends. -/
  | documentEnd
  | blockSequence
  | blockMapping
  | blockEnd
  | flowSequence
  | flowSequenceEnd
  | flowMapping
  | flowMappingEnd
  /-- An item of a block sequence follows. -/
  | blockEntry
  /-- A comma between the parts of a flow collection. -/
  | flowEntry
  | key
  | value
  | alias (name : String)
  | anchor (name : String)
  | tag (handle suffix : String)
  /-- A text, plain or marked as a text. -/
  | scalar (plain : Bool) (text : String)
  deriving DecidableEq, Repr

end Yaml
end DenseBench
