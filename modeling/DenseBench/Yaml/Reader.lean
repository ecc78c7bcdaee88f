import DenseBench.Yaml.Layout
import DenseBench.Yaml.Node

/-!
# Reading YAML

A text holds at most one document.  A text without any document counts as an empty mapping.  Nothing
counts from the first null character on.
-/

namespace DenseBench
namespace Yaml

/-- Take the directives before a document: the version at most once, and no handle twice.  A handle
without a name declares nothing. -/
def handles? (versioned : Bool) (read : List (String × String)) :
    List Token → Option (List (String × String) × List Token)
  | .version :: rest => if versioned then none else handles? true read rest
  | .handle name stem :: rest =>
    if name.isEmpty then handles? versioned read rest
    else if (read.lookup name).isSome then none
    else handles? versioned ((name, stem) :: read) rest
  | tokens => some (read, tokens)

/-- Whether a token can only stand between documents. -/
def isBetween : Token → Bool
  | .version | .handle .. | .documentStart | .documentEnd => true
  | _ => false

/-- The root of the document with these handles.  After three dashes it may be left out. -/
def root? (marked : Bool) (handles : List (String × String)) (tokens : List Token) :
    Option (Json × List Token) :=
  if marked && !tokens.head?.any fun token => !isBetween token then some (.null, tokens)
  else do
    let (value, nodes) ← Nodes.node? true false (4 * tokens.length + 1) ⟨tokens, handles, [], []⟩
    return (value, nodes.tokens)

/-- The value of the only document that tokens make. -/
def ofTokens? (tokens : List Token) : Option Json := do
  match tokens.dropWhile (· == .documentEnd) with
  | [] => return .obj []
  | tokens =>
    let (handles, rest) ← handles? false [] tokens
    let (value, rest) ← match rest with
      | .documentStart :: rest => root? true handles rest
      | rest => if rest.length < tokens.length then none else root? false [] rest
    if rest.all (· == .documentEnd) then return value else none

/-- Read a text. -/
def parse? (text : List Char) : Option Json := do
  let tokens ← Token.ofText? (text.takeWhile (· ≠ '\x00'))
  ofTokens? tokens.toList

end Yaml
end DenseBench
