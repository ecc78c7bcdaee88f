import DenseBench.Yaml.Schema
import DenseBench.Yaml.Token

/-!
# YAML nodes

A node is a scalar, a sequence or a mapping; a reference stands for the node with its anchor, once
that node is complete.  The keys of a mapping are texts or integers, and none comes twice.
-/

namespace DenseBench
namespace Yaml

/-- The nodes of a text so far and the tokens that are left of it. -/
structure Nodes where
  /-- The tokens that are left. -/
  tokens : List Token
  /-- What handles of tags stand for. -/
  handles : List (String × String)
  /-- Anchors with the numbers of their nodes, latest first. -/
  anchors : List (String × Nat)
  /-- Complete nodes with anchors by their numbers. -/
  complete : List (Nat × Json)

namespace Nodes

/-- Without the first token. -/
def drop (nodes : Nodes) : Nodes :=
  { nodes with tokens := nodes.tokens.tail }

/-- Give an anchor to the node that follows, and tell its number. -/
def register (nodes : Nodes) (name : String) : Nodes × Nat :=
  let number := nodes.anchors.length
  ({ nodes with anchors := (name, number) :: nodes.anchors }, number)

/-- Keep a node by its number, if it has one. -/
def keep (nodes : Nodes) (number : Option Nat) (value : Json) : Nodes :=
  match number with
  | some number => { nodes with complete := (number, value) :: nodes.complete }
  | none => nodes

/-- The node with an anchor; one that is not complete yet is absent. -/
def refer? (nodes : Nodes) (name : String) : Option Json :=
  (nodes.anchors.lookup name).map fun number => (nodes.complete.lookup number).getD .null

/-- A tag without abbreviations; a handle with a name must have been declared. -/
def resolve? (nodes : Nodes) (handle suffix : String) : Option Schema.Tag :=
  match nodes.handles.lookup handle with
  | some stem => some ⟨stem, suffix⟩
  | none =>
    if handle = "!!" then some ⟨Schema.commonStem, suffix⟩
    else if handle.length ≥ 2 then none
    else some ⟨handle, suffix⟩

/-- Anchor and tag of a node, in either order. -/
structure Properties where
  /-- The number of the node, if it has an anchor. -/
  number : Option Nat
  /-- The tag. -/
  tag : Option Schema.Tag

namespace Properties

/-- Neither anchor nor tag. -/
def none : Properties :=
  ⟨.none, .none⟩

/-- Whether there is an anchor or a tag. -/
def any (properties : Properties) : Bool :=
  properties.number.isSome || properties.tag.isSome

end Properties

/-- Take the anchor in front, if there is one. -/
def anchor (nodes : Nodes) : Nodes × Option Nat :=
  match nodes.tokens with
  | .anchor name :: _ =>
    let (nodes, number) := nodes.drop.register name
    (nodes, some number)
  | _ => (nodes, none)

/-- Take the tag in front, if there is one. -/
def tag? (nodes : Nodes) : Option (Nodes × Option Schema.Tag) :=
  match nodes.tokens with
  | .tag handle suffix :: _ => (nodes.resolve? handle suffix).map fun tag => (nodes.drop, some tag)
  | _ => some (nodes, none)

/-- Take the properties of a node: at most one anchor and one tag. -/
def properties? (nodes : Nodes) : Option (Nodes × Properties) := do
  let (nodes, number) := nodes.anchor
  let (nodes, tag) ← nodes.tag?
  match number with
  | some _ => return (nodes, ⟨number, tag⟩)
  | none =>
    let (nodes, number) := if tag.isSome then nodes.anchor else (nodes, none)
    return (nodes, ⟨number, tag⟩)

/-- The entries of a mapping so far, last one first. -/
abbrev Entries : Type :=
  List (Json × Json)

/-- The text of a key. -/
def keyText? : Json → Option String
  | .str text => some text
  | .int n => some (toString n)
  | _ => none

/-- Whether two keys are the same: an integer differs from its text. -/
def sameKey : Json → Json → Bool
  | .str x, .str y => x == y
  | .int x, .int y => x == y
  | _, _ => false

/-- One more entry of a mapping. -/
def addEntry? (entries : Entries) (key value : Json) : Option Entries :=
  if (keyText? key).isNone || entries.any (fun (other, _) => sameKey other key) then none
  else some ((key, value) :: entries)

/-- The mapping with these entries, last one first. -/
def mapping (entries : Entries) : Json :=
  .obj (entries.reverse.filterMap fun (key, value) => (keyText? key).map fun name => (name, value))

/-- Whether a node is left out before the token in front. -/
def isLeftOut (stops : List Token) (nodes : Nodes) : Bool :=
  nodes.tokens.head?.any stops.contains

mutual

/-- Take a node.  In a flow collection there are no blocks; only after a key or a colon a block
sequence may do without more indentation.  The fuel is greater than the count of tokens. -/
def node? (inBlock level : Bool) : Nat → Nodes → Option (Json × Nodes)
  | 0, _ => none
  | fuel + 1, nodes =>
    match nodes.tokens with
    | .alias name :: _ => (nodes.refer? name).map fun value => (value, nodes.drop)
    | _ => do
      let (nodes, properties) ← nodes.properties?
      let (value, after) ← match nodes.tokens with
        | .scalar plain text :: _ =>
          (Schema.value? plain properties.tag text).map fun value => (value, nodes.drop)
        | .flowSequence :: _ => flowItems? true fuel [] nodes.drop
        | .flowMapping :: _ => flowEntries? true fuel [] nodes.drop
        | .blockEntry :: _ =>
          if level then levelItems? fuel [] nodes
          else if properties.any then
            (Schema.value? true properties.tag "").map fun value => (value, nodes)
          else none
        | .blockSequence :: _ => if inBlock then blockItems? fuel [] nodes.drop else none
        | .blockMapping :: _ => if inBlock then blockEntries? fuel [] nodes.drop else none
        | _ =>
          if properties.any then
            (Schema.value? true properties.tag "").map fun value => (value, nodes)
          else none
      return (value, after.keep properties.number value)

/-- Take a node, or the absent value if one of these tokens is in front. -/
def nodeBefore? (stops : List Token) (inBlock level : Bool) :
    Nat → Nodes → Option (Json × Nodes)
  | 0, _ => none
  | fuel + 1, nodes =>
    if nodes.isLeftOut stops then some (.null, nodes) else node? inBlock level fuel nodes

/-- Take the items of a block sequence and its end. -/
def blockItems? : Nat → List Json → Nodes → Option (Json × Nodes)
  | 0, _, _ => none
  | fuel + 1, read, nodes =>
    match nodes.tokens with
    | .blockEnd :: _ => some (.arr read.reverse, nodes.drop)
    | .blockEntry :: _ => do
      let (item, nodes) ← nodeBefore? [.blockEntry, .blockEnd] true false fuel nodes.drop
      blockItems? fuel (item :: read) nodes
    | _ => none

/-- Take the items of a block sequence without indentation of its own. -/
def levelItems? : Nat → List Json → Nodes → Option (Json × Nodes)
  | 0, _, _ => none
  | fuel + 1, read, nodes =>
    match nodes.tokens with
    | .blockEntry :: _ => do
      let (item, nodes) ←
        nodeBefore? [.blockEntry, .key, .value, .blockEnd] true false fuel nodes.drop
      levelItems? fuel (item :: read) nodes
    | _ => some (.arr read.reverse, nodes)

/-- Take the entries of a block mapping and its end. -/
def blockEntries? : Nat → Entries → Nodes → Option (Json × Nodes)
  | 0, _, _ => none
  | fuel + 1, read, nodes => do
    let stops : List Token := [.key, .value, .blockEnd]
    match nodes.tokens with
    | .blockEnd :: _ => some (mapping read, nodes.drop)
    | .key :: _ =>
      let (key, nodes) ← nodeBefore? stops true true fuel nodes.drop
      let (value, nodes) ← match nodes.tokens with
        | .value :: _ => nodeBefore? stops true true fuel nodes.drop
        | _ => some (.null, nodes)
      blockEntries? fuel (← addEntry? read key value) nodes
    | _ => none

/-- Take the value of a key in a flow collection, which may be left out. -/
def flowValue? (close : Token) : Nat → Nodes → Option (Json × Nodes)
  | 0, _ => none
  | fuel + 1, nodes =>
    match nodes.tokens with
    | .value :: _ => nodeBefore? [.flowEntry, close] false false fuel nodes.drop
    | _ => some (.null, nodes)

/-- Take the items of a flow sequence and its end.  A key with its value is a mapping of its own. -/
def flowItems? (first : Bool) : Nat → List Json → Nodes → Option (Json × Nodes)
  | 0, _, _ => none
  | fuel + 1, read, nodes => do
    if nodes.isLeftOut [.flowSequenceEnd] then return (.arr read.reverse, nodes.drop)
    if !first && !nodes.isLeftOut [.flowEntry] then none
    let nodes := if first then nodes else nodes.drop
    match nodes.tokens with
    | .flowSequenceEnd :: _ => some (.arr read.reverse, nodes.drop)
    | .key :: _ =>
      let (key, nodes) ←
        nodeBefore? [.value, .flowEntry, .flowSequenceEnd] false false fuel nodes.drop
      let (value, nodes) ← flowValue? .flowSequenceEnd fuel nodes
      flowItems? false fuel (mapping (← addEntry? [] key value) :: read) nodes
    | _ =>
      let (item, nodes) ← node? false false fuel nodes
      flowItems? false fuel (item :: read) nodes

/-- Take the entries of a flow mapping and its end. -/
def flowEntries? (first : Bool) : Nat → Entries → Nodes → Option (Json × Nodes)
  | 0, _, _ => none
  | fuel + 1, read, nodes => do
    if nodes.isLeftOut [.flowMappingEnd] then return (mapping read, nodes.drop)
    if !first && !nodes.isLeftOut [.flowEntry] then none
    let nodes := if first then nodes else nodes.drop
    match nodes.tokens with
    | .flowMappingEnd :: _ => some (mapping read, nodes.drop)
    | .key :: _ =>
      let (key, nodes) ←
        nodeBefore? [.value, .flowEntry, .flowMappingEnd] false false fuel nodes.drop
      let (value, nodes) ← flowValue? .flowMappingEnd fuel nodes
      flowEntries? false fuel (← addEntry? read key value) nodes
    | _ =>
      let (key, nodes) ← node? false false fuel nodes
      flowEntries? false fuel (← addEntry? read key .null) nodes

end

end Nodes
end Yaml
end DenseBench
