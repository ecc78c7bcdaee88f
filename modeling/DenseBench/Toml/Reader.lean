import DenseBench.Toml.Statement

/-!
# Reading TOML

The statements of a document build a tree of tables one after the other: a header says which table
the keys that follow it belong to.
-/

namespace DenseBench
namespace Toml

/-- A document that is being built. -/
structure Draft where
  /-- All tables so far. -/
  root : Contents
  /-- The path of the table that keys belong to. -/
  current : List String

namespace Draft

/-- The empty document. -/
def empty : Draft :=
  ⟨[], []⟩

/-- Carry out a statement. -/
def add? (draft : Draft) : Statement → Option Draft
  | .header key => do
    let root ←
      Contents.within? .implied (Contents.openTable? key.name) key.path .explicit draft.root
    return ⟨root, key.path ++ [key.name]⟩
  | .item key => do
    let root ← Contents.within? .implied (Contents.addTable? key.name) key.path .explicit draft.root
    return ⟨root, key.path ++ [key.name]⟩
  | .assignment key value => do
    let root ← Contents.within? .implied (Contents.insert? key.path key.name value) draft.current
      .explicit draft.root
    return { draft with root }

/-- Carry out statements in order. -/
def addAll? : List Statement → Draft → Option Draft
  | [], draft => some draft
  | statement :: rest, draft => do addAll? rest (← draft.add? statement)

end Draft

/-- Read a document. -/
def parse? (text : List Char) : Option Json := do
  let statements ← Statement.readAll? (text.length + 1) [] text
  let draft ← Draft.empty.addAll? statements
  return draft.root.toJson

end Toml
end DenseBench
