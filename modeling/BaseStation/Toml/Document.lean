import BaseStation.Toml.Syntax

namespace BaseStation.Toml

structure Draft where
  root : Entries
  here : List String

namespace Draft

def add (draft : Draft) (statement : Statement) : Option Draft :=
  match statement with
  | .entry key value => do
    return { draft with
      root := ← through .parent (assign key value) draft.here .header draft.root }
  | .table key => do
    return ⟨← through .parent (fun _ => openTable key.name) key.path .header draft.root, key.parts⟩
  | .element key => do
    return ⟨← through .parent (fun _ => openElement key.name) key.path .header draft.root, key.parts⟩

end Draft

def withoutMark : List Char → List Char
  | '\ufeff' :: rest => rest
  | text => text

def parse? (text : String) : Option Entries := do
  let (statements, _) ← Reader.bounded statements (withoutMark text.toList)
  let draft ← statements.foldlM Draft.add ⟨[], []⟩
  return draft.root

end BaseStation.Toml
