import ObjectCatalog.Path.Basic

/-! # File trees

A tree says of every path what is there: nothing, a file with its bytes, a file that cannot be
opened, or a directory. The paths above a path end with its root, which stands above itself.
-/
namespace ObjectCatalog

inductive FileEntry
  | file (bytes : List UInt8)
  | locked
  | directory
  deriving DecidableEq

abbrev FileTree := PathName → Option FileEntry

namespace PathName

def climb (root : String) : List String → List PathName
  | [] => [⟨root, []⟩]
  | name :: above => ⟨root, (name :: above).reverse⟩ :: climb root above

def ancestors (p : PathName) : List PathName := climb p.root p.names.reverse

def holds (above p : PathName) : Bool := above.root == p.root && above.names.isPrefixOf p.names

end PathName

def FileTree.ofEntries (files : List (PathName × List UInt8)) (directories : List PathName) :
    FileTree := fun p =>
  match files.find? (·.1 == p) with
  | some (_, bytes) => some (.file bytes)
  | none =>
    if (files.map (·.1) ++ directories).any p.holds then some .directory else none

end ObjectCatalog
