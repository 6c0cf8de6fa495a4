import ObjectCatalog.Text.Split

/-! # Path names

A path is a root and the names below it. Repeated separators and single dots fall away when a
text is read; two leading separators, no more and no fewer, make a root of their own. Double dots
stay unless a path is resolved.
-/
namespace ObjectCatalog

structure PathName where
  root : String
  names : List String
  deriving DecidableEq, Repr

namespace PathName

def rootOf (text : List Char) : String :=
  match (text.takeWhile (· == '/')).length with
  | 0 => ""
  | 2 => "//"
  | _ => "/"

def ofText (text : String) : PathName where
  root := rootOf text.toList
  names := (Text.splitString '/' text).filter fun name => name != "" && name != "."

def text (p : PathName) : String :=
  if p.root == "" && p.names.isEmpty then "."
  else p.root ++ String.intercalate "/" p.names

def child (p : PathName) (name : String) : PathName := { p with names := p.names ++ [name] }

def isAbsolute (p : PathName) : Bool := p.root != ""

/-- Lets each double dot cancel the name before it; one at the beginning falls away. -/
def collapse (names : List String) : List String :=
  (names.foldl (fun above name => if name == ".." then above.drop 1 else name :: above)
    ([] : List String)).reverse

end PathName

end ObjectCatalog
