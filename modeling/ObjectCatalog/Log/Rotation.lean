/-! # Files that roll over

A log file that a line would bring to its limit is set aside first, with the number one; files set
aside before move up by one, and the one with the highest number is given up. The limit counts
the bytes in the file and the characters of the line. Without numbers to keep, the file just grows.
-/
namespace ObjectCatalog

structure LogFiles where
  entries : List (String × String)
  deriving DecidableEq, Repr

namespace LogFiles

def empty : LogFiles := ⟨[]⟩

def content? (fs : LogFiles) (path : String) : Option String := fs.entries.lookup path

def erase (fs : LogFiles) (path : String) : LogFiles :=
  ⟨fs.entries.filter fun entry => entry.1 != path⟩

def touch (fs : LogFiles) (path : String) : LogFiles :=
  match fs.content? path with
  | some _ => fs
  | none => ⟨fs.entries ++ [(path, "")]⟩

def append (fs : LogFiles) (path text : String) : LogFiles :=
  ⟨(fs.touch path).entries.map fun (name, content) =>
    (name, if name == path then content ++ text else content)⟩

def move (fs : LogFiles) (source target : String) : LogFiles :=
  match fs.content? source with
  | some content => ⟨((fs.erase target).erase source).entries ++ [(target, content)]⟩
  | none => fs

def numbered (path : String) (n : Nat) : String := path ++ "." ++ toString n

def shift (path : String) : (n : Nat) → LogFiles → LogFiles
  | 0, fs => fs
  | n + 1, fs => shift path n (fs.move (numbered path (n + 1)) (numbered path (n + 2)))

def rotate (fs : LogFiles) (path : String) (backups : Nat) : LogFiles :=
  if backups == 0 then fs
  else ((shift path (backups - 1) fs).move path (numbered path 1)).touch path

/-- Would a line bring a file to its limit? Limits of zero and below are none. -/
def reachesLimit (fs : LogFiles) (path : String) (maxBytes : Int) (line : String) : Bool :=
  0 < maxBytes &&
    maxBytes ≤ ((fs.content? path).getD "").utf8ByteSize + line.length + 1

def writeLine (fs : LogFiles) (path : String) (maxBytes backups : Int) (line : String) :
    LogFiles :=
  let ready := if fs.reachesLimit path maxBytes line then fs.rotate path backups.toNat else fs
  ready.append path (line ++ "\n")

end LogFiles

end ObjectCatalog
