import SshTunnel.Place
import SshTunnel.Text.Blank
import SshTunnel.Text.Utf8

/-!
Files and directories, and how a path leads to one of them.  `FileTree.place` says what reading finds at a
path; `FileTree.placeToAppend` what appending finds there, which makes the directories on the way.
-/

namespace SshTunnel

/-- The names on the way to a file or directory; an absolute one begins with an empty name. -/
abbrev Location := List (List Char)

/-- The files there are and the directories without files in them; every directory on the way to one of
these is there as well, and so are the top and the place where relative paths begin. -/
structure FileTree where
  files : List (Location × Bytes) := []
  directories : List Location := []

namespace FileTree

inductive Node
  | missing
  | file (content : Bytes)
  | directory
deriving DecidableEq, Repr

/-- The names of a path, as they are written. -/
def names (path : String) : List (List Char) := Text.pieces (· = '/') path.toList

def node (t : FileTree) (l : Location) : Node :=
  match t.files.lookup l with
  | some b => .file b
  | none =>
    if l = [] ∨ l = [[]] ∨ t.files.any (l.isPrefixOf ·.1) ∨ t.directories.any (l.isPrefixOf ·) then .directory
    else .missing

/-- One name further; the place before must be a directory.  A dot stays, two dots go back. -/
def next (t : FileTree) (l : Location) (name : List Char) : Except SystemError Location :=
  match t.node l with
  | .file _ => .error .notDirectory
  | .missing => .error .noEntry
  | .directory =>
    if name = [] ∨ name = ['.'] then .ok l
    else if name = ['.', '.'] then .ok (if l = [[]] then l else l.dropLast)
    else if 255 < (Text.encode (String.ofList name)).length then .error .nameTooLong
    else .ok (l ++ [name])

/-- Where names lead to. -/
def walk (t : FileTree) : Location → List (List Char) → Except SystemError Location
  | l, [] => .ok l
  | l, name :: names => (t.next l name).bind fun l => t.walk l names

/-- Where a path begins, and the names that follow. -/
def start (path : String) : Location × List (List Char) :=
  match names path with
  | [] :: names => ([[]], names)
  | names => ([], names)

/-- What no path may be, wherever it leads. -/
def pathFault? (path : String) : Option SystemError :=
  if path.toList.contains '\x00' then some .nulInName
  else if 4096 ≤ path.utf8ByteSize then some .nameTooLong
  else if path = "" then some .noEntry
  else none

def ofNode : Node → Place
  | .missing => .absent
  | .file b => .file b
  | .directory => .unusable .isDirectory

def ofFault (e : SystemError) : Place := if e = .noEntry then .absent else .unusable e

/-- Where a path leads to. -/
def locate (t : FileTree) (path : String) : Except SystemError Location :=
  match pathFault? path with
  | some e => .error e
  | none => t.walk (start path).1 (start path).2

/-- What reading finds at a path. -/
def place (t : FileTree) (path : String) : Place :=
  match t.locate path with
  | .error e => ofFault e
  | .ok l => ofNode (t.node l)

/-! ### Appending -/

def isPlain (name : List Char) : Bool := name ≠ [] ∧ name ≠ ['.']

/-- The directories on the way to a file, made where they are missing. -/
def makeWay (t : FileTree) : Location → List (List Char) → Except SystemError (FileTree × Location)
  | l, [] => match t.node l with
    | .file _ => .error .alreadyExists
    | _ => .ok (t, l)
  | l, name :: names => (t.next l name).bind fun l =>
    let t := if t.node l = .missing then { t with directories := l :: t.directories } else t
    t.makeWay l names

/-- What appending finds once the way is made.  After the last name there may only be dots and slashes. -/
def placeAtEnd (t : FileTree) (l : Location) : List (List Char) → Place
  | [] => .unusable .isDirectory
  | name :: more =>
    if more ≠ [] ∧ more.all (· = []) then .unusable .isDirectory
    else match (t.next l name).bind fun l => t.walk l more with
      | .error e => .unusable e
      | .ok l => ofNode (t.node l)

/-- What appending finds at a path. -/
def placeToAppend (t : FileTree) (path : String) : Place :=
  match pathFault? path with
  | some e => .unusable e
  | none =>
    let (l, names) := start path
    let before := ((names.reverse.dropWhile fun n => !isPlain n).drop 1).reverse
    match t.makeWay l (before.filter isPlain) with
    | .error e => .unusable e
    | .ok (t, l) => t.placeAtEnd l (names.drop before.length)

/-- Writes a file whose directory is there. -/
def write (t : FileTree) (path : String) (content : Bytes) : FileTree :=
  match t.locate path with
  | .error _ => t
  | .ok l => match t.node l with
    | .directory => t
    | _ => { t with files := (l, content) :: t.files }

end FileTree

end SshTunnel
