import Fieldbus.Device.Path

/-!
# Trees of files

What lies around a working directory, as far as it is known: some files and directories. Ways lead
through the tree piece by piece; a way may climb, and may begin at the root.

* `FileFault`: why something cannot be done.
* `Location`: where something lies.
* `Way`: how a path leads to it.
* `FileTree.walk`: where a way ends.
* `FileTree.makeAll`: makes a directory, and those that it lies in.
* `FileTree.append`: begins a file, or goes on with it.
-/

namespace Fieldbus

/-- Why something cannot be done with a path. -/
inductive FileFault where
  /-- The path holds a zero byte. -/
  | zeroByte
  /-- The path, or a piece of it, is too long. -/
  | tooLong
  /-- A directory on the way is not there. -/
  | missing
  /-- There is something at the end of the way already. -/
  | exists
  /-- The way leads through a file. -/
  | notADirectory
  /-- There is a directory where a file is wanted. -/
  | isADirectory
  deriving DecidableEq, Repr

/-- The wording of a fault. -/
def FileFault.message : FileFault → String
  | zeroByte => "file name contained an unexpected NUL byte"
  | tooLong => "File name too long (os error 36)"
  | missing => "No such file or directory (os error 2)"
  | .exists => "File exists (os error 17)"
  | notADirectory => "Not a directory (os error 20)"
  | isADirectory => "Is a directory (os error 21)"

/-! ## Locations -/

/-- A directory that is always there. -/
inductive Anchor where
  | root
  /-- The working directory, or one that it lies in, by how far up that is. -/
  | working (up : Nat)
  deriving DecidableEq, Repr

/-- Where something lies: below an anchor. -/
structure Location where
  anchor : Anchor
  names : List Bytes
  deriving DecidableEq, Repr

namespace Location

/-- Something inside a directory. -/
def child (l : Location) (name : Bytes) : Location := { l with names := l.names ++ [name] }

/-- The directory that something lies in; the root lies in itself. -/
def parent (l : Location) : Location :=
  match l.names, l.anchor with
  | [], .working up => ⟨.working (up + 1), []⟩
  | names, anchor => ⟨anchor, names.dropLast⟩

end Location

/-! ## Ways -/

/-- One more than the greatest length of a path. -/
def pathBound : Nat := 4096

/-- The greatest length of a name. -/
def maxNameLength : Nat := 255

/-- How a path leads to something. -/
structure Way where
  absolute : Bool
  pieces : List Bytes
  deriving DecidableEq, Repr

namespace Way

/-- The way of a path. -/
def ofPath (path : Bytes) : Except FileFault Way :=
  if path.contains 0 then .error .zeroByte
  else if pathBound ≤ path.length then .error .tooLong
  else .ok ⟨Path.isAbsolute path, (Path.pieces path).filter (· ≠ [])⟩

/-- Where the way begins. -/
def start (w : Way) : Location := ⟨if w.absolute then .root else .working 0, []⟩

/-- The ways to the directories on the way, the last one first. -/
def ancestors (w : Way) : List Way :=
  let names := w.pieces.filter (· ≠ [Path.dot])
  (List.range names.length).reverse.map fun n => ⟨w.absolute, names.take n⟩

end Way

/-! ## Trees -/

/-- What may lie somewhere. -/
inductive FileKind where
  | file
  | directory
  deriving DecidableEq, Repr

/-- Some files and directories, the latest first. -/
structure FileTree where
  entries : List (Location × FileKind) := []
  deriving Repr

namespace FileTree

variable (t : FileTree)

/-- What lies at a location; anchors are directories. -/
def kind? (l : Location) : Option FileKind :=
  if l.names = [] then some .directory
  else (t.entries.find? fun e => e.1 = l).map Prod.snd

/-- Puts something at a location. -/
def put (l : Location) (k : FileKind) : FileTree := ⟨(l, k) :: t.entries⟩

theorem kind?_put (l m : Location) (k : FileKind) (h : l.names ≠ []) :
    (t.put l k).kind? m = if m = l then some k else t.kind? m := by
  by_cases hm : m.names = [] <;> by_cases hl : m = l <;> simp_all [kind?, put, eq_comm]

/-- Follows one piece of a way, which has to start in a directory. -/
def follow (l : Location) (piece : Bytes) : Except FileFault Location :=
  match t.kind? l with
  | none => .error .missing
  | some .file => .error .notADirectory
  | some .directory =>
    if piece = [Path.dot] then .ok l
    else if piece = [Path.dot, Path.dot] then .ok l.parent
    else if maxNameLength < piece.length then .error .tooLong
    else .ok (l.child piece)

/-- Where a way ends. There need not be anything. -/
def walk (w : Way) : Except FileFault Location :=
  w.pieces.foldlM t.follow w.start

/-- Whether a way leads to a directory. -/
def isDirectory (w : Way) : Bool :=
  match t.walk w with
  | .ok l => t.kind? l == some .directory
  | .error _ => false

/-- Makes a directory in one that is there. -/
def make (w : Way) : Except FileFault FileTree :=
  if w.pieces = [] ∧ !w.absolute then .error .missing
  else
    match t.walk w with
    | .error e => .error e
    | .ok l => if (t.kind? l).isSome then .error .exists else .ok (t.put l .directory)

/-- Makes a directory, or makes sure that it is there. -/
def ensure (w : Way) : Except FileFault FileTree :=
  match t.make w with
  | .ok t => .ok t
  | .error e => if t.isDirectory w then .ok t else .error e

/-- Makes a directory. If one that it lies in is missing, that one is made first; `ancestors` are
the ways to those, the last one first. -/
def makeFrom (t : FileTree) (w : Way) : List Way → Except FileFault FileTree
  | [] => t.ensure w
  | a :: ancestors =>
    match t.make w with
    | .error .missing => (makeFrom t a ancestors).bind fun t => t.ensure w
    | _ => t.ensure w

/-- Makes a directory, and those that it lies in, as far as they are not there. -/
def makeAll (w : Way) : Except FileFault FileTree :=
  if w.pieces = [] ∧ !w.absolute then .ok t else t.makeFrom w w.ancestors

/-- Begins a file, or goes on with it, in a directory that is there. -/
def append (w : Way) : Except FileFault FileTree :=
  match t.walk w with
  | .error e => .error e
  | .ok l =>
    match t.kind? l with
    | some .file => .ok t
    | some .directory => .error .isADirectory
    | none => .ok (t.put l .file)

/-- Begins a file, or goes on with it; what it is to lie in is made if that helps. -/
def appendAll (w : Way) : Except FileFault FileTree :=
  match t.append w with
  | .ok t => .ok t
  | .error _ => (t.makeAll { w with pieces := w.pieces.dropLast }).bind fun t => t.append w

/-- The names of what lies directly in a directory. -/
def names (w : Way) : List Bytes :=
  match t.walk w with
  | .error _ => []
  | .ok l => t.entries.filterMap fun e =>
      if e.1.parent = l ∧ e.1.names ≠ [] then e.1.names.getLast? else none

end FileTree

end Fieldbus
