import Fieldbus.Bytes

/-!
# Paths

Paths are byte strings whose components are separated by slashes.

* `Path.components`: the components that count.
* `Path.fileName?`: the last component, if it names something.
* `Path.place?`: where a path leads to.
* `Path.leadsTo`: whether a path leads to a given file.
* `Path.join`: a name seen from a directory.
-/

namespace Fieldbus.Path

/-- The separator. -/
def slash : UInt8 := 0x2F

/-- The dot. -/
def dot : UInt8 := 0x2E

/-- Puts one byte in front of the pieces of a path. -/
def consPiece (b : UInt8) : List Bytes → List Bytes
  | [] => if b = slash then [[], []] else [[b]]
  | p :: ps => if b = slash then [] :: p :: ps else (b :: p) :: ps

/-- The pieces between the separators. -/
def pieces (path : Bytes) : List Bytes :=
  path.foldr consPiece [[]]

/-- The components that count: neither empty nor a single dot. -/
def components (path : Bytes) : List Bytes :=
  (pieces path).filter fun p => p ≠ [] ∧ p ≠ [dot]

/-- The last component, if there is one and it is not two dots. -/
def fileName? (path : Bytes) : Option Bytes :=
  (components path).getLast?.bind fun p => if p = [dot, dot] then none else some p

/-- Whether a path starts at the root. -/
def isAbsolute (path : Bytes) : Bool := path.head? == some slash

/-- Where something lies that is no directory. -/
structure Place where
  /-- Whether the way starts at the root. -/
  absolute : Bool
  /-- The components on the way. -/
  components : List Bytes
  deriving DecidableEq, Repr

/-- Where a path leads to, if it can lead to something that is no directory: it neither goes on
after the last component nor climbs. Two paths with the same place lead to the same thing. -/
def place? (path : Bytes) : Option Place :=
  let way := components path
  if way.isEmpty || (pieces path).getLast? ≠ way.getLast? || way.contains [dot, dot] then none
  else some ⟨isAbsolute path, way⟩

/-- Whether a path leads to the file at another path. -/
def leadsTo (file path : Bytes) : Bool :=
  (place? path).isSome && place? path = place? file

/-- A name seen from a directory; a name that starts at the root stands alone. -/
def join (directory name : String) : String :=
  if name.toList.head? = some '/' then name
  else if directory = "" ∨ directory.toList.getLast? = some '/' then directory ++ name
  else directory ++ "/" ++ name

end Fieldbus.Path
