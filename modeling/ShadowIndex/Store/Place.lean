import ShadowIndex.Store.Basic
import ShadowIndex.Text.Path

/-!
Contract: the places where a database can be opened.

Owns:
- `Place`, what is found where a database is to be opened;
- `Store.openAt`, a store in memory, or the database in a place.

Does not own: the files themselves.
-/

set_option autoImplicit false

namespace ShadowIndex

/-- What is found in a place: no file at all, a file or room for one, a directory, or a file of
another kind. -/
inductive Place where
  | memory
  | file (path : String)
  | directory
  | foreign
deriving DecidableEq, Repr

namespace Place

/-- The place of a path in a directory. A path without a last name, or whose last name is two dots,
leads to a directory. -/
def ofPath (path : String) : Place :=
  if path = Database.memoryLocation then memory
  else
    match (Text.Path.names path).getLast? with
    | none => directory
    | some last => if last = ".." then directory else file path

/-- Whether there is a file in a place once a database was opened there. -/
def holdsFile : Place → Bool
  | memory => false
  | _ => true

/-- Whether there is a file in a place before anything is opened. -/
def heldFile : Place → Bool
  | memory | file _ => false
  | directory | foreign => true

end Place

/-- A store in memory, or the database in a place. No path of a file has a null character. -/
def Store.openAt (inDatabase : Bool) (place : Option Place) : Except Failure Store :=
  if inDatabase then
    match place with
    | none => .error .noStorePath
    | some .memory => .ok (.database (.create Database.memoryLocation))
    | some (.file path) =>
        if path.toList.contains '\x00' then .error .nullInPath
        else .ok (.database (.create path))
    | some .directory => .error (.database .cannotOpen)
    | some .foreign => .error (.database .notDatabase)
  else .ok emptyMemory

end ShadowIndex
