import Tablekeep.Files.Path
import Tablekeep.Text.Quoted

/-!
# Files

A `FileTree` holds directories and files under their places, which are lists of names from the root.
A path is followed name by name, and every name but the last has to be a directory on the way. Every
operation either gives what was asked for or says why not, and one that fails changes nothing.
-/

namespace Tablekeep.Files

/-! ## What there is -/

/-- What a file holds. The members of an archive are kept as they are, without the bytes that pack
them. -/
inductive Content where
  | bytes (bs : List UInt8)
  | archive (members : List (String × List UInt8))
  deriving DecidableEq, Repr

/-- The bytes of an archive without members. -/
def emptyArchive : List UInt8 :=
  [0x50, 0x4B, 0x05, 0x06] ++ List.replicate 18 0

/-- The bytes that every archive with members begins with. -/
def archiveMark : List UInt8 :=
  [0x50, 0x4B, 0x03, 0x04]

namespace Content

/-- The members of an archive. -/
def members? : Content → Option (List (String × List UInt8))
  | archive members => some members
  | bytes bs => if bs = emptyArchive then some [] else none

/-- The bytes of a file; of an archive with members only the mark is known. -/
def toBytes : Content → List UInt8
  | bytes bs => bs
  | archive [] => emptyArchive
  | archive _ => archiveMark

end Content

/-- A directory or a file. -/
inductive Node where
  | directory
  | file (content : Content)
  deriving DecidableEq, Repr

/-- The names from the root. -/
abbrev Place := List String

/-- Directories and files under their places, and the place where the work is done. -/
structure FileTree where
  nodes : List (Place × Node)
  here : Place
  deriving DecidableEq, Repr

/-! ## What can go wrong -/

/-- Why nothing can be done at a path. -/
inductive Obstacle where
  | missing
  | exists
  | notDirectory
  | isDirectory
  deriving DecidableEq, Repr

/-- An obstacle and the path it was met at. -/
structure FileError where
  obstacle : Obstacle
  path : Path
  deriving DecidableEq, Repr

namespace Obstacle

/-- The number by which systems know an obstacle. -/
def number : Obstacle → Nat
  | missing => 2
  | «exists» => 17
  | notDirectory => 20
  | isDirectory => 21

/-- The wording of an obstacle. -/
def wording : Obstacle → String
  | missing => "No such file or directory"
  | «exists» => "File exists"
  | notDirectory => "Not a directory"
  | isDirectory => "Is a directory"

end Obstacle

/-- The wording of the error. -/
def FileError.message (e : FileError) : String :=
  "[Errno " ++ Text.decimal e.obstacle.number ++ "] " ++ e.obstacle.wording ++ ": "
    ++ Text.quoted e.path.toText

namespace FileTree

/-! ## Places -/

/-- What is at a place. The root is always there. -/
def nodeAt? (t : FileTree) (place : Place) : Option Node :=
  if place.isEmpty then some .directory else t.nodes.lookup place

/-- The place that names lead to from a place, whether there is something or not. A double dot leads
back to the directory above. -/
def walk (t : FileTree) (place : Place) : List String → Except Obstacle Place
  | [] => .ok place
  | name :: rest =>
    match t.nodeAt? place with
    | none => .error .missing
    | some (.file _) => .error .notDirectory
    | some .directory =>
      if name = ".." then t.walk place.dropLast rest else t.walk (place ++ [name]) rest

/-- The place of a path. -/
def place (t : FileTree) (p : Path) : Except Obstacle Place :=
  t.walk (if p.isAbsolute then [] else t.here) p.names

/-- What is at the end of a path. -/
def node? (t : FileTree) (p : Path) : Option Node :=
  match t.place p with
  | .error _ => none
  | .ok place => t.nodeAt? place

/-- There is something at the end of the path. -/
def present (t : FileTree) (p : Path) : Bool :=
  (t.node? p).isSome

/-- There is a file at the end of the path. -/
def isFile (t : FileTree) (p : Path) : Bool :=
  match t.node? p with
  | some (.file _) => true
  | _ => false

/-- There is a directory at the end of the path. -/
def isDirectory (t : FileTree) (p : Path) : Bool :=
  t.node? p == some .directory

/-- The names in the directory at the end of the path. -/
def namesIn (t : FileTree) (p : Path) : List String :=
  match t.place p with
  | .error _ => []
  | .ok place =>
    t.nodes.filterMap fun (other, _) => if other.dropLast = place then other.getLast? else none

/-! ## Changes -/

/-- Puts a node at a place, over what is there. -/
def put (t : FileTree) (place : Place) (node : Node) : FileTree :=
  let others := t.nodes.filter fun (other, _) => other != place
  { t with nodes := others ++ [(place, node)] }

/-- Takes away what is at a place. -/
def drop (t : FileTree) (place : Place) : FileTree :=
  { t with nodes := t.nodes.filter fun (other, _) => other != place }

/-- The content of the file at the end of the path. -/
def read (t : FileTree) (p : Path) : Except FileError Content :=
  match t.place p with
  | .error o => .error ⟨o, p⟩
  | .ok place =>
    match t.nodeAt? place with
    | none => .error ⟨.missing, p⟩
    | some .directory => .error ⟨.isDirectory, p⟩
    | some (.file content) => .ok content

/-- Writes a file over what is there. The directory of the file has to be there. -/
def write (t : FileTree) (p : Path) (content : Content) : Except FileError FileTree :=
  match t.place p with
  | .error o => .error ⟨o, p⟩
  | .ok place =>
    if t.nodeAt? place = some .directory then .error ⟨.isDirectory, p⟩
    else .ok (t.put place (.file content))

/-- Removes a file. -/
def remove (t : FileTree) (p : Path) : Except FileError FileTree :=
  match t.place p with
  | .error o => .error ⟨o, p⟩
  | .ok place =>
    match t.nodeAt? place with
    | none => .error ⟨.missing, p⟩
    | some .directory => .error ⟨.isDirectory, p⟩
    | some (.file _) => .ok (t.drop place)

/-- Makes a directory in one that is there. -/
def makeDirectory (t : FileTree) (p : Path) : Except FileError FileTree :=
  match t.place p with
  | .error o => .error ⟨o, p⟩
  | .ok place =>
    if (t.nodeAt? place).isSome then .error ⟨.exists, p⟩ else .ok (t.put place .directory)

/-- Makes a directory, and before it at most so many that are missing on the way. A directory that
is there already is kept. -/
def makeDirectoriesUpTo : Nat → FileTree → Path → Except FileError FileTree
  | above, t, p =>
    match t.makeDirectory p with
    | .ok t => .ok t
    | .error e =>
      if e.obstacle = .missing then
        match above with
        | 0 => .error e
        | above + 1 =>
          match makeDirectoriesUpTo above t p.parent with
          | .error e => .error e
          | .ok t =>
            match t.makeDirectory p with
            | .ok t => .ok t
            | .error e => if t.isDirectory p then .ok t else .error e
      else if t.isDirectory p then .ok t
      else .error e

/-- Makes a directory and all that are missing on the way to it. -/
def makeDirectories (t : FileTree) (p : Path) : Except FileError FileTree :=
  makeDirectoriesUpTo p.names.length t p

end FileTree

end Tablekeep.Files
