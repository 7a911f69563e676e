import NovelScript.Bytes
import NovelScript.Text

/-!
Access to files. The tools work over any `FileAccess`. A `FileSystem` is one that is a value, and a
`Session` says in addition which accesses go wrong, so that a run of a tool can be looked at as a
function of the files it finds and of what happens to it.
-/

namespace NovelScript

inductive FileError
  | notFound
  | notDirectory
  | isDirectory
  | nameTooLong
  | tooManyLinks
  | other (message : String)
  deriving DecidableEq, Repr

def FileError.message : FileError → String
  | notFound => "No such file or directory (os error 2)"
  | notDirectory => "Not a directory (os error 20)"
  | isDirectory => "Is a directory (os error 21)"
  | nameTooLong => "File name too long (os error 36)"
  | tooManyLinks => "Too many levels of symbolic links (os error 40)"
  | other message => message

class FileAccess (m : Type → Type) where
  readFile : Text → m (Except FileError Bytes)
  writeFile : Text → Bytes → m (Except FileError Unit)

/-! ### File systems -/

/-- Where an entry stands: the names of the folders around it, from the root on, and its own. -/
abbrev Location := List Text

inductive Node
  | file (data : Bytes)
  | folder
  /-- A second name of the file at a location. -/
  | twin (location : Location)
  /-- A symbolic link. -/
  | link (target : Text)
  /-- Gives these bytes to a reader and forgets what is written to it, as `/dev/null` does. -/
  | device (gives : Bytes)
  deriving DecidableEq, Repr

structure FileSystem where
  nodes : List (Location × Node) := []
  /-- The working directory. -/
  cwd : Location := []
  deriving DecidableEq, Repr

namespace FileSystem

/-- What stands at a location. The root is a folder. -/
def node? (fs : FileSystem) (l : Location) : Option Node :=
  if l = [] then some .folder else fs.nodes.lookup l

inductive Place
  | folder
  | file (location : Location)
  | device (gives : Bytes)
  /-- Nothing, but a file can be made there. -/
  | vacant (location : Location)
  /-- No folder, with a slash behind its name. -/
  | slashed (error : FileError)
  | unreachable (error : FileError)
  deriving DecidableEq, Repr

/-- A place that is no folder, when this is left of the path. -/
def Place.before (place : Place) (error : FileError) (rest : List Text) : Place :=
  if rest = [] then place
  else if rest.all (·.isEmpty) then slashed error
  else unreachable error

/-- What a path leads to that comes to a location which is neither a folder nor a link. -/
def settle (fs : FileSystem) (l : Location) (rest : List Text) : Place :=
  match fs.node? l with
  | some (.file _) => (Place.file l).before .notDirectory rest
  | some (.device gives) => (Place.device gives).before .notDirectory rest
  | none => (Place.vacant l).before .notFound rest
  | _ => .unreachable .notFound

/-- Where a path comes to before it goes through a symbolic link. -/
inductive Halt
  | done (place : Place)
  | link (folder : Location) (target : Text) (rest : List Text)
  deriving DecidableEq, Repr

def walk (fs : FileSystem) : Location → List Text → Halt
  | _, [] => .done .folder
  | folder, part :: rest =>
    if part = [] ∨ part = ['.'] then walk fs folder rest
    else if part = ['.', '.'] then walk fs folder.dropLast rest
    else if 255 < (String.ofList part).utf8ByteSize then .done (.unreachable .nameTooLong)
    else match fs.node? (folder ++ [part]) with
      | some .folder => walk fs (folder ++ [part]) rest
      | some (.link target) => .link folder target rest
      | some (.twin l) => .done (fs.settle l rest)
      | _ => .done (fs.settle (folder ++ [part]) rest)

/-- The folder that a path starts from, seen from another one. -/
def start (folder : Location) (path : Text) : Location :=
  if path.head? = some '/' then [] else folder

/-- Follows the parts of a path through at most so many symbolic links. -/
def resolve (fs : FileSystem) : Nat → Location → List Text → Place
  | 0, folder, parts =>
    match fs.walk folder parts with
    | .done place => place
    | .link .. => .unreachable .tooManyLinks
  | links + 1, folder, parts =>
    match fs.walk folder parts with
    | .done place => place
    | .link folder target rest =>
      resolve fs links (start folder target) (target.splitOn '/' ++ rest)

/-- What a path leads to. It has less than 4096 bytes, and no more than 40 links are followed. -/
def place (fs : FileSystem) (path : Text) : Place :=
  if path = [] then .unreachable .notFound
  else if 4096 ≤ (String.ofList path).utf8ByteSize then .unreachable .nameTooLong
  else fs.resolve 40 (start fs.cwd path) (path.splitOn '/')

def read (fs : FileSystem) (path : Text) : Except FileError Bytes :=
  match fs.place path with
  | .file l =>
    match fs.node? l with
    | some (.file data) => .ok data
    | _ => .error .notFound
  | .device gives => .ok gives
  | .folder => .error .isDirectory
  | .vacant _ => .error .notFound
  | .slashed error | .unreachable error => .error error

def put (fs : FileSystem) (l : Location) (data : Bytes) : FileSystem :=
  if (fs.nodes.lookup l).isSome then
    { fs with nodes := fs.nodes.map fun node => if node.1 = l then (l, .file data) else node }
  else { fs with nodes := fs.nodes ++ [(l, .file data)] }

def write (fs : FileSystem) (path : Text) (data : Bytes) : Except FileError FileSystem :=
  match fs.place path with
  | .file l | .vacant l => .ok (fs.put l data)
  | .device _ => .ok fs
  | .folder | .slashed _ => .error .isDirectory
  | .unreachable error => .error error

end FileSystem

/-! ### Sessions -/

inductive Fate
  | granted
  /-- It fails before it has done anything. -/
  | refused (error : FileError)
  /-- It breaks off. A write has emptied the file by then and stored so many bytes. -/
  | stopped (count : Nat) (error : FileError)
  deriving DecidableEq, Repr

structure Session where
  files : FileSystem
  /-- What becomes of the next accesses. Those after them are granted. -/
  fates : List Fate := []
  deriving DecidableEq, Repr

namespace Session

def fate (s : Session) : Fate := s.fates.head?.getD .granted

def read (s : Session) (path : Text) : Except FileError Bytes :=
  match s.fate with
  | .granted => s.files.read path
  | .refused error | .stopped _ error => .error error

/-- The result of a write, and the files after it. -/
def write (s : Session) (path : Text) (data : Bytes) : Except FileError Unit × FileSystem :=
  match s.fate with
  | .granted =>
    match s.files.write path data with
    | .ok after => (.ok (), after)
    | .error error => (.error error, s.files)
  | .refused error => (.error error, s.files)
  | .stopped count error =>
    match s.files.write path (data.take count) with
    | .ok after => (.error error, after)
    | .error error => (.error error, s.files)

end Session

instance : FileAccess (StateM Session) where
  readFile path := modifyGet fun s => (s.read path, ⟨s.files, s.fates.tail⟩)
  writeFile path data := modifyGet fun s =>
    ((s.write path data).1, ⟨(s.write path data).2, s.fates.tail⟩)

end NovelScript
