import Switchboard.Library
import Switchboard.Trial.Engine

/-!
# A folder of libraries for trials

The working directory of a trial. `libopal_ABCDE.so`, each letter a 0 or a 1, exports the entry
points whose digit is 1, in the order of an engine's life; `libopal.so` exports all of them;
`notelf.so` is a text and `empty.so` is empty. A path without a slash is looked for in the
directories of the system, which hold none of these.

A path with a slash is walked component by component. Of the directories above the folder nothing is
known but that they are there; of the system, what every system has.
-/

namespace Switchboard.Trial

/-- Reads one digit for each entry point. -/
def exports? : List EntryPoint → List Char → Option (List EntryPoint)
  | [], rest => if rest = ".so".toList then some [] else none
  | e :: es, '1' :: rest => (exports? es rest).map (e :: ·)
  | _ :: es, '0' :: rest => exports? es rest
  | _ :: _, _ => none

/-- The library that exports some entry points of the engine for trials. -/
def library (exported : List EntryPoint) : Library State :=
  .ofEngine engine fun e => e ∈ exported

/-- What opening a file of the folder gives; `none` if there is no such file. -/
def file? (name : List Char) : Option (Except OpenFault (Library State)) :=
  if name = "notelf.so".toList then some (.error .badHeader)
  else if name = "empty.so".toList then some (.error .tooShort)
  else if name = "libopal.so".toList then some (.ok (library EntryPoint.all))
  else if name.take 8 = "libopal_".toList then
    (exports? EntryPoint.all (name.drop 8)).map fun es => .ok (library es)
  else none

/-- The longest name of a file, in bytes. -/
def maxName : Nat := 255

/-- Whether a path can only be a directory: it ends in a slash or in a dot. -/
def namesDirectory (path : Path) : Bool :=
  match (Path.stretches path.bytes).getLast? with
  | some last => last = [] || last = [Path.dot]
  | none => false

/-- A directory on the way. -/
inductive Place
  /-- The folder itself. -/
  | folder
  /-- A directory above the folder. -/
  | above
  /-- A directory of the system, by its names from the root. -/
  | system (names : List (List UInt8))
  deriving DecidableEq, Repr

/-- The directories in the root of a system. -/
def systemDirectories : List String :=
  ["bin", "boot", "dev", "etc", "home", "lib", "lib64", "media", "mnt", "opt", "proc", "root",
    "run", "sbin", "srv", "sys", "tmp", "usr", "var"]

/-- Files that every system has, by directory and name. None is a library. -/
def systemFiles : List (String × String × OpenFault) :=
  [("dev", "null", .tooShort), ("dev", "zero", .badHeader), ("etc", "passwd", .badHeader)]

/-- The directory that two dots lead to. -/
def Place.up : Place → Place
  | .folder => .above
  | .above => .above
  | .system names => .system names.dropLast

/-- What a name stands for in a directory: another directory, or a file with what opening it gives.
-/
def Place.entry? (p : Place) (name : List UInt8) :
    Option (Place ⊕ Except OpenFault (Library State)) :=
  let is (text : String) (bytes : List UInt8) : Bool := Utf8.encode text.toList = bytes
  match p with
  | .folder => ((Utf8.decode? name).bind file?).map .inr
  | .above => none
  | .system [] =>
    if systemDirectories.any (is · name) then some (.inl (.system [name])) else none
  | .system [directory] =>
    (systemFiles.find? fun f => is f.1 directory && is f.2.1 name).map fun f => .inr (.error f.2.2)
  | .system _ => none

/-- Walks along a path from a directory and opens what is there. `directory` says that only a
directory will do. -/
def walk (directory : Bool) : Place → List Path.Component → Except OpenFault (Library State)
  | _, [] => .error .isDirectory
  | _, .root :: cs => walk directory (.system []) cs
  | p, .here :: cs => walk directory p cs
  | p, .up :: cs => walk directory p.up cs
  | p, .name bytes :: cs =>
    match p.entry? bytes with
    | some (.inl q) => walk directory q cs
    | some (.inr found) => if directory ∨ cs ≠ [] then .error .notDirectory else found
    | none => if maxName < bytes.length then .error .nameTooLong else .error .notFound

/-- The longest path, in bytes. -/
def maxPath : Nat := 4095

/-- Opens a path in the folder. The empty path is the program itself, which exports nothing. -/
def folder : Opener State := fun path =>
  if path.bytes = [] then .ok (library [])
  else if Path.slash ∈ path.bytes then
    if maxPath < path.bytes.length then .error .nameTooLong
    else walk (namesDirectory path) .folder path.components
  else if maxName < path.bytes.length then .error .nameTooLong
  else .error .notFound

end Switchboard.Trial
