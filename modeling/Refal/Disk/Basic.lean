/-!
# The disk

The files that programs open live on a disk of directories, byte files and devices. A place on the disk
is a `Location`: where its path starts (the working directory, some levels above it, or the root
of the file system) and the names below that, with `.` and `..` already resolved. The places
without names are directories that always exist; every other place holds what the disk's entry
list says, or nothing. Beside what the places hold, the disk says who may change or read them:
the nearest place at or above a place that its access list names decides whether the place may be
changed, and some places may not be read at all.
-/

namespace Refal

namespace Disk

/-! ## Failures

The ways opening, reading or writing a file can fail, each with the text the system gives
for it. -/

/-- Why an operation on the disk failed. -/
inductive IoFailure where
  | notFound
  | notADirectory
  | isADirectory
  | nameTooLong
  | nulInName
  | invalidUtf8
  | permissionDenied
  | noSpace
  | alreadyExists
  deriving DecidableEq

def IoFailure.message : IoFailure → String
  | .notFound => "No such file or directory (os error 2)"
  | .notADirectory => "Not a directory (os error 20)"
  | .isADirectory => "Is a directory (os error 21)"
  | .nameTooLong => "File name too long (os error 36)"
  | .nulInName => "file name contained an unexpected NUL byte"
  | .invalidUtf8 => "stream did not contain valid UTF-8"
  | .permissionDenied => "Permission denied (os error 13)"
  | .noSpace => "No space left on device (os error 28)"
  | .alreadyExists => "File exists (os error 17)"

/-! ## Places and entries -/

abbrev Bytes := List UInt8

/-- Where the names of a location are taken from: the working directory or the directory `up`
levels above it, or the root of the file system. -/
inductive Origin where
  | work (up : Nat)
  | root
  deriving DecidableEq

/-- A place on the disk: its origin and the names below it, outermost first. -/
structure Location where
  origin : Origin
  names : List String
  deriving DecidableEq

def Location.here : Location := ⟨.work 0, []⟩

def Location.child (loc : Location) (name : String) : Location :=
  ⟨loc.origin, loc.names ++ [name]⟩

/-- The directory that holds `loc`; the root holds itself. -/
def Location.parent (loc : Location) : Location :=
  if loc.names = [] then
    match loc.origin with
    | .work up => ⟨.work (up + 1), []⟩
    | .root => loc
  else ⟨loc.origin, loc.names.dropLast⟩

/-- A device file of the system. The null device and the endless ones (zeros, random bytes)
swallow what is written to them, and the full device refuses every write for want of space. A
read from a device finds no bytes here: the null device is empty, and the other devices never end
a line. -/
inductive Device where
  | null
  | endless
  | full
  deriving DecidableEq

inductive Entry where
  | file (bytes : Bytes)
  | directory
  | device (kind : Device)

end Disk

/-- The disk: what each named place holds, each place once; the places with the failure that
changing them meets, or none where they may be changed (a file is changed by opening it for
writing, a directory by making something new in it); and the places that may not be read, nor,
for a directory, looked into. -/
structure Disk where
  entries : List (Disk.Location × Disk.Entry) := []
  access : List (Disk.Location × Option Disk.IoFailure) := []
  unreadable : List Disk.Location := []

namespace Disk

def entry? (d : Disk) (loc : Location) : Option Entry :=
  if loc.names = [] then some .directory else (d.entries.lookup loc)

def isDirectory (d : Disk) (loc : Location) : Bool :=
  match d.entry? loc with
  | some .directory => true
  | _ => false

/-- The bytes of the file at the place; none for a directory or nothing. -/
def bytes (d : Disk) (loc : Location) : Bytes :=
  match d.entry? loc with
  | some (.file bs) => bs
  | _ => []

def set (d : Disk) (loc : Location) (e : Entry) : Disk :=
  if d.entries.any (·.1 = loc) then
    { d with entries := d.entries.map fun p => if p.1 = loc then (loc, e) else p }
  else { d with entries := d.entries ++ [(loc, e)] }

def Location.ancestry (loc : Location) : List Location :=
  (List.range (loc.names.length + 1)).reverse.map fun n => ⟨loc.origin, loc.names.take n⟩

/-- What changing the place meets: the failure that the nearest place at or above it in the
access list has; nothing when no such place is listed. -/
def protection (d : Disk) (loc : Location) : Option IoFailure :=
  (loc.ancestry.findSome? fun l => d.access.lookup l).join

def readable (d : Disk) (loc : Location) : Bool := !d.unreadable.contains loc

/-- Makes the directory `done ++ names` inside the working directory, and every missing one on
the way. A file on the way stops it: as a file that exists when it is the directory itself, and
as not a directory when it is above it. -/
def makeDirectories (d : Disk) : List String → List String → Except IoFailure Disk
  | _, [] => .ok d
  | done, n :: rest =>
    let loc : Location := ⟨.work 0, done ++ [n]⟩
    match d.entry? loc with
    | some .directory => makeDirectories d (done ++ [n]) rest
    | none => makeDirectories (d.set loc .directory) (done ++ [n]) rest
    | some _ => .error (if rest = [] then .alreadyExists else .notADirectory)

/-- The names of a relative path, with empty names and `.` dropped. -/
def relativeNames (path : String) : List String :=
  (path.splitOn "/").filter fun n => n ≠ "" ∧ n ≠ "."

/-- The disk with a file of `contents` at `path` in the working directory, its directories made;
a directory at the place itself refuses the file. -/
def withFile (d : Disk) (path : String) (contents : Bytes) : Except IoFailure Disk := do
  let names := relativeNames path
  let d ← d.makeDirectories [] names.dropLast
  if d.isDirectory ⟨.work 0, names⟩ then throw .isADirectory
  pure (d.set ⟨.work 0, names⟩ (.file contents))

/-- The disk with a directory at `path` in the working directory, its parents made. -/
def withDirectory (d : Disk) (path : String) : Except IoFailure Disk :=
  d.makeDirectories [] (relativeNames path)

/-- Everything inside the working directory: each file's path with its bytes, and each
directory's path followed by a slash with none. -/
def listing (d : Disk) : List (String × Option Bytes) :=
  d.entries.filterMap fun (loc, e) =>
    if loc.origin = .work 0 ∧ loc.names ≠ [] then
      let path := "/".intercalate loc.names
      match e with
      | .file bs => some (path, some bs)
      | .directory => some (path ++ "/", none)
      | .device _ => none
    else none

end Disk

end Refal
