import Refal.Disk.Basic

/-!
# Opening a path

A path is split at slashes into names; a leading slash starts at the root, and a trailing slash
asks for a directory. The names before the last are walked from the left: `.` stays, `..` climbs,
and any other name must be at most 255 bytes long, must exist, must be a directory, and must be
readable. The first name that fails decides the failure. The last name is then looked up for
reading, or looked up and created if absent for writing.

Reading accepts a readable file, device or directory (reading from a directory fails later).
Writing refuses a directory, and a path with a trailing slash, as a directory; it opens a file
or device that may be changed, and makes a missing file in a directory that may be changed,
failing otherwise as the place's protection says. A path is refused outright when it holds a NUL,
when it is empty, and when it is 4096 bytes or longer.
-/

namespace Refal.Disk

/-- The longest name the disk accepts, in bytes. -/
def nameMax : Nat := 255

/-- The length in bytes from which a path is refused. -/
def pathMax : Nat := 4096

structure Path where
  absolute : Bool
  names : List String
  trailingSlash : Bool

def Path.ofString (s : String) : Path :=
  { absolute := s.startsWith "/"
    names := (s.splitOn "/").filter (· ≠ "")
    trailingSlash := s.endsWith "/" }

/-- Checks what the whole path may not hold, before any name is looked at. -/
def checkPath (s : String) : Except IoFailure Path :=
  if s.toList.contains '\x00' then .error .nulInName
  else if s.isEmpty then .error .notFound
  else if pathMax ≤ s.utf8ByteSize then .error .nameTooLong
  else .ok (Path.ofString s)

/-- Walks the names from the directory `here` to the directory that the last of them is in. -/
def walk (d : Disk) (here : Location) : List String → Except IoFailure Location
  | [] => .ok here
  | "." :: rest => walk d here rest
  | ".." :: rest => walk d here.parent rest
  | n :: rest =>
    if nameMax < n.utf8ByteSize then .error .nameTooLong
    else
      let next := here.child n
      match d.entry? next with
      | none => .error .notFound
      | some .directory => if d.readable next then walk d next rest else .error .permissionDenied
      | some _ => .error .notADirectory

/-- Where a path leads: the directory its last name is in, and that last name, if it is an
ordinary one; or, for a path whose last name is `.` or `..` or that has no names, the directory
itself. -/
def locate (d : Disk) (p : Path) : Except IoFailure (Location ⊕ (Location × String)) := do
  let start : Location := if p.absolute then ⟨.root, []⟩ else .here
  match p.names.getLast? with
  | none => pure (.inl start)
  | some last =>
    let dir ← walk d start p.names.dropLast
    if last = "." then pure (.inl dir)
    else if last = ".." then pure (.inl dir.parent)
    else pure (.inr (dir, last))

/-- Opens a path for reading: the place it names, a file or a directory. -/
def openForReading (d : Disk) (s : String) : Except IoFailure Location := do
  let p ← checkPath s
  let loc ← match ← locate d p with
    | .inl dir => pure dir
    | .inr (dir, name) =>
      if nameMax < name.utf8ByteSize then throw .nameTooLong
      let loc := dir.child name
      match d.entry? loc with
      | none => throw .notFound
      | some .directory => pure loc
      | some _ => if p.trailingSlash then throw .notADirectory else pure loc
  if d.readable loc then pure loc else throw .permissionDenied

/-- Opens a path for writing: the file it names, made if absent and emptied if `truncate`, and
the disk after that. -/
def openForWriting (d : Disk) (s : String) (truncate : Bool) :
    Except IoFailure (Location × Disk) := do
  let p ← checkPath s
  match ← locate d p with
  | .inl _ => throw .isADirectory
  | .inr (dir, name) =>
    if p.trailingSlash then throw .isADirectory
    if nameMax < name.utf8ByteSize then throw .nameTooLong
    let loc := dir.child name
    match d.entry? loc with
    | some .directory => throw .isADirectory
    | some e =>
      if let some f := d.protection loc then throw f
      match e with
      | .file bs => pure (loc, if truncate then d.set loc (.file []) else d.set loc (.file bs))
      | _ => pure (loc, d)
    | none =>
      match d.protection dir with
      | some f => throw f
      | none => pure (loc, d.set loc (.file []))

end Refal.Disk
