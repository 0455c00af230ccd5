import Refal.Disk.Open

/-!
# Reading and writing bytes

A file read line by line is fetched in chunks of 8192 bytes: a line is served from the bytes
fetched so far, and only when they hold no line feed is the file read on, chunk after chunk, from
where the last fetch ended. What was fetched stays as it was even if the file changes later.

A writer writes at its own offset, filling any gap past the end of the file with zero bytes; an
appender writes at the end of the file; a device keeps nothing, and the full device refuses
every write. A whole file read as text must be UTF-8.
-/

namespace Refal.Disk

/-- The size of the chunks in which a file is fetched. -/
def chunkSize : Nat := 8192

def lineFeed : UInt8 := 10

/-- Where a reader stands: the offset in the file of the next byte to fetch, and the bytes
fetched but not yet consumed. -/
structure ReadState where
  offset : Nat
  pending : Bytes

/-- Reads one line of `file` from the reader's state: the bytes up to and including the next line
feed, or up to the end of the file; empty at the end. -/
def ReadState.readLine (st : ReadState) (file : Bytes) : Bytes × ReadState :=
  match st.pending.findIdx? (· = lineFeed) with
  | some i => (st.pending.take (i + 1), ⟨st.offset, st.pending.drop (i + 1)⟩)
  | none =>
    let rest := file.drop st.offset
    match rest.findIdx? (· = lineFeed) with
    | some i =>
      let fetched := min ((i / chunkSize + 1) * chunkSize) rest.length
      (st.pending ++ rest.take (i + 1), ⟨st.offset + fetched, (rest.take fetched).drop (i + 1)⟩)
    | none => (st.pending ++ rest, ⟨st.offset + rest.length, []⟩)

/-- The bytes of `file` with `data` written at `offset`, zeros filling any gap before it. -/
def writeAt (file : Bytes) (offset : Nat) (data : Bytes) : Bytes :=
  file.take offset ++ List.replicate (offset - file.length) 0 ++ data ++
    file.drop (offset + data.length)

/-- Writes `data` at `offset` into the file at the place; a device swallows it, and writing no
bytes changes nothing. -/
def write (d : Disk) (loc : Location) (offset : Nat) (data : Bytes) : Disk :=
  match d.entry? loc with
  | some (.device _) => d
  | _ => if data = [] then d else d.set loc (.file (writeAt (d.bytes loc) offset data))

/-- Writes `data` at the end of the file at the place; a device swallows it. -/
def append (d : Disk) (loc : Location) (data : Bytes) : Disk :=
  match d.entry? loc with
  | some (.device _) => d
  | _ => d.set loc (.file (d.bytes loc ++ data))

/-- The failure that every write to the place meets, if any: the full device has no space. -/
def refusal (d : Disk) (loc : Location) : Option IoFailure :=
  match d.entry? loc with
  | some (.device .full) => some .noSpace
  | _ => none

/-- The whole text of the file at `path`. -/
def readText (d : Disk) (path : String) : Except IoFailure String := do
  let loc ← d.openForReading path
  if d.isDirectory loc then throw .isADirectory
  match String.fromUTF8? ⟨(d.bytes loc).toArray⟩ with
  | some s => pure s
  | none => throw .invalidUtf8

end Refal.Disk
