import Refal.Disk.LineBuffer
import Refal.Disk.Open
import Refal.Disk.System
import Refal.Library.Builtin
import Refal.Unicode.CaseMapping

/-!
# Files

The modes a program opens files in, and the table of the files it has open.
-/

/-!
## File modes

A file is opened for reading, writing or appending. The mode is named by a text of which only
the first letter counts, in either case: `r`, `Read` and `RW` all read. The test is made on the
upper-case form of the whole text, which is also what a fault shows (`ß` is shown as `SS`).
-/

namespace Refal.Library

/-- How a file is opened: reading from the start of an existing file, writing to a file created
or emptied, or appending to the end of a file created if absent. -/
inductive Mode where
  | read
  | write
  | append
  deriving DecidableEq

/-- The mode that a text names by its first letter. -/
def Mode.ofText (s : String) : Except Fault Mode :=
  let upper := Unicode.toUpperText s
  match upper.toList.head? with
  | some 'R' => .ok .read
  | some 'W' => .ok .write
  | some 'A' => .ok .append
  | _ => .error (.unsupportedMode upper)

/-!
## Open files

Programs name open files by handles. Opening under a handle that is already taken registers the
new file under it and displaces the old one: a displaced file stays open, out of reach, until
all files are closed. A channel is the open file itself: a reader with its read state, a writer
with its own offset, or an appender; writers and appenders hold the bytes their line buffer has
not yet sent.
-/

/-- An open file: a reader with where it stands, a writer with the offset of the next byte it
writes, or an appender; writers and appenders hold the bytes in their line buffer. -/
inductive Channel where
  | reader (file : Disk.Location) (state : Disk.ReadState)
  | writer (file : Disk.Location) (offset : Nat) (held : Disk.Bytes)
  | appender (file : Disk.Location) (held : Disk.Bytes)

def Channel.mode : Channel → Mode
  | .reader .. => .read
  | .writer .. => .write
  | .appender .. => .append

/-- Opens the file at `path` in `mode`: the channel, and the disk after opening (writing creates
and empties, appending creates). -/
def Channel.openAt (d : Disk) (mode : Mode) (path : String) :
    Except Disk.IoFailure (Channel × Disk) :=
  match mode with
  | .read => (d.openForReading path).map fun loc => (.reader loc ⟨0, []⟩, d)
  | .write => (d.openForWriting path true).map fun (loc, d) => (.writer loc 0 [], d)
  | .append => (d.openForWriting path false).map fun (loc, d) => (.appender loc [], d)

/-- The open files: those registered under a handle, in order of registration, and those
displaced. -/
structure FileTable where
  registered : List (String × Channel) := []
  displaced : List Channel := []

namespace FileTable

def find? (t : FileTable) (handle : String) : Option Channel := t.registered.lookup handle

def update (t : FileTable) (handle : String) (channel : Channel) : FileTable :=
  { t with registered := t.registered.map fun p => if p.1 = handle then (handle, channel) else p }

/-- Registers `channel` under `handle`, displacing the file registered there before. -/
def register (t : FileTable) (handle : String) (channel : Channel) : FileTable :=
  match t.find? handle with
  | some old => { t.update handle channel with displaced := t.displaced ++ [old] }
  | none => { t with registered := t.registered ++ [(handle, channel)] }

def count (t : FileTable) : Nat := t.registered.length

/-- Every open file with the name it is closed under: the registered ones by handle, in order of
registration, then the displaced ones as `(displaced)`. -/
def closingOrder (t : FileTable) : List (String × Channel) :=
  t.registered ++ t.displaced.map fun c => ("(displaced)", c)

@[simp]
theorem count_update (t : FileTable) (handle : String) (c : Channel) :
    (t.update handle c).count = t.count := by
  simp [update, count]

/-- Registering adds a handle exactly when the handle was free. -/
theorem count_register (t : FileTable) (handle : String) (c : Channel) :
    (t.register handle c).count = if (t.find? handle).isSome then t.count else t.count + 1 := by
  unfold register
  cases h : t.find? handle <;> simp [count, update]

end FileTable

end Refal.Library
