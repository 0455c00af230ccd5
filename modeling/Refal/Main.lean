import Refal.CommandLine

/-!
# The program

Reads the command line and, when the script comes from there, standard input. Before the run it
starts from the devices and kernel directories of the system and fills the disk with what the
other places the script and its calls will open hold on the real file system; after the run it prints the output, writes back the files that changed, and exits with
the run's exit code.
-/

/-!
## Keeping the disk in step with a file system

A program that runs on a real file system fills the disk with what the places it will use hold,
before it runs, and afterwards writes back the files that changed. `Disk.lookups` names the
places that opening a path looks at, each with the text of the path that leads to it;
`Disk.learn` records what one of them holds; `Disk.changedFiles` lists the files to write back.
-/

namespace Refal.Disk

/-- The text of the path to a place, from the working directory. -/
def Location.pathText (loc : Location) : String :=
  let start := match loc.origin with
    | .work 0 => "."
    | .work (up + 1) => "/".intercalate (List.replicate (up + 1) "..")
    | .root => ""
  "/".intercalate (start :: loc.names)

/-- Every place with a name that opening `path` looks at, with the text of the path to it, in
the order of the path's names. -/
def lookups (path : String) : List (String × Location) :=
  let p := Path.ofString path
  let start : Location := if p.absolute then ⟨.root, []⟩ else .here
  let step (acc : Location × List (String × Location)) (n : String) :=
    if n = "." then acc
    else if n = ".." then (acc.1.parent, acc.2)
    else
      let loc := acc.1.child n
      (loc, acc.2 ++ [(loc.pathText, loc)])
  (p.names.foldl step (start, [])).2

/-- Records what a place holds, unless the disk already says. -/
def learn (d : Disk) (loc : Location) (found : Option Entry) : Disk :=
  if d.entries.any (·.1 = loc) then d
  else
    match found with
    | some e => d.set loc e
    | none => d

/-- The files of `after` whose bytes differ from those in `before`, with their new bytes. -/
def changedFiles (before after : Disk) : List (Location × Bytes) :=
  after.entries.filterMap fun (loc, e) =>
    match e, before.entry? loc with
    | .file bs, some (.file old) => if bs = old then none else some (loc, bs)
    | .file bs, _ => some (loc, bs)
    | _, _ => none

end Refal.Disk

/-! ## Running on the real file system -/

namespace Refal.Program

/-- What the real file system holds at a path: a file, a directory, or nothing usable. -/
def probe (path : String) : IO (Option Disk.Entry) := do
  try
    let bytes ← IO.FS.readBinFile path
    return some (.file bytes.toList)
  catch e =>
    match e with
    | .inappropriateType _ 21 _ => return some .directory
    | _ => return none

/-- Fills the disk with what the places that opening each path looks at hold. -/
def fill (disk : Disk) (paths : List String) : IO Disk :=
  (paths.flatMap Disk.lookups).foldlM (fun d (text, loc) => do
    pure (d.learn loc (← probe text))) disk

end Refal.Program

open Refal Refal.Program

def main (argv : List String) : IO UInt32 := do
  let request := CommandLine.parse argv
  let stdin ← if request.readsStdin then (← IO.getStdin).readToEnd else pure ""
  let disk ← fill Disk.devices request.scriptPath?.toList
  let script := match request with
    | .run _ path _ => (CommandLine.scriptText path stdin disk).toOption.getD ""
    | _ => ""
  let disk ← fill disk (CommandLine.pathsOpened script)
  let outcome := CommandLine.execute argv stdin disk
  IO.print outcome.stdout
  for (loc, bytes) in Disk.changedFiles disk outcome.disk do
    IO.FS.writeBinFile loc.pathText ⟨bytes.toArray⟩
  return outcome.exitCode.toUInt32
