import Refal.Library.Call
import Refal.Literal

/-!
# Running a script

The batch runner, which runs a script of calls line by line, and the command line that starts it.
-/

/-!
## Running a script of calls

A script has one call per line. Blank lines and lines starting with `*` (after white space) are
skipped, but still counted in line numbers. Each call's own output comes first; then its value is
echoed as ` => ` and the value's rendering, unless the run is quiet, and a call with no result
echoes nothing. A line that is no call, or a call that fails, is reported as
`error: line N: ` and the message, and counted as a failure.
-/

namespace Refal.Batch

/-- The lines of a script: split at line feeds, with no last line after a final line feed. -/
def lines (script : String) : List String :=
  match (script.splitOn "\n").reverse with
  | "" :: rest => rest.reverse
  | all => all.reverse

/-- What a run has produced so far: the output, the number of failures, and the library. -/
structure Run where
  output : String := ""
  failures : Nat := 0
  library : Library
  closing : Option Library.Fault := none

def failureLine (number : Nat) (message : String) : String :=
  "error: line " ++ toString number ++ ": " ++ message ++ "\n"

def Run.step (quiet : Bool) (r : Run) (number : Nat) (line : String) : Run :=
  let line := Text.trim line
  if line.isEmpty || line.startsWith "*" then r
  else
    match Literal.readCall line with
    | .error e =>
      { r with output := r.output ++ failureLine number e.message, failures := r.failures + 1 }
    | .ok c =>
      let reply := r.library.call c.name c.argument
      let echo := match reply.result with
        | .ok (.value v) => if quiet then "" else " => " ++ Expr.render v ++ "\n"
        | .ok .noResult => ""
        | .error f => failureLine number f.message
      { output := r.output ++ reply.output ++ echo
        failures := r.failures + (if reply.result matches .error _ then 1 else 0)
        library := reply.library }

def Run.steps (quiet : Bool) : Run → List (Nat × String) → Run
  | r, [] => r
  | r, (n, line) :: rest => Run.steps quiet (r.step quiet n line) rest

/-- Runs every line of a script, numbering lines from one, and closes the files at the end. -/
def run (lib : Library) (quiet : Bool) (script : String) : Run :=
  let numbered := (lines script).zipIdx.map fun (line, i) => (i + 1, line)
  let r := Run.steps quiet { library := lib } numbered
  let (closing, library) := r.library.closeFiles
  { r with library, closing }

end Refal.Batch

/-!
## The command line

The program is called as `refal-rt [-q] [script] [-- arguments…]`. The script is a file of calls,
or standard input when it is absent or `-`; the arguments after `--` are what `Arg` returns.
`-h` or `--help` prints the help and `-V` or `--version` the version, as soon as they are met.
Short flags may be joined (`-qV`). A long flag may carry extra leading dashes, and a value after
`=` (`--quiet=x`) is ignored; it must be spelt in full (`--q` is unknown). An unknown flag, a
second script, or `-q` given twice refuses the command line, with nothing on standard output and
exit code 1.

A run prints what the script's calls print. If the script cannot be read it prints
`error: `, the path and why, and exits with 1; if any call failed it ends with
`error: N call(s) failed` and exits with 1; otherwise it exits with 0.
-/

namespace Refal.CommandLine

inductive Request where
  | help
  | version
  | refused
  | run (quiet : Bool) (script : Option String) (arguments : List String)
  deriving DecidableEq

def versionText : String := "refal-rt 0.1\n"

def helpText : String :=
  "refal-rt 0.1\n" ++
  "Matthieu Felix <matthieufelix@gmail.com>\n" ++
  "Runs Refal standard library calls, one <Name args> per line\n" ++
  "\n" ++
  "USAGE:\n" ++
  "    refal-rt [FLAGS] [script] [-- <program-args>...]\n" ++
  "\n" ++
  "FLAGS:\n" ++
  "    -h, --help       Prints help information\n" ++
  "    -q, --quiet      Do not print returned values\n" ++
  "    -V, --version    Prints version information\n" ++
  "\n" ++
  "ARGS:\n" ++
  "    <script>             File of calls to run, - for stdin\n" ++
  "    <program-args>...    Arguments seen by <Arg s.N>\n"

/-- A flag of the command line: `quiet` counts towards quiet output, and the others settle
what the command line asks for as soon as they are met. -/
inductive Flag where
  | quiet
  | settles (r : Request)
  deriving DecidableEq

def Flag.ofLong? : String → Option Flag
  | "quiet" => some .quiet
  | "help" => some (.settles .help)
  | "version" => some (.settles .version)
  | _ => none

def Flag.ofShort? : Char → Option Flag
  | 'q' => some .quiet
  | 'h' => some (.settles .help)
  | 'V' => some (.settles .version)
  | _ => none

/-- What a flag does to the count of quiet flags; an unknown flag refuses the command line. -/
def Flag.count (quiet : Nat) : Option Flag → Except Request Nat
  | some .quiet => .ok (quiet + 1)
  | some (.settles r) => .error r
  | none => .error .refused

/-- The name of a long flag: the word without its leading dashes and without what follows
the first `=`. -/
def longName (w : String) : String :=
  String.ofList ((w.toList.dropWhile (· = '-')).takeWhile (· ≠ '='))

/-- Reads the words of a command line: how often `-q` came, the script so far, and the
arguments after `--` once it has come. -/
def scan (quiet : Nat) (script : Option String) :
    List String → Except Request (Nat × Option String × List String)
  | [] => .ok (quiet, script, [])
  | "--" :: rest => .ok (quiet, script, rest)
  | w :: rest =>
    if w.startsWith "--" then do
      let quiet ← Flag.count quiet (Flag.ofLong? (longName w))
      scan quiet script rest
    else if w.startsWith "-" ∧ w.length ≠ 1 then do
      let quiet ← (w.toList.drop 1).foldlM (fun q c => Flag.count q (Flag.ofShort? c)) quiet
      scan quiet script rest
    else
      match script with
      | none => scan quiet (some w) rest
      | some _ => .error .refused

/-- What a command line, the words after the program's name, asks for. -/
def parse (argv : List String) : Request :=
  match scan 0 none argv with
  | .error r => r
  | .ok (quiet, script, arguments) =>
    if quiet ≤ 1 then .run (quiet = 1) script arguments else .refused

/-- What a run of the program gives: its standard output, its exit code and the disk after. -/
structure Outcome where
  stdout : String
  exitCode : Nat
  disk : Disk

/-- The script file a request reads, if it reads one rather than standard input. -/
def Request.scriptPath? : Request → Option String
  | .run _ (some path) _ => if path = "-" then none else some path
  | _ => none

def Request.readsStdin : Request → Bool
  | .run _ script _ => script.all (· = "-")
  | _ => false

/-- The text of the script that a run reads: standard input, or the file, or why the file cannot
be read. -/
def scriptText (script : Option String) (stdin : String) (disk : Disk) : Except String String :=
  match script with
  | some path =>
    if path = "-" then .ok stdin
    else (disk.readText path).mapError fun f => path ++ ": " ++ f.message
  | none => .ok stdin

/-- The paths that the calls of a script would open. -/
def pathsOpened (script : String) : List String :=
  (Batch.lines script).filterMap fun line =>
    match Literal.readCall (Text.trim line) with
    | .ok c => Library.pathOpenedBy c.name c.argument
    | .error _ => none

/-- Runs the program on a command line, with `stdin` as standard input, on a disk. -/
def execute (argv : List String) (stdin : String) (disk : Disk) : Outcome :=
  match parse argv with
  | .help => ⟨helpText, 0, disk⟩
  | .version => ⟨versionText, 0, disk⟩
  | .refused => ⟨"", 1, disk⟩
  | .run quiet script arguments =>
    match scriptText script stdin disk with
    | .error message => ⟨"error: " ++ message ++ "\n", 1, disk⟩
    | .ok text =>
      let r := Batch.run { arguments, disk } quiet text
      match r.closing with
      | some f => ⟨r.output ++ "error: " ++ f.message ++ "\n", 1, r.library.disk⟩
      | none =>
        if r.failures = 0 then ⟨r.output, 0, r.library.disk⟩
        else
          ⟨r.output ++ "error: " ++ toString r.failures ++ " call(s) failed\n", 1,
            r.library.disk⟩

end Refal.CommandLine
