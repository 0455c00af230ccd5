import Refal.CommandLine
import Refal.Proofs.FileTable

/-!
# The transcript of a run

A script run from standard input shows, for each line that runs, what its call wrote and then
how the line is reported: its value after ` => ` unless the run is quiet, nothing for no
result, or `error: line N: ` and the message when the line is no call or its call fails. Each
call runs on the library that the calls of the earlier lines left, and line numbers count every
line of the script. After the last line every file is closed; the run then ends with the closing
failure, or with the number of failed lines, or with nothing, and exits with zero exactly when
neither came.

`Run.steps` threads one run through the lines; `steps_eq` says what it adds up to, line by line,
and `runs_script_from_stdin` is the whole program on such a command line.
-/

namespace Refal.Library

theorem Builtin.mem_table_of_ofName? {name : String} {b : Builtin}
    (named : Builtin.ofName? name = some b) : (name, b) ∈ Builtin.table := by
  obtain ⟨before, after, split, -⟩ := List.lookup_eq_some_iff.mp named
  rw [split]
  exact List.mem_append_right _ List.mem_cons_self

/-- A built-in other than `Print`, `Prout` and `Put` writes no output. -/
theorem apply_output_other (lib : Library) {b : Builtin}
    (silent : b ≠ .print ∧ b ≠ .prout ∧ b ≠ .put) (e : Expr) : (lib.apply b e).output = "" := by
  cases b with
  | print | prout | put => simp at silent
  | openFile =>
    rcases openFile_cases lib e with ⟨f, failed⟩ | ⟨m, h, rest, mode, c, disk, -, -, -, opened⟩
    · simp [apply, failed, fail]
    · simp [apply, opened]
  | get => exact (get_cases lib e).1
  | arg =>
    dsimp only [apply, arg]
    repeat' split
    all_goals rfl
  | bury =>
    dsimp only [apply, bury]
    split <;> rfl
  | dig =>
    dsimp only [apply, dig]
    split <;> rfl
  | arith op =>
    dsimp only [apply]
    cases op.apply e <;> rfl
  | numb =>
    dsimp only [apply]
    cases numbOf e <;> rfl
  | _ => rfl

/-- The output of a call: `Print`, `Prout`, and `Put` with no file open for writing or
appending under its handle write the argument as a line; every other call writes nothing. -/
theorem call_output (lib : Library) (name : String) (e : Expr) :
    (lib.call name e).output =
      if name = "Print" ∨ name = "Prout" ∨
          (name = "Put" ∧ lib.modeNamedBy e ≠ some .write ∧ lib.modeNamedBy e ≠ some .append)
      then Expr.render e ++ "\n" else "" := by
  by_cases print : name = "Print"
  · subst print
    simp [@call_eq_apply lib "Print" .print rfl, apply, writeLine]
  by_cases prout : name = "Prout"
  · subst prout
    simp [@call_eq_apply lib "Prout" .prout rfl, apply, writeLine]
  by_cases put : name = "Put"
  · subst put
    rw [@call_eq_apply lib "Put" .put rfl]
    by_cases fallback : lib.modeNamedBy e ≠ some .write ∧ lib.modeNamedBy e ≠ some .append
    · simp [apply, (put_fallback_iff lib e).mpr fallback, writeLine, fallback]
    · rcases put_cases lib e with falls | ⟨handle, c, c', disk, -, -, -, -, silent, -⟩
      · exact absurd ((put_fallback_iff lib e).mp falls) fallback
      · simp only [apply, silent]
        simp [fallback]
  · simp only [print, prout, put, false_and, or_self, if_false]
    cases named : Builtin.ofName? name with
    | none => simp [call, named, fail]
    | some b =>
      rw [call_eq_apply named]
      have listed := Builtin.mem_table_of_ofName? named
      -- only `Print`, `Prout` and `Put` name those three built-ins
      refine apply_output_other lib ⟨?_, ?_, ?_⟩ e <;> rintro rfl <;>
        simp_all [Builtin.table]

end Refal.Library

namespace Refal.Batch

/-- How the runner reports a line that runs. -/
inductive Report where
  | value (v : Expr)
  | noResult
  | failure (message : String)

def Report.text (quiet : Bool) (number : Nat) : Report → String
  | .value v => if quiet then "" else " => " ++ Expr.render v ++ "\n"
  | .noResult => ""
  | .failure message => failureLine number message

def Report.failed : Report → Bool
  | .failure _ => true
  | _ => false

/-- What a line that runs shows: what its call wrote, and how it is reported. -/
structure Shown where
  output : String
  report : Report

def Shown.text (quiet : Bool) (number : Nat) (s : Shown) : String :=
  s.output ++ s.report.text quiet number

/-- What a trimmed line shows when it runs on `lib`. A line that is no call writes nothing and
is reported as failed. -/
def runLine (lib : Library) (line : String) : Shown :=
  match Literal.readCall line with
  | .error e => ⟨"", .failure e.message⟩
  | .ok c =>
    let reply := lib.call c.name c.argument
    ⟨reply.output, match reply.result with
      | .ok (.value v) => .value v
      | .ok .noResult => .noResult
      | .error f => .failure f.message⟩

/-- Whether a line is skipped: blank, or a comment starting with `*`, once trimmed. -/
def skips (line : String) : Bool :=
  (Text.trim line).isEmpty || (Text.trim line).startsWith "*"

def runnable (lines : List (Nat × String)) : List (Nat × String) :=
  lines.filterMap fun (number, line) => if skips line then none else some (number, Text.trim line)

/-- The lines of a script that run, each with its number counting every line from one. -/
def runLines (script : String) : List (Nat × String) :=
  runnable ((lines script).zipIdx.map fun (line, i) => (i + 1, line))

def callOf (line : String) : Option (String × Expr) :=
  (Literal.readCall line).toOption.map fun c => (c.name, c.argument)

def callsOf (lines : List (Nat × String)) : List (String × Expr) :=
  lines.filterMap fun p => callOf p.2

/-- The last line of a run: the closing failure, else the number of failed lines if any. -/
def closingLine (closing : Option Library.Fault) (failures : Nat) : String :=
  match closing with
  | some f => "error: " ++ f.message ++ "\n"
  | none => if failures = 0 then "" else "error: " ++ toString failures ++ " call(s) failed\n"

/-! ## One line -/

theorem Run.step_skip (quiet : Bool) (r : Run) (number : Nat) {line : String}
    (skipped : skips line = true) : r.step quiet number line = r := by
  simp only [skips] at skipped
  simp [Run.step, skipped]

/-- A line that runs adds what it shows to the output, counts a failure if it is reported as
one, and leaves the library that its call leaves. -/
theorem Run.step_run (quiet : Bool) (r : Run) (number : Nat) {line : String}
    (runs : skips line = false) (open_ : r.closing = none) :
    r.step quiet number line =
      { output := r.output ++ (runLine r.library (Text.trim line)).text quiet number
        failures := r.failures + if (runLine r.library (Text.trim line)).report.failed then 1 else 0
        library := r.library.afterCalls (callOf (Text.trim line)).toList } := by
  simp only [skips] at runs
  simp only [Run.step, runs, Bool.false_eq_true, if_false]
  cases read : Literal.readCall (Text.trim line) with
  | error e =>
    simp [runLine, read, callOf, Except.toOption, Shown.text, Report.text, Report.failed, open_]
  | ok c =>
    simp only [runLine, read, callOf, Except.toOption, Option.map_some, Option.toList,
      Library.afterCalls_cons, Library.afterCalls_nil]
    -- the echo and the count of the model and of the report agree on each kind of result
    rcases (r.library.call c.name c.argument).result with f | (v | _) <;>
      simp [Shown.text, Report.text, Report.failed, String.append_assoc]

/-! ## A whole script -/

theorem callsOf_cons (number : Nat) (line : String) (lines : List (Nat × String)) :
    callsOf ((number, line) :: lines) = (callOf line).toList ++ callsOf lines := by
  cases called : callOf line <;> simp [callsOf, called]

theorem runnable_cons (number : Nat) (line : String) (lines : List (Nat × String)) :
    runnable ((number, line) :: lines) =
      if skips line then runnable lines else (number, Text.trim line) :: runnable lines := by
  by_cases skipped : skips line <;> simp [runnable, skipped]

theorem afterCalls_append (lib : Library) (first second : List (String × Expr)) :
    lib.afterCalls (first ++ second) = (lib.afterCalls first).afterCalls second := by
  simp [Library.afterCalls, List.foldl_append]

/-- Running numbered lines adds, for each line that runs, what it shows on the library that the
calls of the earlier lines left, counts the lines reported as failed, and leaves the library
after all their calls. -/
theorem steps_eq (quiet : Bool) (base : Library) (lines : List (Nat × String)) (r : Run)
    (done : List (String × Expr)) (reached : r.library = base.afterCalls done)
    (open_ : r.closing = none) :
    let run := runnable lines
    let shown := run.mapIdx fun j line =>
      (line.1, runLine (base.afterCalls (done ++ callsOf (run.take j))) line.2)
    Run.steps quiet r lines =
      { output := r.output ++ String.join (shown.map fun s => s.2.text quiet s.1)
        failures := r.failures + (shown.filter fun s => s.2.report.failed).length
        library := base.afterCalls (done ++ callsOf run) } := by
  induction lines generalizing r done with
  | nil =>
    obtain ⟨output, failures, library, closing⟩ := r
    simp_all [Run.steps, runnable, callsOf]
  | cons line rest ih =>
    obtain ⟨number, text⟩ := line
    by_cases skipped : skips text
    · simp only [Run.steps, Run.step_skip quiet r number skipped, runnable_cons, skipped, if_true]
      exact ih r done reached open_
    · have runs : skips text = false := by simpa using skipped
      have stepped := Run.step_run quiet r number runs open_
      -- the next line runs on what the calls so far left
      have next : (r.step quiet number text).library =
          base.afterCalls (done ++ (callOf (Text.trim text)).toList) := by
        rw [stepped, reached, afterCalls_append]
      simp only [Run.steps, runnable_cons, runs, Bool.false_eq_true, if_false]
      rw [ih (r.step quiet number text) _ next (by rw [stepped])]
      -- the first line runs on the library reached so far, each later one after its call
      have first : done ++ callsOf (((number, Text.trim text) :: runnable rest).take 0) = done := by
        simp [callsOf]
      have later : ∀ j, done ++ callsOf (((number, Text.trim text) :: runnable rest).take (j + 1)) =
          done ++ (callOf (Text.trim text)).toList ++ callsOf ((runnable rest).take j) := by
        intro j
        rw [List.take_succ_cons, callsOf_cons, List.append_assoc]
      simp only [List.mapIdx_cons, first, later, ← reached, stepped, callsOf_cons, List.append_assoc]
      generalize runLine r.library (Text.trim text) = head
      generalize (runnable rest).mapIdx _ = tail
      by_cases failed : head.report.failed <;>
        simp only [failed, List.map_cons, String.join_cons, List.filter_cons, if_true, if_false,
          Bool.false_eq_true, List.length_cons, String.append_assoc, Run.mk.injEq, true_and,
          and_true] <;>
        omega

/-- A run of a script: what its lines show, each on the library that the calls of the earlier
lines left, the count of lines reported as failed, and the closing of every file after the
last line. -/
theorem run_eq (lib : Library) (quiet : Bool) (script : String) :
    let lines := runLines script
    let shown := lines.mapIdx fun j line =>
      (line.1, runLine (lib.afterCalls (callsOf (lines.take j))) line.2)
    let closing := (lib.afterCalls (callsOf lines)).closeFiles
    run lib quiet script =
      { output := String.join (shown.map fun s => s.2.text quiet s.1)
        failures := (shown.filter fun s => s.2.report.failed).length
        library := closing.2
        closing := closing.1 } := by
  intro lines shown closing
  have steps := steps_eq quiet lib ((Batch.lines script).zipIdx.map fun (line, i) => (i + 1, line))
    { library := lib } [] rfl rfl
  simp only [List.nil_append] at steps
  simp only [run, steps]
  simp [lines, runLines, shown, closing]

/-- The command line that runs a script from standard input: `-q` when quiet, `-` for the
script, and the program's arguments after `--`. -/
theorem parse_stdin (quiet : Bool) (arguments : List String) :
    CommandLine.parse ((if quiet then ["-q"] else []) ++ "-" :: "--" :: arguments) =
      .run quiet (some "-") arguments := by
  -- `-` is the script, not a flag, for it is one character long
  have dash : "-".length = 1 := by decide
  have flag : "-q".length = 2 := by decide
  cases quiet <;> simp [CommandLine.parse, CommandLine.scan, CommandLine.Flag.count,
    CommandLine.Flag.ofShort?, dash, flag, bind, Except.bind, pure, Except.pure]

/-- On a command line that runs a script from standard input, the program prints what the run
printed and then its last line, exits with zero exactly when no line failed and closing failed
at nothing, and leaves the disk as closing every file left it. -/
theorem execute_stdin {argv : List String} {quiet : Bool} {arguments : List String}
    (parsed : CommandLine.parse argv = .run quiet (some "-") arguments) (script : String)
    (disk : Disk) :
    let r := run (Library.fresh arguments disk) quiet script
    (CommandLine.execute argv script disk).stdout = r.output ++ closingLine r.closing r.failures ∧
      (CommandLine.execute argv script disk).exitCode =
        (if r.failures = 0 ∧ r.closing = none then 0 else 1) ∧
      (CommandLine.execute argv script disk).disk = r.library.disk := by
  intro r
  have reads : CommandLine.scriptText (some "-") script disk = .ok script := by
    simp [CommandLine.scriptText]
  have named : run { arguments, disk } quiet script = r := rfl
  simp only [CommandLine.execute, parsed, reads, named]
  cases closed : r.closing with
  | some f => simp [closingLine, String.append_assoc]
  | none =>
    by_cases none_failed : r.failures = 0 <;> simp [closingLine, none_failed, String.append_assoc]

/-- Running a script from standard input, on a command line that asks for that. Each line of
the script that runs shows, in order, what its call wrote and then its report (the value after
` => ` unless quiet, nothing for no result, or `error: line N: ` and the message when the line is
no call or its call fails, `N` counting every line of the script); each call runs on the library
that the calls of the earlier lines left, and only `Print`, `Prout` and a `Put` with no file to
write to write anything, the argument as a line. After the last line every file is closed. The
program exits with zero exactly when no line failed and closing failed at nothing; otherwise its
last line reports the closing failure, or else the number of lines reported as failed. -/
theorem runs_script_from_stdin (argv : List String) (quiet : Bool) (arguments : List String)
    (script : String) (disk : Disk)
    (parsed : CommandLine.parse argv = .run quiet (some "-") arguments) :
    let lines := runLines script
    let before := fun j => (Library.fresh arguments disk).afterCalls (callsOf (lines.take j))
    let shown := lines.mapIdx fun j line => (line.1, runLine (before j) line.2)
    let failures := (shown.filter fun s => s.2.report.failed).length
    let closing := (before lines.length).closeFiles
    let outcome := CommandLine.execute argv script disk
    outcome.stdout =
        String.join (shown.map fun s => s.2.text quiet s.1) ++ closingLine closing.1 failures ∧
      outcome.exitCode = (if failures = 0 ∧ closing.1 = none then 0 else 1) ∧
      outcome.disk = closing.2.disk ∧ closing.2.files = {} ∧
      ∀ (lib : Library) name e, (lib.call name e).output =
        if name = "Print" ∨ name = "Prout" ∨
            (name = "Put" ∧ lib.modeNamedBy e ≠ some .write ∧ lib.modeNamedBy e ≠ some .append)
        then Expr.render e ++ "\n" else "" := by
  intro lines before shown failures closing outcome
  have whole : before lines.length = (Library.fresh arguments disk).afterCalls (callsOf lines) := by
    simp [before]
  obtain ⟨printed, exited, left⟩ := execute_stdin parsed script disk
  rw [run_eq] at printed exited left
  refine ⟨?_, ?_, ?_, rfl, Library.call_output⟩
  · rw [← whole] at printed
    exact printed
  · rw [← whole] at exited
    exact exited
  · rw [← whole] at left
    exact left

/-- A quiet run of a comment, a call of `Prout` and a call of an unknown built-in. -/
theorem runs_script_from_stdin_quiet :
    let script := "* note\n<Prout 'x'>\n<Frob>\n"
    CommandLine.parse ["-q", "-", "--", "a"] = .run true (some "-") ["a"] ∧
    let lines := runLines script
    let before := fun j => (Library.fresh ["a"] Disk.system).afterCalls (callsOf (lines.take j))
    let shown := lines.mapIdx fun j line => (line.1, runLine (before j) line.2)
    let failures := (shown.filter fun s => s.2.report.failed).length
    let closing := (before lines.length).closeFiles
    let outcome := CommandLine.execute ["-q", "-", "--", "a"] script Disk.system
    outcome.stdout =
        String.join (shown.map fun s => s.2.text true s.1) ++ closingLine closing.1 failures ∧
      outcome.exitCode = (if failures = 0 ∧ closing.1 = none then 0 else 1) ∧
      outcome.disk = closing.2.disk ∧ closing.2.files = {} ∧
      ∀ (lib : Library) name e, (lib.call name e).output =
        if name = "Print" ∨ name = "Prout" ∨
            (name = "Put" ∧ lib.modeNamedBy e ≠ some .write ∧ lib.modeNamedBy e ≠ some .append)
        then Expr.render e ++ "\n" else "" := by
  intro script
  have parsed : CommandLine.parse ["-q", "-", "--", "a"] = .run true (some "-") ["a"] :=
    parse_stdin true ["a"]
  exact ⟨parsed, runs_script_from_stdin _ true ["a"] script Disk.system parsed⟩

end Refal.Batch
