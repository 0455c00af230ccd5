import Refal.Expr
import Refal.Library.Builtin
import Refal.Library.Files
import Refal.Library.Store
import Refal.Library.Symbols

/-!
# Calling a built-in

The library's state between calls is its store, its open files, the program's arguments and the
disk. A call looks the built-in up by name and runs it on an argument. It answers with a value,
with no result (an effect alone, which is not the empty value), or with a fault; it also gives
the text it wrote as output and the library after it.

A fault leaves the library as it was, with one exception: a line that `Get` read and found not
to be UTF-8 is consumed all the same.
-/

namespace Refal

/-- What a successful call gives back: a value, or an effect and no value. -/
inductive Library.Outcome where
  | value (e : Expr)
  | noResult

/-- The state of the built-in library between calls: the store of `Br`, `Dg` and `Dgall`, the
open files, the program's arguments that `Arg` returns, and the disk that files live on. -/
structure Library where
  store : Library.Store := {}
  files : Library.FileTable := {}
  arguments : List String := []
  disk : Disk := Disk.system

namespace Library

/-- The answer to a call: its result, the library after it, and the text it wrote. -/
structure Reply where
  result : Except Fault Outcome
  library : Library
  output : String := ""

def fail (lib : Library) (f : Fault) : Reply := ⟨.error f, lib, ""⟩

def give (lib : Library) (e : Expr) : Reply := ⟨.ok (.value e), lib, ""⟩

def giveOrFail (lib : Library) : Except Fault Expr → Reply
  | .ok e => lib.give e
  | .error f => lib.fail f

def writeLine (lib : Library) (e : Expr) (outcome : Outcome) : Reply :=
  ⟨.ok outcome, lib, Expr.render e ++ "\n"⟩

/-- The handle that an argument names: the text of its first term, unless that is a bracket. -/
def handleOf : Expr → Option String
  | t :: _ => if t.isBracket then none else some t.text
  | [] => none

/-- The file that `Open` opens under handle `h`: the rendering of the terms after the handle, or
`refal` followed by the handle and `.dat` if there are none. -/
def fileNameOf (h : Term) (rest : Expr) : String :=
  if rest = [] then "refal" ++ h.text ++ ".dat" else Expr.render rest

/-- The path that a call would open, if it is a call of `Open` with a mode and a handle. -/
def pathOpenedBy (name : String) (e : Expr) : Option String :=
  match Builtin.ofName? name, e with
  | some .openFile, _ :: h :: rest => some (fileNameOf h rest)
  | _, _ => none

/-- `Open`: the mode from the first term, the handle from the second, and the file name from
the rest, or `refal` followed by the handle and `.dat` if there is no rest. -/
def openFile (lib : Library) (e : Expr) : Reply :=
  match e with
  | [] => lib.fail (.missingArgument "Open" "s.Mode")
  | [_] => lib.fail (.missingArgument "Open" "s.D")
  | m :: h :: rest =>
    match Mode.ofText m.text with
    | .error f => lib.fail f
    | .ok mode =>
      let handle := h.text
      let fileName := fileNameOf h rest
      match Channel.openAt lib.disk mode fileName with
      | .error cause => lib.fail (.io ("Open " ++ fileName) cause)
      | .ok (channel, disk) =>
        ⟨.ok .noResult, { lib with files := lib.files.register handle channel, disk }, ""⟩

/-- A line read from a file, without its line feed and then without its carriage return. -/
def stripLineEnd (s : String) : List Char :=
  match s.toList.reverse with
  | '\n' :: '\r' :: rest => rest.reverse
  | '\n' :: rest => rest.reverse
  | _ => s.toList

/-- `Get`: the next line of the file open for reading under the handle, or `0` at its end. -/
def get (lib : Library) (e : Expr) : Reply :=
  match handleOf e with
  | none => lib.fail (.notImplemented "Card")
  | some handle =>
    match lib.files.find? handle with
    | some (.reader file st) =>
      if lib.disk.isDirectory file then lib.fail (.io ("Get " ++ handle) .isADirectory)
      else
        let (line, st) := st.readLine (lib.disk.bytes file)
        let lib := { lib with files := lib.files.update handle (.reader file st) }
        if line = [] then lib.give [.small 0]
        else
          match String.fromUTF8? ⟨line.toArray⟩ with
          | none => lib.fail (.io ("Get " ++ handle) .invalidUtf8)
          | some s => lib.give ((stripLineEnd s).map .char)
    | _ => lib.fail (.notImplemented "Card")

/-- `Put`: writes the argument after the handle as a line of the file open for writing or
appending under the handle, and returns it; with no such file, writes the whole argument as a
line of output instead. The line goes through the file's line buffer, and a write that the file
refuses fails the call. -/
def put (lib : Library) (e : Expr) : Reply :=
  let text := (Expr.renderFrom e 1).toUTF8.toList
  match handleOf e with
  | none => lib.writeLine e .noResult
  | some handle =>
    let finish (lib : Library) : Option Disk.IoFailure → Reply
      | none => lib.give e.tail
      | some f => lib.fail (.io ("Put " ++ handle) f)
    match lib.files.find? handle with
    | some (.writer file offset held) =>
      let (b, failure) := Disk.LineBuffer.writeLine (lib.disk.refusal file) { held } text
      let disk := lib.disk.write file offset b.sent
      let files := lib.files.update handle (.writer file (offset + b.sent.length) b.held)
      finish { lib with files, disk } failure
    | some (.appender file held) =>
      let (b, failure) := Disk.LineBuffer.writeLine (lib.disk.refusal file) { held } text
      let disk := lib.disk.append file b.sent
      let files := lib.files.update handle (.appender file b.held)
      finish { lib with files, disk } failure
    | _ => lib.writeLine e .noResult

/-- `Arg`: the program argument at the position that the first term gives, counting from one, as
characters; empty when there is none there, when the argument is empty, or when the program has
no arguments. -/
def arg (lib : Library) (e : Expr) : Reply :=
  match e, lib.arguments with
  | [], _ => lib.give []
  | _, [] => lib.give []
  | t :: _, args =>
    match termValue "Arg" t with
    | .error f => lib.fail f
    | .ok n =>
      if 1 ≤ n then
        match args[n.toNat - 1]? with
        | some a => lib.give (Expr.ofChars a)
        | none => lib.give []
      else lib.give []

/-- `Br`: buries what follows the first `'='` outside every group under what comes before it. -/
def bury (lib : Library) (e : Expr) : Reply :=
  match Expr.splitAtSymbol e (.char '=') with
  | some (key, value) => { lib with store := lib.store.bury key value }.give []
  | none => lib.fail (.matchFailure "Br" "e.N '=' e.Expr")

/-- `Dg`: digs up the value buried under the argument's rendering. -/
def dig (lib : Library) (e : Expr) : Reply :=
  match lib.store.dig (Expr.render e) with
  | some (v, store) => { lib with store }.give v
  | none => lib.fail (.keyNotFound (Expr.render e))

/-- The value of `Dgall`: each entry as a group of its key, `'='` and its value. -/
def entriesExpr (entries : List (Expr × Expr)) : Expr :=
  entries.flatMap fun (k, v) => .openBracket :: k ++ .char '=' :: v ++ [.closeBracket]

/-- `Dgall`: digs up every entry, in order of first burial. -/
def digAll (lib : Library) : Reply :=
  let (entries, store) := lib.store.digAll
  { lib with store }.give (entriesExpr entries)

def apply (lib : Library) (b : Builtin) (e : Expr) : Reply :=
  match b with
  | .print => lib.writeLine e (.value e)
  | .prout => lib.writeLine e .noResult
  | .openFile => lib.openFile e
  | .get => lib.get e
  | .put => lib.put e
  | .arg => lib.arg e
  | .bury => lib.bury e
  | .dig => lib.dig e
  | .digAll => lib.digAll
  | .arith op => lib.giveOrFail (op.apply e)
  | .type => lib.give (typeOf e)
  | .implode => lib.give (implodeOf e)
  | .numb => lib.giveOrFail (numbOf e)
  | .chr => lib.give (chrOf e)
  | .ord => lib.give (ordOf e)
  | .absent name => lib.fail (.notImplemented name)

def call (lib : Library) (name : String) (e : Expr) : Reply :=
  match Builtin.ofName? name with
  | some b => lib.apply b e
  | none => lib.fail (.unknownBuiltin name)

/-- Closes one file on the disk: a writer or an appender sends what its line buffer holds. The
disk after, and the failure that sending met, if any. -/
def Channel.close (d : Disk) : Channel → Disk × Option Disk.IoFailure
  | .reader .. => (d, none)
  | .writer file offset held =>
    let (b, failure) := Disk.LineBuffer.flush (d.refusal file) { held }
    (d.write file offset b.sent, failure)
  | .appender file held =>
    let (b, failure) := Disk.LineBuffer.flush (d.refusal file) { held }
    (d.append file b.sent, failure)

/-- Closes every file, registered or displaced, in the table's closing order. Every file is
closed even when one fails; the first failure is reported, under the name the file is closed
by. Afterwards no file is open, so closing again finds nothing to fail. -/
def closeFiles (lib : Library) : Option Fault × Library :=
  let step (acc : Disk × Option Fault) (named : String × Channel) : Disk × Option Fault :=
    let (disk, failure) := named.2.close acc.1
    (disk, acc.2.or (failure.map (.io ("closing " ++ named.1))))
  let (disk, failure) := lib.files.closingOrder.foldl step (lib.disk, none)
  (failure, { lib with files := {}, disk })

def liveEntries (lib : Library) : Nat := lib.store.liveCount

def openCount (lib : Library) : Nat := lib.files.count

end Library

end Refal
