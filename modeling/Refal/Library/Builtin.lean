import Refal.Disk.Basic
import Refal.Text

/-!
# The built-ins

The library's built-in functions, the names they are called by, and the faults they fail with.
-/

namespace Refal.Library

/-!
## Faults

Why a call of a built-in fails, and the message that reports it. Built-in names in faults are
the canonical ones (`Add` also for `+`), and the texts of parse failures and missing keys are
quoted as in all messages.
-/

/-- Why a call of a built-in failed. -/
inductive Fault where
  | missingArgument (builtin argument : String)
  | unsupportedMode (mode : String)
  | notImplemented (name : String)
  | divideByZero
  | parseFailure (builtin text : String)
  | keyNotFound (key : String)
  | matchFailure (builtin shape : String)
  | io (context : String) (cause : Disk.IoFailure)
  | unknownBuiltin (name : String)
  deriving DecidableEq

def Fault.message : Fault → String
  | .missingArgument b a => b ++ ": missing argument " ++ a
  | .unsupportedMode m => "Open: bad file open mode: " ++ m ++ " (R, W, or A expected)"
  | .notImplemented n => n ++ ": not implemented"
  | .divideByZero => "Div: division by zero"
  | .parseFailure b t => b ++ ": not a number: " ++ Text.quoteText t
  | .keyNotFound k => "Dig: nothing buried under " ++ Text.quoteText k
  | .matchFailure b s => "recognition impossible: <" ++ b ++ " " ++ s ++ ">"
  | .io c f => c ++ ": " ++ f.message
  | .unknownBuiltin n => "unknown built-in: " ++ n

/-!
## Names

The library's built-in functions and the names they are called by. Several have two names
(`Br` and `Bury`, `+` and `Add`). Ten names belong to built-ins of the language that this library
leaves out; calling one fails as not implemented.
-/

inductive ArithOp where
  | add
  | sub
  | mul
  | div
  deriving DecidableEq

/-- The name that faults give the operation. -/
def ArithOp.name : ArithOp → String
  | .add => "Add"
  | .sub => "Sub"
  | .mul => "Mul"
  | .div => "Div"

inductive Builtin where
  | print
  | prout
  | openFile
  | get
  | put
  | arg
  | bury
  | dig
  | digAll
  | arith (op : ArithOp)
  | type
  | implode
  | numb
  | chr
  | ord
  | absent (name : String)

def Builtin.table : List (String × Builtin) :=
  [("Print", .print), ("Prout", .prout), ("Open", .openFile), ("Get", .get), ("Put", .put),
   ("Arg", .arg), ("Br", .bury), ("Bury", .bury), ("Dg", .dig), ("Dig", .dig),
   ("Dgall", .digAll), ("DigAll", .digAll), ("+", .arith .add), ("Add", .arith .add),
   ("-", .arith .sub), ("Sub", .arith .sub), ("*", .arith .mul), ("Mul", .arith .mul),
   ("/", .arith .div), ("Div", .arith .div), ("Type", .type), ("Implode", .implode),
   ("Numb", .numb), ("Chr", .chr), ("Ord", .ord),
   ("Card", .absent "Card"), ("Cp", .absent "Cp"), ("Rp", .absent "Rp"), ("Mu", .absent "Mu"),
   ("Implode-Ext", .absent "Implode-Ext"), ("Explode", .absent "Explode"),
   ("Symb", .absent "Symb"), ("Divmod", .absent "Divmod"), ("First", .absent "First"),
   ("Putout", .absent "Putout")]

def Builtin.ofName? (name : String) : Option Builtin := Builtin.table.lookup name

end Refal.Library
