import Refal.CommandLine
import Refal.Disk.Basic
import Refal.Disk.LineBuffer
import Refal.Disk.Open
import Refal.Disk.Stream
import Refal.Disk.System
import Refal.Expr
import Refal.Library.Arithmetic
import Refal.Library.Builtin
import Refal.Library.Call
import Refal.Library.Files
import Refal.Library.Store
import Refal.Library.Symbols
import Refal.Literal
import Refal.Main
import Refal.Numeral
import Refal.Proofs.Arguments
import Refal.Proofs.Arithmetic
import Refal.Proofs.Balance
import Refal.Proofs.CallLine
import Refal.Proofs.Disk
import Refal.Proofs.Effects
import Refal.Proofs.FileTable
import Refal.Proofs.Identifier
import Refal.Proofs.Latin1
import Refal.Proofs.Literal
import Refal.Proofs.NumberTerms
import Refal.Proofs.Numeral
import Refal.Proofs.Operands
import Refal.Proofs.ReadingLoop
import Refal.Proofs.Render
import Refal.Proofs.Replay
import Refal.Proofs.RoundTrip
import Refal.Proofs.Runner
import Refal.Proofs.Separator
import Refal.Proofs.Session
import Refal.Proofs.Split
import Refal.Proofs.Store
import Refal.Proofs.StoreModel
import Refal.Proofs.TermEnd
import Refal.Term
import Refal.Text
import Refal.Unicode.Alphabetic
import Refal.Unicode.CaseMapping
import Refal.Unicode.Classes
import Refal.Unicode.GraphemeExtend
import Refal.Unicode.Printable
import Refal.Unicode.Ranges
import Refal.Unicode.Uppercase
