/-
# Failures

Why an operation yields no result: the outside world refuses something, a program does not do its
work, a table or a description of a cluster cannot be used.
-/
import NodeDemand.Cluster.Reader
import NodeDemand.Text.Utf8

namespace NodeDemand

/-- Why the outside world refuses a file or a program. -/
inductive IoFault where
  | notFound
  | permissionDenied
  | isDirectory
  | notDirectory
  /-- A name is longer than a file system admits. -/
  | nameTooLong
  /-- The name of a file contains the character zero, which ends names. -/
  | zeroInName
  /-- A word of a command contains the character zero, which ends words. -/
  | zeroInWord
  /-- The content is not UTF-8. -/
  | notText
  /-- The service is not available. -/
  | unsupported
deriving DecidableEq, Repr

/-- The wording of such a refusal. -/
def IoFault.message : IoFault → String
  | notFound => "No such file or directory (os error 2)"
  | permissionDenied => "Permission denied (os error 13)"
  | isDirectory => "Is a directory (os error 21)"
  | notDirectory => "Not a directory (os error 20)"
  | nameTooLong => "File name too long (os error 36)"
  | zeroInName => "file name contained an unexpected NUL byte"
  | zeroInWord => "nul byte found in provided data"
  | notText => "stream did not contain valid UTF-8"
  | unsupported => "Function not implemented (os error 38)"

/-- How a program ended: with a code, or by a signal. -/
inductive Ending where
  | exited (code : Nat)
  | killed
deriving DecidableEq, Repr

/-- What a program left when it ended. -/
structure Run where
  /-- How it ended. -/
  ending : Ending
  /-- The bytes of its standard output. -/
  stdout : List UInt8
  /-- The bytes of its standard error. -/
  stderr : List UInt8
deriving DecidableEq, Repr

/-- Why the output of a program is not used. -/
inductive CommandFault where
  /-- The program did not end well. -/
  | failed (run : Run)
  /-- The output is not UTF-8. -/
  | notText (error : Utf8.Error)
deriving DecidableEq, Repr

/-- The bytes of an output as a message shows them. -/
def shownOutput (bytes : List UInt8) : String :=
  String.ofList (Text.trim (Utf8.decodeLossy bytes))

/-- The code of an ending; a signal has none. -/
def Ending.shownCode : Ending → String
  | exited code => Decimal.text code
  | killed => "-1"

/-- The wording of a command fault. -/
def CommandFault.message : CommandFault → String
  | failed run =>
    "Exit code: " ++ run.ending.shownCode ++ "\nStderr: " ++ shownOutput run.stderr ++
      "\nStdout: " ++ shownOutput run.stdout
  | notText error =>
    "invalid UTF-8 in output: " ++ Text.showRecord "Utf8Error"
      [("valid_up_to", Decimal.text error.validUpTo),
        ("error_len", Text.showOptional (error.length.map Decimal.text))]

/-- Why an operation yields no result. -/
inductive Failure where
  /-- The outside world refuses something. -/
  | io (fault : IoFault)
  /-- A program does not do its work. -/
  | command (program : String) (fault : CommandFault)
  /-- A table is refused. -/
  | table (error : Table.Error)
  /-- A description of a cluster is refused. -/
  | cluster (error : Cluster.Error)
  /-- Any other failure. -/
  | general (message : String)
deriving DecidableEq, Repr

/-- The wording of a failure. -/
def Failure.message : Failure → String
  | io fault => fault.message
  | command program fault => program ++ " failed: " ++ fault.message
  | table error => error.message
  | cluster .malformed => "Deserialization error"
  | cluster (.zero limit) => "Error: " ++ limit.name ++ " has to be positive"
  | general message => "Error: " ++ message

end NodeDemand
