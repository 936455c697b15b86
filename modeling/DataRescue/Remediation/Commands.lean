import DataRescue.Concurrency.Program
import DataRescue.Python.Lines

/-!
# Commands

What the pull request adapter does outside of its process: `git` and `gh` as subprocesses, and a few
operations on files. Every one of them may fail; a subprocess may also time out, after or before it had
its effect.
-/

namespace DataRescue

open Python Concurrency

/-- The exceptions of the adapter. -/
inductive CommandError where
  | osError (typeName : String)
  | calledProcessError
  | timeoutExpired
  | valueError (message : String)
  /-- A `ValueError` of the standard library. -/
  | libraryValueError (typeName : String)
  | other (typeName : String)
  deriving DecidableEq, Repr

namespace CommandError

/-- `type(error).__name__` -/
def typeName : CommandError → String
  | .osError typeName | .libraryValueError typeName | .other typeName => typeName
  | .calledProcessError => "CalledProcessError"
  | .timeoutExpired => "TimeoutExpired"
  | .valueError _ => "ValueError"

/-- `except (OSError, subprocess.SubprocessError)` -/
def commandFailure : CommandError → Bool
  | .osError _ | .calledProcessError | .timeoutExpired => true
  | _ => false

/-- `except (OSError, subprocess.SubprocessError, ValueError)` -/
def draftFailure : CommandError → Bool
  | .other _ => false
  | _ => true

end CommandError

structure CompletedProcess where
  returncode : Int
  stdout : List UInt8
  stderr : List UInt8 := []
  deriving DecidableEq

inductive CommandOp where
  /-- `subprocess.run(args, cwd=cwd, capture_output=True, text=True, timeout=timeout)` -/
  | run (args : List String) (cwd : String) (timeout : Nat)
  /-- `shutil.which(name)` -/
  | which (name : String)
  /-- `path.exists()` -/
  | pathExists (path : String)
  /-- `path.mkdir(parents=True, exist_ok=True)` -/
  | makeDirectory (path : String)
  /-- `path.resolve()` -/
  | resolvePath (path : String)
  /-- `path.write_text(content, encoding="utf-8")` -/
  | writeText (path content : String)
  /-- `shutil.rmtree(path)` -/
  | removeTree (path : String)
  deriving DecidableEq

abbrev CommandOp.Reply : CommandOp → Type
  | .run .. => CompletedProcess
  | .which _ => Option String
  | .pathExists _ => Bool
  | .resolvePath _ => String
  | .makeDirectory _ | .writeText .. | .removeTree _ => Unit

/-- A program of the adapter. -/
abbrev Shell := Program CommandOp CommandOp.Reply CommandError

abbrev CommandCall := Exchange CommandOp CommandOp.Reply CommandError

/-- The text of an output, as `text=True` decodes it. -/
def decodeOutput (output : List UInt8) : Except CommandError String :=
  match decodeUtf8 output with
  | some text => .ok (String.ofList (universalNewlines text.toList))
  | none => .error (.libraryValueError "UnicodeDecodeError")

namespace Shell

def throw {α : Type} (error : CommandError) : Shell α := Program.throw error

/-- `raise ValueError(message)` -/
def refuse {α : Type} (message : String) : Shell α := throw (.valueError message)

/-- A computation that calls nothing. -/
def lift {α : Type} (result : Except CommandError α) : Shell α := .done result

/-- `with contextlib.suppress(OSError, subprocess.SubprocessError)` -/
def suppress (program : Shell Unit) : Shell Unit :=
  program.tryCatch fun error => if error.commandFailure then pure () else throw error

def which (name : String) : Shell (Option String) := Program.perform (CommandOp.which name)

def pathExists (path : String) : Shell Bool := Program.perform (CommandOp.pathExists path)

def makeDirectory (path : String) : Shell Unit := Program.perform (CommandOp.makeDirectory path)

def resolvePath (path : String) : Shell String := Program.perform (CommandOp.resolvePath path)

def writeText (path content : String) : Shell Unit :=
  Program.perform (CommandOp.writeText path content)

def removeTree (path : String) : Shell Unit := Program.perform (CommandOp.removeTree path)

/-- A subprocess, its output decoded. -/
def subprocess (args : List String) (cwd : String) (timeout : Nat) : Shell (Int × String) := do
  let completed ← (Program.perform (CommandOp.run args cwd timeout) : Shell CompletedProcess)
  lift do
    let stdout ← decodeOutput completed.stdout
    let _ ← decodeOutput completed.stderr
    pure (completed.returncode, stdout)

end Shell

end DataRescue
