/-!
# Errors of the surroundings

The kinds of errors that reach a session from outside: from the operating system, from a stream, from
a callback. What matters about a kind is its name and which handlers it passes.
-/

namespace Dialogue

/-- The kinds of system errors, each with the numbers that select it. -/
inductive SystemKind where
  | general
  | blockingIO
  | brokenPipe
  | childProcess
  | connectionAborted
  | connectionRefused
  | connectionReset
  | fileExists
  | fileNotFound
  | isADirectory
  | notADirectory
  | interrupted
  | permission
  | processLookup
  | timeout
deriving Repr, DecidableEq

namespace SystemKind

def name : SystemKind → String
  | general => "OSError"
  | blockingIO => "BlockingIOError"
  | brokenPipe => "BrokenPipeError"
  | childProcess => "ChildProcessError"
  | connectionAborted => "ConnectionAbortedError"
  | connectionRefused => "ConnectionRefusedError"
  | connectionReset => "ConnectionResetError"
  | fileExists => "FileExistsError"
  | fileNotFound => "FileNotFoundError"
  | isADirectory => "IsADirectoryError"
  | notADirectory => "NotADirectoryError"
  | interrupted => "InterruptedError"
  | permission => "PermissionError"
  | processLookup => "ProcessLookupError"
  | timeout => "TimeoutError"

/-- The kind that a system error of this number is. -/
def ofNumber : Int → SystemKind
  | 11 | 114 | 115 => blockingIO
  | 32 | 108 => brokenPipe
  | 10 => childProcess
  | 103 => connectionAborted
  | 111 => connectionRefused
  | 104 => connectionReset
  | 17 => fileExists
  | 2 => fileNotFound
  | 21 => isADirectory
  | 20 => notADirectory
  | 4 => interrupted
  | 1 | 13 => permission
  | 3 => processLookup
  | 110 => timeout
  | _ => general

def all : List SystemKind := [general, blockingIO, brokenPipe, childProcess, connectionAborted,
  connectionRefused, connectionReset, fileExists, fileNotFound, isADirectory, notADirectory,
  interrupted, permission, processLookup, timeout]

end SystemKind

/-- The kinds of errors from outside. -/
inductive Ambient where
  | system (k : SystemKind)
  | general
  | value
  | runtime
  | type
  | key
  | endOfFile
  | lookup
  /-- The user asks for the program to stop. -/
  | interrupt
  /-- The program ends itself. -/
  | shutdown
deriving Repr, DecidableEq

namespace Ambient

def name : Ambient → String
  | system k => k.name
  | general => "Exception"
  | value => "ValueError"
  | runtime => "RuntimeError"
  | type => "TypeError"
  | key => "KeyError"
  | endOfFile => "EOFError"
  | lookup => "LookupError"
  | interrupt => "KeyboardInterrupt"
  | shutdown => "SystemExit"

def ofName? (name : String) : Option Ambient :=
  (SystemKind.all.map system ++ [general, value, runtime, type, key, endOfFile, lookup, interrupt,
    shutdown]).find? (·.name == name)

end Ambient

end Dialogue
