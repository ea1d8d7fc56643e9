import Dialogue.Failure
/-!
# Failures by name

A failure built from the name of its kind and a list of values, for errors that come from outside.
-/

namespace Dialogue.Failure

/-- A value as the list of its elements: those of a list, the characters of a text. -/
def elements? : Value → Option (List Value)
  | .list vs | .tuple vs => some vs
  | .text s => some (s.toList.map fun c => .text c.toString)
  | .dict entries => some (entries.map fun e => .text e.1)
  | .bytes bs => some (bs.map fun b => .number (.whole b.toNat))
  | _ => none

/-- A required value that was not given. -/
def missingArgument (kind name : String) : Failure :=
  ambient .type [.text (kind ++ ".__init__() missing 1 required positional argument: '" ++ name ++ "'")]

def notIterable (v : Value) : Failure :=
  let kind := match v with
    | .none => "NoneType"
    | .bool _ => "bool"
    | .number (.whole _) => "int"
    | .number (.real _) => "float"
    | _ => "object"
  ambient .type [.text ("'" ++ kind ++ "' object is not iterable")]

/-- An optional list: nothing stands for none. -/
def optionalList : Value → Except Failure (Option (List Value))
  | .none => .ok none
  | v =>
    match elements? v with
    | some vs => .ok (some vs)
    | none => .error (notIterable v)

/-- An exit status. -/
def status? : Value → Option Int
  | .number (.whole n) => some n
  | .bool b => some (if b then 1 else 0)
  | _ => none

/-- An error of the operating system by its number, if it has a number and a text. -/
def ofSystem (k : SystemKind) (args : List Value) : Failure :=
  match k, args with
  | .general, .number (.whole n) :: _ :: _ =>
    ambient (.system (if args.length ≤ 5 then .ofNumber n else .general)) args
  | k, _ => ambient (.system k) args

/-- The failure of a kind, from what it is raised with; an error if that cannot be done. -/
def ofArgs (kind : String) (args : List Value) : Except Failure Failure :=
  match kind, args with
  | "CommandNotConfigured", _ => .ok commandNotConfigured
  | "PipeAlreadyAcquired", pipe :: _ => .ok (pipeAlreadyAcquired pipe)
  | "PipeAlreadyAcquired", [] => .error (missingArgument kind "stream")
  | "ProcessAlreadyStarted", operation :: _ => .ok (processAlreadyStarted operation)
  | "ProcessAlreadyStarted", [] => .error (missingArgument kind "operation")
  | "ProcessNotStarted", _ => .ok processNotStarted
  | "WaitAlreadyCalled", _ => .ok waitAlreadyCalled
  | "ProcessExitError", [] => .error (missingArgument kind "returncode")
  | "ProcessExitError", status :: rest => do
    let command ← optionalList (rest.head?.getD .none)
    match status? status with
    | some n => .ok (processExit n command)
    | none => .error (ambient .type [.text "an exit status is an integer"])
  | "ExpectTimeout", patterns :: limit :: _ =>
    match patterns, limit with
    | .none, _ | _, .none => .ok (expectTimeout none)
    | patterns, limit => do
      let patterns ← optionalList patterns
      .ok (expectTimeout (patterns.map (·, limit)))
  | "ExpectTimeout", _ => .ok (expectTimeout none)
  | "ExpectEOF", patterns :: _ => do .ok (expectEnd (← optionalList patterns))
  | "ExpectEOF", [] => .ok (expectEnd none)
  | "SessionClosed", _ => .ok sessionClosed
  | "WaitTimeout", args => .ok (waitTimeout args)
  | "ChannelAlreadyFulfilled", _ => .ok alreadyFulfilled
  | "LibInteractiveException", args => .ok (ofFamily .any args)
  | "SpawnFuncError", args => .ok (ofFamily .handle args)
  | "ExpectError", args => .ok (ofFamily .dialogue args)
  | kind, args =>
    match Ambient.ofName? kind with
    | some (.system k) => .ok (ofSystem k args)
    | some k => .ok (ambient k args)
    | none => .ok (ambient .general args)

end Dialogue.Failure
