import Dialogue.Encoding
import Dialogue.Failure.Ambient
import Dialogue.Pattern.Fault
import Dialogue.Value
/-!
# Failures

Everything that can end a step with an error, by its cause. `Failure.kind` is the name of the kind of
error, `Failure.message` its wording, `Failure.shown` the form that names both. Which handlers a
failure passes depends on its kind only: `isOrdinary` and `stopsReading`.
-/

namespace Dialogue

/-- The general kinds of this library's errors. -/
inductive Family where
  | any
  | handle
  | dialogue
deriving Repr, DecidableEq

def Family.name : Family → String
  | .any => "LibInteractiveException"
  | .handle => "SpawnFuncError"
  | .dialogue => "ExpectError"

inductive Failure where
  /-- A handle is used before it has a command. -/
  | commandNotConfigured
  | pipeAlreadyAcquired (pipe : Value)
  | processAlreadyStarted (operation : Value)
  | processNotStarted
  | waitAlreadyCalled
  /-- A process did not end well: `status` is its exit code, or minus the signal that ended it. -/
  | processExit (status : Int) (command : Option (List Value))
  /-- No pattern matched in time; patterns and limit, if both are known. -/
  | expectTimeout (waited : Option (List Value × Value))
  /-- The output ended without a match. -/
  | expectEnd (patterns : Option (List Value))
  | sessionClosed
  | waitTimeout (args : List Value)
  | alreadyFulfilled
  | ofFamily (family : Family) (args : List Value)
  /-- An error from outside, with what it was raised with. -/
  | ambient (kind : Ambient) (args : List Value)
  | unknownEncoding (name : String)
  /-- A name with a character that no name of an encoding can have. -/
  | encodingNameWithNull
  | unencodable (e : Encoding.Unencodable)
  /-- A stream whose byte order must be marked has no mark. -/
  | markMissing
  /-- Text where bytes were due. -/
  | textForBytes
  | optionOutOfRange (option need : String) (given : Number)
  | notAPattern
  | badPattern (source : String) (fault : Pattern.Fault)
  | unknownStep (step : Value)
  /-- An operation on a closed stream. -/
  | streamClosed
  | negativeSleep
  | feedNeedsFake (stream : String)
  | writtenNeedsRecorder (stream : String)
  | frozenField (field : String)
  | badInteger (text : String)
  | badReal (text : String)
  /-- Nothing can ever end the wait. -/
  | blocked

namespace Failure

/-- The name of the kind of error. -/
def kind : Failure → String
  | commandNotConfigured => "CommandNotConfigured"
  | pipeAlreadyAcquired _ => "PipeAlreadyAcquired"
  | processAlreadyStarted _ => "ProcessAlreadyStarted"
  | processNotStarted => "ProcessNotStarted"
  | waitAlreadyCalled => "WaitAlreadyCalled"
  | processExit .. => "ProcessExitError"
  | expectTimeout _ => "ExpectTimeout"
  | expectEnd _ => "ExpectEOF"
  | sessionClosed => "SessionClosed"
  | waitTimeout _ => "WaitTimeout"
  | alreadyFulfilled => "ChannelAlreadyFulfilled"
  | ofFamily family _ => family.name
  | ambient k _ => k.name
  | unknownEncoding _ => "LookupError"
  | unencodable _ => "UnicodeEncodeError"
  | markMissing => "UnicodeError"
  | badPattern _ .countTooLarge | badPattern _ .characterTooLarge => "OverflowError"
  | badPattern _ .twoCharacterSets => "ValueError"
  | badPattern _ (.malformed ..) => "re.error"
  | textForBytes | notAPattern | unknownStep _ | feedNeedsFake _ | writtenNeedsRecorder _ =>
    "TypeError"
  | encodingNameWithNull | optionOutOfRange .. | streamClosed | negativeSleep | badInteger _
  | badReal _ => "ValueError"
  | frozenField _ => "FrozenInstanceError"
  | blocked => "Blocked"

/-- The kinds that an error of this library belongs to, from its own to the most general. -/
def bases (f : Failure) : List String :=
  let rest : List Family := match f with
    | commandNotConfigured | pipeAlreadyAcquired _ | processAlreadyStarted _ | processNotStarted
    | waitAlreadyCalled => [.handle, .any]
    | expectTimeout _ | expectEnd _ | sessionClosed => [.dialogue, .any]
    | processExit .. | waitTimeout _ | alreadyFulfilled => [.any]
    | ofFamily .any _ => []
    | ofFamily _ _ => [.any]
    | _ => []
  f.kind :: rest.map Family.name

/-- An exit that did not come in time. -/
def exitOverdue (limit : Value) : Failure :=
  waitTimeout [.text ("Timed out after " ++ limit.plain ++ " seconds waiting for process exit")]

/-- A condition that was not met in time. -/
def conditionOverdue (limit : Value) : Failure :=
  waitTimeout [.text ("Timed out after " ++ limit.plain ++ " seconds")]

/-- A list of values in brackets. -/
def listText (vs : List Value) : String := (Value.list vs).shown

/-- The wording of what an encoding cannot hold: one character by its escape, a run by its place. -/
def unencodableText (e : Encoding.Unencodable) : String :=
  let place := match e.run with
    | [c] => "character '" ++ String.ofList (Text.escapePoint c.toNat) ++ "' in position " ++ toString e.start
    | run => "characters in position " ++ toString e.start ++ "-" ++ toString (e.start + run.length - 1)
  "'" ++ e.label ++ "' codec can't encode " ++ place ++ ": " ++ e.reason

/-- What the error was raised with: its message, or what came from outside. A system error keeps
only its number and its text. -/
def args : Failure → List Value
  | commandNotConfigured => [.text "command() must be called before pipes or start()"]
  | pipeAlreadyAcquired pipe => [.text (pipe.plain ++ " already set")]
  | processAlreadyStarted operation => [.text (operation.plain ++ " after process started")]
  | processNotStarted => [.text "process not started"]
  | waitAlreadyCalled => [.text "wait() was already called"]
  | processExit status command =>
    let how := if status < 0 then "signal: " ++ toString (-status) else "exit status " ++ toString status
    [.text (how ++ (command.elim "" fun c => ": " ++ listText c))]
  | expectTimeout none => [.text "Timed out waiting for output"]
  | expectTimeout (some (patterns, limit)) =>
    [.text ("Timed out waiting for " ++ listText patterns ++ " after " ++ limit.plain ++ " seconds")]
  | expectEnd none => [.text "Output closed"]
  | expectEnd (some patterns) => [.text ("Output closed before matching " ++ listText patterns)]
  | sessionClosed => [.text "Session stdin is closed"]
  | waitTimeout args => args
  | alreadyFulfilled => [.text "Exit channel was already fulfilled"]
  | ofFamily _ args => args
  | ambient (.system _) args => if 3 ≤ args.length && args.length ≤ 5 then args.take 2 else args
  | ambient _ args => args
  | unknownEncoding name => [.text ("unknown encoding: " ++ name)]
  | encodingNameWithNull => [.text "embedded null character"]
  | unencodable e =>
    [.text e.label, .text (String.ofList e.text), .number (.whole e.start),
      .number (.whole (e.start + e.run.length)), .text e.reason]
  | markMissing => [.text "UTF-16 stream does not start with BOM"]
  | textForBytes => [.text "a bytes-like object is required, not 'str'"]
  | optionOutOfRange option need given =>
    [.text (option ++ " must " ++ need ++ ", not " ++ given.text)]
  | notAPattern => [.text "pattern must be a string or a compiled regex pattern"]
  | badPattern source fault => [.text (fault.message source.toList)]
  | unknownStep step => [.text ("Unknown batch step: " ++ step.shown)]
  | streamClosed => [.text "I/O operation on closed file."]
  | negativeSleep => [.text "sleep length must be non-negative"]
  | feedNeedsFake stream => [.text ("feed() needs a FakeStdout, not " ++ stream)]
  | writtenNeedsRecorder stream => [.text ("written needs a RecordingStdin, not " ++ stream)]
  | frozenField field => [.text ("cannot assign to field '" ++ field ++ "'")]
  | badInteger text =>
    [.text ("invalid literal for int() with base 10: " ++ ((Text.quote text.toList).take 200).toString)]
  | badReal text => [.text ("could not convert string to float: " ++ Text.quote text.toList)]
  | blocked => [.text "would block forever"]

/-- The text of what an error was raised with: one value stands for itself. -/
def argsText : List Value → String
  | [] => ""
  | [v] => v.plain
  | vs => (Value.tuple vs).shown

/-- The wording of a system error: number, text, and the names it is about. -/
def systemText : List Value → String
  | [number, text] => "[Errno " ++ number.plain ++ "] " ++ text.plain
  | number :: text :: name :: rest =>
    let second := match rest with
      | [_, other] => " -> " ++ other.shown
      | _ => ""
    "[Errno " ++ number.plain ++ "] " ++ text.plain ++ ": " ++ name.shown ++ second
  | args => argsText args

/-- The wording of a failure. -/
def message : Failure → String
  | ambient (.system _) args => if args.length ≤ 5 then systemText args else argsText args
  | ambient .key [v] => v.shown
  | unencodable e => unencodableText e
  | f => argsText f.args

/-- Kind and content: what the error was raised with, in brackets. -/
def shown (f : Failure) : String :=
  let name := if f.kind == "re.error" then "error" else f.kind
  name ++ "(" ++ ", ".intercalate (f.args.map Value.shown) ++ ")"

/-- Whether handlers of errors see it. Requests to stop and waits that cannot end pass them all. -/
def isOrdinary : Failure → Bool
  | ambient .interrupt _ | ambient .shutdown _ | blocked => false
  | _ => true

/-- Whether it is an error of the operating system. -/
def isSystem : Failure → Bool
  | ambient (.system _) _ => true
  | _ => false

/-- Whether it is a system error or one about a value: what a reader takes for the end of its stream. -/
def stopsReading (f : Failure) : Bool :=
  match f with
  | ambient (.system _) _ | ambient .value _ | markMissing | unencodable _ => true
  | f => f.kind == "ValueError"

end Failure

end Dialogue
