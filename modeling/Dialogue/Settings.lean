import Dialogue.Decimal.Numeral
import Dialogue.Options
/-!
# Settings

The defaults, which the environment can override by strings. Integers and reals are read as
`Dialogue.Decimal.Numeral` reads them; the first setting that is no numeral, in the order of the
fields, is the error.
-/

namespace Dialogue

/-- An environment: the strings that are set in it. -/
abbrev Environment := String → Option String

namespace Environment

/-- An integer setting. -/
def readWhole (env : Environment) (name : String) (default : Int) : Except Failure Int :=
  match env name with
  | none => .ok default
  | some text => ((Decimal.readInt? text).map .ok).getD (.error (.badInteger text))

/-- A real setting. -/
def readReal (env : Environment) (name : String) (default : Float) : Except Failure Float :=
  match env name with
  | none => .ok default
  | some text => ((Decimal.readFloat? text).map .ok).getD (.error (.badReal text))

end Environment

/-- The defaults of sessions. -/
structure Settings where
  expectTimeout : Float := 10
  bufferSize : Int := 4096
  checkInterval : Float := 0.05
  /-- Zero stands for no limit. -/
  bufferLimit : Int := 1048576

namespace Settings

def encoding : String := "utf-8"

def ofEnvironment (env : Environment) : Except Failure Settings := do
  let d : Settings := {}
  let expectTimeout ← env.readReal "LIBINTERACTIVE_EXPECT_TIMEOUT" d.expectTimeout
  let bufferSize ← env.readWhole "LIBINTERACTIVE_BUFFER_SIZE" d.bufferSize
  let checkInterval ← env.readReal "LIBINTERACTIVE_CHECK_INTERVAL" d.checkInterval
  let bufferLimit ← env.readWhole "LIBINTERACTIVE_BUFFER_LIMIT" d.bufferLimit
  return { expectTimeout, bufferSize, checkInterval, bufferLimit }

/-- The options of a session that names none. -/
def options (s : Settings) : Options where
  verbose := false
  encoding
  bufferSize := .whole s.bufferSize
  partialMatch := true
  checkInterval := .real s.checkInterval
  bufferLimit := if s.bufferLimit == 0 then none else some (.whole s.bufferLimit)

/-- The limit of time of a session that names none. -/
def timeout (s : Settings) : Span Float := .ofNumber (.real s.expectTimeout)

/-- The settings under the names they are known by. -/
def values (s : Settings) : List (String × Value) := [
  ("EXPECT_TIMEOUT_SECONDS", .number (.real s.expectTimeout)),
  ("BUFFER_SIZE", .number (.whole s.bufferSize)),
  ("CHECK_INTERVAL_SECONDS", .number (.real s.checkInterval)),
  ("DEFAULT_ENCODING", .text encoding),
  ("BUFFER_LIMIT", .number (.whole s.bufferLimit))]

end Settings

/-- The defaults of the aids for tests. -/
structure TestSettings where
  retryTimeout : Int := 8
  retryInterval : Float := 0.05
  expectTimeout : Float := 2

namespace TestSettings

def ofEnvironment (env : Environment) : Except Failure TestSettings := do
  let d : TestSettings := {}
  let retryTimeout ← env.readWhole "RETRY_TIMEOUT_SECONDS" d.retryTimeout
  let retryInterval ← env.readReal "RETRY_INTERVAL_SECONDS" d.retryInterval
  let expectTimeout ← env.readReal "LIBINTERACTIVE_TEST_TIMEOUT" d.expectTimeout
  return { retryTimeout, retryInterval, expectTimeout }

/-- The settings under the names they are known by. -/
def values (s : TestSettings) : List (String × Value) := [
  ("RETRY_TIMEOUT_SECONDS", .number (.whole s.retryTimeout)),
  ("RETRY_INTERVAL_SECONDS", .number (.real s.retryInterval)),
  ("TEST_EXPECT_TIMEOUT_SECONDS", .number (.real s.expectTimeout))]

end TestSettings

end Dialogue
