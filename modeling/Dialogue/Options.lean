import Dialogue.Encoding
import Dialogue.Failure
import Dialogue.Moment
import Dialogue.Pattern
/-!
# Options

How a session behaves, as the caller gives it and as the session uses it. `Options` keep numbers and
names the way they were written, for messages and comparison; `Options.conduct` checks them, and a
`Conduct` holds only what a session can run with. The engine that compiles its patterns is no option,
and is given besides.
-/

namespace Dialogue

structure Options where
  /-- Put everything sent and received on record. -/
  verbose : Bool
  encoding : String
  /-- How many bytes are asked for in one read. -/
  bufferSize : Number
  /-- Accept a match as soon as it appears, and not only once the output is quiet. -/
  partialMatch : Bool
  /-- For how long the output has to be quiet. -/
  checkInterval : Number
  /-- How many characters are kept for matching; nothing for all. -/
  bufferLimit : Option Number

/-- What a session runs with: options that it can run with, and its engine. -/
structure Conduct (T : Type) where
  verbose : Bool
  encoding : Encoding
  bufferSize : Nat
  bufferSize_pos : 0 < bufferSize
  partialMatch : Bool
  checkInterval : T
  bufferLimit : Option Nat
  engine : Pattern.Engine

namespace Options

/-- The options as text. -/
def shown (o : Options) : String :=
  "ExpectOptions(" ++ ", ".intercalate [
    "verbose=" ++ (Value.bool o.verbose).shown,
    "encoding=" ++ (Value.text o.encoding).shown,
    "buffer_size=" ++ o.bufferSize.text,
    "partial_match=" ++ (Value.bool o.partialMatch).shown,
    "check_interval=" ++ o.checkInterval.text,
    "buffer_limit=" ++ o.bufferLimit.elim "None" Number.text] ++ ")"

/-- Equality, with numbers compared by value. -/
def same (o p : Options) : Bool :=
  o.verbose == p.verbose && o.encoding == p.encoding && o.bufferSize.same p.bufferSize
    && o.partialMatch == p.partialMatch && o.checkInterval.same p.checkInterval
    && (match o.bufferLimit, p.bufferLimit with
      | none, none => true
      | some m, some n => m.same n
      | _, _ => false)

/-- The encoding, by its name. -/
def encoding? (o : Options) : Except Failure Encoding :=
  if o.encoding.toList.contains '\x00' then .error .encodingNameWithNull
  else
    match Encoding.named? o.encoding with
    | some e => .ok e
    | none => .error (.unknownEncoding o.encoding)

/-- The first of the rules for numbers that the options break. -/
def outOfRange? (o : Options) : Option Failure :=
  if o.bufferSize.isAtMostZero then
    some (.optionOutOfRange "buffer_size" "be positive" o.bufferSize)
  else if o.checkInterval.isNegative then
    some (.optionOutOfRange "check_interval" "not be negative" o.checkInterval)
  else
    match o.bufferLimit with
    | some n =>
      if n.isAtMostZero then some (.optionOutOfRange "buffer_limit" "be positive or None" n) else none
    | none => none

/-- Checks the options: the name of the encoding first, then the numbers. -/
def conduct (o : Options) (engine : Pattern.Engine) : Except Failure (Conduct Float) :=
  match o.encoding?, o.outOfRange? with
  | .error e, _ => .error e
  | .ok _, some e => .error e
  | .ok encoding, none => .ok {
      verbose := o.verbose
      encoding
      bufferSize := max 1 o.bufferSize.floor
      bufferSize_pos := by omega
      partialMatch := o.partialMatch
      checkInterval := o.checkInterval.toFloat
      bufferLimit := o.bufferLimit.map fun n => max 1 n.floor
      engine }

end Options

end Dialogue
