import Dialogue.Session.Send
/-!
# Steps and results as values

How the steps of a batch and the results of a match are shown and compared.
-/

namespace Dialogue

namespace Step

variable {T : Type}

/-- A limit of time as it was given. -/
def limitValue (limit : Option (Span T)) : Value := limit.elim .none Span.written

def targetsValue (targets : List Target) : Value := .list (targets.map Target.toValue)

def shown : Step T → String
  | send data => "Send(data=" ++ data.toValue.shown ++ ")"
  | expect target limit =>
    "Expect(pattern=" ++ target.toValue.shown ++ ", timeout=" ++ (limitValue limit).shown ++ ")"
  | expectAny targets limit =>
    "ExpectAny(patterns=" ++ (targetsValue targets).shown ++ ", timeout=" ++ (limitValue limit).shown ++ ")"
  | unknown v => v.shown

/-- Equality: steps of one kind with equal content. -/
def same : Step T → Step T → Bool
  | send a, send b => a.toValue.same b.toValue
  | expect p l, expect q m => p.toValue.same q.toValue && (limitValue l).same (limitValue m)
  | expectAny ps l, expectAny qs m =>
    (targetsValue ps).same (targetsValue qs) && (limitValue l).same (limitValue m)
  | unknown v, unknown w => v.same w
  | _, _ => false

end Step

/-- The result of a match, with values for its fields. -/
structure MatchValue where
  output : Value
  text : Value
  groups : Value := .tuple []
  index : Value := .number (.whole 0)
  elapsed : Value := .none

namespace MatchValue

def shown (m : MatchValue) : String :=
  "ExpectResult(output=" ++ m.output.shown ++ ", match=" ++ m.text.shown ++ ", groups="
    ++ m.groups.shown ++ ", matched_index=" ++ m.index.shown ++ ", elapsed_time=" ++ m.elapsed.shown
    ++ ")"

def same (m n : MatchValue) : Bool :=
  m.output.same n.output && m.text.same n.text && m.groups.same n.groups && m.index.same n.index
    && m.elapsed.same n.elapsed

end MatchValue

end Dialogue
