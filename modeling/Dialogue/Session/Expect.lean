import Dialogue.Pattern
import Dialogue.Session.Background
/-!
# Matching output

`Stage.expectAny` waits until one of several patterns matches the output. The match that starts
earliest is taken, of several the one of the pattern listed first; the output up to its end is
consumed. A failure consumes nothing. Where partial matches are not wanted, a match is taken only
once the output has been quiet for a while or has ended.
-/

namespace Dialogue

/-- What a caller asks to wait for. -/
inductive Target where
  | source (text : String)
  | compiled (p : Pattern)
  /-- Something that is no pattern. -/
  | other (v : Value)

namespace Target

def toValue : Target → Value
  | source text => .text text
  | compiled p => .pattern p.source p.flags
  | other v => v

/-- The pattern: a source is compiled by the engine, and what is compiled stays as it is. -/
def compile (engine : Pattern.Engine) : Target → Except Failure Pattern
  | source text => engine.compile text {}
  | compiled p => .ok p
  | other _ => .error .notAPattern

/-- All patterns, or the first error. -/
def compileAll (engine : Pattern.Engine) (targets : List Target) : Except Failure (List Pattern) :=
  targets.mapM (compile engine)

end Target

/-- A match of one of several patterns, with the place of that pattern. -/
structure Finding where
  pattern : Pattern
  index : Nat
  found : Pattern.Found

namespace Finding

/-- Of two findings the one that starts earlier, the first if neither does. -/
def earlier (a b : Finding) : Finding := if b.found.start < a.found.start then b else a

/-- The earliest finding of some patterns; `n` is the place of the first of them. -/
def searchFrom (text : Array Char) (n : Nat) : List Pattern → Option Finding
  | [] => none
  | p :: ps =>
    match p.search text, searchFrom text (n + 1) ps with
    | some found, some other => some (earlier ⟨p, n, found⟩ other)
    | some found, none => some ⟨p, n, found⟩
    | none, other => other

/-- The earliest match of the patterns, of several the one of the pattern listed first. -/
def search (patterns : List Pattern) (text : Array Char) : Option Finding :=
  searchFrom text 0 patterns

end Finding

/-- A successful match. -/
structure Match (T : Type) where
  /-- The output that was consumed, up to the end of the match. -/
  output : List Char
  text : List Char
  groups : List (Option (List Char))
  /-- The place of the pattern that matched. -/
  index : Nat
  elapsed : T

namespace Stage

variable {T σ M : Type} [Moment T]

/-- Whether a match may be taken. -/
def settled (now : T) (st : Stage T σ) : Bool :=
  let session := st.session
  session.conduct.partialMatch || session.eof
    || decide (session.conduct.checkInterval ≤ now - session.lastRead)

/-- Takes a match: the output up to its end is consumed. -/
def consume (f : Finding) (elapsed : T) (st : Stage T σ) : Match T × Stage T σ :=
  let buffer := st.session.buffer
  let taken : Match T := {
    output := (buffer.extract 0 f.found.stop).toList
    text := (buffer.extract f.found.start f.found.stop).toList
    groups := f.found.groups
    index := f.index
    elapsed }
  let rest := buffer.extract f.found.stop buffer.size
  let st := { st with session := { st.session with buffer := rest } }
  (taken, st.note (.matched f.pattern.source (Moment.brief elapsed)))

/-- What the state of a session says to a call that waits for patterns. -/
inductive Verdict (T : Type) where
  | found (f : Finding)
  | atEnd
  | late
  /-- Wait for as long, unless something comes in. -/
  | wait (length : T)

/-- Looks at the state at a moment of a call with a deadline. -/
def judge (patterns : List Pattern) (deadline now : T) (st : Stage T σ) : Verdict T :=
  let remaining := deadline - now
  match Finding.search patterns st.session.buffer with
  | some f =>
    if st.settled now then .found f
    else if remaining ≤ 0 then .late
    else .wait (Moment.shorter remaining st.session.conduct.checkInterval)
  | none =>
    if st.session.eof then .atEnd
    else if remaining ≤ 0 then .late
    else .wait remaining

/-- Waits for patterns until a deadline. Every wait ends with something coming in or with its time;
`fuel` is more than the number of waits. -/
def expectUntil (life : Life T (Stage T σ) M) (patterns : List Pattern) (limit : Span T)
    (started : T) : Nat → Scene T (Stage T σ) M → Except Failure (Match T) × Scene T (Stage T σ) M
  | 0, s => (.error .blocked, s)
  | fuel + 1, s =>
    let sources := patterns.map fun p => Value.text p.source
    match s.world.judge patterns (started + limit.length) s.now with
    | .found f =>
      let (taken, world) := s.world.consume f (s.now - started)
      (.ok taken, { s with world })
    | .atEnd => (.error (.expectEnd (some sources)), s)
    | .late => (.error (.expectTimeout (some (sources, limit.written))), s)
    | .wait length =>
      let session := { s.world.session with stirred := false }
      let s := { s with world := { s.world with session } }
      let (_, s) := s.rest life (·.session.stirred) (some (s.now + length))
      expectUntil life patterns limit started fuel s

/-- More than the number of waits of a call: each appointment ends at most one, and so do the end of
a quiet time and the deadline, which rounding can put off. -/
def patience (s : Scene T (Stage T σ) M) : Nat := 4 * (s.agenda.length + 2)

/-- Waits until one of the targets matches, for a limited time. All targets are compiled before
anything else is done. -/
def expectAny (life : Life T (Stage T σ) M) (targets : List Target) (limit : Option (Span T))
    (s : Scene T (Stage T σ) M) : Except Failure (Match T) × Scene T (Stage T σ) M :=
  match Target.compileAll s.world.session.conduct.engine targets with
  | .error e => (.error e, s)
  | .ok patterns =>
    expectUntil life patterns (limit.getD s.world.session.timeout) s.now (patience s) s

end Stage

end Dialogue
