import Dialogue.Failure
import Dialogue.Moment
/-!
# Time and the things arranged to happen

A scene is a world with a clock and an agenda. Only waiting moves the clock. While the main line
waits, background work goes on until it can go no further; then the earliest appointment is kept, or
the wait is over. `Scene.rest` is the one way to wait: it ends when the main line is woken, when its
deadline has come, or when nothing is left that could end it.

Of an appointment and a deadline at the same time the appointment comes first; of two appointments,
the one that was made first.
-/

namespace Dialogue

/-- What is to happen at some time: moves, one after the other. -/
structure Appointment (T M : Type) where
  due : T
  moves : List M

structure Scene (T W M : Type) where
  now : T
  /-- In the order of their times. -/
  agenda : List (Appointment T M)
  /-- What went wrong in appointments since it was last asked for. -/
  faults : List Failure
  world : W

/-- How a world goes on by itself, and what moves do to it. -/
structure Life (T W M : Type) where
  /-- Does all background work that can be done now. -/
  settle : T → W → W
  act : T → M → W → Except Failure Unit × W

/-- How a rest ended. -/
inductive Rest where
  | woken
  | elapsed
  | stuck
deriving Repr, DecidableEq

namespace Scene

variable {T W M : Type} [Moment T]

/-- Adds an appointment behind those that are due no later. -/
def insert (a : Appointment T M) : List (Appointment T M) → List (Appointment T M)
  | [] => [a]
  | b :: bs => if b.due ≤ a.due then b :: insert a bs else a :: b :: bs

/-- Arranges moves for a while from now. -/
def arrange (delay : T) (moves : List M) (s : Scene T W M) : Scene T W M :=
  { s with agenda := insert ⟨s.now + delay, moves⟩ s.agenda }

/-- Makes moves up to the first that fails; its failure is kept. -/
def make (life : Life T W M) : List M → Scene T W M → Scene T W M
  | [], s => s
  | m :: ms, s =>
    match life.act s.now m s.world with
    | (.ok _, world) => make life ms { s with world }
    | (.error e, world) => { s with world, faults := s.faults ++ [e] }

/-- Keeps an appointment: the clock goes on to its time, and its moves are made. -/
def keep (life : Life T W M) (a : Appointment T M) (s : Scene T W M) : Scene T W M :=
  make life a.moves { s with now := Moment.later s.now a.due }

/-- Rests with `agenda` as what is left to happen. -/
def restWith (life : Life T W M) (woken : W → Bool) (deadline : Option T) :
    List (Appointment T M) → Scene T W M → Rest × Scene T W M
  | agenda, s =>
    let s := { s with agenda, world := life.settle s.now s.world }
    if woken s.world then (.woken, s)
    else
      match agenda with
      | a :: rest =>
        if deadline.all (a.due ≤ ·) then
          restWith life woken deadline rest (keep life a { s with agenda := rest })
        else (.elapsed, { s with now := deadline.elim s.now (Moment.later s.now) })
      | [] =>
        match deadline with
        | some d => (.elapsed, { s with now := Moment.later s.now d })
        | none => (.stuck, s)

/-- Waits until the main line is woken, or until a deadline if there is one. -/
def rest (life : Life T W M) (woken : W → Bool) (deadline : Option T) (s : Scene T W M) :
    Rest × Scene T W M :=
  restWith life woken deadline s.agenda s

/-- Does what can be done and keeps the appointments that are due, without waiting. -/
def settle (life : Life T W M) (s : Scene T W M) : Scene T W M :=
  (s.rest life (fun _ => false) (some s.now)).2

/-- Sleeps for a while. -/
def sleep (life : Life T W M) (length : T) (s : Scene T W M) : Except Failure Unit × Scene T W M :=
  if length < 0 then (.error .negativeSleep, s)
  else if length ≤ 0 then (.ok (), s)
  else (.ok (), (s.rest life (fun _ => false) (some (s.now + length))).2)

/-- The same time and agenda around another world. -/
def withWorld {W' : Type} (s : Scene T W M) (world : W') : Scene T W' M :=
  { now := s.now, agenda := s.agenda, faults := s.faults, world }

end Scene

end Dialogue
