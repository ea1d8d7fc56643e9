import Dialogue.Proofs.EndOfOutput
/-!
# Launches that fail

A launcher is followed: everything that it is asked for, and everything that is asked of its processes, is kept
with its outcome, and nothing else changes. A launch that fails at a step has asked for the steps up to that one,
then for the streams that were acquired to be closed, each of them once, and for nothing else.
-/

namespace Dialogue

/-- Which launcher something was asked of: the spawner's own one, or the one that was given for the call. -/
inductive Whose where
  | own
  | given
deriving Repr, DecidableEq

/-- What can be asked of a launcher and of its processes. -/
inductive Errand where
  | command (name : String) (args : List String)
  | step (s : LaunchStep)
  | close (side : Side)
  | write (bytes : List UInt8)
  | flush
  | hook
  | read (most : Nat)
  | beginWait
  | pollWait

structure Asked where
  whose : Whose
  errand : Errand
  outcome : Except Failure Unit

/-- A world with all that was asked in it. -/
structure Followed (σ : Type) where
  process : σ
  asked : List Asked

variable {σ H H' T M : Type}

namespace Followed

/-- Does something to the world, and keeps that it was asked for. -/
def on {α : Type} (whose : Whose) (errand : Errand) (outcome : α → Except Failure Unit) (f : σ → α × σ)
    (w : Followed σ) : α × Followed σ :=
  let (a, process) := f w.process
  (a, { process, asked := w.asked ++ [⟨whose, errand, outcome a⟩] })

end Followed

/-- Closes one of the streams. -/
def Link.close (l : Link σ) : Side → σ → Except Failure Unit × σ
  | .input => l.closeInput
  | .output => l.closeOutput

/-- The stream in a record. -/
def Link.streamName (l : Link σ) : Side → σ → String
  | .input => l.inputName
  | .output => l.outputName

/-- The same link, followed. Reads and waits count as done, whatever they give. -/
def Link.followed (whose : Whose) (l : Link σ) : Link (Followed σ) where
  write bytes := Followed.on whose (.write bytes) id (l.write bytes)
  flush := Followed.on whose .flush id l.flush
  closeInput := Followed.on whose (.close .input) id l.closeInput
  hook := l.hook.map (Followed.on whose .hook id)
  read most := Followed.on whose (.read most) (fun _ => .ok ()) (l.read most)
  closeOutput := Followed.on whose (.close .output) id l.closeOutput
  remaining w := l.remaining w.process
  inputName w := l.inputName w.process
  outputName w := l.outputName w.process
  wait := l.wait.map fun wait => {
    begin := fun w => (Followed.on whose .beginWait (fun _ => .ok ()) (fun process => ((), wait.begin process)) w).2
    poll := fun w =>
      let (outcome, records, process) := wait.poll w.process
      (outcome, records, { process, asked := w.asked ++ [⟨whose, .pollWait, .ok ()⟩] }) }

/-- The same launcher, followed. -/
def Launcher.followed (whose : Whose) (l : Launcher σ H) : Launcher (Followed σ) H where
  command name args := Followed.on whose (.command name args) (·.map fun _ => ()) (l.command name args)
  inputPipe h := Followed.on whose (.step .inputPipe) id (l.inputPipe h)
  outputPipe h := Followed.on whose (.step .outputPipe) id (l.outputPipe h)
  start h w :=
    let (outcome, records, process) := l.start h w.process
    (outcome, records, { process, asked := w.asked ++ [⟨whose, .step .start, outcome⟩] })
  link h := (l.link h).followed whose
  shown h w := l.shown h w.process

theorem Link.close_followed (whose : Whose) (l : Link σ) (side : Side) :
    (l.followed whose).close side = Followed.on whose (.close side) id (l.close side) := by
  cases side <;> rfl

theorem Link.streamName_followed (whose : Whose) (l : Link σ) (side : Side) (w : Followed σ) :
    (l.followed whose).streamName side w = l.streamName side w.process := by
  cases side <;> rfl

theorem Launcher.link_followed (whose : Whose) (l : Launcher σ H) (h : H) :
    (l.followed whose).link h = (l.link h).followed whose := rfl

/-! ## What should be asked -/

/-- The step of a launch that fails first, each of them taken after those before it, and why. -/
def Launcher.setback? (l : Launcher σ H) (name : String) (args : List String) (w : σ) : Option (Nat × Failure) :=
  match l.command name args w with
  | (.error e, _) => some (0, e)
  | (.ok h, w) =>
    match l.inputPipe h w with
    | (.error e, _) => some (1, e)
    | (.ok _, w) =>
      match l.outputPipe h w with
      | (.error e, _) => some (2, e)
      | (.ok _, w) =>
        match l.start h w with
        | (.error e, _) => some (3, e)
        | (.ok _, _) => none

/-- The steps of a launch. -/
def Errand.launch (name : String) (args : List String) : List Errand :=
  [.command name args, .step .inputPipe, .step .outputPipe, .step .start]

/-- The streams that have been acquired before a step. -/
def Side.acquired : Nat → List Side
  | 0 | 1 => []
  | 2 => [.input]
  | _ => [.input, .output]

namespace Asked

def isOrdinary (a : Asked) : Bool :=
  match a.outcome with
  | .ok _ => true
  | .error e => e.isOrdinary

/-- The first steps of a launch, done. -/
def done (whose : Whose) (name : String) (args : List String) (steps : Nat) : List Asked :=
  ((Errand.launch name args).take steps).map fun errand => ⟨whose, errand, .ok ()⟩

/-- The same up to a step that fails. -/
def upTo (whose : Whose) (name : String) (args : List String) (step : Nat) (e : Failure) : List Asked :=
  done whose name args step ++ ((Errand.launch name args)[step]?.map fun errand => ⟨whose, errand, .error e⟩).toList

/-- The closing of streams, whatever comes of it. -/
def Closes (whose : Whose) (sides : List Side) (l : List Asked) : Prop :=
  l.map (fun a => (a.whose, a.errand)) = sides.map fun side => (whose, .close side)

end Asked

/-! ## What is asked -/

namespace Desk

/-- A desk in whose world more was asked. -/
def after (d : Desk (Followed σ)) (process : σ) (asked : List Asked) (log : List Record) : Desk (Followed σ) :=
  { d with process := { process, asked := d.process.asked ++ asked }, log }

variable (whose : Whose) (d : Desk (Followed σ)) (w : σ) (asked : List Asked) (log : List Record)

theorem act_after {α : Type} (errand : Errand) (outcome : α → Except Failure Unit) (f : σ → α × σ) :
    (d.after w asked log).act (Followed.on whose errand outcome f) =
      ((f w).1, d.after (f w).2 (asked ++ [⟨whose, errand, outcome (f w).1⟩]) log) := by
  simp [act, Followed.on, after]

theorem note_after (r : Record) : (d.after w asked log).note r = d.after w asked (log ++ [r]) := rfl

theorem closeQuietly_cons (link : Link σ) (side : Side) (sides : List Side) (d : Desk σ) :
    d.closeQuietly link (side :: sides) =
      match d.act (link.close side) with
      | (.ok _, d) => closeQuietly link sides d
      | (.error e, d) =>
        if e.isOrdinary then closeQuietly link sides (d.note (.closeFailed (link.streamName side d.process)))
        else (.error e, d) := by
  cases side <;> rfl

/-- One stream is closed, and that it was is kept. A failure ends the closing only if it is no ordinary one. -/
theorem closeQuietly_step (link : Link σ) (side : Side) (sides : List Side) :
    let asked' := asked ++ [⟨whose, .close side, (link.close side w).1⟩]
    ∃ log', (d.after w asked log).closeQuietly (link.followed whose) (side :: sides) =
        (d.after (link.close side w).2 asked' log').closeQuietly (link.followed whose) sides ∨
      ∃ e, (link.close side w).1 = .error e ∧ e.isOrdinary = false ∧
        (d.after w asked log).closeQuietly (link.followed whose) (side :: sides) =
          (.error e, d.after (link.close side w).2 asked' log') := by
  have hcons := closeQuietly_cons (link.followed whose) side sides (d.after w asked log)
  simp only [link.close_followed, act_after, id] at hcons
  rcases hw : link.close side w with ⟨_ | _, w'⟩
  case ok =>
    rw [hw] at hcons
    exact ⟨log, .inl hcons⟩
  case error e =>
    rw [hw] at hcons
    by_cases hordinary : e.isOrdinary
    · simp only [hordinary, if_true, note_after] at hcons
      exact ⟨_, .inl hcons⟩
    · rw [Bool.not_eq_true] at hordinary
      simp only [hordinary, Bool.false_eq_true, if_false] at hcons
      exact ⟨log, .inr ⟨e, rfl, hordinary, hcons⟩⟩

/-- Streams are closed one after the other, whatever comes of it. -/
theorem closeQuietly_after (link : Link σ) (sides : List Side) : ∃ outcome w' closings log',
    (d.after w asked log).closeQuietly (link.followed whose) sides = (outcome, d.after w' (asked ++ closings) log') ∧
      ((∀ a ∈ closings, a.isOrdinary) → outcome = .ok () ∧ Asked.Closes whose sides closings) := by
  induction sides generalizing w asked log with
  | nil => exact ⟨.ok (), w, [], log, by simp [closeQuietly], fun _ => ⟨rfl, rfl⟩⟩
  | cons side sides ih =>
    obtain ⟨log₁, hclosed | ⟨e, he, hbad, hclosed⟩⟩ := closeQuietly_step whose d w asked log link side sides
    · obtain ⟨outcome, w', closings, log', hrest, hordinary⟩ := ih (link.close side w).2 _ log₁
      refine ⟨outcome, w', ⟨whose, .close side, (link.close side w).1⟩ :: closings, log', ?_, ?_⟩
      · rw [hclosed, hrest, List.append_assoc]
        rfl
      · intro hall
        obtain ⟨hok, hcloses⟩ := hordinary fun a ha => hall a (List.mem_cons_of_mem _ ha)
        refine ⟨hok, ?_⟩
        simp only [Asked.Closes, List.map_cons] at hcloses ⊢
        rw [hcloses]
    · refine ⟨.error e, _, [⟨whose, .close side, (link.close side w).1⟩], log₁, hclosed, ?_⟩
      intro hall
      have hgood := hall _ List.mem_cons_self
      simp only [Asked.isOrdinary, he, hbad] at hgood
      cases hgood

/-- After an ordinary failure the streams are closed, and the failure is raised. -/
theorem abandon_after (link : Link σ) (r : Record) (sides : List Side) {e : Failure} (he : e.isOrdinary) :
    ∃ raised w' closings log', (d.after w asked log).abandon (link.followed whose) r sides e =
        (raised, d.after w' (asked ++ closings) log') ∧
      ((∀ a ∈ closings, a.isOrdinary) → raised = e ∧ Asked.Closes whose sides closings) := by
  obtain ⟨outcome, w', closings, log', hclosed, hordinary⟩ :=
    closeQuietly_after whose d w asked (log ++ [r]) link sides
  simp only [abandon, he, if_true, note_after, hclosed]
  cases outcome with
  | ok _ =>
    refine ⟨e, w', closings, log', rfl, ?_⟩
    intro hall
    exact ⟨rfl, (hordinary hall).2⟩
  | error other =>
    refine ⟨other, w', closings, log', rfl, ?_⟩
    intro hall
    cases (hordinary hall).1

section
variable (l : Launcher σ H) (h : H)

theorem inputPipe_after : (d.after w asked log).act ((l.followed whose).inputPipe h) =
    ((l.inputPipe h w).1,
      d.after (l.inputPipe h w).2 (asked ++ [⟨whose, .step .inputPipe, (l.inputPipe h w).1⟩]) log) :=
  act_after ..

theorem outputPipe_after : (d.after w asked log).act ((l.followed whose).outputPipe h) =
    ((l.outputPipe h w).1,
      d.after (l.outputPipe h w).2 (asked ++ [⟨whose, .step .outputPipe, (l.outputPipe h w).1⟩]) log) :=
  act_after ..

theorem start_after : (d.after w asked log).actNoting ((l.followed whose).start h) =
    ((l.start h w).1, d.after (l.start h w).2.2 (asked ++ [⟨whose, .step .start, (l.start h w).1⟩])
      (log ++ (l.start h w).2.1)) := by
  simp [actNoting, Launcher.followed, after]

end

/-- A launch asks for its steps up to the first that fails, and then for the closing of what it has acquired. -/
theorem launch_after (l : Launcher σ H) (name : String) (args : List String) (d : Desk (Followed σ)) :
    match l.setback? name args d.process.process with
    | some (k, e) => e.isOrdinary → ∃ raised w closings log, d.launch (l.followed whose) name args =
          (.error raised, d.after w (Asked.upTo whose name args k e ++ closings) log) ∧
        ((∀ a ∈ closings, a.isOrdinary) → raised = e ∧ Asked.Closes whose (Side.acquired k) closings)
    | none => ∃ h w log, (l.command name args d.process.process).1 = .ok h ∧
        d.launch (l.followed whose) name args = (.ok h, d.after w (Asked.done whose name args 4) log) := by
  have hcommand : d.act ((l.followed whose).command name args) =
      ((l.command name args d.process.process).1, d.after (l.command name args d.process.process).2
        [⟨whose, .command name args, (l.command name args d.process.process).1.map fun _ => ()⟩] d.log) := rfl
  simp only [Launcher.setback?, launch, hcommand, Launcher.link_followed]
  rcases l.command name args d.process.process with ⟨e | h, w₀⟩
  · intro _
    exact ⟨e, w₀, [], d.log, rfl, fun _ => ⟨rfl, rfl⟩⟩
  simp only [note_after, inputPipe_after, Except.map]
  rcases l.inputPipe h w₀ with ⟨e | _, w₁⟩
  · intro he
    obtain ⟨raised, w, closings, log, habandon, hordinary⟩ := abandon_after whose d w₁
      (Asked.upTo whose name args 1 e) _ (l.link h) (.stepFailed .inputPipe name) [] he
    exact ⟨raised, w, closings, log, congrArg (fun x => (Except.error x.1, x.2)) habandon, hordinary⟩
  simp only [outputPipe_after]
  rcases l.outputPipe h w₁ with ⟨e | _, w₂⟩
  · intro he
    obtain ⟨raised, w, closings, log, habandon, hordinary⟩ := abandon_after whose d w₂
      (Asked.upTo whose name args 2 e) _ (l.link h) (.stepFailed .outputPipe name) [.input] he
    exact ⟨raised, w, closings, log, congrArg (fun x => (Except.error x.1, x.2)) habandon, hordinary⟩
  simp only [start_after]
  rcases l.start h w₂ with ⟨e | _, records, w₃⟩
  · intro he
    obtain ⟨raised, w, closings, log, habandon, hordinary⟩ := abandon_after whose d w₃
      (Asked.upTo whose name args 3 e) _ (l.link h) (.stepFailed .start name) [.input, .output] he
    exact ⟨raised, w, closings, log, congrArg (fun x => (Except.error x.1, x.2)) habandon, hordinary⟩
  exact ⟨h, w₃, _, rfl, rfl⟩

end Desk

/-! ## Following changes nothing -/

/-- The desk without what was asked. -/
def Desk.plain (d : Desk (Followed σ)) : Desk σ := { d with process := d.process.process }

namespace Desk

variable (whose : Whose)

theorem act_plain {α : Type} (errand : Errand) (outcome : α → Except Failure Unit) (f : σ → α × σ)
    (d : Desk (Followed σ)) : d.plain.act f =
      ((d.act (Followed.on whose errand outcome f)).1, (d.act (Followed.on whose errand outcome f)).2.plain) :=
  rfl

theorem closeQuietly_plain (link : Link σ) (sides : List Side) (d : Desk (Followed σ)) :
    d.plain.closeQuietly link sides =
      ((d.closeQuietly (link.followed whose) sides).1, (d.closeQuietly (link.followed whose) sides).2.plain) := by
  induction sides generalizing d with
  | nil => rfl
  | cons side sides ih =>
    rw [closeQuietly_cons, closeQuietly_cons, link.close_followed, act_plain whose (.close side) id]
    rcases d.act (Followed.on whose (.close side) id (link.close side)) with ⟨e | _, d'⟩
    · by_cases hordinary : e.isOrdinary
      · simp only [hordinary, if_true, link.streamName_followed]
        exact ih (d'.note _)
      · simp only [hordinary]
        rfl
    · exact ih d'

theorem abandon_plain (link : Link σ) (r : Record) (sides : List Side) (e : Failure) (d : Desk (Followed σ)) :
    d.plain.abandon link r sides e =
      ((d.abandon (link.followed whose) r sides e).1, (d.abandon (link.followed whose) r sides e).2.plain) := by
  unfold abandon
  by_cases hordinary : e.isOrdinary
  · have hclosed := closeQuietly_plain whose link sides (d.note r)
    simp only [hordinary, if_true]
    rw [show d.plain.note r = (d.note r).plain from rfl, hclosed]
    rcases (d.note r).closeQuietly (link.followed whose) sides with ⟨_ | _, d'⟩ <;> rfl
  · simp only [hordinary]
    rfl

/-- Whether a launcher is followed makes no difference to what it launches. -/
theorem launch_plain (l : Launcher σ H) (name : String) (args : List String) (d : Desk (Followed σ)) :
    d.plain.launch l name args =
      ((d.launch (l.followed whose) name args).1, (d.launch (l.followed whose) name args).2.plain) := by
  have hcommand (d : Desk (Followed σ)) : d.plain.act (l.command name args) =
      ((d.act ((l.followed whose).command name args)).1, (d.act ((l.followed whose).command name args)).2.plain) := rfl
  have hinput (h : H) (d : Desk (Followed σ)) : d.plain.act (l.inputPipe h) =
      ((d.act ((l.followed whose).inputPipe h)).1, (d.act ((l.followed whose).inputPipe h)).2.plain) := rfl
  have houtput (h : H) (d : Desk (Followed σ)) : d.plain.act (l.outputPipe h) =
      ((d.act ((l.followed whose).outputPipe h)).1, (d.act ((l.followed whose).outputPipe h)).2.plain) := rfl
  have hstart (h : H) (d : Desk (Followed σ)) : d.plain.actNoting (l.start h) =
      ((d.actNoting ((l.followed whose).start h)).1, (d.actNoting ((l.followed whose).start h)).2.plain) := rfl
  have hnote (r : Record) (d : Desk (Followed σ)) : d.plain.note r = (d.note r).plain := rfl
  simp only [launch, hcommand]
  rcases d.act ((l.followed whose).command name args) with ⟨e | h, d⟩
  · rfl
  simp only [Launcher.link_followed, hnote, hinput]
  rcases (d.note (.spawning name args)).act ((l.followed whose).inputPipe h) with ⟨e | _, d⟩
  · simp only [abandon_plain whose]
  simp only [houtput]
  rcases d.act ((l.followed whose).outputPipe h) with ⟨e | _, d⟩
  · simp only [abandon_plain whose]
  simp only [hstart]
  rcases d.actNoting ((l.followed whose).start h) with ⟨e | _, d⟩
  · simp only [abandon_plain whose]
  rfl

/-- A launch that succeeds starts no background work. -/
theorem launch_starts {l : Launcher σ H} {name : String} {args : List String} {d d' : Desk σ} {h : H}
    (hlaunch : d.launch l name args = (.ok h, d')) : d'.starts = d.starts ∧ d'.refusal = d.refusal := by
  unfold launch at hlaunch
  rcases hcommand : l.command name args d.process with ⟨e | h', w₀⟩ <;> simp only [act, hcommand] at hlaunch
  · cases hlaunch
  rcases hinput : l.inputPipe h' w₀ with ⟨e | _, w₁⟩ <;> simp only [note, hinput] at hlaunch
  · cases hlaunch
  rcases houtput : l.outputPipe h' w₁ with ⟨e | _, w₂⟩ <;> simp only [houtput] at hlaunch
  · cases hlaunch
  rcases hstart : l.start h' w₂ with ⟨e | _, records, w₃⟩ <;> simp only [actNoting, hstart] at hlaunch
  · cases hlaunch
  cases hlaunch
  exact ⟨rfl, rfl⟩

end Desk

/-! ## The whole launch -/

namespace Stage

/-- What comes of launching through a launcher that is followed. -/
def Outlook (whose : Whose) (l : Launcher σ H) (name : String) (args : List String) (conduct : Conduct T)
    (timeout : Span T) (s : Scene T (Stage T (Followed σ)) M)
    (spawned : Except Failure Unit × Scene T (Stage T (Followed σ)) M) : Prop :=
  match l.setback? name args s.world.process.process with
  | some (k, e) => e.isOrdinary → ∃ process closings log,
      spawned.2 = { s with world := { s.world with
        log, process := { process, asked := s.world.process.asked ++ (Asked.upTo whose name args k e ++ closings) } } } ∧
      ((∀ a ∈ closings, a.isOrdinary) → spawned.1 = .error e ∧ Asked.Closes whose (Side.acquired k) closings)
  | none => s.world.refusal (s.world.starts + 1) = none → s.world.refusal (s.world.starts + 1 + 1) = none →
      ∃ h reader waiter, (l.command name args s.world.process.process).1 = .ok h ∧ spawned.1 = .ok () ∧
        spawned.2.world.process.asked = s.world.process.asked ++ Asked.done whose name args 4 ∧
        spawned.2.world.session =
          { Session.ofLink ((l.link h).followed whose) conduct timeout s.now with reader, waiter }

variable [Moment T]

theorem spawn_outlook (life : Life T (Stage T (Followed σ)) M) (whose : Whose) (l : Launcher σ H) (name : String)
    (args : List String) (conduct : Conduct T) (timeout : Span T) (s : Scene T (Stage T (Followed σ)) M) :
    Outlook whose l name args conduct timeout s (spawn life (l.followed whose) name args conduct timeout s) := by
  have hlaunch := Desk.launch_after whose l name args s.world.toDesk
  unfold Outlook
  split
  · next k e hsetback =>
    rw [hsetback] at hlaunch
    intro he
    obtain ⟨raised, w, closings, log, hfailed, hordinary⟩ := hlaunch he
    refine ⟨w, closings, log, ?_, ?_⟩
    · simp only [spawn, hfailed, Desk.after]
    · intro hall
      obtain ⟨rfl, hcloses⟩ := hordinary hall
      exact ⟨by simp only [spawn, hfailed], hcloses⟩
  · next hsetback =>
    rw [hsetback] at hlaunch
    intro hreader hwaiter
    obtain ⟨h, w, log, hcommand, hstarted⟩ := hlaunch
    obtain ⟨starts, reader, waiter, hbegin⟩ := begin_unrefused
      (.ofLink ((l.link h).followed whose) conduct timeout s.now)
      (s.world.toDesk.after w (Asked.done whose name args 4) log) hreader hwaiter
    simp only [spawn, hstarted, Launcher.link_followed, hbegin]
    exact ⟨h, reader, waiter, hcommand, trivial, rfl, rfl⟩

/-- A launch that is not followed comes to the same, if none of its background work is refused. -/
theorem spawn_plain (life : Life T (Stage T (Followed σ)) M) (plainLife : Life T (Stage T σ) M) (whose : Whose)
    (l : Launcher σ H) (name : String) (args : List String) (conduct : Conduct T) (timeout : Span T)
    {s : Scene T (Stage T (Followed σ)) M} {s' : Scene T (Stage T σ) M} (hplain : s'.world.toDesk = s.world.toDesk.plain)
    (hreader : s.world.refusal (s.world.starts + 1) = none)
    (hwaiter : s.world.refusal (s.world.starts + 1 + 1) = none) :
    let spawned := spawn life (l.followed whose) name args conduct timeout s
    let plain := spawn plainLife l name args conduct timeout s'
    plain.1 = spawned.1 ∧ plain.2.world.process = spawned.2.world.process.process := by
  intro spawned plain
  have hlaunch := Desk.launch_plain whose l name args s.world.toDesk
  simp only [spawned, plain, spawn, hplain, hlaunch]
  rcases hd : s.world.toDesk.launch (l.followed whose) name args with ⟨e | h, d⟩
  · exact ⟨rfl, rfl⟩
  · obtain ⟨hstarts, hrefusal⟩ := Desk.launch_starts hd
    rw [← hstarts, ← hrefusal] at hreader hwaiter
    obtain ⟨_, _, _, hbegin⟩ :=
      begin_unrefused (.ofLink ((l.link h).followed whose) conduct timeout s.now) d hreader hwaiter
    obtain ⟨_, _, _, hbegin'⟩ := begin_unrefused (.ofLink (l.link h) conduct timeout s'.now) d.plain hreader hwaiter
    simp only [Launcher.link_followed, hbegin, hbegin']
    exact ⟨trivial, rfl⟩

/-- **A launch fails fast and cleans up.** Whichever launcher is used, it alone is asked for anything. A launch whose
first failing step fails for an ordinary reason has asked for the steps up to that one, and then for the closing of
each stream that was acquired, once, also if closing another one has failed; it raises the failure of its step, and
there is no session, no background work and no wait. If no step fails and nothing is refused, the session is one
over the streams of the process that was launched. A launch that is not followed comes to the same. -/
theorem spawn_fails_fast (life : Life T (Stage T (Followed σ)) M) (own : Launcher σ H) (given : Option (Launcher σ H'))
    (name : String) (args : List String) (conduct : Conduct T) (timeout : Span T)
    (s : Scene T (Stage T (Followed σ)) M) :
    let spawned := spawnThrough life (own.followed .own) (given.map (Launcher.followed .given)) name args conduct timeout s
    (match given with
      | some l => Outlook .given l name args conduct timeout s spawned
      | none => Outlook .own own name args conduct timeout s spawned) ∧
    (s.world.refusal (s.world.starts + 1) = none → s.world.refusal (s.world.starts + 1 + 1) = none →
      ∀ (plainLife : Life T (Stage T σ) M) (s' : Scene T (Stage T σ) M), s'.world.toDesk = s.world.toDesk.plain →
        let plain := spawnThrough plainLife own given name args conduct timeout s'
        plain.1 = spawned.1 ∧ plain.2.world.process = spawned.2.world.process.process) := by
  intro spawned
  cases given with
  | some l =>
    refine ⟨spawn_outlook life .given l name args conduct timeout s, ?_⟩
    intro hreader hwaiter plainLife s' hplain
    exact spawn_plain life plainLife .given l name args conduct timeout hplain hreader hwaiter
  | none =>
    refine ⟨spawn_outlook life .own own name args conduct timeout s, ?_⟩
    intro hreader hwaiter plainLife s' hplain
    exact spawn_plain life plainLife .own own name args conduct timeout hplain hreader hwaiter

/-- A stand-in that is given for the call cannot be started, and its output cannot be closed. -/
theorem spare_fails_fast :
    let e : Failure := .ambient .runtime []
    let other : Failure := .ambient (.system .general) []
    let spare : StandIn := { startError := some e, output := .script { items := [], closeError := some other } }
    let s : Scene Int (Stage Int (Followed Company)) SessionCue :=
      scene { process := { spare := some spare }, asked := [] } (Rehearsal.reading .utf8) ⟨5, .none⟩ 0 fun _ => none
    let spawned := spawnThrough Stage.life (Company.launcher.followed .own)
      (some (Company.spareLauncher.followed .given)) "cat" [] (Rehearsal.reading .utf8) ⟨5, .none⟩ s
    spawned.1 = .error e ∧ spawned.2.world.process.asked =
      Asked.upTo .given "cat" [] 3 e ++ [⟨.given, .close .input, .ok ()⟩, ⟨.given, .close .output, .error other⟩] := by
  intro e other spare s spawned
  obtain ⟨houtlook, -⟩ := spawn_fails_fast Stage.life Company.launcher (some Company.spareLauncher) "cat" []
    (Rehearsal.reading .utf8) ⟨5, .none⟩ s
  have hsetback : Company.spareLauncher.setback? "cat" [] s.world.process.process = some (3, e) := rfl
  have hasked : spawned.2.world.process.asked = Asked.upTo .given "cat" [] 3 e ++
      [⟨.given, .close .input, .ok ()⟩, ⟨.given, .close .output, .error other⟩] := rfl
  simp only [Outlook, hsetback] at houtlook
  obtain ⟨process, closings, log, hscene, hraised⟩ := houtlook rfl
  have hall : Asked.upTo .given "cat" [] 3 e ++ closings = Asked.upTo .given "cat" [] 3 e ++
      [⟨.given, .close .input, .ok ()⟩, ⟨.given, .close .output, .error other⟩] :=
    (congrArg (fun scene => scene.world.process.asked) hscene).symm.trans hasked
  refine ⟨(hraised ?_).1, hasked⟩
  intro a ha
  rw [List.append_cancel_left hall] at ha
  rcases List.mem_cons.1 ha with rfl | ha
  · rfl
  · rw [List.mem_singleton.1 ha]
    rfl

end Stage

end Dialogue
