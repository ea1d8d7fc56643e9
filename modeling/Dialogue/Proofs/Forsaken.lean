import Dialogue.Proofs.Awaiting
import Dialogue.Proofs.Reading
/-!
# Processes that are given up

A process has been started, and the session with it cannot begin. Then both streams are closed and the exit of the
process is awaited, once, and the failure that led here is raised (`Stage.spawn_forsakes`). A reader that had been
started comes to its end, since its output has been closed.
-/

namespace Dialogue

variable {T σ H M : Type}

/-! ## An output that is over -/

/-- Nothing will be added to the feed, as far as its reader can tell. -/
def Output.IsOver : Output → Prop
  | feed f => f.ended = true
  | _ => False

/-- A feed that is over answers every read, and what is pending gets less. -/
theorem Output.IsOver.read {o : Output} (h : o.IsOver) {n : Nat} (hn : 0 < n) : ∃ bytes,
    (o.read (some n)).1 = .bytes bytes ∧ (o.read (some n)).2.IsOver ∧
      (bytes ≠ [] → (o.read (some n)).2.remaining < o.remaining) := by
  obtain ⟨f, rfl⟩ : ∃ f, o = .feed f := by
    cases o with
    | feed f => exact ⟨f, rfl⟩
    | _ => exact h.elim
  by_cases hnil : f.pending = []
  · have hlast : f.last = .bytes [] := if_pos h
    rw [Feed.read_of_nil hnil, hlast]
    exact ⟨[], rfl, h, fun hne => absurd rfl hne⟩
  · rw [Feed.read_of_ne_nil hnil]
    refine ⟨_, rfl, h, fun _ => ?_⟩
    have hlength := List.length_pos_iff.2 hnil
    simp only [remaining, List.length_drop]
    omega

/-- All that a link does to some output that is seen of the world: reads come from it, and closing closes it. -/
structure Link.Plays (l : Link σ) (output : σ → Output) : Prop where
  read : ∀ n w, ((l.read n w).1, output (l.read n w).2) = (output w).read (some n)
  remaining : ∀ w, l.remaining w = (output w).remaining
  closeInput : ∀ w, output (l.closeInput w).2 = output w
  closeOutput : ∀ w, output (l.closeOutput w).2 = (output w).close.2
  begin : ∀ wait ∈ l.wait, ∀ w, output (wait.begin w) = output w
  poll : ∀ wait ∈ l.wait, ∀ w, output (wait.poll w).2.2 = output w

theorem Link.Plays.followed {l : Link σ} {output : σ → Output} (h : l.Plays output) (whose : Whose) :
    (l.followed whose).Plays fun w => output w.process where
  read n w := h.read n w.process
  remaining w := h.remaining w.process
  closeInput w := h.closeInput w.process
  closeOutput w := h.closeOutput w.process
  begin wait hwait w := by
    obtain ⟨wait', hwait', rfl⟩ := Option.map_eq_some_iff.1 hwait
    exact h.begin wait' hwait' w.process
  poll wait hwait w := by
    obtain ⟨wait', hwait', rfl⟩ := Option.map_eq_some_iff.1 hwait
    exact h.poll wait' hwait' w.process

/-- Whoever gives up closes both streams, and then a feed is over. -/
theorem Link.Plays.closed {l : Link σ} {output : σ → Output} (h : l.Plays output) {w : σ} {f : Feed}
    (hf : output w = .feed f) : (output (l.closeOutput (l.closeInput w).2).2).IsOver := by
  rw [h.closeOutput, h.closeInput, hf]
  rfl

namespace Stage

variable {output : σ → Output} {st : Stage T σ}

/-- Reading on from an output that is over ends the reader, whatever its decoder makes of it. -/
theorem readOn_over (now : T) (fuel : Nat) (hl : st.session.link.Plays output) (hover : (output st.process).IsOver)
    (hfuel : (output st.process).remaining ≤ fuel) : (st.readOn now fuel).session.reader = .ended := by
  induction fuel generalizing st with
  | zero =>
    have hpos : 0 < (output st.process).remaining := by cases output st.process <;> exact Nat.succ_pos _
    exact absurd hfuel (Nat.not_le.2 hpos)
  | succ fuel ih =>
    -- A read of an output that is over never blocks: it brings bytes, and then less remains, or the reader stops.
    obtain ⟨bytes, hbytes, hover', hless⟩ := hover.read st.session.conduct.bufferSize_pos
    obtain ⟨hchunk, houtput⟩ := Prod.ext_iff.1 (hl.read st.session.conduct.bufferSize st.process)
    have hchunk : st.readChunk.1 = .bytes bytes := hchunk.trans hbytes
    have houtput : output st.readChunk.2.process = _ := houtput
    rw [readOn_succ]
    split
    · next hgo =>
      obtain ⟨b, bs, text, decoder, hsome, -, hstep⟩ := readOnce_of_goesOn now hgo
      obtain rfl : bytes = b :: bs := Chunk.bytes.inj (hchunk.symm.trans hsome)
      have hlink : (st.readOnce now).session.link = st.session.link := congrArg Prod.fst (readOnce_standing now st)
      have hprocess : (st.readOnce now).process = st.readChunk.2.process := by
        rw [hstep, takeIn_eq]
      have hleft := hless (List.cons_ne_nil _ _)
      rw [← houtput, ← hprocess] at hover' hleft
      exact ih (hlink ▸ hl) hover' (by omega)
    · next hgo =>
      have hstops : st.readChunk.1.stops st.session.decoder := by
        refine Classical.byContradiction fun hstops => ?_
        cases hchunk.symm.trans (Chunk.eq_blocked hgo hstops)
      rcases takeChunk_of_stops st.readChunk.2 now hstops with heq | heq <;>
        rw [readOnce, heq, endReading_reader]

/-- The reader has ended, or will as soon as it goes on. -/
def Ending (output : σ → Output) (st : Stage T σ) : Prop :=
  st.session.reader = .ended ∨ st.session.reader.isAlive ∧ (output st.process).IsOver

theorem Ending.settle (h : st.Ending output) (hl : st.session.link.Plays output) (now : T) :
    (st.settle now).session.reader = .ended := by
  obtain ⟨channel, waiter, hsession⟩ := (st.runReader now).runWaiter_session
  rw [Stage.settle, hsession]
  rcases h with hended | ⟨halive, hover⟩
  · rw [runReader, if_neg (by rw [hended]; decide)]
    exact hended
  · rw [runReader, if_pos halive]
    refine readOn_over now _ hl hover ?_
    rw [hl.remaining]
    exact Nat.le_succ _

end Stage

/-! ## A reader that ends meanwhile -/

theorem Kept.over [Moment T] (S : Setting σ M) : Kept S fun (_ : T) _ => Linked S (·.session.reader = .ended) := by
  simpa using (Steady.over (T := T) (Q := fun _ => True) S fun _ _ => trivial).kept

/-- A reader that will end does so while somebody waits on the main line, or can still do it afterwards. -/
theorem Stage.Ending.await [Moment T] {S : Setting σ M} {output : σ → Output} (hl : S.link.Plays output) {wait : Wait σ}
    (hwait : wait ∈ S.link.wait) {s : Scene T (Stage T σ) M} (h : Linked S (Stage.Ending output) s.world) :
    Linked S (Stage.Ending output) (Stage.await S.life wait s).2.world := by
  have hbegun : Linked S (Stage.Ending output) (Stage.poll wait (Stage.beginWait wait s)).world := by
    refine ⟨h.1, h.2.imp_right fun ⟨halive, hover⟩ => ⟨halive, ?_⟩⟩
    show (output (wait.poll (wait.begin s.world.process)).2.2).IsOver
    rwa [hl.poll wait hwait, hl.begin wait hwait]
  obtain ⟨outcome, -, heq⟩ | ⟨-, rested, hrested, heq⟩ := Stage.await_cases S.life wait s
  · rw [heq]
    exact hbegun
  · -- The rest begins with background work, in which the reader ends; what happens then does not bring it back.
    have hended := (Kept.over (T := T) S).restWith_settled (l := []) (fun st => (wait.poll st.process).1.isSome) none
      (Stage.poll wait (Stage.beginWait wait s)).agenda (Stage.poll wait (Stage.beginWait wait s))
      ⟨(Stage.settle_session _ _).1.trans hbegun.1, hbegun.2.settle (hbegun.1 ▸ hl) _⟩
    rw [← Scene.rest, ← hrested] at hended
    rw [heq]
    exact ⟨hended.1, .inl hended.2⟩

/-- It has ended once background work has settled. -/
theorem Stage.Ending.run [Moment T] {S : Setting σ M} {output : σ → Output} (hl : S.link.Plays output)
    {s : Scene T (Stage T σ) M} (h : Linked S (Stage.Ending output) s.world) (deeds : List (Deed T M)) :
    (Deed.run S.life (.settle :: deeds) s).2.world.session.reader = .ended := by
  have hsettled := (Kept.over (T := T) S).restWith_settled (l := []) (fun _ => false) (some s.now) s.agenda s
    ⟨(Stage.settle_session _ _).1.trans h.1, h.2.settle (h.1 ▸ hl) _⟩
  exact ((Kept.over (T := T) S).run (l := []) deeds _ hsettled).2

/-! ## Giving up -/

/-- All steps of a launch have succeeded: the handle, and the world after them. -/
def Launcher.launched? (l : Launcher σ H) (name : String) (args : List String) (w : σ) : Option (H × σ) :=
  match l.command name args w with
  | (.error _, _) => none
  | (.ok h, w) =>
    match l.inputPipe h w with
    | (.error _, _) => none
    | (.ok _, w) =>
      match l.outputPipe h w with
      | (.error _, _) => none
      | (.ok _, w) =>
        match l.start h w with
        | (.error _, _) => none
        | (.ok _, _, w) => some (h, w)

/-- The closing of both streams, with what comes of it. -/
def Link.closings (whose : Whose) (l : Link σ) (w : σ) : List Asked :=
  [⟨whose, .close .input, (l.closeInput w).1⟩, ⟨whose, .close .output, (l.closeOutput (l.closeInput w).2).1⟩]

/-- What is raised after a failure, once something else has ended: that failure, unless the other one passes all
handlers. -/
def Failure.raisedAfter (e : Failure) : Except Failure Unit → Failure
  | .ok _ => e
  | .error other => if other.isOrdinary then e else other

/-- A session is refused its reader, or its reader is started and its waiter is refused. -/
inductive Desk.Refuses (d : Desk σ) (e : Failure) : (started : Bool) → Prop
  | reader (h : d.refusal (d.starts + 1) = some e) : Refuses d e false
  | waiter (hr : d.refusal (d.starts + 1) = none) (h : d.refusal (d.starts + 1 + 1) = some e) : Refuses d e true

namespace Desk

variable (whose : Whose)

theorem launch_launched {l : Launcher σ H} {name : String} {args : List String} {d : Desk (Followed σ)} {h : H} {w : σ}
    (hlaunched : l.launched? name args d.process.process = some (h, w)) :
    ∃ log, d.launch (l.followed whose) name args = (.ok h, d.after w (Asked.done whose name args 4) log) := by
  have hcommand : d.act ((l.followed whose).command name args) =
      ((l.command name args d.process.process).1, d.after (l.command name args d.process.process).2
        [⟨whose, .command name args, (l.command name args d.process.process).1.map fun _ => ()⟩] d.log) := rfl
  revert hlaunched
  simp only [Launcher.launched?, launch, hcommand, Launcher.link_followed]
  rcases l.command name args d.process.process with ⟨_ | h', w₀⟩
  · intro h
    cases h
  simp only [note_after, inputPipe_after, Except.map]
  rcases l.inputPipe h' w₀ with ⟨_ | _, w₁⟩
  · intro h
    cases h
  simp only [outputPipe_after]
  rcases l.outputPipe h' w₁ with ⟨_ | _, w₂⟩
  · intro h
    cases h
  simp only [start_after]
  rcases l.start h' w₂ with ⟨_ | _, records, w₃⟩
  · intro h
    cases h
  intro hlaunched
  obtain ⟨rfl, rfl⟩ := Prod.mk.inj (Option.some.inj hlaunched)
  exact ⟨_, rfl⟩

/-- Both streams are closed, if closing them fails for no worse than ordinary reasons. -/
theorem closeQuietly_both (link : Link σ) (d : Desk (Followed σ))
    (hclose : ∀ a ∈ link.closings whose d.process.process, a.isOrdinary) :
    ∃ log, d.closeQuietly (link.followed whose) [.input, .output] =
      (.ok (), d.after (link.closeOutput (link.closeInput d.process.process).2).2
        (link.closings whose d.process.process) log) := by
  have hordinary {side : Side} {w : σ} {other : Failure}
      (ha : (⟨whose, .close side, (link.close side w).1⟩ : Asked) ∈ link.closings whose d.process.process)
      (hfailed : (link.close side w).1 = .error other) (hbad : other.isOrdinary = false) : False := by
    have hgood := hclose _ ha
    simp [Asked.isOrdinary, hfailed, hbad] at hgood
  have hd : d = d.after d.process.process [] d.log := by simp [after]
  obtain ⟨log₁, hinput | ⟨other, hfailed, hbad, -⟩⟩ :=
    closeQuietly_step whose d d.process.process [] d.log link .input [.output]
  · obtain ⟨log₂, houtput | ⟨other, hfailed, hbad, -⟩⟩ := closeQuietly_step whose d (link.closeInput d.process.process).2
      [⟨whose, .close .input, (link.closeInput d.process.process).1⟩] log₁ link .output []
    · rw [← hd] at hinput
      exact ⟨log₂, hinput.trans houtput⟩
    · exact (hordinary (by simp [Link.closings, Link.close]) hfailed hbad).elim
  · exact (hordinary (by simp [Link.closings, Link.close]) hfailed hbad).elim

end Desk

theorem Stage.begin_refused (session : Session T σ) (hawaited : session.link.wait.isSome) {d : Desk σ} {e : Failure}
    {started : Bool} (h : d.Refuses e started) : ∃ starts, begin session d = (.error e,
      { d with starts, session := { session with reader := if started then .ready else session.reader } }) := by
  have hwait : session.link.wait.isNone = false := by simpa using hawaited
  cases h with
  | reader h => exact ⟨_, by simp only [begin, Desk.countStart, h]; rfl⟩
  | waiter hr h => exact ⟨_, by simp only [begin, Desk.countStart, hr, h, hwait]; rfl⟩

namespace Stage

variable [Moment T]

/-- What a process that was awaited without a session leaves behind: the failure that led here, and a note if the
wait failed. -/
def reaped (l : Launcher σ H) (h : H) (e : Failure) (awaited : Except Failure Unit × Scene T (Stage T σ) M) :
    Except Failure Unit × Scene T (Stage T σ) M :=
  let records := match awaited.1 with
    | .ok _ => []
    | .error other => if other.isOrdinary then [.reapFailed (l.shown h awaited.2.world.process)] else []
  (.error (e.raisedAfter awaited.1),
    { awaited.2 with world := { awaited.2.world with log := awaited.2.world.log ++ records } })

/-- A process without a session is awaited, once its streams are closed. -/
theorem spawn_refused (life : Life T (Stage T σ) M) {l : Launcher σ H} {h : H} {wait : Wait σ}
    (hwait : (l.link h).wait = some wait) {name : String} {args : List String} {conduct : Conduct T} {timeout : Span T}
    {s : Scene T (Stage T σ) M} {desk closed : Desk σ} {world : Stage T σ} {e : Failure} (he : e.isOrdinary)
    (hlaunch : s.world.toDesk.launch l name args = (.ok h, desk))
    (hbegin : begin (.ofLink (l.link h) conduct timeout s.now) desk = (.error e, world))
    (hclosed : (world.toDesk.note (.setupFailed name)).closeQuietly (l.link h) [.input, .output] = (.ok (), closed)) :
    spawn life l name args conduct timeout s =
      reaped l h e (await life wait { s with world := { world with toDesk := closed } }) := by
  simp only [spawn, hlaunch, hbegin, he, if_true, forsake, hclosed, reap, hwait]
  rcases await life wait { s with world := { world with toDesk := closed } } with ⟨other | _, s⟩
  · by_cases hordinary : other.isOrdinary
    · simp only [hordinary, if_true, Failure.raisedAfter, reaped]
      rfl
    · simp [hordinary, Failure.raisedAfter, reaped]
  · simp [Failure.raisedAfter, reaped]

omit [Moment T] in
/-- Whether the process is followed makes no difference to what it leaves behind. -/
theorem reaped_followed {S : Setting σ M} {whose : Whose} (l : Launcher σ H) (h : H) (e : Failure)
    {awaited : Except Failure Unit × Scene T (Stage T (Followed σ)) M}
    {awaited' : Except Failure Unit × Scene T (Stage T σ) M}
    (hagree : Agree (Unfollowed whose S.link) awaited awaited') :
    Agree (Unfollowed whose S.link) (reaped (l.followed whose) h e awaited) (reaped l h e awaited') := by
  obtain ⟨hanswer, hnow, hagenda, hfaults, hlink, hplain⟩ := hagree
  refine ⟨by simp only [reaped, hanswer], hnow, hagenda, hfaults, hlink, ?_⟩
  simp only [reaped, hanswer, hplain]
  rfl

/-- What has been done before the process is awaited, whether it is followed or not. -/
theorem spawn_awaits (life : Life T (Stage T (Followed σ)) M) (plainLife : Life T (Stage T σ) M) (whose : Whose)
    (l : Launcher σ H) (name : String) (args : List String) (conduct : Conduct T) (timeout : Span T)
    (s : Scene T (Stage T (Followed σ)) M) {h : H} {w : σ}
    (hlaunched : l.launched? name args s.world.process.process = some (h, w)) {wait : Wait σ}
    (hwait : (l.link h).wait = some wait) (hclose : ∀ a ∈ (l.link h).closings whose w, a.isOrdinary) {e : Failure}
    (he : e.isOrdinary) {started : Bool} (hrefused : s.world.toDesk.Refuses e started) :
    ∃ before : Scene T (Stage T (Followed σ)) M,
      before.world.process = {
        process := ((l.link h).closeOutput ((l.link h).closeInput w).2).2
        asked := s.world.process.asked ++ (Asked.done whose name args 4 ++ (l.link h).closings whose w) } ∧
      before.world.session = { Session.ofLink ((l.link h).followed whose) conduct timeout s.now with
        reader := if started then .ready else .idle } ∧
      spawn life (l.followed whose) name args conduct timeout s =
        reaped (l.followed whose) h e (await life (wait.followed whose) before) ∧
      ∀ s' : Scene T (Stage T σ) M, Paired (fun st st' => st'.toDesk = st.toDesk.plain) s s' →
        ∃ before', Paired (Unfollowed whose (l.link h)) before before' ∧
          spawn plainLife l name args conduct timeout s' = reaped l h e (await plainLife wait before') := by
  have hawaited : ((l.followed whose).link h).wait = some (wait.followed whose) := by
    rw [l.link_followed]
    exact (l.link h).wait_mem_followed whose hwait
  have hrefused (log : List Record) :
      (s.world.toDesk.after w (Asked.done whose name args 4) log).Refuses e started := by
    cases hrefused with
    | reader h => exact .reader h
    | waiter hr h => exact .waiter hr h
  obtain ⟨log, hlaunch⟩ := Desk.launch_launched whose hlaunched
  obtain ⟨starts, hbegin⟩ := begin_refused (.ofLink ((l.followed whose).link h) conduct timeout s.now)
    (Option.isSome_of_eq_some hawaited) (hrefused log)
  obtain ⟨log', hclosed⟩ := Desk.closeQuietly_both whose (l.link h)
    ({ s.world.toDesk.after w (Asked.done whose name args 4) log with starts }.note (.setupFailed name)) hclose
  refine ⟨_, ?_, ?_, spawn_refused life hawaited he hlaunch hbegin hclosed, ?_⟩
  · simp [Desk.after, Desk.note]
  · simp [Session.ofLink, l.link_followed]
  · -- Without being followed, each of the three phases is the plain side of the one above.
    intro s' hs
    have hlaunch' : s'.world.toDesk.launch l name args =
        (.ok h, (s.world.toDesk.after w (Asked.done whose name args 4) log).plain) := by
      rw [hs.world, Desk.launch_plain whose, hlaunch]
    have hbegin' := begin_plain (l := l.link h) (.ofLink ((l.followed whose).link h) conduct timeout s.now) rfl
      (s.world.toDesk.after w (Asked.done whose name args 4) log)
    rw [hbegin] at hbegin'
    have hclosed' := Desk.closeQuietly_plain whose (l.link h) [.input, .output]
      ({ s.world.toDesk.after w (Asked.done whose name args 4) log with starts }.note (.setupFailed name))
    rw [hclosed] at hclosed'
    rw [← hs.now] at hbegin'
    have hspawn' := spawn_refused plainLife hwait he hlaunch' hbegin' hclosed'
    refine ⟨_, ?_, hspawn'⟩
    refine ⟨hs.now, hs.agenda, hs.faults, rfl, ?_⟩
    simp only [hs.now]
    rfl

/-- **A started process is never abandoned.** All four steps of a launch have succeeded, and then the reader or the
waiter of the session cannot be started, for an ordinary reason; closing the streams meets no worse failure. Then both
streams have been closed, right after the last step, and the exit of the process has been awaited, once, whatever is
done later. When that wait ends, with an ordinary failure or without one, it is the first failure that is raised. A
reader that had been started over a feed ends with the next background work, whatever the feed holds and although the
process never ended it. All of this comes to the same if the launch is not followed. -/
theorem spawn_forsakes (S : Setting σ M) (whose : Whose) (l : Launcher σ H) (name : String) (args : List String)
    (conduct : Conduct T) (timeout : Span T) (s : Scene T (Stage T (Followed σ)) M) {h : H} {w : σ}
    (hlaunched : l.launched? name args s.world.process.process = some (h, w)) (hlink : l.link h = S.link)
    {wait : Wait σ} (hwait : S.link.wait = some wait) (hclose : ∀ a ∈ S.link.closings whose w, a.isOrdinary)
    {e : Failure} (he : e.isOrdinary) {started : Bool} (hrefused : s.world.toDesk.Refuses e started) :
    let life := (S.followed whose).life
    let spawned := spawn life (l.followed whose) name args conduct timeout s
    let begun : Asked := ⟨whose, .beginWait, .ok ()⟩
    (∃ outcome, wait.Ended spawned.2.world.process.process spawned.2.agenda outcome ∧
        spawned.1 = .error (e.raisedAfter outcome)) ∧
      s.world.process.asked ++ (Asked.done whose name args 4 ++ S.link.closings whose w ++ [begun]) <+:
        spawned.2.world.process.asked ∧
      (∀ deeds, (Deed.run life deeds spawned.2).2.world.process.asked.filter Asked.beginsWait =
        s.world.process.asked.filter Asked.beginsWait ++ [begun]) ∧
      (started → ∀ output f, S.link.Plays output → output w = .feed f → ∀ deeds,
        (Deed.run life (.settle :: deeds) spawned.2).2.world.session.reader = .ended) ∧
      ∀ s' : Scene T (Stage T σ) M, Paired (fun st st' => st'.toDesk = st.toDesk.plain) s s' →
        let plain := spawn S.life l name args conduct timeout s'
        plain.1 = spawned.1 ∧
          ∀ deeds, Agree (Unfollowed whose S.link) (Deed.run life deeds spawned.2) (Deed.run S.life deeds plain.2) := by
  intro life spawned begun
  obtain ⟨before, hprocess, hsession, hspawn, hplain⟩ := spawn_awaits life S.life whose l name args conduct timeout s
    hlaunched (hlink ▸ hwait) (hlink ▸ hclose) he hrefused
  rw [hlink] at hprocess hsession hplain
  have hspawned : spawned = reaped (l.followed whose) h e (await life (wait.followed whose) before) := hspawn
  clear_value spawned
  subst hspawned
  have hidle : before.world.session.waiter = .idle := by rw [hsession]; rfl
  have hbefore : before.world.session.link = S.link.followed whose := by rw [hsession]; rfl
  obtain ⟨hlast, hwaiter, honce⟩ := await_once whose S wait hbefore hidle
  -- Neither the launch nor the closings begin a wait.
  have hquiet : before.world.process.asked.filter Asked.beginsWait = s.world.process.asked.filter Asked.beginsWait := by
    rw [hprocess]
    simp [Asked.done, Errand.launch, Link.closings, Asked.beginsWait]
  refine ⟨⟨_, (await_ended life (wait.followed whose) before).of_followed, rfl⟩, ?_, ?_, ?_, ?_⟩
  · have hbegun := honce.begun
    rw [hprocess, List.append_assoc] at hbegun
    exact hbegun
  · intro deeds
    obtain ⟨-, -, hlater⟩ := (Kept.waitsOnce (T := T) whose S before.world.process.asked).run (l := []) deeds
      (reaped (l.followed whose) h e (await life (wait.followed whose) before)).2 ⟨hlast, hwaiter, honce⟩
    exact hlater.waits.trans (by rw [hquiet])
  · intro hstarted output f hplays hf deeds
    have hending : Linked (S.followed whose) (Ending fun w => output w.process) before.world := by
      refine ⟨hbefore, .inr ⟨?_, ?_⟩⟩
      · rw [hsession, if_pos hstarted]
        rfl
      · rw [hprocess]
        exact hplays.closed hf
    have hfollowed : wait.followed whose ∈ (S.followed whose).link.wait := S.link.wait_mem_followed whose hwait
    have hlater := Ending.await (S := S.followed whose) (hplays.followed whose) hfollowed hending
    exact Ending.run (S := S.followed whose) (hplays.followed whose)
      (s := (reaped (l.followed whose) h e (await life (wait.followed whose) before)).2) hlater deeds
  · intro s' hs
    obtain ⟨before', hpair, hspawn'⟩ := hplain s' hs
    have hagree := reaped_followed l h e (S.following_await whose wait hpair)
    rw [hspawn']
    refine ⟨hagree.1, fun deeds => ?_⟩
    exact ((S.following whose).run deeds hagree.2 trivial).1

end Stage

/-! ## Stand-ins that are given up -/

theorem Company.plays (awaited : Bool) (hookError : Option (Option Failure)) :
    (Company.link awaited hookError).Plays (·.lead.output) where
  read _ _ := rfl
  remaining _ := rfl
  closeInput _ := rfl
  closeOutput _ := rfl
  begin wait hwait _ := by
    rw [Company.wait_eq hwait]
    rfl
  poll wait hwait _ := by
    rw [Company.wait_eq hwait]
    rfl

/-- Waiting for a stand-in that has exited ends as it was told to exit. -/
theorem Company.ended_of_exited {c : Company} {agenda : List (Appointment T M)} {outcome : Except Failure Unit}
    (h : (leadPart.onWait StandIn.wait).Ended c agenda outcome) (hexited : c.lead.exited) :
    outcome = StandIn.failing c.lead.exitError := by
  have hpoll (c : Company) : (leadPart.onWait StandIn.wait).poll c =
      (if c.lead.exited then some (StandIn.failing c.lead.exitError) else none, [], c) := rfl
  cases h with
  | polled w hw h =>
    rw [hpoll] at hw h
    obtain rfl : c = w := hw
    exact (Option.some.inj ((if_pos hexited).symm.trans h)).symm
  | never w hw h =>
    rw [hpoll] at hw h
    obtain rfl : c = w := hw
    cases (if_pos hexited).symm.trans h

theorem Failure.raisedAfter_failing (e : Failure) {exitError : Option Failure} (h : exitError.all isOrdinary) :
    e.raisedAfter (StandIn.failing exitError) = e := by
  cases exitError with
  | none => rfl
  | some other => exact if_pos h

namespace Rehearsal

/-- A stand-in that has something to say, whose input cannot be closed, and that fails later. Its waiter is refused. -/
def stubborn : Scene Int (Stage Int (Followed Company)) Cue where
  now := 0
  agenda := [⟨3, [.exit (some (.ambient .value []))]⟩]
  faults := []
  world := {
    process := {
      process := { lead := {
        input := { kind := .closeFails (.ambient .general []) }
        output := .feed { pending := [0x78] } } }
      asked := [] }
    refusal := fun n => if n = 2 then some (.ambient .runtime []) else none
    session := .ofLink .idle (reading .utf8) ⟨5, .none⟩ 0 }

theorem stubborn_forsaken :
    let life := ((Company.setting true none).followed .own).life
    let spawned := Stage.spawn life (Company.launcher.followed .own) "cat" [] (reading .utf8) ⟨5, .none⟩ stubborn
    spawned.1 = .error (.ambient .runtime []) ∧
      (Deed.run life [.settle, .sleep 1] spawned.2).2.world.process.asked.filter Asked.beginsWait =
        [⟨.own, .beginWait, .ok ()⟩] ∧
      (Deed.run life [.settle] spawned.2).2.world.session.reader = .ended := by
  obtain ⟨started, hlaunched, houtput, hinput⟩ : ∃ started,
      Company.launcher.launched? "cat" [] stubborn.world.process.process = some ((), started) ∧
        started.lead.output = .feed { pending := [0x78] } ∧
          started.lead.input = { kind := .closeFails (.ambient .general []) } := ⟨_, rfl, rfl, rfl⟩
  have hclose : ∀ a ∈ (Company.setting true none).link.closings .own started, a.isOrdinary := by
    have hclosings : (Company.setting true none).link.closings .own started =
        [⟨.own, .close .input, started.lead.input.close.1⟩, ⟨.own, .close .output, started.lead.output.close.1⟩] := rfl
    rw [hclosings, hinput, houtput]
    decide
  have hforsaken := Stage.spawn_forsakes (Company.setting true none) .own Company.launcher "cat" [] (reading .utf8)
    ⟨5, .none⟩ stubborn hlaunched rfl rfl hclose (e := .ambient .runtime []) rfl (.waiter rfl rfl)
  obtain ⟨⟨outcome, hended, hraised⟩, -, honce, hreader, -⟩ := hforsaken
  refine ⟨?_, honce _, hreader rfl (·.lead.output) _ (Company.plays true none) houtput []⟩
  rw [hraised, Company.ended_of_exited hended (by decide +kernel), Failure.raisedAfter_failing _ (by decide +kernel)]

end Rehearsal

end Dialogue
