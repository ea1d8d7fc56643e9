import Dialogue.Proofs.Chunking
/-!
# First in, first out

Whoever feeds, ends or closes the output of a stand-in and whoever reads from it take turns (`StandIn.Turn`), in any
order. No turn loses a byte or changes the order of any (`Turn.take_feed`), and so no run of them does
(`Turn.run_feed`). A read has to wait exactly while nothing is pending and the output has not ended. On the main line
it is answered at the first look at which that is over (`Rehearsal.read_eq_look`).
-/

namespace Dialogue

variable {T M W : Type}

/-! ## Bytes from text -/

theorem Encoding.Utf8.encodeChar_eq (c : Char) : encodeChar c = String.utf8EncodeChar c := by
  have hvalid : c.toNat.isValidChar := c.valid
  have hval : c.val.toNat = c.toNat := rfl
  simp only [encodeChar, String.utf8EncodeChar, hval]
  unfold Nat.isValidChar at hvalid
  grind

/-- The bytes that data is fed as: text in UTF-8. -/
def Payload.utf8 : Payload → List UInt8
  | text s => s.toUTF8.data.toList
  | bytes bs => bs

/-- Data is fed as a session sends it in that encoding. -/
theorem Payload.encode_utf8 (data : Payload) : data.encode .utf8 = .ok data.utf8 := by
  cases data with
  | text s =>
    rw [encode, utf8, String.toUTF8, ← String.utf8Encode_toList, List.utf8Encode, List.data_toByteArray]
    simp only [Encoding.encode, funext Encoding.Utf8.encodeChar_eq]
  | bytes bs => rfl

/-! ## Readers -/

/-- What a reader asks for. -/
inductive Wish where
  /-- So many bytes at most; all that are pending, if the number is negative. -/
  | piece (size : Int)
  /-- As many as fit into a buffer. -/
  | into (buffer : List UInt8)

namespace Wish

/-- How many bytes are asked for: `none` is all that are pending. -/
def most : Wish → Option Nat
  | piece size => if size < 0 then none else some size.toNat
  | into buffer => some buffer.length

/-- What a reader finds when it was given some bytes. Whoever reads into a buffer is told how many there are, and finds
them in front of what was in the buffer. -/
def found : Wish → List UInt8 → List UInt8
  | piece _, bytes => bytes
  | into buffer, bytes => (Rehearsal.fill buffer bytes).take bytes.length

theorem found_eq (wish : Wish) (bytes : List UInt8) : wish.found bytes = bytes := by
  cases wish with
  | piece size => rfl
  | into buffer => exact List.take_left

/-- Bytes are granted as they were asked for, and `rest` stays behind. -/
def Granted : Wish → List UInt8 → List UInt8 → Prop
  | piece size, bytes, rest => (0 ≤ size → bytes.length ≤ size) ∧ (size < 0 → rest = [])
  | into buffer, bytes, _ => bytes.length ≤ buffer.length ∧ (Rehearsal.fill buffer bytes).length = buffer.length ∧
    (Rehearsal.fill buffer bytes).drop bytes.length = buffer.drop bytes.length

/-- A wish for any bytes at all. -/
def Proper : Wish → Prop
  | piece size => size ≠ 0
  | into buffer => buffer ≠ []

theorem granted_take (wish : Wish) (f : Feed) :
    wish.Granted (f.take wish.most).1 (f.take wish.most).2.pending := by
  cases wish with
  | piece size =>
    by_cases hneg : size < 0
    · rw [most, if_pos hneg]
      exact ⟨fun hpos => absurd hneg (by omega), fun _ => rfl⟩
    · rw [most, if_neg hneg]
      refine ⟨fun _ => ?_, fun hneg' => absurd hneg' hneg⟩
      simp only [Feed.take, List.length_take]
      omega
  | into buffer =>
    have hle : (f.pending.take buffer.length).length ≤ buffer.length := by
      rw [List.length_take]
      omega
    refine ⟨hle, ?_, List.drop_left⟩
    change (Rehearsal.fill buffer (f.pending.take buffer.length)).length = buffer.length
    rw [Rehearsal.fill, List.length_append, List.length_drop]
    omega

/-- Only a feed with nothing pending has nothing for a proper wish. -/
theorem pending_of_take_nil {wish : Wish} {f : Feed} (hproper : wish.Proper) (h : (f.take wish.most).1 = []) :
    f.pending = [] := by
  cases wish with
  | piece size =>
    have hproper : size ≠ 0 := hproper
    by_cases hneg : size < 0
    · rw [most, if_pos hneg] at h
      exact h
    · rw [most, if_neg hneg] at h
      have hsize : size.toNat ≠ 0 := by omega
      exact (List.take_eq_nil_iff.1 h).resolve_left hsize
  | into buffer => exact (List.take_eq_nil_iff.1 h).resolve_left (mt List.length_eq_zero_iff.1 hproper)

end Wish

/-! ## Turns -/

namespace StandIn

/-- A stand-in with a feed as its output. -/
def withFeed (f : Feed) (x : StandIn) : StandIn := { x with output := .feed f }

variable {x : StandIn} {f : Feed}

theorem read_of_readable (h : f.readable) (most : Option Nat) :
    (x.withFeed f).read most = (.bytes (f.take most).1, x.withFeed (f.take most).2) := by
  simp only [read, withFeed, Feed.read_of_readable h]

theorem read_of_not_readable (h : ¬ f.readable) (most : Option Nat) :
    (x.withFeed f).read most = (.blocked, x.withFeed f) := by
  simp only [read, withFeed, Feed.read_of_not_readable h]

theorem read_blocked_iff (most : Option Nat) : ((x.withFeed f).read most).1 = .blocked ↔ ¬ f.readable := by
  by_cases hreadable : f.readable
  · simp [read_of_readable hreadable, hreadable]
  · simp [read_of_not_readable hreadable, hreadable]

/-- What anyone does to the output. A read that would have to wait is no turn yet, and leaves everything as it is. -/
inductive Turn where
  | feed (data : Payload)
  | finish
  | close
  | read (wish : Wish)

namespace Turn

/-- Takes a turn: what is found, and the stand-in afterwards. -/
def take : Turn → StandIn → List UInt8 × StandIn
  | feed data, x => ([], (x.feed data.utf8).2)
  | finish, x => ([], x.finish)
  | close, x => ([], x.closeOutput.2)
  | read wish, x => (wish.found (x.read wish.most).1.data, (x.read wish.most).2)

/-- Turns, one after the other: all that is found, in order. -/
def run : List Turn → StandIn → List UInt8 × StandIn
  | [], x => ([], x)
  | turn :: turns, x => ((turn.take x).1 ++ (run turns (turn.take x).2).1, (run turns (turn.take x).2).2)

def fed : Turn → List UInt8
  | feed data => data.utf8
  | _ => []

def ends : Turn → Bool
  | finish | close => true
  | _ => false

/-- A turn moves bytes, and loses none. -/
theorem take_feed (turn : Turn) (x : StandIn) (f : Feed) :
    ∃ f', (turn.take (x.withFeed f)).2 = x.withFeed f' ∧
      (turn.take (x.withFeed f)).1 ++ f'.pending = f.pending ++ turn.fed ∧ f'.ended = (f.ended || turn.ends) := by
  cases turn with
  | feed data => exact ⟨f.feed data.utf8, rfl, rfl, (Bool.or_false _).symm⟩
  | finish => exact ⟨f.finish, rfl, (List.append_nil _).symm, (Bool.or_true _).symm⟩
  | close => exact ⟨f.close, rfl, (List.append_nil _).symm, (Bool.or_true _).symm⟩
  | read wish =>
    by_cases hreadable : f.readable
    · have hread := read_of_readable (x := x) hreadable wish.most
      refine ⟨(f.take wish.most).2, congrArg Prod.snd hread, ?_, ?_⟩
      · simp only [take, hread, Wish.found_eq, Chunk.data, Feed.take_append, fed, List.append_nil]
      · rw [Feed.take_ended]
        exact (Bool.or_false _).symm
    · have hread := read_of_not_readable (x := x) hreadable wish.most
      refine ⟨f, congrArg Prod.snd hread, ?_, (Bool.or_false _).symm⟩
      simp only [take, hread, Wish.found_eq, Chunk.data, fed, List.nil_append, List.append_nil]

/-- Whoever takes a turn finds nothing where nothing is pending. -/
theorem take_empty (turn : Turn) (x : StandIn) {f : Feed} (h : f.pending = []) :
    (turn.take (x.withFeed f)).1 = [] := by
  cases turn with
  | read wish =>
    obtain ⟨f', -, hbytes, -⟩ := (read wish).take_feed x f
    rw [h] at hbytes
    exact (List.append_eq_nil_iff.1 hbytes).1
  | _ => rfl

/-- Nor do any number of turns. -/
theorem run_feed (turns : List Turn) (x : StandIn) (f : Feed) :
    ∃ f', (run turns (x.withFeed f)).2 = x.withFeed f' ∧
      (run turns (x.withFeed f)).1 ++ f'.pending = f.pending ++ turns.flatMap fed ∧
      f'.ended = (f.ended || turns.any ends) := by
  induction turns generalizing f with
  | nil => exact ⟨f, rfl, (List.append_nil _).symm, (Bool.or_false _).symm⟩
  | cons turn turns ih =>
    obtain ⟨f₁, hturn, hbytes, hended⟩ := turn.take_feed x f
    obtain ⟨f', hrun, hmore, hended'⟩ := ih f₁
    refine ⟨f', ?_, ?_, ?_⟩
    · rw [run, hturn, hrun]
    · calc (run (turn :: turns) (x.withFeed f)).1 ++ f'.pending
          = (turn.take (x.withFeed f)).1 ++ ((run turns (x.withFeed f₁)).1 ++ f'.pending) := by
            rw [run, hturn, List.append_assoc]
        _ = f.pending ++ (turn.fed ++ turns.flatMap fed) := by
            rw [hmore, ← List.append_assoc, hbytes, List.append_assoc]
        _ = f.pending ++ (turn :: turns).flatMap fed := by rw [List.flatMap_cons]
    · rw [hended', hended, List.any_cons, Bool.or_assoc]

end Turn

end StandIn

/-! ## Waiting for a turn -/

variable [Moment T]

/-- What one who rests without a deadline looks at: the scene as it has settled, and again after each appointment. -/
def Scene.looks (life : Life T W M) : List (Appointment T M) → Scene T W M → List (Scene T W M)
  | [], s => [s.settledWith life []]
  | a :: agenda, s => s.settledWith life (a :: agenda) :: looks life agenda ((s.settledWith life agenda).keep life a)

/-- Such a rest ends at the first look that wakes, or without one. -/
theorem Scene.restWith_eq_look (life : Life T W M) (woken : W → Bool) (agenda : List (Appointment T M))
    (s : Scene T W M) :
    (∃ look, (s.looks life agenda).find? (woken ·.world) = some look ∧
      s.restWith life woken none agenda = (.woken, look)) ∨
    (s.looks life agenda).find? (woken ·.world) = none ∧ ¬ woken (s.restWith life woken none agenda).2.world := by
  induction agenda generalizing s with
  | nil =>
    rw [looks, restWith_nil]
    cases hwoken : woken (s.settledWith life []).world with
    | true => exact .inl ⟨_, by simp [hwoken], if_pos rfl⟩
    | false => exact .inr ⟨by simp [hwoken], by simp [hwoken]⟩
  | cons a agenda ih =>
    rw [looks, restWith_cons]
    cases hwoken : woken (s.settledWith life (a :: agenda)).world with
    | true => exact .inl ⟨_, by simp [hwoken], if_pos rfl⟩
    | false =>
      simp only [List.find?_cons, hwoken, Bool.false_eq_true, if_false, Option.all_none, if_true]
      exact ih _

namespace Rehearsal

/-- A read that is answered, or not, without waiting. -/
def readNow (most : Option Nat) (s : Scene T (Stage T Company) Cue) : Chunk × Scene T (Stage T Company) Cue :=
  let (chunk, world) := s.world.act (Company.leadPart.on (StandIn.read most))
  (chunk, { s with world })

omit [Moment T] in
theorem mustWait_iff {most : Option Nat} {st : Stage T Company} {f : Feed} (hf : st.process.lead.output = .feed f) :
    mustWait most st ↔ f.pending = [] ∧ ¬ f.ended := by
  rw [← Feed.not_readable_iff]
  by_cases hreadable : f.readable
  · simp [mustWait, StandIn.read, hf, Feed.read_of_readable hreadable, hreadable]
  · simp [mustWait, StandIn.read, hf, Feed.read_of_not_readable hreadable, hreadable]

omit [Moment T] in
theorem readNow_blocked {most : Option Nat} {s : Scene T (Stage T Company) Cue} (h : mustWait most s.world) :
    (readNow most s).1 = .blocked := by
  have hchunk : (readNow most s).1 = (s.world.process.lead.read most).1 := rfl
  rw [hchunk]
  unfold mustWait at h
  split at h
  · next hblocked => exact hblocked
  · cases h

/-- A read is answered at the first look at which it does not have to wait, the one at once among them, or never. -/
theorem read_eq_look (most : Option Nat) (s : Scene T (Stage T Company) Cue) :
    match (s :: s.looks life s.agenda).find? (!mustWait most ·.world) with
    | some look => read most s = readNow most look
    | none => (read most s).1 = .blocked := by
  cases hwait : mustWait most s.world with
  | true =>
    have hread : read most s = readNow most (s.restWith life (!mustWait most ·) none s.agenda).2 := by
      simp only [read, hwait, if_true, readNow, Scene.rest]
    simp only [List.find?_cons, hwait, Bool.not_true]
    rcases Scene.restWith_eq_look life (!mustWait most ·) s.agenda s with ⟨look, hlook, hrest⟩ | ⟨hnone, hasleep⟩
    · rw [hlook, hread, hrest]
    · rw [hnone, hread]
      exact readNow_blocked (by simpa using hasleep)
  | false => simp [read, readNow, hwait]

end Rehearsal

namespace StandIn

/-- There is nothing to read: no bytes are pending, and no turn has ended or closed the output. -/
def Dry (turns : List Turn) (f : Feed) : Prop := f.pending = [] ∧ ∀ turn ∈ turns, ¬ turn.ends

theorem dry_iff {turns : List Turn} {f : Feed} (h : f.ended = turns.any Turn.ends) : Dry turns f ↔ ¬ f.readable := by
  rw [Feed.not_readable_iff, h, Dry]
  simp

/-- The first turn that feeds something, ends the output or closes it ends the wait of a reader. -/
theorem Turn.still_blocked_iff (turn : Turn) (x : StandIn) {f : Feed} (h : ¬ f.readable) (most : Option Nat) :
    ((turn.take (x.withFeed f)).2.read most).1 = .blocked ↔ turn.fed = [] ∧ ¬ turn.ends := by
  obtain ⟨hempty, hopen⟩ := Feed.not_readable_iff.1 h
  obtain ⟨f', hturn, hbytes, hended⟩ := turn.take_feed x f
  rw [turn.take_empty x hempty, hempty, List.nil_append, List.nil_append] at hbytes
  rw [Bool.not_eq_true] at hopen
  rw [hopen, Bool.false_or] at hended
  rw [hturn, read_blocked_iff, Feed.not_readable_iff, hbytes, hended]

/-- A read that is answered takes the first bytes that are pending. -/
theorem read_takes (x : StandIn) {f : Feed} (h : f.readable) (wish : Wish) :
    ∃ bytes rest, (x.withFeed f).read wish.most = (.bytes bytes, x.withFeed { f with pending := rest }) ∧
      bytes ++ rest = f.pending ∧ wish.Granted bytes rest ∧ (wish.Proper → bytes = [] → f.pending = [] ∧ f.ended) := by
  have hrest : (f.take wish.most).2 = { f with pending := (f.take wish.most).2.pending } := by
    cases wish.most <;> rfl
  refine ⟨(f.take wish.most).1, (f.take wish.most).2.pending, ?_, f.take_append wish.most, wish.granted_take f, ?_⟩
  · rw [read_of_readable h, ← hrest]
  · intro hproper hnone
    have hempty := Wish.pending_of_take_nil hproper hnone
    refine ⟨hempty, ?_⟩
    simpa [Feed.readable, hempty] using h

/-- The output of a stand-in is a queue of bytes. Whatever turns are taken, all that was found, followed by what is
pending, is what was there at first, followed by all that was fed; text is fed in UTF-8. A read has to wait exactly if
nothing is pending and no turn has ended or closed the output; it does not have to any more after the first turn that
feeds something, ends the output or closes it. Otherwise it takes the first bytes that are pending, no more than were
asked for, or all; if any were asked for, it takes none only at the end. On the main line a read is answered at once if
it does not have to wait, else at the first look at which it does not have to. -/
theorem first_in_first_out (x : StandIn) (initial : List UInt8) (turns : List Turn) :
    (∀ data : Payload, (Turn.feed data).fed = data.utf8 ∧ data.encode .utf8 = .ok data.utf8) ∧
    ∃ f : Feed, (Turn.run turns (x.withFeed { pending := initial })).2 = x.withFeed f ∧
      (Turn.run turns (x.withFeed { pending := initial })).1 ++ f.pending = initial ++ turns.flatMap Turn.fed ∧
      ∀ wish : Wish,
        ((x.withFeed f).read wish.most = (.blocked, x.withFeed f) ↔ Dry turns f) ∧
        (Dry turns f → ∀ turn : Turn,
          (((turn.take (x.withFeed f)).2.read wish.most).1 = .blocked ↔ turn.fed = [] ∧ ¬ turn.ends)) ∧
        (¬ Dry turns f → ∃ bytes rest,
          (x.withFeed f).read wish.most = (.bytes bytes, x.withFeed { f with pending := rest }) ∧
          bytes ++ rest = f.pending ∧ wish.found bytes = bytes ∧ wish.Granted bytes rest ∧
          (wish.Proper → bytes = [] → f.pending = [] ∧ ∃ turn ∈ turns, turn.ends)) ∧
        (∀ (st : Stage T Company) (f' : Feed), st.process.lead.output = .feed f' →
          (Rehearsal.mustWait wish.most st ↔ f'.pending = [] ∧ ¬ f'.ended)) ∧
        ∀ s : Scene T (Stage T Company) Cue,
          match (s :: s.looks Rehearsal.life s.agenda).find? (!Rehearsal.mustWait wish.most ·.world) with
          | some look => Rehearsal.read wish.most s = Rehearsal.readNow wish.most look
          | none => (Rehearsal.read wish.most s).1 = .blocked := by
  obtain ⟨f, hrun, hbytes, hended⟩ := Turn.run_feed turns x { pending := initial }
  have hdry : Dry turns f ↔ ¬ f.readable := dry_iff (hended.trans (Bool.false_or _))
  refine ⟨fun data => ⟨rfl, data.encode_utf8⟩, f, hrun, hbytes, fun wish => ⟨?_, ?_, ?_, ?_, ?_⟩⟩
  · rw [hdry]
    constructor
    · intro hread
      exact (read_blocked_iff wish.most).1 (congrArg Prod.fst hread)
    · intro hblocked
      exact read_of_not_readable hblocked wish.most
  · intro h turn
    exact turn.still_blocked_iff x (hdry.1 h) wish.most
  · intro h
    rw [hdry, Classical.not_not] at h
    obtain ⟨bytes, rest, hread, happend, hgranted, hend⟩ := read_takes x h wish
    refine ⟨bytes, rest, hread, happend, wish.found_eq bytes, hgranted, fun hproper hnone => ?_⟩
    obtain ⟨hempty, hover⟩ := hend hproper hnone
    rw [hended] at hover
    exact ⟨hempty, by simpa using hover⟩
  · intro st f' hf'
    exact Rehearsal.mustWait_iff hf'
  · intro s
    exact Rehearsal.read_eq_look wish.most s

/-- A read before anything is fed waits; the last one finds the end. -/
example : (Turn.run [.read (.piece 5), .feed (.text "abc"), .finish, .read (.piece 2), .read (.into [0, 0]),
    .read (.piece (-1))] (withFeed {} {})).1 = [97, 98, 99] := by
  decide

end StandIn

end Dialogue
