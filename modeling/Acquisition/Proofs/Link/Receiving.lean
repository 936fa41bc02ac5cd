import Mathlib
import Acquisition.Proofs.Link.Inbox
import Acquisition.Proofs.Link.Worker

/-!
# What a link of blocks receives

A `Feed` is a link with any number of producers who push at the same time: between two pieces of a
push anything may happen to the link. What each of them pushed is received in its order, once, and
only a full pool cuts a push short. A push returns after so many of its own steps, whatever happens
between them (`run_ofSink`).
-/

namespace Acquisition

/-- A call of a producer, as far as it has come. -/
structure Push where
  data : Bytes
  /-- How many bytes were taken. -/
  count : Nat
  /-- The blocks that were free when the call ended short. -/
  stopped : Option (List Nat)
deriving DecidableEq

namespace Push

def accepted (c : Push) : Bytes := c.data.take c.count

def returned (c : Push) : Bool := decide (c.data.length ≤ c.count) || c.stopped.isSome

/-- How much an open call has yet to hand over. -/
def left (c : Push) : Nat := if c.returned then 0 else c.data.length - c.count

/-- A prefix was taken, and not all of it only when no block was free. -/
structure Sound (c : Push) : Prop where
  count : c.count ≤ c.data.length
  stopped : ∀ free, c.stopped = some free → free = []

/-- The calls of a producer, the latest first, and all that was taken from it. -/
structure Log (calls : List Push) (taken : Bytes) : Prop where
  taken : taken = calls.reverse.flatMap accepted
  each : ∀ c ∈ calls, c.Sound
  earlier : ∀ c ∈ calls.tail, c.returned

variable {c : Push} {calls earlier : List Push} {taken : Bytes}

theorem left_le (c : Push) : c.left ≤ c.data.length - c.count := by
  unfold left
  split
  · exact Nat.zero_le _
  · exact Nat.le_refl _

theorem count_lt_of_open (hopen : ¬ c.returned) : c.count < c.data.length := by
  refine Nat.lt_of_not_le fun hall => hopen ?_
  simp [returned, hall]

theorem drop_ne_nil_of_open (hopen : ¬ c.returned) : c.data.drop c.count ≠ [] :=
  List.drop_eq_nil_iff.not.mpr (Nat.not_le_of_lt (count_lt_of_open hopen))

theorem left_eq_zero_iff : c.left = 0 ↔ c.returned := by
  unfold left
  split
  case isTrue hreturned => exact iff_of_true rfl hreturned
  case isFalse hopen =>
    have hcount := count_lt_of_open hopen
    exact iff_of_false (by omega) hopen

/-- `c'` is what the call `c` is after so many steps of its own, or more. -/
structure Follows (c c' : Push) (steps : Nat) : Prop where
  data : c'.data = c.data
  count : c.count ≤ c'.count
  left : c'.left ≤ c.left - steps

theorem Follows.refl (c : Push) : c.Follows c 0 := ⟨rfl, Nat.le_refl _, Nat.le_refl _⟩

theorem Follows.trans {c' c'' : Push} {first second : Nat} (h : c.Follows c' first)
    (hmore : c'.Follows c'' second) : c.Follows c'' (first + second) where
  data := hmore.data.trans h.data
  count := h.count.trans hmore.count
  left := by
    have hfirst := h.left
    have hsecond := hmore.left
    omega

-- A call that has returned takes no further steps.
theorem Follows.of_returned (hreturned : c.returned) (steps : Nat) : c.Follows c steps where
  data := rfl
  count := Nat.le_refl _
  left := by rw [left_eq_zero_iff.mpr hreturned]; exact Nat.zero_le _

theorem Follows.returned {c' : Push} {steps : Nat} (h : c.Follows c' steps)
    (hsteps : c.data.length - c.count ≤ steps) : c'.returned := by
  have hleft := h.left
  have hle := c.left_le
  exact left_eq_zero_iff.mp (by omega)

theorem Log.offer (h : Log calls taken) (hreturned : ∀ c ∈ calls, c.returned) (data : Bytes) :
    Log (⟨data, 0, none⟩ :: calls) taken where
  taken := by simp [h.taken, accepted]
  each := List.forall_mem_cons.mpr ⟨⟨Nat.zero_le _, by simp⟩, h.each⟩
  earlier := hreturned

theorem Log.stop (h : Log (c :: earlier) taken) {free : List Nat} (hfree : free = []) :
    Log ({ c with stopped := some free } :: earlier) taken := by
  obtain ⟨hc, hearlier⟩ := List.forall_mem_cons.mp h.each
  refine ⟨?_, List.forall_mem_cons.mpr ⟨⟨hc.count, ?_⟩, hearlier⟩, h.earlier⟩
  · simpa [accepted] using h.taken
  · rintro _ ⟨⟩
    exact hfree

theorem Log.fill (h : Log (c :: earlier) taken) (size : Nat) :
    let piece := (c.data.drop c.count).take size
    Log ({ c with count := c.count + piece.length } :: earlier) (taken ++ piece) := by
  intro piece
  obtain ⟨hc, hearlier⟩ := List.forall_mem_cons.mp h.each
  refine ⟨?_, List.forall_mem_cons.mpr ⟨⟨Chunk.add_piece_le size hc.count, hc.stopped⟩, hearlier⟩,
    h.earlier⟩
  have haccepted : accepted { c with count := c.count + piece.length } = c.accepted ++ piece :=
    Chunk.take_add_piece ..
  simp [h.taken, haccepted]

end Push

structure Feed (τ : Type) where
  stream : ChunkStream τ
  /-- The calls of each producer, the latest first. -/
  pushes : Nat → List Push
  /-- The pieces that were taken before the last reset, each with its producer. -/
  before : List (Nat × Bytes)
  /-- The pieces that were taken since. -/
  since : List (Nat × Bytes)
  /-- What was received since the last reset. -/
  received : Bytes

namespace Feed

inductive Event
  /-- A producer whose last call has returned makes another. -/
  | offer (producer : Nat) (data : Bytes)
  /-- One block is filled for a call, or the call ends because there is none. -/
  | fill (producer : Nat)
  | receive (max : Nat)
  | setChunkBytes (receiveBytes sendBytes : Nat)
  | acquire
  | release
  | send (data : Bytes)
  /-- The worker goes on, if it can. -/
  | work

def Event.isFill (producer : Nat) : Event → Bool
  | .fill p => p = producer
  | _ => false

variable {τ : Type}

def start (s : ChunkStream τ) : Feed τ where
  stream := s
  pushes _ := []
  before := []
  since := []
  received := []

/-- The bytes that were taken from one producer. -/
def takenFrom (pieces : List (Nat × Bytes)) (producer : Nat) : Bytes :=
  (pieces.filter (·.1 = producer)).flatMap Prod.snd

theorem takenFrom_append_singleton (pieces : List (Nat × Bytes)) (producer p : Nat)
    (piece : Bytes) : takenFrom (pieces ++ [(producer, piece)]) p =
      takenFrom pieces p ++ if producer = p then piece else [] := by
  simp only [takenFrom, List.filter_append, List.flatMap_append]
  split <;> simp [*]

def offer (f : Feed τ) (producer : Nat) (data : Bytes) : Feed τ :=
  if (f.pushes producer).all Push.returned then
    { f with
      pushes := Function.update f.pushes producer (⟨data, 0, none⟩ :: f.pushes producer) }
  else f

def fill (f : Feed τ) (producer : Nat) : Feed τ :=
  match f.pushes producer with
  | [] => f
  | c :: earlier =>
    if c.returned then f
    else
      match f.stream.inbox.pushChunk? (c.data.drop c.count) with
      | none =>
        let c := { c with stopped := some f.stream.inbox.pool.free }
        { f with pushes := Function.update f.pushes producer (c :: earlier) }
      | some inbox =>
        let piece := (c.data.drop c.count).take f.stream.inbox.chunkBytes
        let c := { c with count := c.count + piece.length }
        { f with
          stream := { f.stream with inbox }
          pushes := Function.update f.pushes producer (c :: earlier)
          since := f.since ++ [(producer, piece)] }

section

variable {f : Feed τ} {producer : Nat} {c : Push} {earlier : List Push}

theorem fill_of_nil (hpushes : f.pushes producer = []) : f.fill producer = f := by
  simp only [fill, hpushes]

theorem fill_of_returned (hpushes : f.pushes producer = c :: earlier) (hreturned : c.returned) :
    f.fill producer = f := by
  simp only [fill, hpushes, hreturned, if_true]

theorem fill_of_none (hpushes : f.pushes producer = c :: earlier) (hopen : ¬ c.returned)
    (hnone : f.stream.inbox.pushChunk? (c.data.drop c.count) = none) :
    f.fill producer = { f with
      pushes := Function.update f.pushes producer
        ({ c with stopped := some f.stream.inbox.pool.free } :: earlier) } := by
  simp only [fill, hpushes, hopen, hnone, Bool.false_eq_true, if_false]

theorem fill_of_some (hpushes : f.pushes producer = c :: earlier) (hopen : ¬ c.returned)
    {inbox : Inbox} (hpush : f.stream.inbox.pushChunk? (c.data.drop c.count) = some inbox) :
    let piece := (c.data.drop c.count).take f.stream.inbox.chunkBytes
    f.fill producer = { f with
      stream := { f.stream with inbox }
      pushes := Function.update f.pushes producer
        ({ c with count := c.count + piece.length } :: earlier)
      since := f.since ++ [(producer, piece)] } := by
  simp only [fill, hpushes, hopen, hpush, Bool.false_eq_true, if_false]

end

/-- The link was reset. -/
def restart (f : Feed τ) (stream : ChunkStream τ) : Feed τ :=
  { f with stream, before := f.before ++ f.since, since := [], received := [] }

/-- What was taken since the last reset was received or is buffered, and the calls report what was
taken. -/
structure Sound (f : Feed τ) : Prop where
  inbox : f.stream.inbox.Sound
  order : f.since.flatMap Prod.snd = f.received ++ f.stream.inbox.buffered
  log : ∀ p, Push.Log (f.pushes p) (takenFrom (f.before ++ f.since) p)

variable {f : Feed τ}

namespace Sound

theorem ofSink (sink : τ) (receiveBytes sendBytes : Nat) :
    (start (ChunkStream.ofSink sink receiveBytes sendBytes)).Sound where
  inbox := Inbox.sound_ofChunkBytes receiveBytes
  order := rfl
  log _ := ⟨rfl, by simp [start], by simp [start]⟩

theorem replace (h : f.Sound) {stream : ChunkStream τ} (hinbox : stream.inbox.Sound)
    (hbuffered : stream.inbox.buffered = f.stream.inbox.buffered) :
    ({ f with stream } : Feed τ).Sound :=
  { h with
    inbox := hinbox
    order := by rw [h.order, hbuffered] }

theorem restart (h : f.Sound) {stream : ChunkStream τ}
    (hinbox : stream.inbox = f.stream.inbox.reset) : (f.restart stream).Sound where
  inbox := hinbox ▸ h.inbox.reset
  order := by simp [Feed.restart, hinbox, Inbox.buffered_reset]
  log p := (List.append_nil (f.before ++ f.since)).symm ▸ h.log p

theorem offer (h : f.Sound) (producer : Nat) (data : Bytes) : (f.offer producer data).Sound := by
  unfold Feed.offer
  split
  case isFalse => exact h
  case isTrue hreturned =>
    refine { h with log := (Function.forall_update_iff _ fun p calls =>
      Push.Log calls (takenFrom (f.before ++ f.since) p)).mpr ?_ }
    exact ⟨(h.log producer).offer (List.all_eq_true.mp hreturned) data, fun p _ => h.log p⟩

theorem fill (h : f.Sound) (producer : Nat) : (f.fill producer).Sound := by
  cases hpushes : f.pushes producer with
  | nil => exact (fill_of_nil hpushes).symm ▸ h
  | cons c earlier =>
  by_cases hopen : c.returned
  · exact (fill_of_returned hpushes hopen).symm ▸ h
  have hlog := h.log producer
  rw [hpushes] at hlog
  cases hpush : f.stream.inbox.pushChunk? (c.data.drop c.count) with
  | none =>
    rw [fill_of_none hpushes hopen hpush]
    refine { h with log := (Function.forall_update_iff _ fun p calls =>
      Push.Log calls (takenFrom (f.before ++ f.since) p)).mpr ?_ }
    exact ⟨hlog.stop (h.inbox.pushChunk?_eq_none.mp hpush), fun p _ => h.log p⟩
  | some inbox =>
    rw [fill_of_some hpushes hopen hpush]
    obtain ⟨hinbox, hbuffered⟩ := h.inbox.pushChunk? (Push.drop_ne_nil_of_open hopen) hpush
    refine ⟨hinbox, by simp [h.order, hbuffered], fun p => ?_⟩
    dsimp only
    -- The piece extends what was taken from this producer and from no other.
    rw [← List.append_assoc, takenFrom_append_singleton]
    rcases eq_or_ne p producer with rfl | hp
    · simpa only [Function.update_self, if_true] using hlog.fill f.stream.inbox.chunkBytes
    · simpa only [Function.update_of_ne hp, if_neg hp.symm, List.append_nil] using h.log p

end Sound

/-! ## One step of a push -/

section

variable {producer : Nat} {c : Push} {earlier : List Push}

theorem Sound.fill_of_full (h : f.Sound) (hpushes : f.pushes producer = c :: earlier)
    (hopen : ¬ c.returned) (hfull : f.stream.inbox.pool.free = []) :
    f.fill producer = { f with
      pushes := Function.update f.pushes producer ({ c with stopped := some [] } :: earlier) } := by
  rw [fill_of_none hpushes hopen (h.inbox.pushChunk?_eq_none.mpr hfull), hfull]

theorem Sound.fill_of_free (h : f.Sound) (hpushes : f.pushes producer = c :: earlier)
    (hopen : ¬ c.returned) (hfree : f.stream.inbox.pool.free ≠ []) :
    let piece := (c.data.drop c.count).take f.stream.inbox.chunkBytes
    0 < piece.length ∧ ∃ index inbox,
      f.stream.inbox.pool.free = index :: inbox.pool.free ∧
      inbox.pool.ready = f.stream.inbox.pool.ready ++ [index] ∧
      inbox.buffered = f.stream.inbox.buffered ++ piece ∧
      f.fill producer = { f with
        stream := { f.stream with inbox }
        pushes := Function.update f.pushes producer
          ({ c with count := c.count + piece.length } :: earlier)
        since := f.since ++ [(producer, piece)] } := by
  intro piece
  have hdata := Push.drop_ne_nil_of_open hopen
  have hpiece : 0 < piece.length := by
    rw [List.length_take]
    exact Nat.lt_min.mpr ⟨f.stream.inbox.chunkBytes_pos, List.length_pos_iff.mpr hdata⟩
  have hroom : f.stream.inbox.pushChunk? (c.data.drop c.count) ≠ none :=
    h.inbox.pushChunk?_eq_none.not.mpr hfree
  obtain ⟨inbox, hpush⟩ := Option.ne_none_iff_exists'.mp hroom
  obtain ⟨index, hfirst, hready⟩ := Inbox.free_of_pushChunk? hpush
  exact ⟨hpiece, index, inbox, hfirst, hready, (h.inbox.pushChunk? hdata hpush).2,
    fill_of_some hpushes hopen hpush⟩

theorem Sound.follows_fill (h : f.Sound) (hpushes : f.pushes producer = c :: earlier) :
    ∃ c', (f.fill producer).pushes producer = c' :: earlier ∧ c.Follows c' 1 := by
  by_cases hopen : c.returned
  · rw [fill_of_returned hpushes hopen]
    exact ⟨c, hpushes, .of_returned hopen 1⟩
  by_cases hfree : f.stream.inbox.pool.free = []
  · rw [h.fill_of_full hpushes hopen hfree]
    refine ⟨_, Function.update_self .., rfl, Nat.le_refl _, ?_⟩
    rw [Push.left_eq_zero_iff.mpr (by simp [Push.returned])]
    exact Nat.zero_le _
  · obtain ⟨hpiece, index, inbox, -, -, -, hfill⟩ := h.fill_of_free hpushes hopen hfree
    rw [hfill]
    refine ⟨_, Function.update_self .., rfl, Nat.le_add_right .., ?_⟩
    refine (Push.left_le _).trans ?_
    rw [Push.left, if_neg hopen]
    change c.data.length - (c.count + _) ≤ _
    omega

theorem pushes_fill_of_ne {other : Nat} (f : Feed τ) (hother : producer ≠ other) :
    (f.fill other).pushes producer = f.pushes producer := by
  unfold fill
  split
  · rfl
  split
  · rfl
  split <;> exact Function.update_of_ne hother ..

end

variable [BlockSink τ]

def step (f : Feed τ) : Event → Feed τ
  | .offer producer data => f.offer producer data
  | .fill producer => f.fill producer
  | .receive max =>
    match Link.receive f.stream max with
    | (.ok bytes, stream) => { f with stream, received := f.received ++ bytes }
    | (.error _, stream) => { f with stream }
  | .setChunkBytes receiveBytes sendBytes =>
    { f with stream := f.stream.setChunkBytes receiveBytes sendBytes }
  | .acquire =>
    let stream := (Link.acquire f.stream).2
    if f.stream.worker = .absent then f.restart stream else { f with stream }
  | .release => f.restart (Link.release f.stream)
  | .send data => { f with stream := (Link.send f.stream data).2 }
  | .work => { f with stream := f.stream.work?.getD f.stream }

def run (f : Feed τ) (events : List Event) : Feed τ := events.foldl step f

namespace Sound

theorem step (h : f.Sound) (e : Event) : (f.step e).Sound := by
  cases e with
  | offer producer data => exact h.offer producer data
  | fill producer => exact h.fill producer
  | receive max =>
    obtain ⟨hinbox, hbytes, hrest⟩ := h.inbox.receive max
    refine { h with inbox := hinbox, order := ?_ }
    change f.since.flatMap Prod.snd = f.received ++ (f.stream.inbox.receive max).1 ++
      (f.stream.inbox.receive max).2.buffered
    rw [h.order, hbytes, hrest, List.append_assoc, List.take_append_drop]
  | setChunkBytes receiveBytes sendBytes => exact h.replace (h.inbox.resize receiveBytes) rfl
  | acquire =>
    simp only [Feed.step]
    split
    case isTrue habsent =>
      exact h.restart (congrArg ChunkStream.inbox (ChunkStream.acquire_of_absent habsent))
    case isFalse hpresent =>
      have hinbox := congrArg ChunkStream.inbox (ChunkStream.acquire_of_ne_absent hpresent)
      exact h.replace (hinbox.symm ▸ h.inbox) (congrArg Inbox.buffered hinbox)
  | release => exact h.restart f.stream.inbox_release
  | send data =>
    have hinbox := f.stream.inbox_send data
    exact h.replace (hinbox ▸ h.inbox) (congrArg Inbox.buffered hinbox)
  | work =>
    have hinbox : (f.stream.work?.getD f.stream).inbox = f.stream.inbox := by
      cases hwork : f.stream.work? with
      | none => rfl
      | some next => exact (ChunkStream.work_of_work? hwork).inbox
    exact h.replace (hinbox ▸ h.inbox) (congrArg Inbox.buffered hinbox)

theorem run (h : f.Sound) (events : List Event) : (f.run events).Sound := by
  induction events generalizing f with
  | nil => exact h
  | cons e rest ih => exact ih (h.step e)

end Sound

/-! ## The progress of a push -/

section

variable {producer : Nat} {c : Push} {later earlier : List Push}

/-- Whatever happens, a call is there afterwards, and goes on if it was its own step. -/
theorem Sound.follows_step (h : f.Sound) (hpushes : f.pushes producer = later ++ c :: earlier)
    (e : Event) : ∃ later' c', (f.step e).pushes producer = later' ++ c' :: earlier ∧
      c.Follows c' (if e.isFill producer then 1 else 0) := by
  cases e with
  | offer p data =>
    simp only [Feed.step, Feed.offer]
    split
    · rcases eq_or_ne producer p with rfl | hp
      · refine ⟨⟨data, 0, none⟩ :: later, c, ?_, .refl c⟩
        exact (Function.update_self ..).trans (congrArg _ hpushes)
      · exact ⟨later, c, by simp only [Function.update_of_ne hp, hpushes], .refl c⟩
    · exact ⟨later, c, hpushes, .refl c⟩
  | fill p =>
    rcases eq_or_ne producer p with rfl | hp
    · simp only [Event.isFill, decide_true, if_true]
      cases later with
      | nil =>
        obtain ⟨c', hfill, hfollows⟩ := h.follows_fill hpushes
        exact ⟨[], c', hfill, hfollows⟩
      | cons last later =>
        obtain ⟨last', hfill, -⟩ := h.follows_fill hpushes
        refine ⟨last' :: later, c, hfill, .of_returned ?_ 1⟩
        exact (h.log producer).earlier c (by simp [hpushes])
    · simp only [Event.isFill, decide_eq_true_eq, hp.symm, if_false]
      exact ⟨later, c, (pushes_fill_of_ne f hp).trans hpushes, .refl c⟩
  | acquire =>
    simp only [Feed.step]
    split <;> exact ⟨later, c, hpushes, .refl c⟩
  | receive | setChunkBytes | release | send | work => exact ⟨later, c, hpushes, .refl c⟩

theorem Sound.follows_run (h : f.Sound) (hpushes : f.pushes producer = later ++ c :: earlier)
    (events : List Event) : ∃ later' c', (f.run events).pushes producer = later' ++ c' :: earlier ∧
      c.Follows c' (events.countP (Event.isFill producer)) := by
  induction events generalizing f c later with
  | nil => exact ⟨later, c, hpushes, .refl c⟩
  | cons e rest ih =>
    obtain ⟨later', c', hstep, hfirst⟩ := h.follows_step hpushes e
    obtain ⟨later'', c'', hrun, hmore⟩ := ih (h.step e) hstep
    refine ⟨later'', c'', hrun, ?_⟩
    rw [List.countP_cons, Nat.add_comm]
    exact hfirst.trans hmore

end

/-! ## A push on its own -/

/-- The steps of a call, when nothing comes between them, are a push of what is left of its data. -/
theorem run_fills {producer : Nat} {box : Inbox} {rest : Bytes} (f : Feed τ)
    (hbox : f.stream.inbox = box) {c : Push} {earlier : List Push}
    (hpushes : f.pushes producer = c :: earlier) (hopen : c.stopped = none)
    (hrest : c.data.drop c.count = rest) :
    ∃ fills stopped,
      let g := f.run (List.replicate fills (.fill producer))
      let c' : Push := { c with count := c.count + (box.push rest).1, stopped }
      g.stream = { f.stream with inbox := (box.push rest).2 } ∧
      g.pushes producer = c' :: earlier ∧ c'.returned := by
  have hreturned {c : Push} (hopen : c.stopped = none) :
      c.returned ↔ c.data.drop c.count = [] := by
    simp [Push.returned, hopen]
  fun_induction Inbox.push box rest generalizing f c with
  | case1 box =>
    exact ⟨0, none, by simp [run, ← hbox], by simp [run, hpushes, ← hopen],
      (hreturned rfl).mpr hrest⟩
  | case2 box rest hne hnone =>
    subst hbox hrest
    have hfill := fill_of_none hpushes (hne ∘ (hreturned hopen).mp) hnone
    refine ⟨1, some f.stream.inbox.pool.free, ?_, ?_, by simp [Push.returned]⟩
    · change (f.fill producer).stream = _
      rw [hfill]
    · change (f.fill producer).pushes producer = _
      rw [hfill]
      exact Function.update_self ..
  | case3 box rest hne inbox hpush n last hlast ih =>
    subst hbox hrest
    have hfill := fill_of_some hpushes (hne ∘ (hreturned hopen).mp) hpush
    have hmore := Chunk.drop_add_piece c.data c.count f.stream.inbox.chunkBytes
    have hpushes' : (f.fill producer).pushes producer = { c with
        count := c.count + ((c.data.drop c.count).take f.stream.inbox.chunkBytes).length } ::
          earlier := by
      rw [hfill]
      exact Function.update_self ..
    obtain ⟨fills, stopped, hstream, hlog, hdone⟩ :=
      ih (f.fill producer) (by rw [hfill]) hpushes' hopen hmore
    rw [hlast, Nat.add_assoc] at hlog hdone
    refine ⟨fills + 1, stopped, ?_, hlog, hdone⟩
    change ((f.fill producer).run _).stream = _
    rw [hstream, hfill, hlast]

/-- A call that nothing interrupts is `ChunkStream.push`. -/
theorem run_offer (f : Feed τ) (producer : Nat) (data : Bytes)
    (hreturned : ∀ c ∈ f.pushes producer, c.returned) :
    ∃ fills stopped,
      let g := f.run (.offer producer data :: List.replicate fills (.fill producer))
      let c : Push := ⟨data, (f.stream.push data).1, stopped⟩
      g.stream = (f.stream.push data).2 ∧ g.pushes producer = c :: f.pushes producer ∧
        c.returned := by
  have hoffer : f.offer producer data = { f with
      pushes := Function.update f.pushes producer (⟨data, 0, none⟩ :: f.pushes producer) } :=
    if_pos (List.all_eq_true.mpr hreturned)
  have hpushes : (f.offer producer data).pushes producer =
      ⟨data, 0, none⟩ :: f.pushes producer := by
    rw [hoffer]
    exact Function.update_self ..
  obtain ⟨fills, stopped, hstream, hlog, hdone⟩ :=
    run_fills (f.offer producer data) (by rw [hoffer]) hpushes rfl List.drop_zero
  rw [Nat.zero_add] at hlog hdone
  refine ⟨fills, stopped, hstream.trans ?_, hlog, hdone⟩
  rw [hoffer]
  rfl

/-- Whatever the producers, the session and the worker do in whatever order: each block is free,
ready or being read, and none is in two places. The blocks that hold something hold between one byte
and the most, and the one being read has not been read to its end. What was taken since the last
reset was received or is buffered, in the order in which it was taken, and a reception gives as much
of what is buffered as was asked for. Of each producer the bytes were taken that its calls report,
in their order, and a call that returned short found no block free.

A step of a call that has not returned fills the first free block with the next piece, and ends the
call if no block is free. So a call returns after as many of its own steps as it has bytes left at
the most, whatever comes between them, and one that nothing interrupts is `ChunkStream.push`. -/
theorem run_ofSink (sink : τ) (receiveBytes sendBytes : Nat) (events : List Event) :
    let f := (start (ChunkStream.ofSink sink receiveBytes sendBytes)).run events
    let box := f.stream.inbox
    (box.pool.free ++ box.pool.ready ++ box.taken).Perm (List.range Chunk.poolCount) ∧
    (∀ index ∈ box.pool.ready ++ box.taken,
      0 < (box.pool.block index).length ∧ (box.pool.block index).length ≤ Chunk.maxBytes) ∧
    (∀ index offset, box.current = some (index, offset) →
      offset < (box.pool.block index).length) ∧
    f.since.flatMap Prod.snd = f.received ++ box.unread ++ box.pool.filled.flatten ∧
    (∀ max, ∃ bytes stream, Link.receive f.stream max = (.ok bytes, stream) ∧
      f.step (.receive max) = { f with stream, received := f.received ++ bytes } ∧
      bytes.length = min max (box.unread ++ box.pool.filled.flatten).length ∧
      bytes <+: box.unread ++ box.pool.filled.flatten) ∧
    (∀ p, takenFrom (f.before ++ f.since) p =
        ((f.pushes p).reverse.map fun c => c.data.take c.count).flatten ∧
      (∀ c ∈ (f.pushes p).tail, c.returned) ∧
      ∀ c ∈ f.pushes p, c.count ≤ c.data.length ∧
        (c.returned → c.count < c.data.length → c.stopped = some [])) ∧
    (∀ p c earlier, f.pushes p = c :: earlier → ¬ c.returned →
      let piece := (c.data.drop c.count).take box.chunkBytes
      if box.pool.free = [] then
        f.step (.fill p) = { f with
          pushes := Function.update f.pushes p ({ c with stopped := some [] } :: earlier) }
      else
        0 < piece.length ∧ ∃ index inbox,
          box.pool.free = index :: inbox.pool.free ∧
          inbox.pool.ready = box.pool.ready ++ [index] ∧
          inbox.unread ++ inbox.pool.filled.flatten =
            box.unread ++ box.pool.filled.flatten ++ piece ∧
          f.step (.fill p) = { f with
            stream := { f.stream with inbox }
            pushes := Function.update f.pushes p
              ({ c with count := c.count + piece.length } :: earlier)
            since := f.since ++ [(p, piece)] }) ∧
    (∀ p c earlier, f.pushes p = c :: earlier → ∀ more : List Event,
      c.data.length - c.count ≤ more.countP (Event.isFill p) →
      ∃ later c', (f.run more).pushes p = later ++ c' :: earlier ∧
        c'.data = c.data ∧ c.count ≤ c'.count ∧ c'.returned) ∧
    ∀ p data, (∀ c ∈ f.pushes p, c.returned) → ∃ fills stopped,
      let g := f.run (.offer p data :: List.replicate fills (.fill p))
      let c : Push := ⟨data, (f.stream.push data).1, stopped⟩
      g.stream = (f.stream.push data).2 ∧ g.pushes p = c :: f.pushes p ∧ c.returned := by
  intro f box
  have h : f.Sound := (Sound.ofSink sink receiveBytes sendBytes).run events
  refine ⟨h.inbox.stocked.divided.places, ?_,
    fun index offset hc => (h.inbox.current index offset hc).1, ?_, fun max => ?_,
    fun p => ⟨?_, (h.log p).earlier, fun c hc => ?_⟩, fun p c earlier hpushes hopen => ?_,
    fun p c earlier hpushes more hmore => ?_, fun p data => run_offer f p data⟩
  · intro index hindex
    rcases List.mem_append.mp hindex with hready | htaken
    · exact h.inbox.stocked.filled _ (List.mem_map_of_mem hready)
    · obtain ⟨offset, hcurrent⟩ := Inbox.mem_taken.mp htaken
      obtain ⟨hoffset, hlength⟩ := h.inbox.current index offset hcurrent
      exact ⟨Nat.zero_lt_of_lt hoffset, hlength⟩
  · rw [h.order, Inbox.buffered, List.append_assoc]
  · have hbytes := (h.inbox.receive max).2.1
    refine ⟨_, _, rfl, rfl, ?_, ?_⟩
    · exact (congrArg List.length hbytes).trans List.length_take
    · exact hbytes ▸ List.take_prefix ..
  · rw [(h.log p).taken, List.flatMap_def]
    rfl
  · have hsound := (h.log p).each c hc
    refine ⟨hsound.count, fun hreturned hshort => ?_⟩
    obtain ⟨free, hfree⟩ := Option.isSome_iff_exists.mp
      ((Bool.or_eq_true ..).mp hreturned |>.resolve_left (by simp [hshort]))
    rw [hfree, hsound.stopped free hfree]
  · intro piece
    split
    case isTrue hfull => exact h.fill_of_full hpushes hopen hfull
    case isFalse hfree => exact h.fill_of_free hpushes hopen hfree
  · obtain ⟨later, c', hrun, hfollows⟩ :=
      h.follows_run (show f.pushes p = [] ++ c :: earlier from hpushes) more
    exact ⟨later, c', hrun, hfollows.data, hfollows.count, hfollows.returned hmore⟩

/-- A sink that keeps nothing. -/
instance : BlockSink Unit where
  write _ _ := (.written, ())

-- Two producers fill the blocks in turn, a byte each, and one of them finds none free. The other
-- goes on with the two that a reception frees, and its next step ends its call as well.
theorem run_ofSink_cut_short :
    let events : List Event :=
      [.offer 0 (List.replicate 20 0xA0), .offer 1 (List.replicate 20 0xB1)] ++
        (List.replicate 16 [.fill 0, .fill 1]).flatten ++
          [.fill 0, .receive 2, .fill 1, .fill 1]
    let f := (start (ChunkStream.ofSink () 1 1)).run events
    let short : Push := ⟨List.replicate 20 0xA0, 16, some []⟩
    let waiting : Push := ⟨List.replicate 20 0xB1, 18, none⟩
    f.pushes 0 = [short] ∧ f.pushes 1 = [waiting] ∧ f.received = [0xA0, 0xB1] ∧
    takenFrom (f.before ++ f.since) 0 = List.replicate 16 0xA0 ∧
    takenFrom (f.before ++ f.since) 1 = List.replicate 18 0xB1 ∧
    short.stopped = some [] ∧
    f.step (.fill 1) = { f with
      pushes := Function.update f.pushes 1 [{ waiting with stopped := some [] }] } ∧
    ∀ more : List Event, 2 ≤ more.countP (Event.isFill 1) →
      ∃ later c, (f.run more).pushes 1 = later ++ [c] ∧ c.data = waiting.data ∧ 18 ≤ c.count ∧
        c.returned := by
  intro events f short waiting
  have hshort : f.pushes 0 = [short] := by decide +kernel
  have hwaiting : f.pushes 1 = [waiting] := by decide +kernel
  have hfull : f.stream.inbox.pool.free = [] := by decide +kernel
  obtain ⟨-, -, -, -, -, hlog, hfill, hreturns, -⟩ := run_ofSink () 1 1 events
  obtain ⟨htaken, -, heach⟩ := hlog 0
  have hother := (hlog 1).1
  have hstep := hfill 1 waiting [] hwaiting (by decide)
  rw [hshort] at htaken heach
  rw [hwaiting] at hother
  rw [if_pos hfull] at hstep
  exact ⟨hshort, hwaiting, by decide +kernel, htaken, hother,
    (heach short List.mem_cons_self).2 (by decide) (by decide), hstep,
    hreturns 1 waiting [] hwaiting⟩

end Feed

end Acquisition
