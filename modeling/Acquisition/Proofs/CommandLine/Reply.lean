import Mathlib
import Acquisition.CommandLine.Reply
import Acquisition.Proofs.Frame.Verdict
import Acquisition.Proofs.Reception.Backlog
import Acquisition.Proofs.Reception.Limit

/-!
# The reply in a stream

Waiting for a reply is a search among the candidates of what has been read (`search`). The search
goes on over the reads (`awaitFrom_eq_ok_iff`), and the candidates do not depend on where one read
ends and the next begins, so neither does the reply that is found (`await_eq_ok_iff`).
-/

namespace Acquisition

namespace CommandLine.Reply

/-! ## The search -/

/-- The reply among candidates. One that is malformed ends the search. -/
def search (seq : UInt8) : List Bytes → Except Fault (Option Frame)
  | [] => .ok none
  | wire :: rest =>
    match Frame.decode wire with
    | .error e => .error (.ofFrameError "bad reply" e)
    | .ok f => if isReplyTo seq f then .ok (some f) else search seq rest

variable {seq : UInt8} {f : Frame}

theorem search_append (first second : List Bytes) :
    search seq (first ++ second) =
      match search seq first with
      | .ok none => search seq second
      | found => found := by
  induction first with
  | nil => rfl
  | cons wire rest ih =>
    rw [List.cons_append, search, search]
    cases Frame.decode wire with
    | error e => rfl
    | ok g =>
      dsimp only
      split
      · rfl
      · exact ih

/-- A candidate that the search goes past. -/
def PassedOver (seq : UInt8) (wire : Bytes) : Prop :=
  ∃ g, Frame.decode wire = .ok g ∧ (Command.isUnsolicited g.command = true ∨ g.seq ≠ seq)

theorem isReplyTo_iff :
    isReplyTo seq f = true ↔ f.seq = seq ∧ Command.isUnsolicited f.command = false := by
  simp [isReplyTo]

theorem not_isReplyTo_iff :
    ¬ isReplyTo seq f = true ↔ Command.isUnsolicited f.command = true ∨ f.seq ≠ seq := by
  rw [isReplyTo_iff, not_and_or, or_comm, Bool.not_eq_false]

theorem search_eq_some_iff {candidates : List Bytes} :
    search seq candidates = .ok (some f) ↔
      ∃ before wire after, candidates = before ++ wire :: after ∧ Frame.decode wire = .ok f ∧
        f.seq = seq ∧ Command.isUnsolicited f.command = false ∧
        ∀ c ∈ before, PassedOver seq c := by
  constructor
  · intro h
    induction candidates with
    | nil => cases h
    | cons wire rest ih =>
      rw [search] at h
      cases hdecode : Frame.decode wire with
      | error e =>
        rw [hdecode] at h
        cases h
      | ok g =>
        rw [hdecode] at h
        dsimp only at h
        split at h
        · rename_i hreply
          cases h
          obtain ⟨hseq, hcommand⟩ := isReplyTo_iff.mp hreply
          exact ⟨[], wire, rest, rfl, hdecode, hseq, hcommand, nofun⟩
        · rename_i hother
          obtain ⟨before, found, after, rfl, hfound, hseq, hcommand, hbefore⟩ := ih h
          have hpassed : PassedOver seq wire := ⟨g, hdecode, not_isReplyTo_iff.mp hother⟩
          exact ⟨wire :: before, found, after, rfl, hfound, hseq, hcommand,
            List.forall_mem_cons.mpr ⟨hpassed, hbefore⟩⟩
  · rintro ⟨before, wire, after, rfl, hdecode, hseq, hcommand, hbefore⟩
    induction before with
    | nil =>
      rw [List.nil_append, search, hdecode]
      exact if_pos (isReplyTo_iff.mpr ⟨hseq, hcommand⟩)
    | cons first rest ih =>
      obtain ⟨⟨g, hfirst, hother⟩, hrest⟩ := List.forall_mem_cons.mp hbefore
      rw [List.cons_append, search, hfirst]
      dsimp only
      rw [if_neg (not_isReplyTo_iff.mpr hother)]
      exact ih hrest

-- What is too short to be a frame is no reply.
theorem search_append_short {last : Bytes} (hlast : last.length < 10) (candidates : List Bytes) :
    search seq (candidates ++ [last]) = .ok (some f) ↔ search seq candidates = .ok (some f) := by
  have hdecode : Frame.decode last = .error .lengthMismatch := Frame.decode_of_short hlast
  rw [search_append]
  cases hfound : search seq candidates with
  | error e => rfl
  | ok found =>
    cases found with
    | some g => rfl
    | none =>
      dsimp only
      rw [search, hdecode]
      constructor <;> intro h <;> cases h

-- The reply that a receiver finds, if it drops nothing, is that of the stream.
theorem search_receive {rx : Receiver} {room : Nat} {chunks : List Bytes} (hchunks : chunks ≠ [])
    (hall : (rx.receive room chunks).2.dropped = rx.dropped) :
    search seq (rx.receive room chunks).1 = .ok (some f) ↔
      search seq (Scan.cut (rx.limit room) (rx.ring.toList ++ chunks.flatten)).1 =
        .ok (some f) := by
  rcases Receiver.cut_eq_receive (.inl hchunks) hall with hcut | ⟨last, hlength, hcut⟩
  · rw [hcut]
  · rw [hcut, search_append_short (by omega)]

/-! ## Reads -/

/-- The bytes that a read brings. -/
def brought : ReadResult → Bytes
  | .ok bytes => bytes
  | .error _ => []

/-- A read in the course of a stream: some bytes, or an error after which one reads on. -/
inductive GoesOn : ReadResult → Prop
  | bytes {bytes : Bytes} (hpos : 1 ≤ bytes.length) (hsize : bytes.length ≤ readSize) :
    GoesOn (.ok bytes)
  | passing {e : SystemError}
      (hkind : e.kind = .wouldBlock ∨ e.kind = .timedOut ∨ e.kind = .interrupted) :
    GoesOn (.error e)

/-- A read at which a stream ends: no bytes, or any other error. -/
inductive Ends : ReadResult → Prop
  | closed : Ends (.ok [])
  | failed {e : SystemError}
      (hkind : ¬ (e.kind = .wouldBlock ∨ e.kind = .timedOut ∨ e.kind = .interrupted)) :
    Ends (.error e)

theorem GoesOn.length_brought {read : ReadResult} (h : GoesOn read) :
    (brought read).length ≤ readSize := by
  cases h with
  | bytes _ hsize => exact hsize
  | passing => exact Nat.zero_le _

theorem Ends.brought {read : ReadResult} (h : Ends read) : brought read = [] := by
  cases h <;> rfl

theorem takeIn_eq_ok {rx rx' : Receiver} {read : ReadResult} (h : takeIn rx read = .ok rx') :
    rx' = (rx.feed (brought read)).2 := by
  rw [takeIn.eq_def] at h
  split at h
  · cases h
  · cases h
    rfl
  · split at h
    · cases h
      exact (Receiver.feed_nil _).symm
    · cases h

theorem isPassing_iff {e : SystemError} :
    isPassing e = true ↔ e.kind = .wouldBlock ∨ e.kind = .timedOut ∨ e.kind = .interrupted := by
  rw [isPassing]
  cases e.kind <;> simp

theorem GoesOn.takeIn {read : ReadResult} (h : GoesOn read) (rx : Receiver) :
    takeIn rx read = .ok (rx.feed (brought read)).2 := by
  cases h with
  | @bytes bytes hpos =>
    cases bytes with
    | nil => cases hpos
    | cons b rest => rfl
  | passing hkind =>
    rw [Reply.takeIn, if_pos (isPassing_iff.mpr hkind), brought, Receiver.feed_nil]

theorem Ends.takeIn {read : ReadResult} (h : Ends read) (rx : Receiver) :
    ∃ e, takeIn rx read = .error e := by
  cases h with
  | closed => exact ⟨_, rfl⟩
  | failed hkind => exact ⟨_, if_neg (mt isPassing_iff.mp hkind)⟩

/-! ## The wait -/

-- The look at what has arrived is a search among the candidates of a drain.
theorem next?_spec (seq : UInt8) (rx : Receiver) :
    (next? seq rx).1 = search seq (rx.drain Frame.maxSize).1 ∧
      (search seq (rx.drain Frame.maxSize).1 = .ok none →
        (next? seq rx).2 = (rx.drain Frame.maxSize).2) ∧
      (next? seq rx).2.dropped = rx.dropped := by
  have hkept (rx rx' : Receiver) (found : Option Bytes)
      (h : rx.extract Frame.maxSize = (found, rx')) : rx'.dropped = rx.dropped := by
    rw [← rx.dropped_extract Frame.maxSize, h]
  fun_induction next? seq rx with
  | case1 rx rx' h =>
    rw [Receiver.drain_eq_of_none h]
    exact ⟨rfl, fun _ => rfl, hkept rx rx' none h⟩
  | case2 rx wire rx' h e hdecode =>
    rw [Receiver.drain_eq_of_some h, search, hdecode]
    exact ⟨rfl, nofun, hkept rx rx' wire h⟩
  | case3 rx wire rx' h g hdecode hreply =>
    rw [Receiver.drain_eq_of_some h, search, hdecode]
    dsimp only
    rw [if_pos hreply]
    exact ⟨rfl, nofun, hkept rx rx' wire h⟩
  | case4 rx wire rx' h g hdecode hother ih =>
    rw [Receiver.drain_eq_of_some h, search, hdecode]
    dsimp only
    rw [if_neg hother]
    exact ⟨ih.1, ih.2.1, ih.2.2.trans (hkept rx rx' wire h)⟩

-- The wait over one read more.
theorem awaitFrom_cons (seq : UInt8) (rx : Receiver) (read : ReadResult) (rest : List ReadResult) :
    awaitFrom seq rx (read :: rest) =
      match search seq (rx.drain Frame.maxSize).1 with
      | .error e => (.error e, (next? seq rx).2)
      | .ok (some f) => (.ok f, (next? seq rx).2)
      | .ok none =>
        match takeIn (rx.drain Frame.maxSize).2 read with
        | .error e => (.error e, (rx.drain Frame.maxSize).2)
        | .ok rx => awaitFrom seq rx rest := by
  obtain ⟨hsearch, hdrained, -⟩ := next?_spec seq rx
  rw [awaitFrom.eq_def, ← hsearch]
  rw [← hsearch] at hdrained
  rcases hnext : next? seq rx with ⟨e | found, rx'⟩
  · rfl
  · cases found with
    | some f => rfl
    | none =>
      rw [hnext] at hdrained
      obtain rfl : rx' = (rx.drain Frame.maxSize).2 := hdrained rfl
      rfl

-- The search goes on over the reads, until the stream ends.
theorem awaitFrom_eq_ok_iff {reads : List ReadResult} {last : ReadResult} {rx : Receiver}
    (hreads : ∀ read ∈ reads, GoesOn read) (hlast : Ends last) :
    (awaitFrom seq rx (reads ++ [last])).1 = .ok f ↔
      search seq (rx.receive Frame.maxSize ([] :: reads.map brought)).1 = .ok (some f) := by
  induction reads generalizing rx with
  | nil =>
    obtain ⟨e, hend⟩ := hlast.takeIn (rx.drain Frame.maxSize).2
    rw [List.nil_append, awaitFrom_cons, hend, Receiver.receive_nil_cons, List.map_nil,
      Receiver.receive, List.append_nil]
    cases search seq (rx.drain Frame.maxSize).1 with
    | error e => constructor <;> intro h <;> cases h
    | ok found =>
      cases found with
      | some g => constructor <;> intro h <;> cases h <;> rfl
      | none => constructor <;> intro h <;> cases h
  | cons read rest ih =>
    obtain ⟨hread, hrest⟩ := List.forall_mem_cons.mp hreads
    rw [List.cons_append, awaitFrom_cons, hread.takeIn, Receiver.receive_nil_cons, List.map_cons,
      search_append]
    cases search seq (rx.drain Frame.maxSize).1 with
    | error e => constructor <;> intro h <;> cases h
    | ok found =>
      cases found with
      | some g => constructor <;> intro h <;> cases h <;> rfl
      | none =>
        dsimp only
        rw [ih hrest, Receiver.receive_nil_cons, Receiver.receive_cons]

-- A receiver that drops none of the reads drops nothing in the course of the wait.
theorem dropped_awaitFrom {reads : List ReadResult} {rx : Receiver}
    (hall : (rx.receive Frame.maxSize ([] :: reads.map brought)).2.dropped = rx.dropped) :
    (awaitFrom seq rx reads).2.dropped = rx.dropped := by
  induction reads generalizing rx with
  | nil =>
    have hlook : (awaitFrom seq rx []).2 = (next? seq rx).2 := by
      rw [awaitFrom.eq_def]
      rcases next? seq rx with ⟨_ | _ | _, _⟩ <;> rfl
    rw [hlook]
    exact (next?_spec seq rx).2.2
  | cons read rest ih =>
    rw [awaitFrom_cons]
    split
    · exact (next?_spec seq rx).2.2
    · exact (next?_spec seq rx).2.2
    · have hdrained := Receiver.dropped_drain rx Frame.maxSize
      split
      · exact hdrained
      · rename_i rx' htaken
        obtain rfl := takeIn_eq_ok htaken
        have hrest : (((rx.drain Frame.maxSize).2.feed (brought read)).2.receive Frame.maxSize
            ([] :: rest.map brought)).2 =
              (rx.receive Frame.maxSize ([] :: (read :: rest).map brought)).2 := by
          rw [Receiver.receive_nil_cons, Receiver.receive_nil_cons, List.map_cons,
            Receiver.receive_cons]
        have hfed := Receiver.dropped_feed (rx.drain Frame.maxSize).2 (brought read)
        have hmore := Receiver.dropped_le_receive
          ((rx.drain Frame.maxSize).2.feed (brought read)).2 Frame.maxSize ([] :: rest.map brought)
        rw [← hrest] at hall
        have hsame : ((rx.drain Frame.maxSize).2.feed (brought read)).2.dropped = rx.dropped := by
          omega
        rw [ih (hall.trans hsame.symm), hsame]

/-! ## The stream -/

/-- What a receiver with room for all the bytes cuts out of them. -/
def candidates (bytes : Bytes) : List Bytes :=
  let rx := Receiver.ofCapacity (bytes.length + 1) Frame.maxSize
  ((rx.feed bytes).2.drain Frame.maxSize).1

theorem search_candidates (bytes : Bytes) :
    search seq (candidates bytes) = .ok (some f) ↔
      search seq (Scan.cut Frame.maxSize bytes).1 = .ok (some f) := by
  let rx := Receiver.ofCapacity (bytes.length + 1) Frame.maxSize
  have hroom : bytes.length ≤ rx.ring.capacity := by
    have hsize : rx.ring.size = max (bytes.length + 1) 2 := Ring.size_ofSize _
    rw [Ring.capacity]
    omega
  have hdropped : (rx.receive Frame.maxSize [bytes]).2.dropped = rx.dropped := by
    rw [Receiver.receive_singleton, Receiver.dropped_drain,
      Receiver.dropped_feed_of_empty (Ring.available_ofSize _) hroom]
  have hempty : rx.ring.toList = [] := Ring.toList_ofSize _
  have hsearch := @search_receive seq f rx Frame.maxSize [bytes] (List.cons_ne_nil _ _) hdropped
  rw [hempty, List.nil_append, List.flatten_singleton, Receiver.receive_singleton] at hsearch
  exact hsearch

-- Beside the largest frame the receiver has room for a whole read.
theorem dropped_receive_reads {reads : List ReadResult}
    (hreads : ∀ read ∈ reads, (brought read).length ≤ readSize) :
    (receiver.receive Frame.maxSize ([] :: reads.map brought)).2.dropped = receiver.dropped := by
  have hsize : receiver.ring.size = 65535 := Ring.size_ofSize _
  have hlimit : receiver.limit Frame.maxSize = 8192 := rfl
  have hempty : receiver.ring.available = 0 := Ring.available_ofSize _
  apply Receiver.dropped_receive_of_room
  · decide
  · omega
  · intro chunk hchunk
    have hshort : chunk.length ≤ 4096 := by
      rcases List.mem_cons.mp hchunk with rfl | hchunk
      · exact Nat.zero_le _
      · obtain ⟨read, hread, rfl⟩ := List.mem_map.mp hchunk
        exact hreads read hread
    omega

theorem await_eq_ok_iff_search {reads : List ReadResult} {last : ReadResult}
    (hreads : ∀ read ∈ reads, GoesOn read) (hlast : Ends last) :
    await seq (reads ++ [last]) = .ok f ↔
      search seq (candidates (reads.flatMap brought)) = .ok (some f) := by
  have hall := dropped_receive_reads fun read hread => (hreads read hread).length_brought
  have hempty : receiver.ring.toList = [] := Ring.toList_ofSize _
  have hlimit : receiver.limit Frame.maxSize = Frame.maxSize := rfl
  rw [await, awaitFrom_eq_ok_iff hreads hlast, search_receive (List.cons_ne_nil _ _) hall, hempty,
    hlimit, search_candidates, List.nil_append, List.flatten_cons, List.nil_append,
    List.flatMap_def]

/-- Reads that go on until the stream ends find the reply `f` exactly if a candidate of all their
bytes is `f`, with the number waited for and not sent unprompted, and each candidate before it is a
frame that was sent unprompted or has another number. So what is found is the same however the
bytes are split into reads. The receiver never drops any of them, and no frame that was sent
unprompted is taken for the reply. -/
theorem await_eq_ok_iff {reads : List ReadResult} {last : ReadResult}
    (hreads : ∀ read ∈ reads, GoesOn read) (hlast : Ends last) :
    let stream := reads.flatMap brought
    (∀ f, await seq (reads ++ [last]) = .ok f ↔
      ∃ before wire after, candidates stream = before ++ wire :: after ∧
        Frame.decode wire = .ok f ∧ f.seq = seq ∧ Command.isUnsolicited f.command = false ∧
        ∀ c ∈ before, ∃ g, Frame.decode c = .ok g ∧
          (Command.isUnsolicited g.command = true ∨ g.seq ≠ seq)) ∧
    (∀ (others : List ReadResult) (ending : ReadResult), (∀ read ∈ others, GoesOn read) →
      Ends ending → others.flatMap brought = stream →
        ∀ f, await seq (others ++ [ending]) = .ok f ↔ await seq (reads ++ [last]) = .ok f) ∧
    (awaitFrom seq receiver (reads ++ [last])).2.dropped = 0 ∧
    ∀ f, await seq (reads ++ [last]) = .ok f → Command.isUnsolicited f.command = false := by
  intro stream
  refine ⟨fun f => ?_, fun others ending hothers hend hstream f => ?_, ?_, fun f hfound => ?_⟩
  · rw [await_eq_ok_iff_search hreads hlast, search_eq_some_iff]
    rfl
  · rw [await_eq_ok_iff_search hothers hend, await_eq_ok_iff_search hreads hlast, hstream]
  · have hall : ∀ read ∈ reads ++ [last], (brought read).length ≤ readSize := by
      intro read hread
      rcases List.mem_append.mp hread with hread | hread
      · exact (hreads read hread).length_brought
      · rw [List.mem_singleton.mp hread, hlast.brought]
        exact Nat.zero_le _
    exact dropped_awaitFrom (dropped_receive_reads hall)
  · rw [await_eq_ok_iff_search hreads hlast, search_eq_some_iff] at hfound
    obtain ⟨_, _, _, _, _, _, hcommand, _⟩ := hfound
    exact hcommand

-- A data packet with the number of the request, a passing error in the middle of it, the reply to
-- an earlier request, noise, and the reply cut in two.
theorem await_eq_ok_iff_split :
    let data : Frame := ⟨Command.dataPacket, 7, [0, 0]⟩
    let earlier : Frame := ⟨Command.ack, 6, []⟩
    let reply : Frame := ⟨Command.pong, 7, [1]⟩
    let reads : List ReadResult := [
      .ok (data.wire.take 5), .error ⟨.interrupted, "interrupted"⟩,
      .ok (data.wire.drop 5 ++ earlier.wire ++ [0x00, 0x13] ++ reply.wire.take 3),
      .ok (reply.wire.drop 3)]
    await 7 (reads ++ [.ok []]) = .ok reply ∧
      await 7 ([.ok (data.wire ++ earlier.wire ++ [0x00, 0x13] ++ reply.wire)] ++ [.ok []]) =
        .ok reply ∧
      (awaitFrom 7 receiver (reads ++ [.ok []])).2.dropped = 0 := by
  intro data earlier reply reads
  have hreads : ∀ read ∈ reads, GoesOn read := by
    refine List.forall_mem_cons.mpr ⟨.bytes (by decide) (by decide), ?_⟩
    refine List.forall_mem_cons.mpr ⟨.passing (.inr (.inr rfl)), ?_⟩
    refine List.forall_mem_cons.mpr ⟨.bytes (by decide) (by decide), ?_⟩
    exact List.forall_mem_singleton.mpr (.bytes (by decide) (by decide))
  have hwhole : ∀ read ∈ [Except.ok (data.wire ++ earlier.wire ++ [0x00, 0x13] ++ reply.wire)],
      GoesOn read := List.forall_mem_singleton.mpr (.bytes (by decide) (by decide))
  obtain ⟨hfound, hsplit, hdropped, -⟩ := @await_eq_ok_iff 7 reads (.ok []) hreads .closed
  have hreply : await 7 (reads ++ [.ok []]) = .ok reply := by
    refine (hfound reply).mpr ⟨[data.wire, earlier.wire], reply.wire, [], by decide +kernel,
      by decide +kernel, rfl, rfl, ?_⟩
    refine List.forall_mem_cons.mpr ⟨⟨data, by decide +kernel, .inl rfl⟩, ?_⟩
    exact List.forall_mem_singleton.mpr ⟨earlier, by decide +kernel, .inr (by decide)⟩
  exact ⟨hreply, (hsplit _ _ hwhole .closed (by decide +kernel) reply).mpr hreply, hdropped⟩

end CommandLine.Reply

end Acquisition
