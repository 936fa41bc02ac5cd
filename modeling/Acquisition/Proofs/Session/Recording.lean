import Mathlib
import Acquisition.Session

/-!
# Runs and what goes over the link

`Link.Recorded` is any link with a record of what it received and of what became of the bytes that
it was given to send. A session does not behave differently for being recorded
(`unrecorded_pollAll`), so what is shown of recorded sessions holds for sessions over every link.
-/

namespace Acquisition

namespace Link

/-- Bytes that were given to a link, and how many of them it accepted. -/
structure Attempt where
  data : Bytes
  result : Except LinkError Nat

namespace Attempt

def accepted (a : Attempt) : Bytes :=
  match a.result with
  | .ok count => a.data.take count
  | .error _ => []

def failed (a : Attempt) : Bool :=
  match a.result with
  | .ok _ => false
  | .error _ => true

/-- All of the data was accepted. -/
def Whole (a : Attempt) : Prop := ∃ count, a.result = .ok count ∧ a.data.length ≤ count

instance : DecidablePred Whole := fun a =>
  match h : a.result with
  | .ok count => decidable_of_iff (a.data.length ≤ count) (by simp [Whole, h])
  | .error _ => isFalse (by simp [Whole, h])

theorem accepted_of_le {data : Bytes} {count : Nat} (h : data.length ≤ count) :
    accepted ⟨data, .ok count⟩ = data :=
  List.take_of_length_le h

theorem whole_of_mem_dropLast_cons {a : Attempt} {attempts : List Attempt} (h : a.Whole)
    (hmore : ∀ b ∈ attempts.dropLast, b.Whole) : ∀ b ∈ (a :: attempts).dropLast, b.Whole := by
  cases attempts with
  | nil => simp
  | cons c rest =>
    rw [List.dropLast_cons_cons]
    exact List.forall_mem_cons.mpr ⟨h, hmore⟩

end Attempt

structure Recorded (σ : Type) where
  link : σ
  /-- What each reception gave. -/
  receptions : List (Except LinkError Bytes)
  attempts : List Attempt

namespace Recorded

variable {σ : Type}

def ofLink (link : σ) : Recorded σ := { link, receptions := [], attempts := [] }

instance [Link σ] : Link (Recorded σ) where
  name := Link.name σ
  acquire l :=
    let (result, link) := Link.acquire l.link
    (result, { l with link })
  attach l :=
    let (result, link) := Link.attach l.link
    (result, { l with link })
  receive l max :=
    let (result, link) := Link.receive l.link max
    (result, { l with link, receptions := l.receptions ++ [result] })
  send l data :=
    let (result, link) := Link.send l.link data
    (result, { l with link, attempts := l.attempts ++ [⟨data, result⟩] })
  release l := { l with link := Link.release l.link }

/-- The bytes that each reception gave. A failed one gave none. -/
def arrivals (l : Recorded σ) : List Bytes :=
  l.receptions.map fun
    | .ok bytes => bytes
    | .error _ => []

theorem arrivals_of_receptions {l l' : Recorded σ} {arrived : Bytes}
    (h : l'.receptions = l.receptions ++ [.ok arrived]) :
    l'.arrivals = l.arrivals ++ [arrived] := by
  rw [arrivals, h, List.map_append]
  rfl

/-- All bytes that the link has accepted. -/
def accepted (l : Recorded σ) : Bytes := l.attempts.flatMap Attempt.accepted

variable [Link σ]

-- A reception is written down.
theorem record_of_receive {l l' : Recorded σ} {max : Nat} {result : Except LinkError Bytes}
    (h : Link.receive l max = (result, l')) :
    l'.receptions = l.receptions ++ [result] ∧ l'.attempts = l.attempts := by
  have hrecord : (Link.receive l max).2.receptions = l.receptions ++ [(Link.receive l max).1] ∧
    (Link.receive l max).2.attempts = l.attempts := ⟨rfl, rfl⟩
  rw [h] at hrecord
  exact hrecord

theorem send_eq (l : Recorded σ) (data : Bytes) :
    Link.send l data =
      ((Link.send l.link data).1, {
        link := (Link.send l.link data).2
        receptions := l.receptions
        attempts := l.attempts ++ [⟨data, (Link.send l.link data).1⟩] }) := rfl

-- An attempt is written down.
theorem record_of_send {l l' : Recorded σ} {data : Bytes} {result : Except LinkError Nat}
    (h : Link.send l data = (result, l')) :
    l'.receptions = l.receptions ∧ l'.attempts = l.attempts ++ [⟨data, result⟩] := by
  rw [send_eq] at h
  cases h
  exact ⟨rfl, rfl⟩

end Recorded

end Link

namespace Session

variable {σ : Type}

theorem Config.maxFrameSize_le {c : Config} (h : c.validate = .ok ()) :
    c.maxFrameSize ≤ Frame.maxSize := by
  rw [validate] at h
  split at h
  · cases h
  · rename_i hrange
    exact Nat.le_of_not_lt fun hlarge => hrange (.inr hlarge)

-- Creation succeeds for configurations that both pass their checks, and leaves everything
-- empty.
theorem create_ok {link : σ} {config : Config} {deviceConfig : Device.Config}
    {entropy : Random.Stream} {s : Session σ}
    (h : create link config deviceConfig entropy = .ok s) :
    ∃ device, config.validate = .ok () ∧ Device.powerOn deviceConfig entropy = .ok device ∧
      s = {
        link, config, device
        rx := Receiver.ofCapacity config.rxCapacity config.maxFrameSize
        tx := RecordQueue.ofCapacity config.txCapacity
        pending := []
        stats := {} } := by
  rw [create] at h
  split at h
  · cases h
  · rename_i hconfig
    rcases hpower : Device.powerOn deviceConfig entropy with e | device
    · rw [hpower] at h
      cases h
    · rw [hpower] at h
      cases h
      exact ⟨device, hconfig, rfl, rfl⟩

/-- Polls at each of the times, whether polls fail or not. -/
def pollAll [Link σ] (s : Session σ) : List Nat → Session σ
  | [] => s
  | now :: rest => pollAll (s.poll now).2 rest

theorem pollAll_append [Link σ] (s : Session σ) (first second : List Nat) :
    s.pollAll (first ++ second) = (s.pollAll first).pollAll second := by
  induction first generalizing s with
  | nil => rfl
  | cons now rest ih => exact ih _

/-! ## Steps of a poll -/

section

variable [Link σ] {s : Session σ} {link : σ} {tx : RecordQueue} {poll : PollStats} {now : Nat}

theorem poll_of_error {e : LinkError}
    (h : Link.receive s.link s.config.receiveChunk = (.error e, link)) :
    s.poll now = (.error (.link e), { s with link }) := by
  rw [Session.poll, h]

theorem poll_of_arrival {arrived : Bytes}
    (h : Link.receive s.link s.config.receiveChunk = (.ok arrived, link)) :
    s.poll now =
      match sendOut (dispatch { s with link } arrived now).2
        (dispatch { s with link } arrived now).1 with
      | (.error e, s) => (.error (.link e), s)
      | (.ok moved, s) => (.ok moved, { s with stats := s.stats.absorb moved }) := by
  rewrite [Session.poll, h]
  rfl

theorem transmit_of_empty (h : s.tx.dequeue Frame.maxSize = (.ok none, tx)) :
    s.transmit poll = (.ok poll, { s with tx }) := by
  rw [transmit]
  split <;> rename_i heq <;> rw [h] at heq <;> cases heq
  rfl

theorem transmit_of_large {e : FrameError} (h : s.tx.dequeue Frame.maxSize = (.error e, tx)) :
    s.transmit poll = transmit { s with tx } poll := by
  rw [transmit]
  split <;> rename_i heq <;> rw [h] at heq <;> cases heq
  rfl

theorem transmit_of_record {frame : Bytes}
    (h : s.tx.dequeue Frame.maxSize = (.ok (some frame), tx)) :
    s.transmit poll =
      match Link.send s.link frame with
      | (.error e, link) => (.error e, { s with tx, link })
      | (.ok sent, link) =>
        let poll := { poll with bytesSent := poll.bytesSent + sent }
        if sent < frame.length then (.ok poll, { s with tx, link, pending := frame.drop sent })
        else transmit { s with tx, link } { poll with framesSent := poll.framesSent + 1 } := by
  rw [transmit]
  split <;> rename_i heq <;> rw [h] at heq <;> cases heq
  rfl

end

/-! ## Without the record -/

/-- The session without the record of its link. -/
def unrecorded (s : Session (Link.Recorded σ)) : Session σ :=
  { link := s.link.link, config := s.config, device := s.device, rx := s.rx, tx := s.tx,
    pending := s.pending, stats := s.stats }

variable [Link σ]

theorem unrecorded_flush (s : Session (Link.Recorded σ)) (p : PollStats) :
    s.unrecorded.flush p = ((s.flush p).1, (s.flush p).2.unrecorded) := by
  rw [flush, flush, Link.Recorded.send_eq]
  change (if s.pending = [] then _ else
    match Link.send s.link.link s.pending with | (.error _, _) => _ | (.ok _, _) => _) = _
  split
  · rfl
  · rcases Link.send s.link.link s.pending with ⟨_ | sent, link⟩ <;> rfl

theorem unrecorded_transmit (s : Session (Link.Recorded σ)) (p : PollStats) :
    s.unrecorded.transmit p = ((s.transmit p).1, (s.transmit p).2.unrecorded) := by
  have hsame (s : Session (Link.Recorded σ)) (data : Bytes) : Link.send s.unrecorded.link data =
      ((Link.send s.link data).1, (Link.send s.link data).2.link) := rfl
  fun_induction transmit s p with
  | case1 s p tx h => exact transmit_of_empty (s := s.unrecorded) h
  | case2 s p tx e h ih => exact (transmit_of_large (s := s.unrecorded) h).trans ih
  | case3 s p frame tx h e link hsend =>
    rw [transmit_of_record (s := s.unrecorded) h, hsame, hsend]
    rfl
  | case4 s p frame tx h sent link hsend p' hshort =>
    rw [transmit_of_record (s := s.unrecorded) h, hsame, hsend]
    exact if_pos hshort
  | case5 s p frame tx h sent link hsend p' hshort ih =>
    rw [transmit_of_record (s := s.unrecorded) h, hsame, hsend]
    exact (if_neg hshort).trans ih

theorem unrecorded_sendOut (s : Session (Link.Recorded σ)) (p : PollStats) :
    s.unrecorded.sendOut p = ((s.sendOut p).1, (s.sendOut p).2.unrecorded) := by
  rw [sendOut, sendOut, unrecorded_flush]
  rcases s.flush p with ⟨_ | p, s⟩
  · rfl
  · dsimp only
    rw [unrecorded_transmit]
    change (if s.pending = [] then _ else _) = _
    split <;> rfl

omit [Link σ] in
theorem unrecorded_dispatch (s : Session (Link.Recorded σ)) (arrived : Bytes) (now : Nat) :
    s.unrecorded.dispatch arrived now =
      ((s.dispatch arrived now).1, (s.dispatch arrived now).2.unrecorded) := by
  simp only [dispatch, unrecorded]

-- A poll does the same whether or not its link is recorded.
theorem unrecorded_poll (s : Session (Link.Recorded σ)) (now : Nat) :
    s.unrecorded.poll now = ((s.poll now).1, (s.poll now).2.unrecorded) := by
  have hsame : Link.receive s.unrecorded.link s.config.receiveChunk =
      ((Link.receive s.link s.config.receiveChunk).1,
        (Link.receive s.link s.config.receiveChunk).2.link) := rfl
  rcases hreceive : Link.receive s.link s.config.receiveChunk with ⟨e | arrived, link⟩
  · rw [hreceive] at hsame
    rw [poll_of_error hreceive, poll_of_error (s := s.unrecorded) hsame]
    rfl
  · rw [hreceive] at hsame
    rw [poll_of_arrival hreceive, poll_of_arrival (s := s.unrecorded) hsame]
    change (match sendOut (dispatch (unrecorded { s with link }) arrived now).2
      (dispatch (unrecorded { s with link }) arrived now).1 with
      | (.error _, _) => _ | (.ok _, _) => _) = _
    rw [unrecorded_dispatch, unrecorded_sendOut]
    rcases sendOut _ _ with ⟨_ | moved, s⟩ <;> rfl

theorem unrecorded_pollAll (s : Session (Link.Recorded σ)) (times : List Nat) :
    s.unrecorded.pollAll times = (s.pollAll times).unrecorded := by
  induction times generalizing s with
  | nil => rfl
  | cons now rest ih => rw [pollAll, pollAll, unrecorded_poll, ih]

end Session

end Acquisition
