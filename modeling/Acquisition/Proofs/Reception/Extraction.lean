import Mathlib
import Acquisition.Bytes.Lemmas
import Acquisition.Proofs.Reception.Chunking

/-!
# Extraction as a search by index

The look of a receiver is the search for the least index of the buffered bytes at which a head
marker stands with an acceptable length (`start`). What is cut out begins there, what stands before
is given up, and so the frames of a drain are slices of the buffered bytes, one after the other
(`extractInto_eq`).
-/

namespace Acquisition

namespace Scan

variable {limit p : Nat} {b : Bytes}

/-! ## Heads -/

/-- The size of a candidate that begins at `p`. -/
def sizeAt (b : Bytes) (p : Nat) : Nat := 6 + Frame.fieldAt b (p + 2)

/-- The bytes of a candidate that begins at `p`. -/
def slice (b : Bytes) (p : Nat) : Bytes := (b.drop p).take (sizeAt b p)

/-- A head marker stands at `p`, and its length is acceptable or is not there yet. -/
def HeadAt (limit : Nat) (b : Bytes) (p : Nat) : Prop :=
  b[p]? = some 0xAA ∧ b[p + 1]? = some 0x55 ∧ (b.length < p + 4 ∨ sizeAt b p ≤ limit)

instance : Decidable (HeadAt limit b p) := inferInstanceAs (Decidable (_ ∧ _))

/-- The least index of a head, or that of the last byte if there is none. -/
def start (limit : Nat) (b : Bytes) : Nat :=
  ((List.range b.length).find? (HeadAt limit b ·)).getD (b.length - 1)

theorem sizeAt_drop (b : Bytes) (pos p : Nat) : sizeAt (b.drop pos) p = sizeAt b (pos + p) := by
  rw [sizeAt, Frame.fieldAt, List.drop_drop]
  rfl

theorem slice_drop (b : Bytes) (pos p : Nat) : slice (b.drop pos) p = slice b (pos + p) := by
  rw [slice, slice, sizeAt_drop, List.drop_drop]

theorem headAt_drop {pos : Nat} : HeadAt limit (b.drop pos) p ↔ HeadAt limit b (pos + p) := by
  have hlength : (b.drop pos).length < p + 4 ↔ b.length < pos + p + 4 := by
    rw [List.length_drop]
    omega
  rw [HeadAt, HeadAt, List.getElem?_drop, List.getElem?_drop, hlength, sizeAt_drop]
  rfl

-- What a suffix is free of, the whole is free of from there on.
theorem noise_of_drop {pos gone : Nat} (h : ∀ i < gone, ¬ HeadAt limit (b.drop pos) i) :
    ∀ i, pos ≤ i → i < pos + gone → ¬ HeadAt limit b i := by
  intro i hi hgone
  have hgap := h (i - pos) (by omega)
  rwa [headAt_drop, Nat.add_sub_cancel' hi] at hgap

theorem length_slice (h : p + sizeAt b p ≤ b.length) : (slice b p).length = sizeAt b p := by
  rw [slice, List.length_take_of_le]
  rw [List.length_drop]
  omega

theorem frameSize_drop_eq (b : Bytes) (p : Nat) : frameSize (b.drop p) = sizeAt b p := by
  rw [frameSize, Frame.fieldAt, List.drop_drop]
  rfl

-- A scan goes past everything but heads, as long as two bytes are there.
theorem headAt_iff : HeadAt limit b p ↔ p + 1 < b.length ∧ ¬ Skips limit (b.drop p) := by
  by_cases hp : p + 1 < b.length
  · have htwo : (b.drop p).take 2 = [b[p], b[p + 1]] := by
      rw [List.drop_eq_getElem_cons (by omega), List.drop_eq_getElem_cons hp]
      rfl
    have hmarker : (b.drop p).take 2 = Frame.head ↔ b[p] = 0xAA ∧ b[p + 1] = 0x55 := by
      rw [htwo, Frame.head, List.cons.injEq, List.cons.injEq]
      simp only [and_true]
    rw [Skips, frameSize_drop_eq, List.length_drop, ne_eq, hmarker, HeadAt,
      List.getElem?_eq_getElem (by omega), List.getElem?_eq_getElem hp, Option.some.injEq,
      Option.some.injEq]
    have hthere : 2 ≤ b.length - p := by omega
    have hlength : 4 ≤ b.length - p ↔ ¬ b.length < p + 4 := by omega
    have hlong : limit < sizeAt b p ↔ ¬ sizeAt b p ≤ limit := Nat.not_le.symm
    rw [hlength, hlong, and_iff_right hp, and_iff_right hthere, not_or, not_not, not_and_or,
      not_not, not_not, and_assoc]
  · refine iff_of_false (fun h => hp ?_) fun h => hp h.1
    exact (List.getElem?_eq_some_iff.mp h.2.1).1

theorem start_spec (limit : Nat) (b : Bytes) :
    (HeadAt limit b (start limit b) ∧ ∀ i < start limit b, ¬ HeadAt limit b i) ∨
      (∀ i, ¬ HeadAt limit b i) ∧ start limit b = b.length - 1 := by
  rw [start]
  cases hfind : (List.range b.length).find? (HeadAt limit b ·) with
  | some p =>
    obtain ⟨hhead, -, hleast⟩ := List.find?_range_eq_some.mp hfind
    exact .inl ⟨of_decide_eq_true hhead, by simpa using hleast⟩
  | none =>
    refine .inr ⟨fun i hi => ?_, rfl⟩
    have hlength := (headAt_iff.mp hi).1
    have hnone := List.find?_eq_none.mp hfind i (List.mem_range.mpr (by omega))
    exact hnone (decide_eq_true hi)

theorem not_headAt_of_lt_start {i : Nat} (h : i < start limit b) : ¬ HeadAt limit b i := by
  rcases start_spec limit b with ⟨-, hleast⟩ | ⟨hnone, -⟩
  · exact hleast i h
  · exact hnone i

theorem start_lt (h : b ≠ []) : start limit b < b.length := by
  have hpos : 0 < b.length := List.length_pos_of_ne_nil h
  rcases start_spec limit b with ⟨hhead, -⟩ | ⟨-, hlast⟩
  · exact Nat.lt_of_succ_lt (headAt_iff.mp hhead).1
  · omega

/-- The search stops where the look of a receiver does. -/
theorem stopsAt_start (h : b ≠ []) : StopsAt limit b (start limit b) := by
  have hinside : start limit b < b.length := start_lt h
  constructor
  · intro i hi
    by_contra hstop
    exact not_headAt_of_lt_start hi (headAt_iff.mpr ⟨by omega, hstop⟩)
  · rcases start_spec limit b with ⟨hhead, -⟩ | ⟨-, hlast⟩
    · exact (headAt_iff.mp hhead).2
    · intro hskips
      have htwo := hskips.1
      rw [List.length_drop] at htwo
      omega

/-! ## Slices -/

/-- Candidates that begin at `starts` are cut out of `b` from `pos` on, and the bytes from `kept` on
stay. No head is given up. -/
inductive Cuts (limit : Nat) (b : Bytes) : (pos : Nat) → (starts : List Nat) → (kept : Nat) → Prop
  | rest {pos kept : Nat} (hpos : pos ≤ kept) (hkept : kept ≤ b.length)
      (hnoise : ∀ i, pos ≤ i → i < kept → ¬ HeadAt limit b i) : Cuts limit b pos [] kept
  | slice {pos p kept : Nat} {starts : List Nat} (hpos : pos ≤ p)
      (hnoise : ∀ i, pos ≤ i → i < p → ¬ HeadAt limit b i) (hhead : HeadAt limit b p)
      (hmore : Cuts limit b (p + sizeAt b p) starts kept) : Cuts limit b pos (p :: starts) kept

variable {pos kept : Nat} {starts : List Nat}

theorem Cuts.kept_le (h : Cuts limit b pos starts kept) : kept ≤ b.length := by
  induction h with
  | rest _ hkept => exact hkept
  | slice _ _ _ _ ih => exact ih

theorem Cuts.length_le (h : Cuts limit b pos starts kept) : pos + 6 * starts.length ≤ kept := by
  induction h with
  | rest hpos => exact hpos
  | slice hpos _ _ _ ih =>
    rw [sizeAt] at ih
    rw [List.length_cons]
    omega

theorem Cuts.within (h : Cuts limit b pos starts kept) :
    ∀ s ∈ starts, pos ≤ s ∧ HeadAt limit b s ∧ s + sizeAt b s ≤ kept := by
  induction h with
  | rest => exact nofun
  | slice hpos _ hhead hmore ih =>
    have hrest := hmore.length_le
    refine List.forall_mem_cons.mpr ⟨⟨hpos, hhead, by omega⟩, fun s hs => ?_⟩
    obtain ⟨hs, hinside⟩ := ih s hs
    exact ⟨by omega, hinside⟩

theorem Cuts.pairwise (h : Cuts limit b pos starts kept) :
    starts.Pairwise fun s t => s + sizeAt b s ≤ t := by
  induction h with
  | rest => exact .nil
  | slice _ _ _ hmore ih => exact .cons (fun t ht => (hmore.within t ht).1) ih

theorem Cuts.exists_of_headAt (h : Cuts limit b pos starts kept) {i : Nat} (hpos : pos ≤ i)
    (hi : i < kept) (hhead : HeadAt limit b i) : ∃ s ∈ starts, s ≤ i ∧ i < s + sizeAt b s := by
  induction h with
  | rest _ _ hnoise => exact absurd hhead (hnoise i hpos hi)
  | @slice _ p _ _ _ hnoise _ _ ih =>
    by_cases hbefore : i < p
    · exact absurd hhead (hnoise i hpos hbefore)
    · by_cases hinside : i < p + sizeAt b p
      · exact ⟨p, List.mem_cons_self, Nat.le_of_not_lt hbefore, hinside⟩
      · obtain ⟨s, hs, hin⟩ := ih (Nat.le_of_not_lt hinside) hi
        exact ⟨s, List.mem_cons_of_mem _ hs, hin⟩

end Scan

namespace Receiver

/-- What becomes of a receiver that looks for a candidate. -/
theorem extract_eq_start (rx : Receiver) (room : Nat) (h : minScan ≤ rx.ring.toList.length) :
    let b := rx.ring.toList
    let p := Scan.start (rx.limit room) b
    rx.extract room =
      if Scan.HeadAt (rx.limit room) b p ∧ p + 4 ≤ b.length ∧ p + Scan.sizeAt b p ≤ b.length then
        (some (Scan.slice b p), { rx with ring := rx.ring.advance (p + Scan.sizeAt b p) })
      else (none, { rx with ring := rx.ring.advance p }) := by
  intro b p
  have hlong : ¬ rx.ring.available < minScan := by
    rw [← Ring.length_toList]
    exact Nat.not_lt_of_le h
  have hstop : Scan.StopsAt (rx.limit room) b p :=
    Scan.stopsAt_start (List.ne_nil_of_length_pos (Nat.lt_of_lt_of_le (by decide) h))
  have hwhole : Scan.Whole (b.drop p) ↔ Scan.HeadAt (rx.limit room) b p ∧ p + 4 ≤ b.length ∧
      p + Scan.sizeAt b p ≤ b.length := by
    have hhead : Scan.HeadAt (rx.limit room) b p ↔ p + 1 < b.length := by
      rw [Scan.headAt_iff, and_iff_left hstop.stops]
    rw [Scan.Whole, Scan.frameSize_drop_eq, List.length_drop, hhead, Scan.sizeAt]
    omega
  rw [extract_eq, if_neg hlong, hstop.ofList_eq, Scan.frameSize_drop_eq]
  by_cases hthere : Scan.Whole (b.drop p)
  · rw [if_pos hthere, if_pos (hwhole.mp hthere)]
    rfl
  · rw [if_neg hthere, if_neg (mt hwhole.mpr hthere)]

theorem extract_of_short {rx : Receiver} (h : rx.ring.toList.length < minScan) (room : Nat) :
    rx.extract room = (none, rx) := by
  rw [Ring.length_toList] at h
  rw [extract, if_pos h]

theorem extractInto_of_short {rx : Receiver} {scratch : Bytes}
    (h : rx.ring.toList.length < minScan) : rx.extractInto scratch = (none, scratch, rx) := by
  rw [extractInto, extract_of_short h]

/-- What an extraction does to the buffer and to the ring. -/
theorem extractInto_eq_start (rx : Receiver) (scratch : Bytes)
    (h : minScan ≤ rx.ring.toList.length) :
    let b := rx.ring.toList
    let p := Scan.start (rx.limit scratch.length) b
    let size := Scan.sizeAt b p
    ∃ ring,
      if Scan.HeadAt (rx.limit scratch.length) b p ∧ p + 4 ≤ b.length ∧ p + size ≤ b.length then
        rx.extractInto scratch =
            (some size, Scan.slice b p ++ scratch.drop size, { rx with ring }) ∧
          ring.toList = b.drop (p + size)
      else rx.extractInto scratch = (none, scratch, { rx with ring }) ∧ ring.toList = b.drop p := by
  intro b p size
  rw [extractInto, extract_eq_start rx scratch.length h]
  by_cases hfound : Scan.HeadAt (rx.limit scratch.length) b p ∧ p + 4 ≤ b.length ∧
      p + size ≤ b.length
  · refine ⟨rx.ring.advance (p + size), ?_⟩
    rw [if_pos hfound, if_pos hfound]
    dsimp only
    rw [Bytes.overwrite_zero, Scan.length_slice hfound.2.2]
    exact ⟨rfl, Ring.toList_advance ..⟩
  · refine ⟨rx.ring.advance p, ?_⟩
    rw [if_neg hfound, if_neg hfound]
    exact ⟨rfl, Ring.toList_advance ..⟩

theorem consumed_of_extractInto {rx : Receiver} {scratch : Bytes}
    (h : (rx.extractInto scratch).1 ≠ none) :
    (rx.extractInto scratch).2.2.ring.toList.length + 6 ≤ rx.ring.toList.length := by
  by_cases hlong : minScan ≤ rx.ring.toList.length
  · obtain ⟨ring, hspec⟩ := rx.extractInto_eq_start scratch hlong
    split at hspec
    · rename_i hfound
      rw [hspec.1]
      dsimp only
      rw [hspec.2, List.length_drop]
      have hsize : 6 ≤ Scan.sizeAt rx.ring.toList
          (Scan.start (rx.limit scratch.length) rx.ring.toList) := Nat.le_add_right ..
      omega
    · rw [hspec.1] at h
      exact absurd rfl h
  · rw [extractInto_of_short (Nat.lt_of_not_le hlong)] at h
    exact absurd rfl h

/-! ## All candidates -/

variable {rx rx' : Receiver} {room : Nat}

theorem of_extract_some {frame : Bytes} (h : rx.extract room = (some frame, rx')) :
    let b := rx.ring.toList
    ∃ p, (∀ i < p, ¬ Scan.HeadAt (rx.limit room) b i) ∧ Scan.HeadAt (rx.limit room) b p ∧
      p + Scan.sizeAt b p ≤ b.length ∧ frame = Scan.slice b p ∧
      rx'.ring.toList = b.drop (p + Scan.sizeAt b p) ∧ rx'.limit room = rx.limit room := by
  by_cases hlong : minScan ≤ rx.ring.toList.length
  · rw [extract_eq_start rx room hlong] at h
    split at h
    · rename_i hfound
      cases h
      exact ⟨_, fun i => Scan.not_headAt_of_lt_start, hfound.1, hfound.2.2, rfl,
        Ring.toList_advance .., rfl⟩
    · cases h
  · rw [extract_of_short (Nat.lt_of_not_le hlong)] at h
    cases h

theorem of_extract_none (h : rx.extract room = (none, rx')) :
    ∃ kept ≤ rx.ring.toList.length, rx'.ring.toList = rx.ring.toList.drop kept ∧
      ∀ i < kept, ¬ Scan.HeadAt (rx.limit room) rx.ring.toList i := by
  by_cases hlong : minScan ≤ rx.ring.toList.length
  · rw [extract_eq_start rx room hlong] at h
    split at h
    · cases h
    · cases h
      have hsome := List.ne_nil_of_length_pos (Nat.lt_of_lt_of_le (by decide) hlong)
      exact ⟨_, (Scan.start_lt hsome).le, Ring.toList_advance ..,
        fun i => Scan.not_headAt_of_lt_start⟩
  · rw [extract_of_short (Nat.lt_of_not_le hlong)] at h
    cases h
    exact ⟨0, Nat.zero_le _, rfl, fun i hi => absurd hi (Nat.not_lt_zero i)⟩

theorem cuts_drain (rx : Receiver) (room : Nat) {b : Bytes} {pos : Nat} (hpos : pos ≤ b.length)
    (hb : rx.ring.toList = b.drop pos) :
    ∃ starts kept, Scan.Cuts (rx.limit room) b pos starts kept ∧
      (rx.drain room).1 = starts.map (Scan.slice b) ∧
      (rx.drain room).2.ring.toList = b.drop kept := by
  fun_induction drain rx room generalizing pos with
  | case1 rx frame rx' h rest rx'' hrest ih =>
    obtain ⟨p, hnoise, hhead, hwithin, rfl, hring, hlimit⟩ := of_extract_some h
    rw [hb] at hnoise
    rw [hb, Scan.headAt_drop] at hhead
    rw [hb, Scan.sizeAt_drop, List.length_drop] at hwithin
    rw [hb, Scan.sizeAt_drop, List.drop_drop, ← Nat.add_assoc] at hring
    obtain ⟨starts, kept, hcuts, hframes, hkept⟩ := ih (by omega) hring
    rw [hrest] at hframes hkept
    rw [hlimit] at hcuts
    refine ⟨(pos + p) :: starts, kept,
      .slice (Nat.le_add_right ..) (Scan.noise_of_drop hnoise) hhead hcuts, ?_, hkept⟩
    rw [List.map_cons, ← hframes, hb, Scan.slice_drop]
  | case2 rx rx' h =>
    obtain ⟨gone, hgone, hring, hnoise⟩ := of_extract_none h
    rw [hb] at hnoise
    rw [hb, List.length_drop] at hgone
    rw [hb, List.drop_drop] at hring
    exact ⟨[], pos + gone, .rest (Nat.le_add_right ..) (by omega) (Scan.noise_of_drop hnoise), rfl,
      hring⟩

-- A drain leaves nothing to cut out.
theorem extract_drain (rx : Receiver) (room : Nat) :
    ((rx.drain room).2.extract room).1 = none := by
  obtain ⟨-, hsettled, -⟩ := drain_spec rx room (Scan.tracks_start _ _)
  rcases hsettled with hshort | ⟨skipped, hwaiting⟩
  · rw [extract_of_short hshort]
  · rw [extract_eq, limit_drain, hwaiting]
    split <;> rfl

theorem extractInto_drain (rx : Receiver) (scratch : Bytes) :
    ((rx.drain scratch.length).2.extractInto scratch).1 = none := by
  have hnone := rx.extract_drain scratch.length
  rw [extractInto]
  split
  · rename_i heq
    rw [heq] at hnone
    cases hnone
  · rfl

/-- Fewer than 8 bytes are not looked at. In more, `p` is the least index of a head whose length is
acceptable or not there yet, and that of the last byte if there is none. A candidate at `p` that is
there to its end is copied to the front of the buffer and consumed with all before it; otherwise the
bytes from `p` on stay. So an extraction consumes 6 bytes at least, and a drain, which goes on until
nothing can be extracted, delivers as many slices of the bytes as that allows, one after the other.
Where bytes are neither in a slice nor stay there is no such head. -/
theorem extractInto_eq (rx : Receiver) (scratch : Bytes) :
    let b := rx.ring.toList
    let n := b.length
    let limit := min rx.maxFrame scratch.length
    let p := Scan.start limit b
    let size := Scan.sizeAt b p
    let drained := rx.drain scratch.length
    ((∃ i, Scan.HeadAt limit b i) → IsLeast {i | Scan.HeadAt limit b i} p) ∧
    ((∀ i, ¬ Scan.HeadAt limit b i) → p = n - 1) ∧
    (n < 8 → rx.extractInto scratch = (none, scratch, rx)) ∧
    (8 ≤ n → ∃ ring,
      if Scan.HeadAt limit b p ∧ p + 4 ≤ n ∧ p + size ≤ n then
        rx.extractInto scratch =
            (some size, (b.drop p).take size ++ scratch.drop size, { rx with ring }) ∧
          ring.toList = b.drop (p + size)
      else rx.extractInto scratch = (none, scratch, { rx with ring }) ∧ ring.toList = b.drop p) ∧
    ((rx.extractInto scratch).1 ≠ none →
      (rx.extractInto scratch).2.2.ring.toList.length + 6 ≤ n) ∧
    (drained.2.extractInto scratch).1 = none ∧ drained.1.length ≤ n / 6 ∧
    ∃ (starts : List Nat) (kept : Nat),
      drained.1 = starts.map (fun s => (b.drop s).take (Scan.sizeAt b s)) ∧
      drained.2.ring.toList = b.drop kept ∧ kept ≤ n ∧
      (∀ s ∈ starts, Scan.HeadAt limit b s ∧ s + Scan.sizeAt b s ≤ kept) ∧
      starts.Pairwise (fun s t => s + Scan.sizeAt b s ≤ t) ∧
      ∀ i < kept, Scan.HeadAt limit b i → ∃ s ∈ starts, s ≤ i ∧ i < s + Scan.sizeAt b s := by
  intro b n limit p size drained
  have hhead (hex : ∃ i, Scan.HeadAt limit b i) : IsLeast {i | Scan.HeadAt limit b i} p := by
    rcases Scan.start_spec limit b with ⟨hhead, hleast⟩ | ⟨hnone, -⟩
    · exact ⟨hhead, fun i hi => Nat.le_of_not_lt fun hlt => hleast i hlt hi⟩
    · exact absurd hex (not_exists.mpr hnone)
  have hnone (hno : ∀ i, ¬ Scan.HeadAt limit b i) : p = n - 1 := by
    rcases Scan.start_spec limit b with ⟨hhead, -⟩ | ⟨-, hlast⟩
    · exact absurd hhead (hno _)
    · exact hlast
  obtain ⟨starts, kept, hcuts, hframes, hkept⟩ :=
    rx.cuts_drain scratch.length (Nat.zero_le n) List.drop_zero.symm
  have hcount : drained.1.length ≤ n / 6 := by
    have hlength := hcuts.length_le
    have hle := hcuts.kept_le
    rw [show drained.1.length = starts.length by rw [hframes, List.length_map]]
    omega
  exact ⟨hhead, hnone, extractInto_of_short, rx.extractInto_eq_start scratch,
    consumed_of_extractInto, rx.extractInto_drain scratch, hcount, starts, kept, hframes, hkept,
    hcuts.kept_le, fun s hs => (hcuts.within s hs).2, hcuts.pairwise,
    fun i hi => hcuts.exists_of_headAt (Nat.zero_le i) hi⟩

-- A head with too large a length, a candidate that goes round the end of the ring, and a head
-- without its length.
theorem extractInto_eq_wrapped :
    let rx := (((ofCapacity 20 16).feed (List.replicate 12 0)).2.extract 16).2
    let frame : Bytes := [0xAA, 0x55, 5, 0, 1, 7, 9, 3, 4, 0x55, 0xAA]
    let rx := (rx.feed ([0xAA, 0x55, 0xFF, 0xFF] ++ frame ++ [0xAA, 0x55])).2
    let scratch : Bytes := List.replicate 16 0xEE
    (∃ ring, rx.extractInto scratch =
        (some 11, frame ++ List.replicate 5 0xEE, { rx with ring }) ∧ ring.toList = [0xAA, 0x55]) ∧
      (rx.drain scratch.length).1.length ≤ 3 := by
  intro first frame rx scratch
  have hbuffered : rx.ring.toList = [0, 0xAA, 0x55, 0xFF, 0xFF] ++ frame ++ [0xAA, 0x55] := by
    decide +kernel
  obtain ⟨-, -, -, hlong, -, -, hcount, -⟩ := extractInto_eq rx scratch
  have hlimit : min rx.maxFrame scratch.length = 16 := by decide +kernel
  rw [hbuffered, hlimit] at hlong
  rw [hbuffered] at hcount
  obtain ⟨ring, hspec⟩ := hlong (by decide)
  have hstart : Scan.start 16 ([0, 0xAA, 0x55, 0xFF, 0xFF] ++ frame ++ [0xAA, 0x55]) = 5 := by
    decide +kernel
  rw [hstart, if_pos (by decide)] at hspec
  exact ⟨⟨ring, hspec⟩, hcount.trans (by decide)⟩

end Receiver

end Acquisition
