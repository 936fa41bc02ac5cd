import Acquisition.Random.Stream

/-!
# Drawing from a range

A word below `size` times the number of values has its high half below that number. To make all
values equally likely, words whose low half lies above a `zone` are drawn again. A draw is inside
its range whatever the words are (`below_lt`).
-/

namespace Acquisition.Random

/-- After this many refused words the next one is taken as it is. This is only there for `below` to
terminate: the generator itself draws again without a bound. A word is refused at most half of the
time, so the bound is not met with in practice. -/
def maxRedraws : Nat := 128

/-- A number below `count`, from words below `size`. -/
def below (draw : Stream → Nat × Stream) (size zone count : Nat) :
    (redraws : Nat) → Stream → Nat × Stream
  | 0, s =>
    let (v, s) := draw s
    (v % size * count / size, s)
  | redraws + 1, s =>
    let (v, s) := draw s
    let product := v % size * count
    if product % size ≤ zone then (product / size, s)
    else below draw size zone count redraws s

theorem below_lt (draw : Stream → Nat × Stream) {size : Nat} (zone : Nat) {count : Nat}
    (hsize : 0 < size) (hcount : 0 < count) (redraws : Nat) (s : Stream) :
    (below draw size zone count redraws s).1 < count := by
  have high (v : Nat) : v % size * count / size < count := by
    rw [Nat.div_lt_iff_lt_mul hsize, Nat.mul_comm]
    exact Nat.mul_lt_mul_of_pos_left (Nat.mod_lt _ hsize) hcount
  induction redraws generalizing s with
  | zero => exact high _
  | succ redraws ih =>
    simp only [below]
    split
    · exact high _
    · exact ih _

/-- The largest zone whose words fall evenly on `count` values. -/
def evenZone (size count : Nat) : Nat := size - 1 - (size - count) % count

/-- `count` doubled until its top bit is the highest of a word: a zone found without a division. -/
def doubledZone (size count : Nat) : Nat := (count <<< (size.log2 - 1 - count.log2)) - 1

/-- A delay of at least `min` and below `max` milliseconds. -/
def delay (min max : UInt64) (s : Stream) : Nat × Stream :=
  let count := max.toNat - min.toNat
  let zone := doubledZone UInt64.size count
  let (v, s) := below Stream.next64 UInt64.size zone count maxRedraws s
  (min.toNat + v, s)

/-- A count from `min` to `max`, both included. -/
def count (min max : UInt32) (s : Stream) : Nat × Stream :=
  let n := max.toNat + 1 - min.toNat
  if n = UInt32.size then s.next32
  else
    let (v, s) := below Stream.next32 UInt32.size (doubledZone UInt32.size n) n maxRedraws s
    (min.toNat + v, s)

theorem delay_bounds {min max : UInt64} (h : min < max) (s : Stream) :
    min.toNat ≤ (delay min max s).1 ∧ (delay min max s).1 < max.toNat := by
  have hlt : min.toNat < max.toNat := UInt64.lt_iff_toNat_lt.mp h
  have hdrawn := below_lt Stream.next64 (doubledZone UInt64.size (max.toNat - min.toNat))
    (by decide : 0 < UInt64.size) (Nat.sub_pos_of_lt hlt) maxRedraws s
  simp only [delay]
  omega

theorem count_bounds {min max : UInt32} (h : min ≤ max) (s : Stream) :
    min.toNat ≤ (count min max s).1 ∧ (count min max s).1 ≤ max.toNat := by
  have hle : min.toNat ≤ max.toNat := UInt32.le_iff_toNat_le.mp h
  have hmax : max.toNat < UInt32.size := max.toNat_lt
  simp only [count]
  split
  · -- All words are in the range, so one is taken as it comes.
    have hword : (s.next32).1 < UInt32.size := s.nextWord.1.toNat_lt
    omega
  · have hdrawn := below_lt Stream.next32
      (doubledZone UInt32.size (max.toNat + 1 - min.toNat)) (by decide : 0 < UInt32.size)
      (by omega : 0 < max.toNat + 1 - min.toNat) maxRedraws s
    dsimp only
    omega

/-- A jitter of at least `-noise` and below `noise`. -/
def jitter (noise : Nat) (s : Stream) : Int × Stream :=
  let zone := evenZone UInt32.size (2 * noise)
  let (v, s) := below Stream.next32 UInt32.size zone (2 * noise) maxRedraws s
  (v - noise, s)

end Acquisition.Random
