import Mathlib
import Acquisition.Device

/-!
# Settings of channels

Entries are applied to the channel table one after the other, and the last entry for a channel tells
what is set for it in the end (`foldl_configureChannel`). So lists with the same last entries do the
same, and they change nothing but the table (`configureStream_settles`).
-/

namespace Acquisition.Device

/-- What an entry makes of its channel. -/
def ChannelConfig.setting (c : ChannelConfig) : ChannelState where
  enabled := 0 < c.sampleRate
  sampleRate := c.sampleRate
  format := c.format

/-- The last entry for channel `i`. -/
def lastFor (i : Nat) (entries : List ChannelConfig) : Option ChannelConfig :=
  (entries.filter fun c => c.channelId.toNat = i).getLast?

/-- What is set for channel `i` after the entries, if it was `ch` before. -/
def settled (entries : List ChannelConfig) (i : Nat) (ch : ChannelState) : ChannelState :=
  match lastFor i entries with
  | some c => c.setting
  | none => ch

/-- No channel has entries in both lists. -/
def Apart (first second : List ChannelConfig) : Prop :=
  ∀ a ∈ first, ∀ b ∈ second, a.channelId ≠ b.channelId

instance (first second : List ChannelConfig) : Decidable (Apart first second) :=
  inferInstanceAs (Decidable (∀ a ∈ first, _))

variable {first second : List ChannelConfig}

/-! ## The last entry -/

theorem lastFor_append (i : Nat) (first second : List ChannelConfig) :
    lastFor i (first ++ second) = (lastFor i second).or (lastFor i first) := by
  rw [lastFor, List.filter_append, List.getLast?_append]
  rfl

theorem lastFor_eq_none_iff {i : Nat} {entries : List ChannelConfig} :
    lastFor i entries = none ↔ ∀ c ∈ entries, c.channelId.toNat ≠ i := by
  rw [lastFor, List.getLast?_eq_none_iff, List.filter_eq_nil_iff]
  simp only [decide_eq_true_eq, ne_eq]

-- Of two lists that are apart, one has no entry for the channel.
theorem lastFor_append_comm (h : Apart first second) (i : Nat) :
    lastFor i (first ++ second) = lastFor i (second ++ first) := by
  rw [lastFor_append, lastFor_append]
  cases hfirst : lastFor i first with
  | none => rw [Option.or_none, Option.none_or]
  | some a =>
    have hsecond : lastFor i second = none := by
      rw [lastFor_eq_none_iff]
      intro b hb hi
      obtain ⟨ha, hai⟩ := List.mem_filter.mp (List.mem_of_getLast? hfirst)
      exact h a ha b hb (UInt8.toNat_inj.mp ((of_decide_eq_true hai).trans hi.symm))
    rw [hsecond, Option.or_none, Option.none_or]

theorem settled_append (first second : List ChannelConfig) (i : Nat) (ch : ChannelState) :
    settled (first ++ second) i ch = settled second i (settled first i ch) := by
  rw [settled, settled, settled, lastFor_append]
  cases lastFor i second <;> rfl

/-! ## The table -/

theorem getElem?_configureChannel (channels : List ChannelState) (c : ChannelConfig) (i : Nat) :
    (configureChannel channels c)[i]? = channels[i]?.map (settled [c] i) := by
  rw [configureChannel, List.getElem?_modify, Option.map_eq_map]
  congr 1
  funext ch
  by_cases hi : c.channelId.toNat = i
  · have hlast : lastFor i [c] = some c := by simp [lastFor, hi]
    rw [if_pos hi, settled, hlast]
    rfl
  · have hlast : lastFor i [c] = none := by simp [lastFor, hi]
    rw [if_neg hi, settled, hlast]

theorem foldl_configureChannel (channels : List ChannelState) (entries : List ChannelConfig) :
    entries.foldl configureChannel channels = channels.mapIdx (settled entries) := by
  apply List.ext_getElem?
  intro i
  rw [List.getElem?_mapIdx]
  induction entries generalizing channels with
  | nil => exact Option.map_id_apply.symm
  | cons c rest ih =>
    have hcons (ch : ChannelState) : settled (c :: rest) i ch = settled rest i (settled [c] i ch) :=
      settled_append [c] rest i ch
    rw [List.foldl_cons, ih, getElem?_configureChannel, Option.map_map]
    exact congrArg (channels[i]?.map ·) (funext hcons).symm

theorem handleRequest_configureStream (d : Device) (entries : List ChannelConfig) (now : Nat) :
    d.handleRequest (.configureStream entries) now =
      (.ack, { d with state := { d.state with
        channels := d.state.channels.mapIdx (settled entries) } }) := by
  rw [handleRequest, foldl_configureChannel]

-- Only the last entry for each channel counts.
theorem handleRequest_congr_lastFor (h : ∀ i, lastFor i first = lastFor i second) (d : Device)
    (now now' : Nat) :
    d.handleRequest (.configureStream first) now =
      d.handleRequest (.configureStream second) now' := by
  have hsettled : settled first = settled second := by
    funext i ch
    rw [settled, settled, h]
  rw [handleRequest_configureStream, handleRequest_configureStream, hsettled]

theorem handleRequest_append (d : Device) (first second : List ChannelConfig)
    (now₁ now₂ now : Nat) :
    (d.handleRequest (.configureStream first) now₁).2.handleRequest
        (.configureStream second) now₂ =
      d.handleRequest (.configureStream (first ++ second)) now := by
  rw [handleRequest, handleRequest, handleRequest, List.foldl_append]

/-- A device acknowledges settings of channels, at any time. Each channel that it has is then set as
the last entry for it says, and is on if the rate is not zero. A channel without an entry stays as
it was, entries for channels that the device does not have are passed over, and nothing but the
table has changed. Two lists one after the other do what they do as one list, a list that is
repeated does what it does once, and entries for different channels can change places. -/
theorem configureStream_settles (d : Device) :
    (∀ (entries : List ChannelConfig) (now : Nat),
      let (response, d') := d.handleRequest (.configureStream entries) now
      response = .ack ∧
      d'.state.channels.length = d.state.channels.length ∧
      (∀ i (h : i < d.state.channels.length), d'.state.channels[i]? = some (
        match (entries.filter fun c => c.channelId.toNat = i).getLast? with
        | some c => ⟨0 < c.sampleRate, c.sampleRate, c.format⟩
        | none => d.state.channels[i])) ∧
      d' = { d with state := { d.state with channels := d'.state.channels } }) ∧
    (∀ (first second : List ChannelConfig) (now₁ now₂ now : Nat),
      (d.handleRequest (.configureStream first) now₁).2.handleRequest
          (.configureStream second) now₂ =
        d.handleRequest (.configureStream (first ++ second)) now) ∧
    (∀ (entries : List ChannelConfig) (now₁ now₂ now : Nat),
      (d.handleRequest (.configureStream entries) now₁).2.handleRequest
          (.configureStream entries) now₂ =
        d.handleRequest (.configureStream entries) now) ∧
    ∀ (before first second after : List ChannelConfig) (now now' : Nat), Apart first second →
      d.handleRequest (.configureStream (before ++ (first ++ second) ++ after)) now =
        d.handleRequest (.configureStream (before ++ (second ++ first) ++ after)) now' := by
  refine ⟨fun entries now => ?_, handleRequest_append d, fun entries now₁ now₂ now => ?_,
    fun before first second after now now' hapart => ?_⟩
  · rw [handleRequest_configureStream]
    refine ⟨rfl, List.length_mapIdx, fun i h => ?_, rfl⟩
    rw [List.getElem?_mapIdx, List.getElem?_eq_getElem h]
    rfl
  · rw [handleRequest_append d entries entries now₁ now₂ now]
    exact handleRequest_congr_lastFor (fun i => by rw [lastFor_append, Option.or_self]) d now now
  · refine handleRequest_congr_lastFor (fun i => ?_) d now now'
    rw [lastFor_append, lastFor_append, lastFor_append_comm hapart, ← lastFor_append i before,
      ← lastFor_append]

-- Channel 0 is set twice, channel 1 is turned off, and there is no channel 9.
theorem configureStream_settles_mixed :
    let entries : List ChannelConfig := [⟨0, 500, 2⟩, ⟨9, 1, 1⟩, ⟨1, 0, 1⟩, ⟨0, 250, 1⟩]
    let swapped : List ChannelConfig := [⟨0, 500, 2⟩, ⟨1, 0, 1⟩, ⟨9, 1, 1⟩, ⟨0, 250, 1⟩]
    ∃ d₀, powerOn {} (Random.Stream.ofSeed 1) = .ok d₀ ∧ Apart [⟨9, 1, 1⟩] [⟨1, 0, 1⟩] ∧
      d₀.handleRequest (.configureStream entries) 0 =
        d₀.handleRequest (.configureStream swapped) 5 ∧
      (d₀.handleRequest (.configureStream entries) 0).2.state.channels =
        [⟨true, 250, 1⟩, ⟨false, 0, 1⟩] := by
  intro entries swapped
  have hpower : powerOn {} (Random.Stream.ofSeed 1) = .ok _ := rfl
  have hapart : Apart [⟨9, 1, 1⟩] [⟨1, 0, 1⟩] := by decide
  exact ⟨_, hpower, hapart,
    (configureStream_settles _).2.2.2 [⟨0, 500, 2⟩] [⟨9, 1, 1⟩] [⟨1, 0, 1⟩] [⟨0, 250, 1⟩] 0 5
      hapart, by decide⟩

end Acquisition.Device
