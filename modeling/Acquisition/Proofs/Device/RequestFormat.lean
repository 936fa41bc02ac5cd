import Mathlib
import Acquisition.Bytes.Lemmas
import Acquisition.Device.Request

/-!
# The format of requests

A device reads a request off its command byte and its payload. It refuses what is no request and
entries that are not all there. What it reads stands at the front of the payload in the form that a
host writes, and what follows is ignored (`parse_inverse`).
-/

namespace Acquisition

/-- The commands of what a host sends. -/
def Command.requests : List UInt8 :=
  [ping, getStatus, getDeviceInfo, setModeContinuous, setModeTrigger, startStream, stopStream,
    configureStream, requestBufferedData]

namespace Device

/-! ## Channel entries -/

namespace ChannelConfig

theorem take?_flatMap (entries : List ChannelConfig) (rest : Bytes) :
    take? entries.length (entries.flatMap toBytes ++ rest) = some entries := by
  induction entries with
  | nil => rfl
  | cons entry more ih =>
    have hrate : Bytes.toNat (Bytes.ofNat 4 entry.sampleRate.toNat) = entry.sampleRate.toNat :=
      (Bytes.toNat_ofNat ..).trans (Nat.mod_eq_of_lt entry.sampleRate.toNat_lt)
    rw [List.length_cons, List.flatMap_cons, List.append_assoc]
    change (take? more.length (more.flatMap toBytes ++ rest)).map
      (⟨entry.channelId, .ofNat (Bytes.toNat (Bytes.ofNat 4 entry.sampleRate.toNat)),
        entry.format⟩ :: ·) = _
    rw [ih, hrate, UInt32.ofNat_toNat]
    rfl

/-- Entries are read if they stand at the front. -/
theorem take?_eq_some_iff {count : Nat} {bytes : Bytes} {entries : List ChannelConfig} :
    take? count bytes = some entries ↔
      entries.length = count ∧ entries.flatMap toBytes <+: bytes := by
  constructor
  · intro h
    fun_induction take? count bytes generalizing entries with
    | case1 =>
      cases h
      exact ⟨rfl, List.nil_prefix⟩
    | case2 count id r0 r1 r2 r3 format rest ih =>
      obtain ⟨more, hmore, rfl⟩ := Option.map_eq_some_iff.mp h
      obtain ⟨hlength, hprefix⟩ := ih hmore
      have hrate : Bytes.ofUInt32 (.ofNat (Bytes.toNat [r0, r1, r2, r3])) = [r0, r1, r2, r3] := by
        have hlt : Bytes.toNat [r0, r1, r2, r3] < 256 ^ 4 := Bytes.toNat_lt [r0, r1, r2, r3]
        rw [Bytes.ofUInt32, UInt32.toNat_ofNat_of_lt' hlt]
        exact Bytes.ofNat_toNat [r0, r1, r2, r3]
      refine ⟨congrArg (· + 1) hlength, ?_⟩
      rw [List.flatMap_cons, toBytes, hrate]
      exact (List.prefix_append_right_inj [id, r0, r1, r2, r3, format]).mpr hprefix
    | case3 => cases h
  · rintro ⟨rfl, rest, rfl⟩
    exact take?_flatMap entries rest

/-- Entries are missing if there is no room for as many. -/
theorem take?_eq_none_iff {count : Nat} {bytes : Bytes} :
    take? count bytes = none ↔ bytes.length < size * count := by
  fun_induction take? count bytes with
  | case1 => simp
  | case2 count id r0 r1 r2 r3 format rest ih =>
    rw [Option.map_eq_none_iff, ih]
    simp only [List.length_cons, size]
    omega
  | case3 count bytes hshort =>
    refine iff_of_true rfl ?_
    match bytes, hshort with
    | [], _ | [_], _ | [_, _], _ | [_, _, _], _ | [_, _, _, _], _ | [_, _, _, _, _], _ =>
      simp only [List.length_cons, List.length_nil, size]
      omega
    | id :: r0 :: r1 :: r2 :: r3 :: format :: rest, hshort =>
      exact (hshort id r0 r1 r2 r3 format rest rfl).elim

end ChannelConfig

/-! ## All requests -/

namespace Request

/-- There are no more entries than one byte can count. -/
def WellFormed : Request → Prop
  | configureStream channels => channels.length < UInt8.size
  | _ => True

theorem mem_requests_iff {id : UInt8} : id ∈ Command.requests ↔ ∃ r : Request, r.command = id := by
  constructor
  · intro hid
    simp only [Command.requests, List.mem_cons, List.not_mem_nil, or_false] at hid
    rcases hid with rfl | rfl | rfl | rfl | rfl | rfl | rfl | rfl | rfl
    · exact ⟨ping, rfl⟩
    · exact ⟨getStatus, rfl⟩
    · exact ⟨getDeviceInfo, rfl⟩
    · exact ⟨setModeContinuous, rfl⟩
    · exact ⟨setModeTrigger, rfl⟩
    · exact ⟨startStream, rfl⟩
    · exact ⟨stopStream, rfl⟩
    · exact ⟨configureStream [], rfl⟩
    · exact ⟨requestBufferedData, rfl⟩
  · rintro ⟨r, rfl⟩
    cases r with
    | configureStream channels => exact (by decide : Command.configureStream ∈ Command.requests)
    | _ => decide

theorem parse_of_not_mem {id : UInt8} (h : id ∉ Command.requests) (bytes : Bytes) :
    parse id bytes = .error (.unsupported id) := by
  simp only [Command.requests, List.mem_cons, List.not_mem_nil, or_false, not_or] at h
  simp [parse, h]

theorem parse_cons (count : UInt8) (entries : Bytes) :
    parse Command.configureStream (count :: entries) =
      match ChannelConfig.take? count.toNat entries with
      | some channels => .ok (configureStream channels)
      | none => .error (.parameter 0x01) :=
  rfl

theorem parse_of_short {bytes : Bytes}
    (h : bytes.length < 1 + ChannelConfig.size * (bytes.headD 0).toNat) :
    parse Command.configureStream bytes = .error (.parameter 0x01) := by
  cases bytes with
  | nil => rfl
  | cons count entries =>
    rw [List.length_cons, List.headD_cons, Nat.add_comm, Nat.add_lt_add_iff_left] at h
    rw [parse_cons, ChannelConfig.take?_eq_none_iff.mpr h]

theorem exists_parse {id : UInt8} {bytes : Bytes} (hid : id ∈ Command.requests)
    (hlong : id = Command.configureStream →
      1 + ChannelConfig.size * (bytes.headD 0).toNat ≤ bytes.length) :
    ∃ r, parse id bytes = .ok r := by
  obtain ⟨r, rfl⟩ := mem_requests_iff.mp hid
  cases r with
  | configureStream channels =>
    specialize hlong rfl
    cases bytes with
    | nil => exact absurd hlong (by simp)
    | cons count entries =>
      rw [List.length_cons, List.headD_cons, Nat.add_comm, Nat.add_le_add_iff_right] at hlong
      have hsome := ChannelConfig.take?_eq_none_iff.not.mpr (Nat.not_lt.mpr hlong)
      obtain ⟨found, hfound⟩ := Option.ne_none_iff_exists'.mp hsome
      exact ⟨configureStream found, (parse_cons count entries).trans (by rw [hfound])⟩
  | _ => exact ⟨_, rfl⟩

-- What follows the payload of a request does not matter.
theorem parse_payload_append {r : Request} (h : r.WellFormed) (rest : Bytes) :
    parse r.command (r.payload ++ rest) = .ok r := by
  cases r with
  | configureStream channels =>
    have hcount : (UInt8.ofNat channels.length).toNat = channels.length :=
      UInt8.toNat_ofNat_of_lt' h
    rw [command, payload, List.cons_append, parse_cons, hcount, ChannelConfig.take?_flatMap]
  | _ => rfl

theorem eq_of_parse {id : UInt8} {bytes : Bytes} {r : Request} (h : parse id bytes = .ok r) :
    r.WellFormed ∧ r.command = id ∧ r.payload <+: bytes := by
  have hid : id ∈ Command.requests := by
    by_contra hid
    rw [parse_of_not_mem hid] at h
    cases h
  obtain ⟨asked, rfl⟩ := mem_requests_iff.mp hid
  cases asked with
  | configureStream =>
    cases bytes with
    | nil => cases h
    | cons count entries =>
      rw [command, parse_cons] at h
      split at h
      · rename_i channels hsome
        cases h
        obtain ⟨hlength, hprefix⟩ := ChannelConfig.take?_eq_some_iff.mp hsome
        have hlt : channels.length < UInt8.size := hlength ▸ count.toNat_lt
        refine ⟨hlt, rfl, ?_⟩
        rw [payload, hlength, UInt8.ofNat_toNat]
        exact (List.prefix_cons_inj count).mpr hprefix
      · cases h
  | _ =>
    cases h
    exact ⟨trivial, rfl, List.nil_prefix⟩

/-- A payload is refused for its command, for entries that are missing, or not at all. -/
theorem parse_cases (id : UInt8) (bytes : Bytes) :
    (id ∉ Command.requests ∧ parse id bytes = .error (.unsupported id)) ∨
    (id = Command.configureStream ∧
      bytes.length < 1 + ChannelConfig.size * (bytes.headD 0).toNat ∧
      parse id bytes = .error (.parameter 0x01)) ∨
    (id ∈ Command.requests ∧
      (id = Command.configureStream →
        1 + ChannelConfig.size * (bytes.headD 0).toNat ≤ bytes.length) ∧
      ∃ r, parse id bytes = .ok r) := by
  by_cases hid : id ∈ Command.requests
  · by_cases hshort : id = Command.configureStream ∧
        bytes.length < 1 + ChannelConfig.size * (bytes.headD 0).toNat
    · obtain ⟨rfl, hshort⟩ := hshort
      exact .inr (.inl ⟨rfl, hshort, parse_of_short hshort⟩)
    · have hlong : id = Command.configureStream →
          1 + ChannelConfig.size * (bytes.headD 0).toNat ≤ bytes.length :=
        fun h => Nat.le_of_not_lt fun hlt => hshort ⟨h, hlt⟩
      exact .inr (.inr ⟨hid, hlong, exists_parse hid hlong⟩)
  · exact .inl ⟨hid, parse_of_not_mem hid bytes⟩

/-- Writing and reading a request are inverse to each other. A request whose entries one byte can
count is read as it was written. A command of no request is not supported, and a stream is not
configured by a payload without the count or without as many entries. Anything else is read as a
request which, written again, is the front of the payload, and bytes after it change nothing. -/
theorem parse_inverse :
    (∀ r : Request, r.WellFormed → parse r.command r.payload = .ok r) ∧
    ∀ (id : UInt8) (bytes : Bytes),
      (parse id bytes = .error (.unsupported id) ↔ id ∉ Command.requests) ∧
      (parse id bytes = .error (.parameter 0x01) ↔
        id = Command.configureStream ∧
          (bytes = [] ∨ bytes.length < 1 + 6 * (bytes.headD 0).toNat)) ∧
      (parse id bytes ≠ .error (.unsupported id) → parse id bytes ≠ .error (.parameter 0x01) →
        ∃ r, parse id bytes = .ok r ∧ r.command = id ∧ r.payload <+: bytes ∧
          parse id r.payload = .ok r ∧ ∀ rest, parse id (bytes ++ rest) = .ok r) := by
  have hparse : ∀ r : Request, r.WellFormed → parse r.command r.payload = .ok r := by
    intro r hr
    have h := parse_payload_append hr []
    rwa [List.append_nil] at h
  refine ⟨hparse, fun id bytes => ?_⟩
  -- Without a count the payload is short as well.
  have hempty : bytes = [] ∨ bytes.length < 1 + 6 * (bytes.headD 0).toNat ↔
      bytes.length < 1 + ChannelConfig.size * (bytes.headD 0).toNat := by
    refine or_iff_right_of_imp ?_
    rintro rfl
    decide
  rw [hempty]
  obtain ⟨hid, h⟩ | ⟨rfl, hshort, h⟩ | ⟨hid, hlong, r, h⟩ := parse_cases id bytes
  · rw [h]
    refine ⟨iff_of_true rfl hid, iff_of_false nofun ?_, fun hne => absurd rfl hne⟩
    rintro ⟨rfl, -⟩
    exact hid (by decide)
  · rw [h]
    exact ⟨iff_of_false nofun (not_not_intro (by decide)), iff_of_true rfl ⟨rfl, hshort⟩,
      fun _ hne => absurd rfl hne⟩
  · rw [h]
    refine ⟨iff_of_false nofun (not_not_intro hid), iff_of_false nofun ?_, fun _ _ => ?_⟩
    · rintro ⟨rfl, hshort⟩
      exact (hlong rfl).not_gt hshort
    · obtain ⟨hwell, rfl, more, rfl⟩ := eq_of_parse h
      refine ⟨r, rfl, rfl, List.prefix_append .., hparse r hwell, fun rest => ?_⟩
      rw [List.append_assoc]
      exact parse_payload_append hwell (more ++ rest)

-- Two entries with a byte after them, and one entry and a part where two are announced.
theorem parse_inverse_configure :
    let request : Request := .configureStream [⟨0, 1000, 1⟩, ⟨3, 0, 2⟩]
    let bytes := request.payload ++ [0xFF]
    parse request.command request.payload = .ok request ∧
      (∃ r, parse request.command bytes = .ok r ∧ r.payload <+: bytes ∧
        ∀ rest, parse request.command (bytes ++ rest) = .ok r) ∧
      parse request.command (request.payload.take 12) = .error (.parameter 0x01) := by
  intro request bytes
  have hwell : request.WellFormed := show 2 < UInt8.size by decide
  obtain ⟨-, -, hread⟩ := parse_inverse.2 request.command bytes
  obtain ⟨r, hr, -, hprefix, -, hrest⟩ := hread (by decide) (by decide)
  obtain ⟨-, hshort, -⟩ := parse_inverse.2 request.command (request.payload.take 12)
  exact ⟨parse_inverse.1 request hwell, ⟨r, hr, hprefix, hrest⟩,
    hshort.mpr ⟨rfl, .inr (by decide)⟩⟩

end Request

end Device

end Acquisition
