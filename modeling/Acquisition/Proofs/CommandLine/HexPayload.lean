import Mathlib
import Acquisition.CommandLine.Send
import Acquisition.Proofs.Text.Hex

/-!
# Payloads in hexadecimal digits

A text is read as the bytes that it spells (`Spells`), whatever white space stands in it and
whatever the case of its digits is. The only other texts that are read have a `+` in the place of a
leading zero: `SpellsSigned` tells exactly what is read (`parse_eq_ok_iff`). Any other text is
refused, and a command with such a payload ends before it turns to the network.
-/

namespace Acquisition.CommandLine

namespace HexPayload

/-! ## What a text spells -/

/-- ASCII white space but for the vertical tab. -/
def isSpaceChar (c : Char) : Bool :=
  c == ' ' || c == '\t' || c == '\n' || c == '\x0C' || c == '\r'

def visible (text : String) : List Char := text.toList.filter (!isSpaceChar ·)

/-- The text is what is written for `bytes`, up to white space and the case of the digits. -/
def Spells (text : String) (bytes : Bytes) : Prop :=
  (visible text).map Char.toLower = (Text.Hex.ofBytes bytes).toList

instance {text : String} {bytes : Bytes} : Decidable (Spells text bytes) :=
  inferInstanceAs (Decidable (_ = _))

/-- Puts a zero for each `+` that opens a pair. -/
def zeroSigns : List Char → List Char
  | high :: low :: rest => (if high = '+' then '0' else high) :: low :: zeroSigns rest
  | rest => rest

/-- As `Spells`, of the text with zeros for signs. -/
def SpellsSigned (text : String) (bytes : Bytes) : Prop :=
  (zeroSigns (visible text)).map Char.toLower = (Text.Hex.ofBytes bytes).toList

theorem zeroSigns_eq_self {cs : List Char} (h : '+' ∉ cs) : zeroSigns cs = cs := by
  fun_induction zeroSigns cs with
  | case1 high low rest ih =>
    simp only [List.mem_cons, not_or] at h
    rw [if_neg (Ne.symm h.1), ih h.2.2]
  | case2 => rfl

theorem mem_zeroSigns {c : Char} {cs : List Char} (hc : c ≠ '+') (h : c ∈ cs) :
    c ∈ zeroSigns cs := by
  fun_induction zeroSigns cs with
  | case1 high low rest ih =>
    simp only [List.mem_cons] at h ⊢
    rcases h with rfl | rfl | h
    · exact .inl (if_neg hc).symm
    · exact .inr (.inl rfl)
    · exact .inr (.inr (ih h))
  | case2 => exact h

theorem spellsSigned_iff {text : String} {bytes : Bytes} (h : '+' ∉ visible text) :
    SpellsSigned text bytes ↔ Spells text bytes := by
  rw [SpellsSigned, zeroSigns_eq_self h, Spells]

section

variable {text : String} {bytes : Bytes}

theorem Spells.exists_digit (h : Spells text bytes) {c : Char} (hc : c ∈ visible text) :
    ∃ v < 16, c.toLower = v.digitChar := by
  have hlower := List.mem_map_of_mem (f := Char.toLower) hc
  rw [h, Text.Hex.ofBytes, String.toList_ofList] at hlower
  exact Text.Hex.exists_digit_of_mem hlower

theorem Spells.signed (h : Spells text bytes) : SpellsSigned text bytes := by
  refine (spellsSigned_iff fun hsign => ?_).mpr h
  obtain ⟨v, hv, hdigit⟩ := h.exists_digit hsign
  exact Text.Hex.digit_ne_plus v hv hdigit.symm

theorem Spells.isSome_digitValue? (h : Spells text bytes) :
    ∀ c ∈ visible text, (Text.Hex.digitValue? c).isSome := by
  intro c hc
  obtain ⟨v, hv, hdigit⟩ := h.exists_digit hc
  have hvalue := Text.Numeral.digit?_sixteen_eq_some_iff.mpr ⟨hv, hdigit⟩
  exact Option.isSome_of_mem (Option.filter_eq_some_iff.mp hvalue).1

end

/-! ## Bytes as characters -/

/-- The character that a byte is by itself. -/
def latin (b : UInt8) : Char := Char.ofNat b.toNat

theorem toNat_latin (b : UInt8) : (latin b).toNat = b.toNat := by
  have hb : b.toNat < 256 := b.toNat_lt
  rw [latin, Char.ofNat, dif_pos (.inl (by omega))]
  rfl

theorem latin_injective : Function.Injective latin := by
  intro b b' h
  apply UInt8.toNat_inj.mp
  rw [← toNat_latin, h, toNat_latin]

theorem latin_of_ascii {c : Char} (hc : c.toNat < 128) : latin (.ofNat c.toNat) = c := by
  rw [latin, UInt8.toNat_ofNat_of_lt' (hc.trans (by decide)), Char.ofNat_toNat]

theorem isSpaceChar_latin (b : UInt8) : isSpaceChar (latin b) = isSpace b := by
  have hsame (d : UInt8) : (latin b == latin d) = (b == d) := by
    rw [Bool.eq_iff_iff, beq_iff_eq, beq_iff_eq, latin_injective.eq_iff]
  rw [isSpace, ← hsame, ← hsame, ← hsame, ← hsame, ← hsame]
  rfl

/-! ## Pairs -/

theorem pair?_eq_some_iff {high low b : UInt8} :
    pair? high low = some b ↔
      (zeroSigns [latin high, latin low]).map Char.toLower = Text.Hex.ofByte b := by
  have hb : b.toNat < 256 := b.toNat_lt
  have hsize : UInt8.size - 1 = 255 := rfl
  rw [pair?, Text.Numeral.unsigned?_pair, Option.map_eq_some_iff]
  simp only [Option.filter_eq_some_iff, Text.Numeral.digits?_pair_eq_some_iff, decide_eq_true_eq,
    hsize, zeroSigns, Text.Hex.ofByte, List.map_cons, List.map_nil, List.cons.injEq, and_true]
  constructor
  · rintro ⟨n, ⟨⟨hn, hdigits⟩, -⟩, rfl⟩
    rw [UInt8.toNat_ofNat_of_lt' hn]
    exact hdigits
  · intro hdigits
    exact ⟨b.toNat, ⟨⟨hb, hdigits⟩, Nat.le_of_lt_succ hb⟩, UInt8.ofNat_toNat⟩

theorem pairs?_eq_some_iff {digits bytes : Bytes} :
    pairs? digits = some bytes ↔
      (zeroSigns (digits.map latin)).map Char.toLower = bytes.flatMap Text.Hex.ofByte := by
  fun_induction pairs? digits generalizing bytes with
  | case1 => cases bytes <;> simp [zeroSigns, Text.Hex.ofByte]
  | case2 => cases bytes <;> simp [zeroSigns, Text.Hex.ofByte]
  | case3 high low rest ih =>
    simp only [Option.bind_eq_bind, Option.bind_eq_some_iff, Option.some_inj, pair?_eq_some_iff, ih]
    constructor
    · rintro ⟨b, hb, bytes, hbytes, rfl⟩
      rw [List.flatMap_cons, ← hb, ← hbytes]
      rfl
    · intro h
      cases bytes with
      | nil => cases h
      | cons b bytes =>
        have hsplit : (zeroSigns [latin high, latin low]).map Char.toLower ++
            (zeroSigns (rest.map latin)).map Char.toLower =
              Text.Hex.ofByte b ++ bytes.flatMap Text.Hex.ofByte := h
        obtain ⟨hb, hbytes⟩ := List.append_inj hsplit rfl
        exact ⟨b, hb, bytes, hbytes, rfl⟩

theorem length_of_pairs? {digits bytes : Bytes} (h : pairs? digits = some bytes) :
    digits.length = 2 * bytes.length := by
  fun_induction pairs? digits generalizing bytes with
  | case1 =>
    cases h
    rfl
  | case2 => cases h
  | case3 high low rest ih =>
    simp only [Option.bind_eq_bind, Option.bind_eq_some_iff, Option.some_inj] at h
    obtain ⟨b, -, bytes, hbytes, rfl⟩ := h
    rw [List.length_cons, List.length_cons, List.length_cons, ih hbytes]
    omega

/-! ## White space -/

theorem isSpaceChar_of_le {c : Char} (hc : 128 ≤ c.toNat) : isSpaceChar c = false := by
  have hne {d : Char} (hd : d.toNat < 128) : c ≠ d := by
    rintro rfl
    omega
  simp only [isSpaceChar, Bool.or_eq_false_iff, beq_eq_false_iff_ne]
  exact ⟨⟨⟨⟨hne (by decide), hne (by decide)⟩, hne (by decide)⟩, hne (by decide)⟩, hne (by decide)⟩

-- White space is taken out byte by byte, but no byte of a longer character is white space.
theorem filter_utf8EncodeChar (c : Char) :
    (String.utf8EncodeChar c).filter (!isSpace ·) =
      if isSpaceChar c then [] else String.utf8EncodeChar c := by
  by_cases hc : c.toNat < 128
  · rw [Text.Utf8.utf8EncodeChar_of_ascii hc, List.filter_singleton, ← isSpaceChar_latin,
      latin_of_ascii hc]
    cases isSpaceChar c <;> rfl
  · have hc := Nat.le_of_not_lt hc
    rw [isSpaceChar_of_le hc, if_neg Bool.false_ne_true, List.filter_eq_self]
    intro b hb
    have hlatin : 128 ≤ (latin b).toNat := by
      rw [toNat_latin]
      exact Text.Utf8.le_of_mem_utf8EncodeChar hc hb
    rw [← isSpaceChar_latin, isSpaceChar_of_le hlatin, Bool.not_false]

theorem filter_ofString (text : String) :
    (Text.Utf8.ofString text).filter (!isSpace ·) =
      (visible text).flatMap String.utf8EncodeChar := by
  rw [Text.Utf8.ofString, List.filter_flatMap, visible]
  induction text.toList with
  | nil => rfl
  | cons c rest ih =>
    rw [List.flatMap_cons, ih, filter_utf8EncodeChar]
    by_cases hc : isSpaceChar c
    · rw [if_pos hc, List.filter_cons_of_neg (by simpa using hc), List.nil_append]
    · rw [if_neg hc, List.filter_cons_of_pos (by simpa using hc), List.flatMap_cons]

/-! ## Characters in pairs of bytes -/

theorem map_latin_of_ascii {cs : List Char} (h : ∀ c ∈ cs, c.toNat < 128) :
    (cs.flatMap String.utf8EncodeChar).map latin = cs := by
  induction cs with
  | nil => rfl
  | cons c rest ih =>
    obtain ⟨hc, hrest⟩ := List.forall_mem_cons.mp h
    rw [List.flatMap_cons, Text.Utf8.utf8EncodeChar_of_ascii hc, List.singleton_append,
      List.map_cons, ih hrest, latin_of_ascii hc]

theorem ascii_of_zeroSigns {cs : List Char} {bytes : Bytes}
    (h : (zeroSigns cs).map Char.toLower = bytes.flatMap Text.Hex.ofByte) :
    ∀ c ∈ cs, c.toNat < 128 := by
  intro c hc
  by_contra hlarge
  have hlarge := Nat.le_of_not_lt hlarge
  have hsign : c ≠ '+' := by
    rintro rfl
    exact absurd hlarge (by decide)
  have hlower := List.mem_map_of_mem (f := Char.toLower) (mem_zeroSigns hsign hc)
  rw [h, Text.Hex.toLower_of_le hlarge] at hlower
  obtain ⟨v, hv, rfl⟩ := Text.Hex.exists_digit_of_mem hlower
  exact absurd (Text.Hex.toNat_digit_lt v hv) (Nat.not_lt_of_le hlarge)

-- A longer character may fall into two pairs, but none of its bytes is a digit.
theorem zeroSigns_map_latin_iff {cs : List Char} {bytes : Bytes} :
    (zeroSigns ((cs.flatMap String.utf8EncodeChar).map latin)).map Char.toLower =
        bytes.flatMap Text.Hex.ofByte ↔
      (zeroSigns cs).map Char.toLower = bytes.flatMap Text.Hex.ofByte := by
  by_cases hascii : ∀ c ∈ cs, c.toNat < 128
  · rw [map_latin_of_ascii hascii]
  · refine iff_of_false (fun h => hascii fun c hc => ?_) (mt ascii_of_zeroSigns hascii)
    by_contra hlarge
    obtain ⟨b, others, hbytes, -⟩ := Text.Utf8.next_utf8EncodeChar c []
    have hb : b ∈ String.utf8EncodeChar c := hbytes ▸ List.mem_cons_self
    have hthere : latin b ∈ (cs.flatMap String.utf8EncodeChar).map latin :=
      List.mem_map_of_mem (List.mem_flatMap.mpr ⟨c, hc, hb⟩)
    have hsmall := ascii_of_zeroSigns h (latin b) hthere
    rw [toNat_latin] at hsmall
    have hleast := Text.Utf8.le_of_mem_utf8EncodeChar (Nat.le_of_not_lt hlarge) hb
    omega

/-! ## Reading -/

theorem parse_eq_ok_iff {text : String} {bytes : Bytes} :
    parse text = .ok bytes ↔ SpellsSigned text bytes := by
  have hpairs : pairs? ((Text.Utf8.ofString text).filter (!isSpace ·)) = some bytes ↔
      SpellsSigned text bytes := by
    rw [pairs?_eq_some_iff, filter_ofString, zeroSigns_map_latin_iff, SpellsSigned,
      Text.Hex.ofBytes, String.toList_ofList]
  rw [← hpairs, parse]
  split
  · rename_i hodd
    refine iff_of_false nofun fun h => hodd ?_
    rw [length_of_pairs? h]
    omega
  · split <;> rename_i heq <;> rw [heq] <;> simp

theorem code_of_parse {text : String} {fault : Fault} (h : parse text = .error fault) :
    fault.code = .usage := by
  rw [parse] at h
  split at h
  · cases h
    rfl
  · split at h <;> cases h
    rfl

end HexPayload

/-! ## Sending -/

theorem Duration.code_of_parse {text : String} {fault : Fault}
    (h : Duration.parse text = .error fault) : fault.code = .usage := by
  rw [Duration.parse] at h
  dsimp only at h
  split at h
  · cases h
    rfl
  · split at h <;> cases h <;> rfl

theorem SendOptions.run_of_refused {o : SendOptions} {fault : Fault}
    (h : HexPayload.parse (o.payload.getD "") = .error fault) (address : String) :
    ∃ message, ∀ network, o.run address network = .error ⟨.usage, message⟩ := by
  have hplan : ∃ message, o.plan address = .error ⟨.usage, message⟩ := by
    rw [plan]
    cases htimeout : Duration.parse (o.timeout.getD "5s") with
    | error refusal =>
      rw [← Duration.code_of_parse htimeout]
      exact ⟨refusal.message, rfl⟩
    | ok timeout =>
      rw [h, ← HexPayload.code_of_parse h]
      exact ⟨fault.message, rfl⟩
  obtain ⟨message, hplan⟩ := hplan
  refine ⟨message, fun network => ?_⟩
  rw [run, hplan]
  rfl

namespace HexPayload

/-- A text that spells bytes is read as these. What is read spells the bytes once zeros are put for
its signs, and as it stands if it has no sign: then all that is visible of it are digits. Any other
text is refused as wrong usage, and so is a command that has it for a payload, whatever the network
is. -/
theorem parse_spelled (text : String) :
    (∀ bytes, Spells text bytes → parse text = .ok bytes) ∧
    (∀ bytes, parse text = .ok bytes ↔ SpellsSigned text bytes) ∧
    ('+' ∉ text.toList → ∀ bytes, parse text = .ok bytes →
      (∀ c ∈ visible text, (Text.Hex.digitValue? c).isSome) ∧ Spells text bytes) ∧
    ((¬ ∃ bytes, SpellsSigned text bytes) →
      (∃ message, parse text = .error ⟨.usage, message⟩) ∧
      ∀ (o : SendOptions) (address : String), o.payload.getD "" = text →
        ∃ message, ∀ network, o.run address network = .error ⟨.usage, message⟩) := by
  refine ⟨fun bytes h => parse_eq_ok_iff.mpr h.signed, fun bytes => parse_eq_ok_iff,
    fun hsign bytes h => ?_, fun hnone => ?_⟩
  · have hvisible : '+' ∉ visible text := mt List.mem_of_mem_filter hsign
    have hspells := (spellsSigned_iff hvisible).mp (parse_eq_ok_iff.mp h)
    exact ⟨hspells.isSome_digitValue?, hspells⟩
  · rcases hparse : parse text with fault | bytes
    · refine ⟨⟨fault.message, ?_⟩, fun o address hpayload => ?_⟩
      · rw [← code_of_parse hparse]
      · exact SendOptions.run_of_refused (hpayload ▸ hparse) address
    · exact absurd ⟨bytes, parse_eq_ok_iff.mp hparse⟩ hnone

-- Digits of both cases with white space between them, and a character of two bytes that stand in a
-- pair of their own.
theorem parse_spelled_mixed :
    Spells " 0\tA\r\nfF" [0x0A, 0xFF] ∧ parse " 0\tA\r\nfF" = .ok [0x0A, 0xFF] ∧
    (∀ c ∈ visible " 0\tA\r\nfF", (Text.Hex.digitValue? c).isSome) ∧
    (∃ message, parse "00é" = .error ⟨.usage, message⟩) ∧
    ∃ message, ∀ network, SendOptions.run { payload := some "00é" } "127.0.0.1:9001" network =
      .error ⟨.usage, message⟩ := by
  have hspells : Spells " 0\tA\r\nfF" [0x0A, 0xFF] := by decide +kernel
  have hnone : ¬ ∃ bytes, SpellsSigned "00é" bytes := by
    rintro ⟨bytes, h⟩
    have hchar : 'é' ∈ visible "00é" := by decide +kernel
    rw [SpellsSigned, Text.Hex.ofBytes, String.toList_ofList] at h
    exact absurd (ascii_of_zeroSigns h 'é' hchar) (by decide)
  obtain ⟨hread, -, hsign, -⟩ := parse_spelled " 0\tA\r\nfF"
  obtain ⟨-, -, -, hrefused⟩ := parse_spelled "00é"
  have hparse := hread _ hspells
  obtain ⟨hdigits, -⟩ := hsign (by decide +kernel) _ hparse
  obtain ⟨herror, hrun⟩ := hrefused hnone
  exact ⟨hspells, hparse, hdigits, herror, hrun { payload := some "00é" } "127.0.0.1:9001" rfl⟩

-- A sign is read and sent, although it is no digit.
theorem not_spells_parse_sign :
    parse "+1" = .ok [0x01] ∧ (∀ bytes, ¬ Spells "+1" bytes) ∧
    ∃ plan, SendOptions.plan { payload := some "+1" } "127.0.0.1:9001" = .ok plan ∧
      Frame.decode plan.wire = .ok ⟨Command.ping, 0, [0x01]⟩ := by
  refine ⟨by decide +kernel, fun bytes h => ?_, ?_⟩
  · have hsign : '+' ∈ visible "+1" := by decide +kernel
    exact absurd (h.isSome_digitValue? '+' hsign) (by decide)
  · exact ⟨_, rfl, by decide +kernel⟩

end HexPayload

end Acquisition.CommandLine
