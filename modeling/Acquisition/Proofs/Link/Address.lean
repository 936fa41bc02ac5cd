import Mathlib
import Acquisition.Link.Address
import Acquisition.Proofs.Text.Numeral

/-!
# The grammar of listen addresses

`parse` reads exactly the texts that `AfterScheme` and `HostAndPort` describe, and what `render`
writes is among them (`parse_grammar`).
-/

namespace Acquisition.Address

/-! ## The grammar -/

/-- `rest` is what stands after the first `://`, or all of the text if it has none. -/
inductive AfterScheme (text : List Char) : List Char → Prop
  | scheme {before rest : List Char} (htext : text = before ++ "://".toList ++ rest)
      (hfirst : ∀ before' rest', text = before' ++ "://".toList ++ rest' →
        before.length ≤ before'.length) : AfterScheme text rest
  | plain (hnone : ¬ "://".toList <:+: text) : AfterScheme text text

/-- Decimal digits, with or without a `+` in front of them, of a value that is not zero and has
sixteen bits. -/
def IsPort (text : List Char) (port : UInt16) : Prop :=
  ∃ digits, (text = digits ∨ text = '+' :: digits) ∧ digits ≠ [] ∧ (∀ c ∈ digits, c.isDigit) ∧
    Nat.ofDigitChars 10 digits 0 = port.toNat ∧ port ≠ 0

/-- The address that a text without a scheme stands for. -/
inductive HostAndPort : List Char → Address → Prop
  | both {host text : List Char} {port : UInt16} (hhost : host ≠ []) (hlast : ':' ∉ text)
      (hport : IsPort text port) : HostAndPort (host ++ ':' :: text) ⟨String.ofList host, port⟩
  | colonPort {text : List Char} {port : UInt16} (hlast : ':' ∉ text) (hport : IsPort text port) :
      HostAndPort (':' :: text) { port }
  | port {text : List Char} {port : UInt16} (hdigits : ∀ c ∈ text, c.isDigit)
      (hport : IsPort text port) : HostAndPort text { port }
  | host {text : List Char} (hcolon : ':' ∉ text) (hdigits : ¬ ∀ c ∈ text, c.isDigit) :
      HostAndPort text { host := String.ofList text }

/-! ## Schemes -/

theorem AfterScheme.unique {text rest rest' : List Char} (h : AfterScheme text rest)
    (h' : AfterScheme text rest') : rest = rest' := by
  have hthere {before rest : List Char} (htext : text = before ++ "://".toList ++ rest) :
      "://".toList <:+: text := ⟨before, rest, htext.symm⟩
  cases h with
  | scheme htext hfirst =>
    cases h' with
    | scheme htext' hfirst' =>
      -- Neither comes before the other.
      have hlength := Nat.le_antisymm (hfirst _ _ htext') (hfirst' _ _ htext)
      exact (List.append_inj (htext.symm.trans htext') (by simp [hlength])).2
    | plain hnone => exact absurd (hthere htext) hnone
  | plain hnone =>
    cases h' with
    | scheme htext' => exact absurd (hthere htext') hnone
    | plain => rfl

theorem afterScheme_cons {c : Char} {text rest : List Char} (hhead : ¬ "://".toList <+: c :: text)
    (h : AfterScheme text rest) (hsome : "://".toList <:+: text) :
    AfterScheme (c :: text) rest := by
  cases h with
  | plain hnone => exact absurd hsome hnone
  | @scheme before _ htext hfirst =>
    have htext : c :: text = (c :: before) ++ "://".toList ++ rest := congrArg (c :: ·) htext
    refine .scheme htext fun before' rest' htext' => ?_
    cases before' with
    | nil => exact absurd ⟨rest', htext'.symm⟩ hhead
    | cons _ before' =>
      rw [List.cons_append, List.cons_append] at htext'
      exact Nat.succ_le_succ (hfirst _ _ (List.cons.inj htext').2)

theorem afterScheme?_spec (text : List Char) :
    match afterScheme? text with
    | some rest => "://".toList <:+: text ∧ AfterScheme text rest
    | none => ¬ "://".toList <:+: text := by
  fun_induction afterScheme? text with
  | case1 rest =>
    exact ⟨⟨[], rest, rfl⟩, @AfterScheme.scheme _ [] rest rfl fun _ _ _ => Nat.zero_le _⟩
  | case2 c text hhead ih =>
    have hhead : ¬ "://".toList <+: c :: text := by
      rintro ⟨rest, hrest⟩
      cases hrest
      exact hhead rest rfl rfl
    split at ih
    · exact ⟨ih.1.trans (List.suffix_cons c text).isInfix, afterScheme_cons hhead ih.2 ih.1⟩
    · exact fun h => (List.infix_cons_iff.mp h).elim hhead ih
  | case3 => exact fun h => absurd (List.infix_nil.mp h) (by decide)

theorem afterScheme_iff {text rest : List Char} :
    AfterScheme text rest ↔ (afterScheme? text).getD text = rest := by
  have hthere : AfterScheme text ((afterScheme? text).getD text) := by
    have hspec := afterScheme?_spec text
    split at hspec <;> rename_i heq <;> rw [heq]
    · exact hspec.2
    · exact .plain hspec
  exact ⟨hthere.unique, fun h => h ▸ hthere⟩

-- An address has no scheme of its own if its host has none.
theorem not_infix_append {host tail : List Char} (h : ¬ "://".toList <:+: host)
    (htail : '/' ∉ tail) : ¬ "://".toList <:+: host ++ tail := by
  rintro ⟨before, rest, htext⟩
  rcases List.append_eq_append_iff.mp htext with ⟨between, hhost, -⟩ | ⟨between, hscheme, htail'⟩
  · exact h ⟨before, between, hhost.symm⟩
  · cases between using List.reverseRecOn with
    | nil =>
      rw [List.append_nil] at hscheme
      exact h ⟨before, [], (List.append_nil _).trans hscheme⟩
    | append_singleton between last =>
      -- The last character of the scheme stands in the tail.
      obtain rfl : '/' = last := by simpa using congrArg List.getLast? hscheme
      exact htail (by simp [htail'])

/-! ## Ports -/

theorem port?_eq_some_iff {text : List Char} {port : UInt16} :
    port? text = some port ↔ IsPort text port := by
  rw [port?, IsPort]
  simp only [Option.map_eq_some_iff, Option.filter_eq_some_iff, decide_eq_true_eq,
    Text.Numeral.unsigned?_ten_eq_some_iff]
  constructor
  · rintro ⟨n, ⟨⟨digits, htext, hsome, hdigits, hvalue, hmax⟩, hpos⟩, rfl⟩
    have hn : (UInt16.ofNat n).toNat = n := UInt16.toNat_ofNat_of_lt' (Nat.lt_succ_of_le hmax)
    refine ⟨digits, htext, hsome, hdigits, hvalue.trans hn.symm, fun hzero => ?_⟩
    rw [hzero] at hn
    exact hpos.ne hn
  · rintro ⟨digits, htext, hsome, hdigits, hvalue, hzero⟩
    have hpos : 0 < port.toNat := Nat.pos_of_ne_zero fun h => hzero (UInt16.toNat_inj.mp h)
    have hmax : port.toNat ≤ UInt16.size - 1 := Nat.le_of_lt_succ port.toNat_lt
    exact ⟨port.toNat, ⟨⟨digits, htext, hsome, hdigits, hvalue, hmax⟩, hpos⟩,
      UInt16.ofNat_toNat⟩

/-! ## Hosts -/

theorem splitLast?_spec (separator : Char) (text : List Char) :
    match splitLast? separator text with
    | some (before, after) => text = before ++ separator :: after ∧ separator ∉ after
    | none => separator ∉ text := by
  fun_induction splitLast? separator text with
  | case1 => exact List.not_mem_nil
  | case2 c rest before after hrest ih =>
    rw [hrest] at ih
    exact ⟨congrArg (c :: ·) ih.1, ih.2⟩
  | case3 rest hrest ih =>
    rw [hrest] at ih
    exact ⟨rfl, ih⟩
  | case4 c rest hrest hne ih =>
    rw [hrest] at ih
    exact List.not_mem_cons_of_ne_of_not_mem (Ne.symm hne) ih

theorem splitLast?_of_notMem {separator : Char} {text : List Char} (h : separator ∉ text) :
    splitLast? separator text = none := by
  have hspec := splitLast?_spec separator text
  split at hspec <;> rename_i heq
  · exact absurd (hspec.1 ▸ List.mem_append_right _ List.mem_cons_self) h
  · exact heq

theorem splitLast?_append {separator : Char} {after : List Char} (before : List Char)
    (h : separator ∉ after) :
    splitLast? separator (before ++ separator :: after) = some (before, after) := by
  induction before with
  | nil => rw [List.nil_append, splitLast?, splitLast?_of_notMem h, if_pos rfl]
  | cons c rest ih => rw [List.cons_append, splitLast?, ih]

theorem HostAndPort.of_eq_some {text : List Char} {a : Address}
    (h : ofHostAndPort? text = some a) : HostAndPort text a := by
  have hspec := splitLast?_spec ':' text
  rw [ofHostAndPort?] at h
  split at h <;> rename_i heq <;> rw [heq] at hspec
  · obtain ⟨port, hport, rfl⟩ := Option.map_eq_some_iff.mp h
    rw [hspec.1]
    exact .colonPort hspec.2 (port?_eq_some_iff.mp hport)
  · rename_i hhost
    obtain ⟨port, hport, rfl⟩ := Option.map_eq_some_iff.mp h
    rw [hspec.1]
    exact .both (fun hempty => hhost (hempty ▸ rfl)) hspec.2 (port?_eq_some_iff.mp hport)
  · split at h
    · rename_i hdigits
      obtain ⟨port, hport, rfl⟩ := Option.map_eq_some_iff.mp h
      exact .port (List.all_eq_true.mp hdigits) (port?_eq_some_iff.mp hport)
    · rename_i hdigits
      cases h
      exact .host hspec (mt List.all_eq_true.mpr hdigits)

theorem HostAndPort.eq_some {text : List Char} {a : Address} (h : HostAndPort text a) :
    ofHostAndPort? text = some a := by
  rw [ofHostAndPort?]
  cases h with
  | both hhost hlast hport =>
    rw [splitLast?_append _ hlast]
    simp only [port?_eq_some_iff.mpr hport, Option.map_some]
  | colonPort hlast hport =>
    rw [← List.nil_append (':' :: _), splitLast?_append [] hlast]
    simp only [port?_eq_some_iff.mpr hport, Option.map_some]
  | port hdigits hport =>
    have hcolon : ':' ∉ text := fun h => absurd (hdigits ':' h) (by decide)
    rw [splitLast?_of_notMem hcolon]
    simp only [List.all_eq_true.mpr hdigits, if_true, port?_eq_some_iff.mpr hport, Option.map_some]
  | host hcolon hdigits =>
    rw [splitLast?_of_notMem hcolon]
    exact if_neg (mt List.all_eq_true.mp hdigits)

theorem ofHostAndPort?_eq_some_iff {text : List Char} {a : Address} :
    ofHostAndPort? text = some a ↔ HostAndPort text a :=
  ⟨.of_eq_some, HostAndPort.eq_some⟩

theorem HostAndPort.valid {text : List Char} {a : Address} (h : HostAndPort text a) :
    a.host ≠ "" ∧ a.port ≠ 0 := by
  cases h with
  | both hhost _ hport =>
    obtain ⟨_, _, _, _, _, hzero⟩ := hport
    exact ⟨fun h => hhost (String.ofList_eq_empty_iff.mp h), hzero⟩
  | colonPort _ hport | port _ hport =>
    obtain ⟨_, _, _, _, _, hzero⟩ := hport
    exact ⟨Ne.symm (by decide : "" ≠ "0.0.0.0"), hzero⟩
  | host _ hdigits =>
    refine ⟨fun h => hdigits ?_, (by decide : (9001 : UInt16) ≠ 0)⟩
    rw [String.ofList_eq_empty_iff.mp h]
    exact fun _ hc => absurd hc List.not_mem_nil

/-! ## Reading and writing -/

-- What a text is read as that is not blank.
theorem parse_of_shown {text : String} (hshown : Text.trim text.toList ≠ []) {rest : List Char}
    (hrest : AfterScheme (Text.trim text.toList) rest) :
    parse text =
      match ofHostAndPort? rest with
      | some a => .ok a
      | none => .error (.invalidAddress (String.ofList (Text.trim text.toList))) := by
  rw [← afterScheme_iff.mp hrest, parse]
  exact if_neg hshown

theorem parse_eq_ok_iff {text : String} (hshown : Text.trim text.toList ≠ []) {a : Address} :
    parse text = .ok a ↔
      ∃ rest, AfterScheme (Text.trim text.toList) rest ∧ HostAndPort rest a := by
  simp only [afterScheme_iff, exists_eq_left', ← ofHostAndPort?_eq_some_iff]
  rw [parse_of_shown hshown (afterScheme_iff.mpr rfl)]
  split <;> rename_i heq <;> rw [heq] <;> simp

theorem parse_eq_error {text : String} (hshown : Text.trim text.toList ≠ [])
    (hnone : ¬ ∃ a rest, AfterScheme (Text.trim text.toList) rest ∧ HostAndPort rest a) :
    parse text = .error (.invalidAddress (String.ofList (Text.trim text.toList))) := by
  rw [parse_of_shown hshown (afterScheme_iff.mpr rfl)]
  split
  · rename_i a heq
    exact absurd ⟨a, _, afterScheme_iff.mpr rfl, ofHostAndPort?_eq_some_iff.mp heq⟩ hnone
  · rfl

theorem parse_valid {text : String} {a : Address} (h : parse text = .ok a) :
    a.host ≠ "" ∧ a.port ≠ 0 := by
  by_cases hshown : Text.trim text.toList = []
  · rw [parse] at h
    cases (if_pos hshown).symm.trans h
    decide
  · obtain ⟨_, -, hrest⟩ := (parse_eq_ok_iff hshown).mp h
    exact hrest.valid

theorem not_mem_toDigits {c : Char} (hc : ¬ c.isDigit) (n : Nat) : c ∉ Nat.toDigits 10 n :=
  fun h => hc (Nat.isDigit_of_mem_toDigits (by decide) (by decide) h)

theorem not_isBlank_of_isDigit {c : Char} (h : c.isDigit) : ¬ Text.isBlank c := by
  have hrange := Char.isDigit_iff_toNat.mp h
  change 48 ≤ c.toNat ∧ c.toNat ≤ 57 at hrange
  simp only [Text.isBlank, Bool.or_eq_true, Bool.and_eq_true, decide_eq_true_eq, beq_iff_eq]
  omega

theorem trim_cons_append_toDigits {c : Char} (hc : ¬ Text.isBlank c) (middle : List Char)
    (n : Nat) :
    Text.trim (c :: middle ++ Nat.toDigits 10 n) = c :: middle ++ Nat.toDigits 10 n := by
  have hlast : ((Nat.toDigits 10 n).getLast Nat.toDigits_ne_nil).isDigit :=
    Nat.isDigit_of_mem_toDigits (by decide) (by decide) (List.getLast_mem _)
  rw [← List.dropLast_append_getLast (Nat.toDigits_ne_nil (n := n) (b := 10)), ← List.append_assoc]
  exact Text.trim_cons_append_singleton _ hc (not_isBlank_of_isDigit hlast)

theorem toList_render (a : Address) :
    a.render.toList = a.host.toList ++ ':' :: Nat.toDigits 10 a.port.toNat := by
  change (a.host ++ ":" ++ toString a.port.toNat).toList = _
  simp

theorem hostAndPort_render {a : Address} (hhost : a.host ≠ "") (hport : a.port ≠ 0) :
    HostAndPort a.render.toList a := by
  have hport : IsPort (Nat.toDigits 10 a.port.toNat) a.port :=
    ⟨_, .inl rfl, Nat.toDigits_ne_nil,
      fun _ => Nat.isDigit_of_mem_toDigits (by decide) (by decide),
      Nat.ofDigitChars_ten_toDigits, hport⟩
  have hboth := HostAndPort.both (mt String.toList_eq_nil_iff.mp hhost)
    (not_mem_toDigits (by decide) a.port.toNat) hport
  rwa [String.ofList_toList, ← toList_render] at hboth

-- A text with nothing to trim that stands for an address.
theorem parse_of_trimmed {text : String} {rest : List Char} {a : Address} (hsome : text ≠ "")
    (htrim : Text.trim text.toList = text.toList) (hrest : AfterScheme text.toList rest)
    (h : HostAndPort rest a) : parse text = .ok a := by
  refine (parse_eq_ok_iff ?_).mpr ⟨rest, ?_, h⟩
  · rw [htrim]
    exact mt String.toList_eq_nil_iff.mp hsome
  · rw [htrim]
    exact hrest

variable {a : Address}

theorem parse_render (hhost : a.host ≠ "") (hport : a.port ≠ 0)
    (hblank : ∀ c ∈ a.host.toList.head?, ¬ Text.isBlank c)
    (hscheme : ¬ "://".toList <:+: a.host.toList) : parse a.render = .ok a := by
  have hlist := toList_render a
  obtain ⟨c, host, hcons⟩ := List.exists_cons_of_ne_nil (mt String.toList_eq_nil_iff.mp hhost)
  have hplain : AfterScheme a.render.toList a.render.toList := by
    refine .plain (hlist ▸ not_infix_append hscheme ?_)
    exact List.not_mem_cons_of_ne_of_not_mem (by decide) (not_mem_toDigits (by decide) _)
  have htrim : Text.trim a.render.toList = a.render.toList := by
    have := trim_cons_append_toDigits (hblank c (by simp [hcons])) (host ++ [':']) a.port.toNat
    rw [hlist, hcons]
    simpa using this
  refine parse_of_trimmed (fun h => ?_) htrim hplain (hostAndPort_render hhost hport)
  rw [h] at hlist
  simp at hlist

theorem parse_scheme_render (hhost : a.host ≠ "") (hport : a.port ≠ 0) :
    parse ("tcp://" ++ a.render) = .ok a := by
  have hlist : ("tcp://" ++ a.render).toList = "tcp://".toList ++ a.render.toList :=
    String.toList_append
  have htrim : Text.trim ("tcp://" ++ a.render).toList = ("tcp://" ++ a.render).toList := by
    have := trim_cons_append_toDigits (by decide : ¬ Text.isBlank 't')
      ("cp://".toList ++ a.host.toList ++ [':']) a.port.toNat
    rw [hlist, toList_render]
    simpa using this
  refine parse_of_trimmed (fun h => ?_) htrim ?_ (hostAndPort_render hhost hport)
  · rw [h] at hlist
    simp at hlist
  · rw [hlist]
    exact afterScheme_iff.mpr rfl

/-- A rendered address is read back, with or without a scheme in front, if its host is not empty,
does not start with white space and has no `://` in it. For any text, what is read is what the
text stands for once it is trimmed: the default if nothing is left, else what the grammar says,
and an error that shows the trimmed text if the grammar says nothing. The host of an address that
was read is not empty, and its port is not zero. -/
theorem parse_grammar :
    (∀ a : Address, a.host ≠ "" → 1 ≤ a.port.toNat →
      (∀ c ∈ a.host.toList.head?, ¬ Text.isBlank c) → ¬ "://".toList <:+: a.host.toList →
      parse a.render = .ok a ∧ parse ("tcp://" ++ a.render) = .ok a) ∧
    ∀ text : String, let shown := Text.trim text.toList
      (shown = [] → parse text = .ok {}) ∧
      (shown ≠ [] →
        (∀ a, parse text = .ok a ↔ ∃ rest, AfterScheme shown rest ∧ HostAndPort rest a) ∧
        ((¬ ∃ a rest, AfterScheme shown rest ∧ HostAndPort rest a) →
          parse text = .error (.invalidAddress (String.ofList shown)))) ∧
      ∀ a, parse text = .ok a → a.host ≠ "" ∧ 1 ≤ a.port.toNat ∧ a.port.toNat ≤ 65535 := by
  have hpositive {port : UInt16} : port ≠ 0 ↔ 1 ≤ port.toNat := by
    rw [Nat.one_le_iff_ne_zero, ne_eq, ne_eq, ← UInt16.toNat_inj]
    rfl
  refine ⟨fun a hhost hport hblank hscheme => ?_, fun text => ?_⟩
  · have hport := hpositive.mpr hport
    exact ⟨parse_render hhost hport hblank hscheme, parse_scheme_render hhost hport⟩
  · intro shown
    refine ⟨fun hshown => ?_, fun hshown => ⟨fun _ => parse_eq_ok_iff hshown,
      parse_eq_error hshown⟩, fun a h => ?_⟩
    · rw [parse]
      exact if_pos hshown
    · obtain ⟨hhost, hport⟩ := parse_valid h
      exact ⟨hhost, hpositive.mp hport, Nat.le_of_lt_succ a.port.toNat_lt⟩

-- A host with colons of its own, a port with a sign and a leading zero, and a port that is too
-- large.
theorem parse_grammar_colons :
    let a : Address := ⟨"fe80::1", 80⟩
    a.render = "fe80::1:80" ∧ parse a.render = .ok a ∧ parse ("tcp://" ++ a.render) = .ok a ∧
    parse " tcp://:+080 " = .ok { port := 80 } ∧
    parse "daq:65536" = .error (.invalidAddress "daq:65536") ∧
    parse "\t" = .ok {} := by
  intro a
  have hrest : AfterScheme (Text.trim " tcp://:+080 ".toList) ":+080".toList :=
    afterScheme_iff.mpr (by decide +kernel)
  have hport : HostAndPort ":+080".toList { port := 80 } :=
    .colonPort (by decide +kernel) ⟨"080".toList, .inr rfl, by decide +kernel, by simp,
      by decide +kernel, by decide +kernel⟩
  have hlarge : ofHostAndPort? "daq:65536".toList = none := by decide +kernel
  have hshown : Text.trim "daq:65536".toList = "daq:65536".toList := by decide +kernel
  obtain ⟨hrender, hparse⟩ := parse_grammar
  obtain ⟨hplain, hscheme⟩ := hrender a (by decide +kernel) (by decide +kernel)
    (by simp [a, Text.isBlank]) (by decide +kernel)
  refine ⟨by decide +kernel, hplain, hscheme, ?_, ?_, (hparse "\t").1 (by decide +kernel)⟩
  · exact ((hparse " tcp://:+080 ").2.1 (by decide +kernel)).1 _ |>.mpr ⟨_, hrest, hport⟩
  · have herror := ((hparse "daq:65536").2.1 (by decide +kernel)).2
    rw [hshown, String.ofList_toList] at herror
    refine herror ?_
    rintro ⟨b, rest, hrest, hthere⟩
    rw [← afterScheme_iff.mp hrest] at hthere
    exact absurd (hlarge.symm.trans hthere.eq_some) nofun

end Acquisition.Address
