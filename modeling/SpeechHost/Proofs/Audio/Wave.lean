import Mathlib.Tactic.SplitIfs
import SpeechHost.Audio.Wave.Decode
import SpeechHost.Proofs.Outcome
/-!
# Where the samples of a WAVE stream stand

A read takes bytes from the front of what is still to come (`take_ok`), so what is left behind a header is
the end of the file, right behind the name and the size of the data chunk (`open?_ok`). The samples are the
first bytes of it, as many as that size says (`payload_ok_iff`).
-/

namespace SpeechHost.Audio.Wave

open SpeechHost.Storage

variable {n v size fuel : Nat} {bytes head rest : Bytes}

/-! ## Reads -/

theorem take_append (head rest : Bytes) : take head.length (head ++ rest) = .ok (head, rest) := by
  simp [take]

theorem take_ok (h : take n bytes = .ok (head, rest)) : bytes = head ++ rest ∧ head.length = n := by
  unfold take at h
  simp only at h
  split_ifs at h with hshort
  obtain ⟨rfl, rfl⟩ := Prod.mk.inj (Except.ok.inj h)
  refine ⟨(List.take_append_drop n bytes).symm, ?_⟩
  rw [List.length_take] at hshort ⊢
  omega

theorem number_ok (h : number n bytes = .ok (v, rest)) :
    ∃ field, bytes = field ++ rest ∧ field.length = n ∧ field = littleEndian n v := by
  obtain ⟨⟨field, rest'⟩, htake, hpure⟩ := bind_ok h
  obtain ⟨rfl, rfl⟩ := Prod.mk.inj (Except.ok.inj hpure)
  obtain ⟨hsplit, hlength⟩ := take_ok htake
  refine ⟨field, hsplit, hlength, ?_⟩
  rw [← hlength, littleEndian_ofLittleEndian]

theorem number_lt (h : number n bytes = .ok (v, rest)) : v < Nat.pow 256 n := by
  obtain ⟨⟨field, rest'⟩, htake, hpure⟩ := bind_ok h
  obtain ⟨rfl, rfl⟩ := Prod.mk.inj (Except.ok.inj hpure)
  rw [← (take_ok htake).2]
  exact ofLittleEndian_lt field

theorem number_littleEndian (n v : Nat) (rest : Bytes) :
    number n (littleEndian n v ++ rest) = .ok (v % Nat.pow 256 n, rest) := by
  have htake := take_append (littleEndian n v) rest
  rw [length_littleEndian] at htake
  simp only [number, htake, ok_bind]
  rw [ofLittleEndian_littleEndian]
  rfl

@[simp] theorem require_true (rule : String) : require true rule = .ok () := rfl

@[simp] theorem require_false (rule : String) : require false rule = .error (.illFormed rule) := rfl

theorem require_ok {holds : Bool} {rule : String} {u : Unit} (h : require holds rule = .ok u) :
    holds = true := by
  unfold require at h
  split_ifs at h with hholds
  exact hholds

/-! ## Behind a read -/

theorem suffix_of_take (h : take n bytes = .ok (head, rest)) : rest <:+ bytes :=
  ⟨head, (take_ok h).1.symm⟩

theorem suffix_of_number (h : number n bytes = .ok (v, rest)) : rest <:+ bytes := by
  obtain ⟨field, rfl, -⟩ := number_ok h
  exact List.suffix_append field rest

/-! ## Format chunks -/

/-- What is known of the numbers in a format chunk: they come from fields of two and of four bytes, and
the samples of a frame are as long as the frame, or shorter. -/
structure Layout.Sound (l : Layout) : Prop where
  channels_pos : 0 < l.channels
  channels_lt : l.channels < 0x10000
  rate_lt : l.rate < 0x100000000
  frame_lt : l.container * l.channels < 0x10000

theorem plainTail_ok {l l' : Layout} (h : plainTail size l bytes = .ok (l', rest)) :
    rest <:+ bytes ∧ ∃ bits kind, l' = { l with bits, kind } := by
  obtain ⟨-, -, h⟩ := bind_ok h
  split_ifs at h
  · obtain ⟨rfl, rfl⟩ := Prod.mk.inj (Except.ok.inj h)
    exact ⟨List.suffix_rfl, _, _, rfl⟩
  · obtain ⟨⟨_, bytes₁⟩, htake, h⟩ := bind_ok h
    obtain ⟨-, -, h⟩ := bind_ok h
    obtain ⟨rfl, rfl⟩ := Prod.mk.inj (Except.ok.inj h)
    exact ⟨suffix_of_take htake, _, _, rfl⟩
  · obtain ⟨⟨_, bytes₁⟩, htake, h⟩ := bind_ok h
    obtain ⟨-, -, h⟩ := bind_ok h
    obtain ⟨⟨_, bytes₂⟩, htake', h⟩ := bind_ok h
    obtain ⟨rfl, rfl⟩ := Prod.mk.inj (Except.ok.inj h)
    exact ⟨(suffix_of_take htake').trans (suffix_of_take htake), _, _, rfl⟩

theorem fractionTail_ok {l l' : Layout} (h : fractionTail size l bytes = .ok (l', rest)) :
    rest <:+ bytes ∧ ∃ bits kind, l' = { l with bits, kind } := by
  obtain ⟨-, -, h⟩ := bind_ok h
  split_ifs at h
  · obtain ⟨⟨_, bytes₁⟩, hextra, h⟩ := bind_ok h
    obtain ⟨-, -, h⟩ := bind_ok h
    obtain ⟨-, -, h⟩ := bind_ok h
    obtain ⟨rfl, rfl⟩ := Prod.mk.inj (Except.ok.inj h)
    exact ⟨suffix_of_number hextra, _, _, rfl⟩
  · obtain ⟨⟨_, bytes₁⟩, hextra, h⟩ := bind_ok h
    obtain ⟨-, rfl⟩ := Prod.mk.inj (Except.ok.inj hextra)
    obtain ⟨-, -, h⟩ := bind_ok h
    obtain ⟨-, -, h⟩ := bind_ok h
    obtain ⟨rfl, rfl⟩ := Prod.mk.inj (Except.ok.inj h)
    exact ⟨List.suffix_rfl, _, _, rfl⟩

theorem extendedTail_ok {l l' : Layout} (h : extendedTail size l bytes = .ok (l', rest)) :
    rest <:+ bytes ∧ ∃ bits kind, l' = { l with bits, kind } := by
  obtain ⟨-, -, h⟩ := bind_ok h
  obtain ⟨⟨_, bytes₁⟩, hextra, h⟩ := bind_ok h
  obtain ⟨-, -, h⟩ := bind_ok h
  obtain ⟨⟨_, bytes₂⟩, hvalid, h⟩ := bind_ok h
  obtain ⟨⟨_, bytes₃⟩, hmask, h⟩ := bind_ok h
  obtain ⟨⟨_, bytes₄⟩, hguid, h⟩ := bind_ok h
  have hbehind : bytes₄ <:+ bytes :=
    (suffix_of_take hguid).trans <| (suffix_of_take hmask).trans <|
      (suffix_of_number hvalid).trans (suffix_of_number hextra)
  simp only at h
  split_ifs at h
  all_goals
    obtain ⟨rfl, rfl⟩ := Prod.mk.inj (Except.ok.inj h)
    exact ⟨hbehind, _, _, rfl⟩

theorem formatTail_ok {coding : Nat} {l l' : Layout}
    (h : formatTail coding size l bytes = .ok (l', rest)) :
    rest <:+ bytes ∧ ∃ bits kind, l' = { l with bits, kind } := by
  unfold formatTail at h
  split at h
  · exact plainTail_ok h
  · exact fractionTail_ok h
  · exact extendedTail_ok h
  · contradiction

theorem layout_ok {channels rate perSecond frame bits : Nat} {l : Layout}
    (h : layout channels rate perSecond frame bits = .ok l) :
    channels ≠ 0 ∧ l = ⟨channels, rate, bits, frame / channels, .whole⟩ := by
  obtain ⟨⟨⟩, hchannels, h⟩ := bind_ok h
  obtain ⟨-, -, h⟩ := bind_ok h
  obtain ⟨-, -, h⟩ := bind_ok h
  obtain ⟨-, -, h⟩ := bind_ok h
  obtain ⟨-, -, h⟩ := bind_ok h
  exact ⟨by simpa using require_ok hchannels, (Except.ok.inj h).symm⟩

theorem format_ok {l : Layout} (h : format size bytes = .ok (l, rest)) :
    rest <:+ bytes ∧ l.Sound := by
  obtain ⟨-, -, h⟩ := bind_ok h
  obtain ⟨⟨coding, bytes₁⟩, hcoding, h⟩ := bind_ok h
  obtain ⟨⟨channels, bytes₂⟩, hchannels, h⟩ := bind_ok h
  obtain ⟨⟨rate, bytes₃⟩, hrate, h⟩ := bind_ok h
  obtain ⟨⟨_, bytes₄⟩, hspeed, h⟩ := bind_ok h
  obtain ⟨⟨frame, bytes₅⟩, hframe, h⟩ := bind_ok h
  obtain ⟨⟨bits, bytes₆⟩, hbits, h⟩ := bind_ok h
  obtain ⟨l₀, hlayout, h⟩ := bind_ok h
  obtain ⟨hpositive, rfl⟩ := layout_ok hlayout
  obtain ⟨hrest, _, _, rfl⟩ := formatTail_ok h
  have hbehind : bytes₆ <:+ bytes :=
    (suffix_of_number hbits).trans <| (suffix_of_number hframe).trans <|
      (suffix_of_number hspeed).trans <| (suffix_of_number hrate).trans <|
      (suffix_of_number hchannels).trans (suffix_of_number hcoding)
  refine ⟨hrest.trans hbehind, Nat.pos_of_ne_zero hpositive, number_lt hchannels, number_lt hrate, ?_⟩
  exact Nat.lt_of_le_of_lt (Nat.div_mul_le_self frame channels) (number_lt hframe)

/-! ## The samples -/

/-- What is known of a stream: its frames are complete, and the samples are as many as a size of four
bytes says. -/
structure Stream.Sound (s : Stream) : Prop where
  layout : s.layout.Sound
  frames : s.layout.channels ∣ s.count
  size_lt : s.count * s.layout.container < 0x100000000

theorem chunks_ok {layout : Option Layout} {s : Stream} (hlayout : ∀ l ∈ layout, l.Sound)
    (h : chunks layout bytes fuel = .ok s) :
    s.Sound ∧ tag "data" ++ littleEndian 4 (s.count * s.layout.container) ++ s.rest <:+ bytes := by
  induction fuel generalizing layout bytes with
  | zero => contradiction
  | succ fuel ih =>
    obtain ⟨⟨name, bytes₁⟩, hname, h⟩ := bind_ok h
    obtain ⟨⟨size, bytes₂⟩, hsize, h⟩ := bind_ok h
    have hbehind : bytes₂ <:+ bytes := (suffix_of_number hsize).trans (suffix_of_take hname)
    simp only at h
    split_ifs at h with hformat hfact hdata
    · obtain ⟨⟨l, bytes₃⟩, hl, h⟩ := bind_ok h
      obtain ⟨hsuffix, hsound⟩ := format_ok hl
      obtain ⟨hs, hrest⟩ := ih (by simpa using hsound) h
      exact ⟨hs, hrest.trans (hsuffix.trans hbehind)⟩
    · obtain ⟨⟨_, bytes₃⟩, htake, h⟩ := bind_ok h
      obtain ⟨hs, hrest⟩ := ih hlayout h
      exact ⟨hs, hrest.trans ((suffix_of_take htake).trans hbehind)⟩
    · cases layout with
      | none => contradiction
      | some l =>
        obtain ⟨⟨⟩, hwhole, h⟩ := bind_ok h
        obtain ⟨⟨⟩, hframes, h⟩ := bind_ok h
        obtain rfl := (Except.ok.inj h).symm
        obtain ⟨hsplit, -⟩ := take_ok hname
        obtain ⟨field, hfield, -, hsizeField⟩ := number_ok hsize
        have hcount : size / l.container * l.container = size := by
          have hrem : size % l.container = 0 := by simpa using require_ok hwhole
          exact Nat.div_mul_cancel (Nat.dvd_of_mod_eq_zero hrem)
        refine ⟨⟨hlayout l rfl, ?_, ?_⟩, ?_⟩
        · exact Nat.dvd_of_mod_eq_zero (by simpa using require_ok hframes)
        · rw [hcount]
          exact number_lt hsize
        · have hbytes : tag "data" ++ littleEndian 4 (size / l.container * l.container) ++ bytes₂ = bytes := by
            rw [hsplit, hfield, hsizeField, eq_of_beq hdata, hcount, List.append_assoc]
          exact ⟨[], hbytes⟩
    · obtain ⟨⟨_, bytes₃⟩, htake, h⟩ := bind_ok h
      obtain ⟨hs, hrest⟩ := ih hlayout h
      exact ⟨hs, hrest.trans ((suffix_of_take htake).trans hbehind)⟩

theorem open?_ok {s : Stream} (h : open? bytes = .ok s) :
    s.Sound ∧ ∃ front, bytes =
      front ++ tag "data" ++ littleEndian 4 (s.count * s.layout.container) ++ s.rest := by
  obtain ⟨⟨_, bytes₁⟩, hriff, h⟩ := bind_ok h
  obtain ⟨-, -, h⟩ := bind_ok h
  obtain ⟨⟨_, bytes₂⟩, hsize, h⟩ := bind_ok h
  obtain ⟨⟨_, bytes₃⟩, hwave, h⟩ := bind_ok h
  obtain ⟨-, -, h⟩ := bind_ok h
  obtain ⟨hsound, hrest⟩ := chunks_ok (by simp) h
  obtain ⟨front, hfront⟩ := hrest.trans <| (suffix_of_take hwave).trans <|
    (suffix_of_take hsize).trans (suffix_of_take hriff)
  exact ⟨hsound, front, by simpa only [List.append_assoc] using hfront.symm⟩

theorem checkWidth_ok_iff {s : Stream} {width : Nat} :
    s.checkWidth width = .ok () ↔ s.layout.kind = .whole ∧ s.layout.container = width := by
  unfold Stream.checkWidth
  split_ifs <;> simp_all

/-- The samples are read if all of them are there, and if their containers are as wide as was asked for.
Without samples nothing is asked of the containers. -/
theorem payload_ok_iff {s : Stream} {width : Nat} {data : Bytes} :
    s.payload width = .ok data ↔
      data.length = s.count * width ∧ data <+: s.rest ∧
        (s.count ≠ 0 → s.layout.kind = .whole ∧ s.layout.container = width) := by
  by_cases hcount : s.count = 0
  · simp only [Stream.payload, hcount, beq_self_eq_true, if_true, Nat.zero_mul]
    constructor
    · rintro ⟨⟩
      simp
    · rintro ⟨hdata, -, -⟩
      rw [List.length_eq_zero_iff.1 hdata]
      rfl
  · simp only [Stream.payload, beq_iff_eq, hcount, if_false, ne_eq, not_false_eq_true, true_imp_iff]
    constructor
    · intro h
      obtain ⟨⟨⟩, hwidth, h⟩ := bind_ok h
      obtain ⟨⟨_, behind⟩, htake, h⟩ := bind_ok h
      obtain rfl := Except.ok.inj h
      obtain ⟨hsplit, hlength⟩ := take_ok htake
      exact ⟨hlength, ⟨behind, hsplit.symm⟩, checkWidth_ok_iff.1 hwidth⟩
    · rintro ⟨hlength, ⟨behind, hsplit⟩, hwidth⟩
      rw [checkWidth_ok_iff.2 hwidth, ← hsplit, ← hlength, take_append]
      rfl

theorem flatMap_samplesOf (h : 2 ∣ bytes.length) : (samplesOf bytes).flatMap sampleBytes = bytes := by
  induction bytes using samplesOf.induct with
  | case1 a b rest ih =>
    have hrest : 2 ∣ rest.length := by
      rw [List.length_cons, List.length_cons] at h
      omega
    rw [samplesOf, List.flatMap_cons, sampleBytes_ofSampleBytes, ih hrest]
    rfl
  | case2 bytes hnot =>
    match bytes, h, hnot with
    | [], _, _ => rfl
    | [_], h, _ => simp at h
    | a :: b :: rest, _, hnot => exact absurd rfl (hnot a b rest)

theorem map_ofSampleByte (bytes : Bytes) : (bytes.map ofSampleByte).map sampleByte = bytes := by
  rw [List.map_map]
  exact List.map_id'' sampleByte_ofSampleByte bytes

end SpeechHost.Audio.Wave
