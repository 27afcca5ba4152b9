import SpeechHost.Audio.Wave.Encode
import SpeechHost.Proofs.Audio.Wave
/-!
# Reading a header that was written

A header that was written is read back as it was meant if its numbers fit their fields
(`open?_header`). The size of a frame stands in a field of two bytes. Where it does not fit, which takes
`0x8000` channels of 16-bit samples, the header is refused (`open?_header_overflow`).
-/

namespace SpeechHost.Audio

open SpeechHost.Storage

theorem Format.width_pos (format : Format) : 0 < format.width := by
  cases format <;> decide

theorem Format.width_le (format : Format) : format.width ≤ 2 := by
  cases format <;> decide

/-- The bytes of a frame, which is one sample for each channel. -/
def Announcement.frame (a : Announcement) : Nat :=
  a.format.width * a.channels

/-- An announcement whose numbers fit the fields of a header, but perhaps for the size of a frame. -/
structure Announcement.Fits (a : Announcement) : Prop where
  channels_pos : 0 < a.channels
  channels_lt : a.channels < 0x10000
  rate_lt : a.rate < 0x100000000
  byteRate_lt : a.rate * a.format.width * a.channels < 0x100000000

namespace Wave

def layoutOf (a : Announcement) : Layout :=
  ⟨a.channels, a.rate, 8 * a.format.width, a.format.width, .whole⟩

variable {a : Announcement} {coding size : Nat}

/-! ## The format chunk -/

theorem length_formatFields (a : Announcement) (coding : Nat) : (formatFields a coding).length = 16 := by
  simp [formatFields, length_littleEndian]

theorem length_formatExtension (a : Announcement) : (formatExtension a).length = 24 := by
  simp [formatExtension, length_littleEndian, wholeGuid]

theorem length_formatBody_le (a : Announcement) : (formatBody a).length ≤ 40 := by
  unfold formatBody
  split_ifs <;> simp [length_formatFields, length_formatExtension]

theorem format_formatFields (hfits : a.Fits) (hcoding : coding < 0x10000) (hsize : 16 ≤ size)
    (rest : Bytes) :
    format size (formatFields a coding ++ rest) =
      layout a.channels a.rate (a.frame * a.rate) (a.frame % 0x10000) (8 * a.format.width) >>= fun l =>
        formatTail coding size l rest := by
  have hwidth := a.format.width_le
  have hspeed : a.rate * a.format.width * a.channels = a.frame * a.rate := by
    rw [Announcement.frame, Nat.mul_assoc, Nat.mul_comm]
  have hbyteRate : a.frame * a.rate % Nat.pow 256 4 = a.frame * a.rate := by
    rw [← hspeed]
    exact Nat.mod_eq_of_lt hfits.byteRate_lt
  have hbits : 8 * a.format.width % Nat.pow 256 2 = 8 * a.format.width :=
    Nat.mod_eq_of_lt (Nat.lt_of_le_of_lt (Nat.mul_le_mul_left 8 hwidth) (by decide))
  simp only [format, formatFields, List.append_assoc, hspeed, number_littleEndian, ok_bind, hsize,
    decide_true, require_true, hbyteRate, hbits, Nat.mod_eq_of_lt (show coding < Nat.pow 256 2 from hcoding),
    Nat.mod_eq_of_lt (show a.channels < Nat.pow 256 2 from hfits.channels_lt),
    Nat.mod_eq_of_lt (show a.rate < Nat.pow 256 4 from hfits.rate_lt)]
  rfl

theorem layout_frame (hfits : a.Fits) (hframe : a.frame < 0x10000) :
    layout a.channels a.rate (a.frame * a.rate) (a.frame % 0x10000) (8 * a.format.width) =
      .ok (layoutOf a) := by
  have hwidth := a.format.width_le
  have hpositive := a.format.width_pos
  have hcontainer : a.frame / a.channels = a.format.width := Nat.mul_div_cancel _ hfits.channels_pos
  have hchannels : (a.channels != 0) = true := bne_iff_ne.2 (Nat.pos_iff_ne_zero.1 hfits.channels_pos)
  have hroom : 8 * a.format.width < 0x10000 := by omega
  have hbits : (8 * a.format.width != 0) = true := bne_iff_ne.2 (by omega)
  simp [layout, Nat.mod_eq_of_lt hframe, hcontainer, hchannels, hroom, hbits, layoutOf]

/-- A frame that is too long for its field leaves less than a byte for each channel in it. -/
theorem layout_frame_overflow (hfits : a.Fits) (hframe : 0x10000 ≤ a.frame) :
    layout a.channels a.rate (a.frame * a.rate) (a.frame % 0x10000) (8 * a.format.width) =
      .error (.illFormed "sample bits exceeds size of sample") := by
  have hpositive := a.format.width_pos
  have hchannels : (a.channels != 0) = true := bne_iff_ne.2 (Nat.pos_iff_ne_zero.1 hfits.channels_pos)
  have hcontainer : a.frame % 0x10000 / a.channels = 0 := by
    have hlt := hfits.channels_lt
    have hdouble : a.frame ≤ 2 * a.channels := Nat.mul_le_mul_right _ a.format.width_le
    exact Nat.div_eq_of_lt (by omega)
  have hroom : ¬ 8 * a.format.width ≤ 0 := by omega
  simp [layout, hcontainer, hchannels, hroom]

theorem extendedTail_formatExtension (a : Announcement) (rest : Bytes) :
    extendedTail 40 (layoutOf a) (formatExtension a ++ rest) = .ok (layoutOf a, rest) := by
  have hbits : 8 * a.format.width % Nat.pow 256 2 = 8 * a.format.width :=
    Nat.mod_eq_of_lt (Nat.lt_of_le_of_lt (Nat.mul_le_mul_left 8 a.format.width_le) (by decide))
  have hpositive : 0 < 8 * a.format.width := by
    have := a.format.width_pos
    omega
  have hmask := take_append (littleEndian 4 (Nat.pow 2 (min a.channels maxSpeakers) - 1))
    (wholeGuid ++ rest)
  rw [length_littleEndian] at hmask
  have hguid : take 16 (wholeGuid ++ rest) = .ok (wholeGuid, rest) := take_append wholeGuid rest
  have hextra : (22 % Nat.pow 256 2 == 22) = true := rfl
  simp only [extendedTail, formatExtension, List.append_assoc, number_littleEndian, ok_bind, hmask, hguid,
    hbits, hpositive, hextra, require_true, Nat.le_refl, if_true, beq_self_eq_true]
  rfl

theorem format_formatBody (hfits : a.Fits) (hframe : a.frame < 0x10000) (rest : Bytes) :
    format (formatBody a).length (formatBody a ++ rest) = .ok (layoutOf a, rest) := by
  unfold formatBody
  split_ifs
  · rw [length_formatFields, format_formatFields hfits (by decide) (by decide),
      layout_frame hfits hframe]
    rfl
  · rw [List.length_append, length_formatFields, length_formatExtension, List.append_assoc,
      format_formatFields hfits (by decide) (by decide), layout_frame hfits hframe]
    exact extendedTail_formatExtension a rest

theorem format_formatBody_overflow (hfits : a.Fits) (hframe : 0x10000 ≤ a.frame) (rest : Bytes) :
    format (formatBody a).length (formatBody a ++ rest) =
      .error (.illFormed "sample bits exceeds size of sample") := by
  unfold formatBody
  split_ifs
  · rw [length_formatFields, format_formatFields hfits (by decide) (by decide),
      layout_frame_overflow hfits hframe]
    rfl
  · rw [List.length_append, length_formatFields, length_formatExtension, List.append_assoc,
      format_formatFields hfits (by decide) (by decide), layout_frame_overflow hfits hframe]
    rfl

/-! ## Chunks -/

theorem take_tag (name : String) (h : (tag name).length = 4) (rest : Bytes) :
    take 4 (tag name ++ rest) = .ok (tag name, rest) := by
  rw [← h]
  exact take_append ..

theorem chunks_formatChunk (a : Announcement) (before : Option Layout) (rest : Bytes) (fuel : Nat) :
    chunks before (formatChunk a ++ rest) (fuel + 1) =
      format (formatBody a).length (formatBody a ++ rest) >>= fun f => chunks (some f.1) f.2 fuel := by
  have hsize : (formatBody a).length % Nat.pow 256 4 = (formatBody a).length :=
    Nat.mod_eq_of_lt (Nat.lt_of_le_of_lt (length_formatBody_le a) (by decide))
  simp only [chunks, formatChunk, List.append_assoc, take_tag "fmt " rfl, number_littleEndian,
    ok_bind, hsize, beq_self_eq_true, if_true]

theorem chunks_data (l : Layout) {count : Nat} (hcontainer : 0 < l.container)
    (hcount : count * l.container < 0x100000000) (hframes : l.channels ∣ count) (rest : Bytes) (fuel : Nat) :
    chunks (some l) (tag "data" ++ littleEndian 4 (count * l.container) ++ rest) (fuel + 1) =
      .ok ⟨l, count, rest⟩ := by
  have hsize : count * l.container % Nat.pow 256 4 = count * l.container := Nat.mod_eq_of_lt hcount
  have hformat : (tag "data" == tag "fmt ") = false := rfl
  have hfact : (tag "data" == tag "fact") = false := rfl
  have hwhole : (count * l.container % l.container == 0) = true := by simp
  have hframe : (count % l.channels == 0) = true := beq_iff_eq.2 (Nat.mod_eq_zero_of_dvd hframes)
  simp only [chunks, List.append_assoc, take_tag "data" rfl, number_littleEndian, ok_bind, hsize,
    hformat, hfact, beq_self_eq_true, if_true, Bool.false_eq_true, if_false, hwhole, require_true,
    Nat.mul_div_cancel _ hcontainer, hframe]
  rfl

/-! ## The header -/

theorem open?_headerWith (a : Announcement) (fileSize dataSize : Nat) (rest : Bytes) :
    ∃ fuel, open? (headerWith a fileSize dataSize ++ rest) =
      format (formatBody a).length
          (formatBody a ++ (tag "data" ++ littleEndian 4 dataSize ++ rest)) >>= fun f =>
        chunks (some f.1) f.2 (fuel + 1) := by
  have hsize := take_append (littleEndian 4 fileSize)
    (tag "WAVE" ++ (formatChunk a ++ (tag "data" ++ (littleEndian 4 dataSize ++ rest))))
  rw [length_littleEndian] at hsize
  refine ⟨(formatChunk a ++ (tag "data" ++ (littleEndian 4 dataSize ++ rest))).length - 1, ?_⟩
  have hfuel : (formatChunk a ++ (tag "data" ++ (littleEndian 4 dataSize ++ rest))).length - 1 + 1 =
      (formatChunk a ++ (tag "data" ++ (littleEndian 4 dataSize ++ rest))).length := by
    simp only [List.length_append, length_littleEndian]
    omega
  rw [hfuel]
  simp only [open?, headerWith, List.append_assoc, take_tag "RIFF" rfl, hsize,
    take_tag "WAVE" rfl, ok_bind, beq_self_eq_true, require_true, chunks_formatChunk]

theorem open?_header (hfits : a.Fits) (hframe : a.frame < 0x10000) {count : Nat}
    (hcount : count * a.format.width < 0x100000000) (hframes : a.channels ∣ count) (rest : Bytes) :
    open? (header a (count * a.format.width) ++ rest) = .ok ⟨layoutOf a, count, rest⟩ := by
  obtain ⟨fuel, hopen⟩ := open?_headerWith a
    (4 + (formatChunk a).length + 8 + count * a.format.width) (count * a.format.width) rest
  rw [header, hopen, format_formatBody hfits hframe, ok_bind]
  exact chunks_data (layoutOf a) a.format.width_pos hcount hframes rest fuel

/-- A header for frames that are too long is refused. -/
theorem open?_header_overflow (hfits : a.Fits) (hframe : 0x10000 ≤ a.frame) (size : Nat) (rest : Bytes) :
    open? (header a size ++ rest) = .error (.illFormed "sample bits exceeds size of sample") := by
  obtain ⟨fuel, hopen⟩ := open?_headerWith a (4 + (formatChunk a).length + 8 + size) size rest
  rw [header, hopen, format_formatBody_overflow hfits hframe, error_bind]

end Wave

end SpeechHost.Audio
