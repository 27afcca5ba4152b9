import SpeechHost.Proofs.Audio.Wave
/-!
# WAVE data that is cut off

What a read gives depends only on the bytes that it takes: it would give the same if nothing stood behind
them (`Local`). Reads one after the other have this property when each of them has it, so the reading of a
header has it, and data that is cut off behind the header has the same header (`open?_take_iff`).
-/

namespace SpeechHost.Audio.Wave

open SpeechHost.Storage

variable {α β γ : Type} {n fuel : Nat} {bytes rest : Bytes}

/-! ## Reads that do not look ahead -/

/-- A read, with results put together from what was read and what is left, that takes some bytes from the
front and does not depend on what stands behind them. -/
def Local (put : β → Bytes → γ) (read : Bytes → Except Defect γ) : Prop :=
  ∀ bytes b rest, read bytes = .ok (put b rest) ↔
    ∃ head, bytes = head ++ rest ∧ read head = .ok (put b [])

namespace Local

variable {put : β → Bytes → γ}

theorem give (hput : ∀ b rest c rest', put b rest = put c rest' ↔ b = c ∧ rest = rest') (b : β) :
    Local put fun bytes => .ok (put b bytes) := by
  intro bytes c rest
  simp only [Except.ok.injEq, hput]
  constructor
  · rintro ⟨rfl, rfl⟩
    exact ⟨[], rfl, rfl, rfl⟩
  · rintro ⟨head, rfl, rfl, rfl⟩
    exact ⟨rfl, rfl⟩

theorem pure (a : α) : Local Prod.mk fun bytes => .ok (a, bytes) :=
  give (fun _ _ _ _ => Prod.mk.injEq _ _ _ _ ▸ Iff.rfl) a

theorem error (e : Defect) : Local put fun _ => .error e :=
  fun _ _ _ => ⟨nofun, fun ⟨_, _, h⟩ => nomatch h⟩

theorem bind {read : Bytes → Except Defect (α × Bytes)} {next : α × Bytes → Except Defect γ}
    (hread : Local Prod.mk read) (hnext : ∀ a, Local put fun bytes => next (a, bytes)) :
    Local put fun bytes => read bytes >>= next := by
  intro bytes b rest
  constructor
  · intro h
    obtain ⟨⟨a, behind⟩, htaken, hsecond⟩ := bind_ok h
    obtain ⟨first, rfl, hfirst⟩ := (hread _ _ _).1 htaken
    obtain ⟨second, rfl, hlast⟩ := (hnext a _ _ _).1 hsecond
    have htaken' := (hread (first ++ second) a second).2 ⟨first, rfl, hfirst⟩
    refine ⟨first ++ second, (List.append_assoc _ _ _).symm, ?_⟩
    simp only [htaken', ok_bind]
    exact hlast
  · rintro ⟨head, rfl, h⟩
    obtain ⟨⟨a, behind⟩, htaken, hsecond⟩ := bind_ok h
    obtain ⟨first, rfl, hfirst⟩ := (hread _ _ _).1 htaken
    have htaken' := (hread (first ++ behind ++ rest) a (behind ++ rest)).2
      ⟨first, List.append_assoc _ _ _, hfirst⟩
    simp only [htaken', ok_bind]
    exact (hnext a _ _ _).2 ⟨behind, rfl, hsecond⟩

theorem require {read : Bytes → Except Defect γ} (hread : Local put read) (holds : Bool) (rule : String) :
    Local put fun bytes => Wave.require holds rule >>= fun _ => read bytes := by
  cases holds with
  | true => exact hread
  | false => exact error _

theorem ite {first second : Bytes → Except Defect γ} {c : Prop} [Decidable c] (hfirst : Local put first)
    (hsecond : Local put second) : Local put fun bytes => if c then first bytes else second bytes := by
  by_cases hc : c
  · simpa only [hc, if_true] using hfirst
  · simpa only [hc, if_false] using hsecond

end Local

theorem local_take (n : Nat) : Local Prod.mk (take n) := by
  intro bytes head rest
  constructor
  · intro h
    obtain ⟨rfl, rfl⟩ := take_ok h
    have hwhole := take_append head []
    rw [List.append_nil] at hwhole
    exact ⟨head, rfl, hwhole⟩
  · rintro ⟨taken, rfl, h⟩
    obtain ⟨htaken, rfl⟩ := take_ok h
    rw [List.append_nil] at htaken
    rw [htaken]
    exact take_append head rest

theorem local_number (n : Nat) : Local Prod.mk (number n) :=
  (local_take n).bind fun field => .pure (ofLittleEndian field)

/-! ## Headers -/

theorem local_plainTail (size : Nat) (l : Layout) : Local Prod.mk (plainTail size l) := by
  refine .require (.ite (.pure l) ?_) _ _
  refine (local_take 2).bind fun _ => .require (.ite (.pure l) ?_) _ _
  exact (local_take 22).bind fun _ => .pure l

theorem local_fractionTail (size : Nat) (l : Layout) : Local Prod.mk (fractionTail size l) := by
  refine .require (.ite ((local_number 2).bind fun _ => ?_) ((Local.pure 0).bind fun _ => ?_)) _ _
  all_goals exact .require (.require (.pure _) _ _) _ _

theorem local_extendedTail (size : Nat) (l : Layout) : Local Prod.mk (extendedTail size l) := by
  refine .require ((local_number 2).bind fun extra => .require ?_ _ _) _ _
  refine (local_number 2).bind fun valid => (local_take 4).bind fun _ => (local_take 16).bind fun _ => ?_
  exact .ite (.pure _) (.ite (.pure _) (.error _))

theorem local_formatTail (coding size : Nat) (l : Layout) :
    Local Prod.mk (formatTail coding size l) := by
  unfold formatTail
  split
  · exact local_plainTail size l
  · exact local_fractionTail size l
  · exact local_extendedTail size l
  · exact .error _

theorem local_format (size : Nat) : Local Prod.mk (format size) := by
  refine .require ?_ _ _
  refine (local_number 2).bind fun coding => (local_number 2).bind fun channels =>
    (local_number 4).bind fun rate => (local_number 4).bind fun perSecond =>
    (local_number 2).bind fun frame => (local_number 2).bind fun bits => ?_
  cases hlayout : layout channels rate perSecond frame bits with
  | error e => simpa only [hlayout, error_bind] using Local.error e
  | ok l => simpa only [hlayout, ok_bind] using local_formatTail coding size l

/-- A stream from what its header says and the bytes behind it. -/
def Stream.behind (said : Layout × Nat) (rest : Bytes) : Stream := ⟨said.1, said.2, rest⟩

theorem local_chunks (layout : Option Layout) (fuel : Nat) :
    Local Stream.behind fun bytes => chunks layout bytes fuel := by
  induction fuel generalizing layout with
  | zero => exact .error _
  | succ fuel ih =>
    refine (local_take 4).bind fun name => (local_number 4).bind fun size => ?_
    refine .ite ((local_format size).bind fun l => ih (some l)) ?_
    refine .ite ((local_take 4).bind fun _ => ih layout) ?_
    refine .ite ?_ ((local_take size).bind fun _ => ih layout)
    cases layout with
    | none => exact .error _
    | some l =>
      refine .require (.require (.give ?_ (l, size / l.container)) _ _) _ _
      intro b rest c rest'
      simp [Stream.behind, Prod.ext_iff, and_assoc]

/-- The fuel does not matter as long as it is more than the number of bytes. -/
theorem chunks_fuel {layout : Option Layout} {s : Stream} (h : chunks layout bytes fuel = .ok s)
    (hn : bytes.length < n) : chunks layout bytes n = .ok s := by
  induction fuel generalizing layout bytes n with
  | zero => contradiction
  | succ fuel ih =>
    obtain ⟨m, rfl⟩ : ∃ m, n = m + 1 := ⟨n - 1, by omega⟩
    obtain ⟨⟨name, bytes₁⟩, hname, h⟩ := bind_ok h
    obtain ⟨⟨size, bytes₂⟩, hsize, h⟩ := bind_ok h
    -- the name of a chunk is not empty, so each chunk leaves fewer bytes than there were
    have hshorter : bytes₂.length < bytes.length := by
      obtain ⟨rfl, hlength⟩ := take_ok hname
      have hle := (suffix_of_number hsize).length_le
      simp only [List.length_append]
      omega
    have hagain : ∀ {layout : Option Layout} {bytes₃ : Bytes}, bytes₃ <:+ bytes₂ →
        chunks layout bytes₃ fuel = .ok s → chunks layout bytes₃ m = .ok s := by
      intro layout bytes₃ hsuffix h
      have hle := hsuffix.length_le
      exact ih h (by omega)
    simp only [chunks, hname, hsize, ok_bind]
    simp only at h
    split_ifs at h ⊢ with hformat hfact hdata
    · obtain ⟨⟨l, bytes₃⟩, hl, h⟩ := bind_ok h
      simp only [hl, ok_bind]
      exact hagain (format_ok hl).1 h
    · obtain ⟨⟨_, bytes₃⟩, htake, h⟩ := bind_ok h
      simp only [htake, ok_bind]
      exact hagain (suffix_of_take htake) h
    · exact h
    · obtain ⟨⟨_, bytes₃⟩, htake, h⟩ := bind_ok h
      simp only [htake, ok_bind]
      exact hagain (suffix_of_take htake) h

theorem local_allChunks :
    Local Stream.behind fun bytes => chunks none bytes (bytes.length + 1) := by
  intro bytes said rest
  rw [local_chunks none (bytes.length + 1) bytes said rest]
  refine exists_congr fun head => and_congr_right fun hsplit => ?_
  have hle : head.length ≤ bytes.length := by simp [hsplit]
  constructor
  · exact fun h => chunks_fuel h (by omega)
  · exact fun h => chunks_fuel h (by omega)

theorem local_open? : Local Stream.behind open? := by
  refine (local_take 4).bind fun riff => .require ?_ _ _
  refine (local_take 4).bind fun _ => (local_take 4).bind fun wave => .require ?_ _ _
  exact local_allChunks

/-- A header is read from data that is cut off if and only if it was cut off behind the header. -/
theorem open?_take_iff {wave : Bytes} {n : Nat} {said : Layout × Nat} {rest : Bytes} :
    open? (wave.take n) = .ok (.behind said rest) ↔
      ∃ more, open? wave = .ok (.behind said more) ∧ wave.length - more.length ≤ n ∧
        rest = more.take (n - (wave.length - more.length)) := by
  rw [local_open?]
  constructor
  · rintro ⟨head, hsplit, hhead⟩
    have hwave : wave = head ++ (rest ++ wave.drop n) := by
      rw [← List.append_assoc, ← hsplit, List.take_append_drop]
    have hlength : wave.length - (rest ++ wave.drop n).length = head.length := by
      have hsum := congrArg List.length hwave
      rw [List.length_append] at hsum
      omega
    have hle : head.length ≤ n := by
      have hsum := congrArg List.length hsplit
      rw [List.length_append, List.length_take] at hsum
      omega
    refine ⟨rest ++ wave.drop n, (local_open? _ _ _).2 ⟨head, hwave, hhead⟩, ?_, ?_⟩
    · rwa [hlength]
    · have hrest : rest = (wave.take n).drop head.length := by rw [hsplit, List.drop_left]
      have hbehind : wave.drop head.length = rest ++ wave.drop n := by
        have hdrop := congrArg (List.drop head.length) hwave
        rwa [List.drop_left] at hdrop
      rw [hlength, ← hbehind, ← List.drop_take]
      exact hrest
  · rintro ⟨more, hopen, hn, rfl⟩
    obtain ⟨head, rfl, hhead⟩ := (local_open? _ _ _).1 hopen
    refine ⟨head, ?_, hhead⟩
    rw [List.length_append, Nat.add_sub_cancel] at hn ⊢
    rw [List.take_append, List.take_of_length_le hn]

end SpeechHost.Audio.Wave
