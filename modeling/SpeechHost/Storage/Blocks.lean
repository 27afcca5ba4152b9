import SpeechHost.Storage.Program
/-!
# Blocks of bytes
-/

namespace SpeechHost.Storage

/-- Cuts bytes into blocks: all of them full, but for the last. -/
def blocks (size : Nat) : Bytes → List Bytes
  | [] => []
  | b :: bs => (b :: bs.take (size - 1)) :: blocks size (bs.drop (size - 1))
termination_by bytes => bytes.length
decreasing_by simp only [List.length_cons, List.length_drop]; omega

theorem flatten_blocks (size : Nat) (bytes : Bytes) : (blocks size bytes).flatten = bytes := by
  fun_induction blocks size bytes with
  | case1 => rfl
  | case2 b bs ih => simp [ih]

theorem ne_nil_of_mem_blocks {size : Nat} {bytes block : Bytes} (h : block ∈ blocks size bytes) :
    block ≠ [] := by
  fun_induction blocks size bytes with
  | case1 => simp at h
  | case2 b bs ih =>
    rcases List.mem_cons.1 h with rfl | h
    · simp
    · exact ih h

theorem length_le_of_mem_blocks {size : Nat} (hsize : 0 < size) {bytes block : Bytes}
    (h : block ∈ blocks size bytes) : block.length ≤ size := by
  fun_induction blocks size bytes with
  | case1 => simp at h
  | case2 b bs ih =>
    rcases List.mem_cons.1 h with rfl | h
    · simp only [List.length_cons, List.length_take]
      omega
    · exact ih h

theorem length_of_mem_dropLast_blocks {size : Nat} (hsize : 0 < size) {bytes block : Bytes}
    (h : block ∈ (blocks size bytes).dropLast) : block.length = size := by
  fun_induction blocks size bytes with
  | case1 => simp at h
  | case2 b bs ih =>
    rcases hrest : bs.drop (size - 1) with _ | ⟨c, cs⟩
    · rw [hrest, blocks] at h
      simp at h
    · have hne : blocks size (bs.drop (size - 1)) ≠ [] := by
        rw [hrest, blocks]
        simp
      rw [List.dropLast_cons_of_ne_nil hne] at h
      rcases List.mem_cons.1 h with rfl | h
      · have hlong : 0 < (bs.drop (size - 1)).length := by simp [hrest]
        rw [List.length_drop] at hlong
        simp only [List.length_cons, List.length_take]
        omega
      · exact ih h

theorem dvd_length_of_mem_blocks {size unit : Nat} (hsize : 0 < size) (hunit : unit ∣ size)
    {bytes block : Bytes} (hbytes : unit ∣ bytes.length) (h : block ∈ blocks size bytes) :
    unit ∣ block.length := by
  fun_induction blocks size bytes with
  | case1 => simp at h
  | case2 b bs ih =>
    rw [List.length_cons] at hbytes
    rcases List.mem_cons.1 h with rfl | h
    · rw [List.length_cons, List.length_take]
      rcases Nat.le_total (size - 1) bs.length with hle | hle
      · rw [Nat.min_eq_left hle, Nat.sub_add_cancel hsize]
        exact hunit
      · rw [Nat.min_eq_right hle]
        exact hbytes
    · refine ih ?_ h
      rw [List.length_drop]
      rcases Nat.le_total (size - 1) bs.length with hle | hle
      · have hrest : bs.length - (size - 1) = bs.length + 1 - size := by omega
        rw [hrest]
        exact Nat.dvd_sub hbytes hunit
      · rw [Nat.sub_eq_zero_of_le hle]
        exact Nat.dvd_zero unit

end SpeechHost.Storage
