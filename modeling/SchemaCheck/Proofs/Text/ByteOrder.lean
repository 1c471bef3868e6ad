import Mathlib.Tactic.Common
import Mathlib.Tactic.IntervalCases
import SchemaCheck.Proofs.Json.Scanning

/-!
# The order of texts and of their bytes

Texts are ordered by their characters, and the bytes that encode them are ordered alike.

* `continuation`: the bytes of a character behind its first one, six bits of its number each.
* `exists_encoding`: a character is a first byte, by which its length is known, and its
  continuation.
* `bytesOf_lt`: a text before another one has bytes before those of the other one.
-/

namespace SchemaCheck.Json

/-- The bytes that encode a number behind the first one, `k` of them. -/
def continuation (n : Nat) : Nat → Bytes
  | 0 => []
  | k + 1 => UInt8.ofNat (n / 64 ^ k % 64 + 128) :: continuation n k

/-- The first byte of an encoding that goes on with `k` bytes, for the number zero. -/
def leadMark : Nat → Nat
  | 0 => 0
  | 1 => 192
  | 2 => 224
  | _ => 240

/-- The least number of a character that takes `k` bytes behind its first one. -/
def leastCode : Nat → Nat
  | 0 => 0
  | 1 => 0x80
  | 2 => 0x800
  | 3 => 0x10000
  | _ => 0x110000

lemma ofNat_lt_ofNat {m n : Nat} (h : m < n) (hn : n < 256) : UInt8.ofNat m < UInt8.ofNat n := by
  rw [UInt8.lt_iff_toNat_lt, UInt8.toNat_ofNat', UInt8.toNat_ofNat', Nat.mod_eq_of_lt hn,
    Nat.mod_eq_of_lt (Nat.lt_trans h hn)]
  exact h

/-- Of two numbers that differ in their last digits only, the smaller one has the smaller bytes. -/
lemma continuation_append_lt {m n k : Nat} (hlt : m < n) (hhigh : m / 64 ^ k = n / 64 ^ k)
    (s t : Bytes) : continuation m k ++ s < continuation n k ++ t := by
  induction k with
  | zero =>
      rw [Nat.pow_zero, Nat.div_one, Nat.div_one] at hhigh
      exact absurd hhigh (Nat.ne_of_lt hlt)
  | succ k ih =>
      have hdigits : ∀ x, x / 64 ^ (k + 1) = x / 64 ^ k / 64 := fun x => by
        rw [Nat.pow_succ, Nat.div_div_eq_div_mul]
      have hle : m / 64 ^ k ≤ n / 64 ^ k := Nat.div_le_div_right (Nat.le_of_lt hlt)
      rw [hdigits, hdigits] at hhigh
      rw [continuation, continuation, List.cons_append, List.cons_append, List.cons_lt_cons_iff]
      by_cases hdigit : m / 64 ^ k = n / 64 ^ k
      · exact .inr ⟨by rw [hdigit], ih hdigit⟩
      · exact .inl (ofNat_lt_ofNat (by omega) (by omega))

lemma toNat_lt_of_valid (c : Char) : c.val.toNat < 0x110000 := by
  have hvalid := c.valid
  simp only [UInt32.isValidChar, Nat.isValidChar] at hvalid
  omega

/-- **The encoding of a character**: its first byte tells how many follow. -/
lemma exists_encoding (c : Char) :
    ∃ k ≤ 3, leastCode k ≤ c.val.toNat ∧ c.val.toNat < leastCode (k + 1) ∧
      String.utf8EncodeChar c =
        UInt8.ofNat (leadMark k + c.val.toNat / 64 ^ k) :: continuation c.val.toNat k := by
  have hmax := toNat_lt_of_valid c
  simp only [String.utf8EncodeChar]
  generalize c.val.toNat = n at hmax ⊢
  split_ifs with h₁ h₂ h₃
  · refine ⟨0, by decide, Nat.zero_le n, Nat.lt_succ_of_le h₁, ?_⟩
    rw [leadMark, continuation, Nat.zero_add, Nat.pow_zero, Nat.div_one]
  · refine ⟨1, by decide, Nat.lt_of_not_le h₁, Nat.lt_succ_of_le h₂, ?_⟩
    have hlead : n / 64 % 32 + 192 = 192 + n / 64 := by omega
    simp [leadMark, continuation, hlead]
  · refine ⟨2, by decide, Nat.lt_of_not_le h₂, Nat.lt_succ_of_le h₃, ?_⟩
    have hlead : n / 4096 % 16 + 224 = 224 + n / 4096 := by omega
    simp [leadMark, continuation, hlead]
  · refine ⟨3, by decide, Nat.lt_of_not_le h₃, hmax, ?_⟩
    have hlead : n / 262144 % 8 + 240 = 240 + n / 262144 := by omega
    simp [leadMark, continuation, hlead]

/-- The first byte of a longer encoding is larger. -/
lemma lead_lt_lead {m n j k : Nat} (hjk : j < k) (hk : k ≤ 3) (hm : m < leastCode (j + 1))
    (hn : leastCode k ≤ n) (hn' : n < leastCode (k + 1)) :
    leadMark j + m / 64 ^ j < leadMark k + n / 64 ^ k ∧ leadMark k + n / 64 ^ k < 256 := by
  interval_cases k <;> interval_cases j <;> simp only [leadMark, leastCode] at hm hn hn' ⊢ <;> omega

/-- The larger character has the larger bytes, whatever follows it. -/
lemma utf8EncodeChar_append_lt {c d : Char} (h : c < d) (s t : Bytes) :
    String.utf8EncodeChar c ++ s < String.utf8EncodeChar d ++ t := by
  have hlt : c.val.toNat < d.val.toNat := h
  obtain ⟨j, hj, hleast, hmost, hc⟩ := exists_encoding c
  obtain ⟨k, hk, hleast', hmost', hd⟩ := exists_encoding d
  rw [hc, hd, List.cons_append, List.cons_append, List.cons_lt_cons_iff]
  rcases Nat.lt_trichotomy j k with hjk | rfl | hjk
  · obtain ⟨hlead, hbyte⟩ := lead_lt_lead hjk hk hmost hleast' hmost'
    exact .inl (ofNat_lt_ofNat hlead hbyte)
  · have hle : c.val.toNat / 64 ^ j ≤ d.val.toNat / 64 ^ j :=
      Nat.div_le_div_right (Nat.le_of_lt hlt)
    rcases Nat.lt_or_eq_of_le hle with hhigh | hhigh
    · refine .inl (ofNat_lt_ofNat (Nat.add_lt_add_left hhigh _) ?_)
      interval_cases j <;> simp only [leadMark, leastCode] at hmost' ⊢ <;> omega
    · exact .inr ⟨by rw [hhigh], continuation_append_lt hlt hhigh s t⟩
  · have hless : leastCode (k + 1) ≤ leastCode j := by
      interval_cases j <;> interval_cases k <;> decide
    omega

/-- **The order of bytes is that of texts.** -/
theorem bytesOf_lt {a b : String} (h : a < b) : bytesOf a < bytesOf b := by
  have hchars : ∀ s t : List Char, s < t →
      s.flatMap String.utf8EncodeChar < t.flatMap String.utf8EncodeChar := by
    intro s t hst
    induction hst with
    | nil =>
        rename_i d t
        obtain ⟨k, -, -, -, hd⟩ := exists_encoding d
        rw [List.flatMap_cons, hd]
        exact .nil
    | rel hlt => exact utf8EncodeChar_append_lt hlt _ _
    | cons _ ih =>
        rw [List.flatMap_cons, List.flatMap_cons]
        exact List.append_left_lt ih
  rw [bytesOf_eq, bytesOf_eq]
  exact hchars _ _ h

end SchemaCheck.Json
