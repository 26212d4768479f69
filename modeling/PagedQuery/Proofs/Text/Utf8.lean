import Mathlib.Tactic
import PagedQuery.Text.Utf8

/-!
# Decoding UTF-8

The decoder reads the encoding of every text back as that text, whatever stands after it, and no
bytes at all, however broken, are read as an empty text.
-/

namespace PagedQuery.Text

/-! ## Single bytes -/

theorem decodeFrom_last {low high bits : ℕ} {b : UInt8} (h : low ≤ b.toNat ∧ b.toNat ≤ high)
    (rest : List UInt8) :
    decodeFrom (some ⟨1, low, high, bits⟩) (b :: rest) =
      Char.ofNat (bits * 64 + (b.toNat - 0x80)) :: decodeFrom none rest := by
  simp [decodeFrom, decodeByte, h]

theorem decodeFrom_inner {missing low high bits : ℕ} {b : UInt8}
    (h : low ≤ b.toNat ∧ b.toNat ≤ high) (rest : List UInt8) :
    decodeFrom (some ⟨missing + 2, low, high, bits⟩) (b :: rest) =
      decodeFrom (some ⟨missing + 1, 0x80, 0xBF, bits * 64 + (b.toNat - 0x80)⟩) rest := by
  simp [decodeFrom, decodeByte, h]

theorem decodeFrom_ascii {b : UInt8} (h : b.toNat < 0x80) (rest : List UInt8) :
    decodeFrom none (b :: rest) = Char.ofNat b.toNat :: decodeFrom none rest := by
  simp [decodeFrom, decodeByte, leadByte, h]

theorem decodeFrom_lead2 {b : UInt8} (h : 0xC2 ≤ b.toNat) (h' : b.toNat < 0xE0)
    (rest : List UInt8) :
    decodeFrom none (b :: rest) =
      decodeFrom (some ⟨1, 0x80, 0xBF, b.toNat - 0xC0⟩) rest := by
  rw [decodeFrom, decodeByte, leadByte, if_neg (by omega), if_neg (by omega), if_pos h']
  rfl

/-- The first two bytes of a character of three. -/
theorem decodeFrom_lead3 {b d : UInt8} (h : 0xE0 ≤ b.toNat) (h' : b.toNat < 0xF0)
    (hd : 0x80 ≤ d.toNat ∧ d.toNat ≤ 0xBF) (hlow : b.toNat = 0xE0 → 0xA0 ≤ d.toNat)
    (hhigh : b.toNat = 0xED → d.toNat ≤ 0x9F) (rest : List UInt8) :
    decodeFrom none (b :: d :: rest) =
      decodeFrom (some ⟨1, 0x80, 0xBF, (b.toNat - 0xE0) * 64 + (d.toNat - 0x80)⟩) rest := by
  have hlead : ∃ low high, leadByte b.toNat = ([], some ⟨2, low, high, b.toNat - 0xE0⟩) ∧
      low ≤ d.toNat ∧ d.toNat ≤ high := by
    rw [leadByte, if_neg (by omega), if_neg (by omega), if_neg (by omega)]
    split
    · next he => exact ⟨0xA0, 0xBF, by simp [he], hlow he, hd.2⟩
    · split
      · next he => exact ⟨0x80, 0x9F, by simp [he], hd.1, hhigh he⟩
      · exact ⟨0x80, 0xBF, rfl, hd⟩
  obtain ⟨low, high, hlead, hrange⟩ := hlead
  rw [decodeFrom, decodeByte, hlead]
  exact decodeFrom_inner hrange rest

/-- The first two bytes of a character of four. -/
theorem decodeFrom_lead4 {b d : UInt8} (h : 0xF0 ≤ b.toNat) (h' : b.toNat ≤ 0xF4)
    (hd : 0x80 ≤ d.toNat ∧ d.toNat ≤ 0xBF) (hlow : b.toNat = 0xF0 → 0x90 ≤ d.toNat)
    (hhigh : b.toNat = 0xF4 → d.toNat ≤ 0x8F) (rest : List UInt8) :
    decodeFrom none (b :: d :: rest) =
      decodeFrom (some ⟨2, 0x80, 0xBF, (b.toNat - 0xF0) * 64 + (d.toNat - 0x80)⟩) rest := by
  have hlead : ∃ low high, leadByte b.toNat = ([], some ⟨3, low, high, b.toNat - 0xF0⟩) ∧
      low ≤ d.toNat ∧ d.toNat ≤ high := by
    rw [leadByte, if_neg (by omega), if_neg (by omega), if_neg (by omega), if_neg (by omega),
      if_neg (by omega), if_neg (by omega)]
    split
    · next he => exact ⟨0x90, 0xBF, by simp [he], hlow he, hd.2⟩
    · split
      · exact ⟨0x80, 0xBF, rfl, hd⟩
      · have he : b.toNat = 0xF4 := by omega
        exact ⟨0x80, 0x8F, by simp [he], hd.1, hhigh he⟩
  obtain ⟨low, high, hlead, hrange⟩ := hlead
  rw [decodeFrom, decodeByte, hlead]
  exact decodeFrom_inner hrange rest

/-! ## Characters and texts -/

theorem toNat_ofNat_byte {n : ℕ} (h : n < 256) : (UInt8.ofNat n).toNat = n := by
  rw [UInt8.toNat_ofNat', Nat.mod_eq_of_lt h]

/-- The encoding of a character is read as that character. -/
theorem decodeFrom_utf8EncodeChar (c : Char) (rest : List UInt8) :
    decodeFrom none (String.utf8EncodeChar c ++ rest) = c :: decodeFrom none rest := by
  have hc : Char.ofNat c.val.toNat = c := c.ofNat_toNat
  have hvalid : c.val.toNat < 0xD800 ∨ 0xDFFF < c.val.toNat ∧ c.val.toNat < 0x110000 := c.valid
  unfold String.utf8EncodeChar
  generalize c.val.toNat = v at hc hvalid ⊢
  dsimp only
  split
  · have hv : (UInt8.ofNat v).toNat = v := toNat_ofNat_byte (by omega)
    rw [List.singleton_append, decodeFrom_ascii (by omega), hv, hc]
  · split
    · have h1 : (UInt8.ofNat (v / 64 % 32 + 0xc0)).toNat = v / 64 % 32 + 0xc0 :=
        toNat_ofNat_byte (by omega)
      have h2 : (UInt8.ofNat (v % 64 + 0x80)).toNat = v % 64 + 0x80 := toNat_ofNat_byte (by omega)
      have hbits : (v / 64 % 32 + 0xc0 - 0xC0) * 64 + (v % 64 + 0x80 - 0x80) = v := by omega
      rw [List.cons_append, List.singleton_append, decodeFrom_lead2 (by omega) (by omega),
        decodeFrom_last (by omega), h1, h2, hbits, hc]
    · split
      · have h1 : (UInt8.ofNat (v / 4096 % 16 + 0xe0)).toNat = v / 4096 % 16 + 0xe0 :=
          toNat_ofNat_byte (by omega)
        have h2 : (UInt8.ofNat (v / 64 % 64 + 0x80)).toNat = v / 64 % 64 + 0x80 :=
          toNat_ofNat_byte (by omega)
        have h3 : (UInt8.ofNat (v % 64 + 0x80)).toNat = v % 64 + 0x80 :=
          toNat_ofNat_byte (by omega)
        have hbits : ((v / 4096 % 16 + 0xe0 - 0xE0) * 64 + (v / 64 % 64 + 0x80 - 0x80)) * 64 +
            (v % 64 + 0x80 - 0x80) = v := by omega
        rw [List.cons_append, List.cons_append, List.singleton_append,
          decodeFrom_lead3 (by omega) (by omega) (by omega) (by omega) (by omega),
          decodeFrom_last (by omega), h1, h2, h3, hbits, hc]
      · have h1 : (UInt8.ofNat (v / 262144 % 8 + 0xf0)).toNat = v / 262144 % 8 + 0xf0 :=
          toNat_ofNat_byte (by omega)
        have h2 : (UInt8.ofNat (v / 4096 % 64 + 0x80)).toNat = v / 4096 % 64 + 0x80 :=
          toNat_ofNat_byte (by omega)
        have h3 : (UInt8.ofNat (v / 64 % 64 + 0x80)).toNat = v / 64 % 64 + 0x80 :=
          toNat_ofNat_byte (by omega)
        have h4 : (UInt8.ofNat (v % 64 + 0x80)).toNat = v % 64 + 0x80 :=
          toNat_ofNat_byte (by omega)
        have hbits : (((v / 262144 % 8 + 0xf0 - 0xF0) * 64 + (v / 4096 % 64 + 0x80 - 0x80)) * 64 +
            (v / 64 % 64 + 0x80 - 0x80)) * 64 + (v % 64 + 0x80 - 0x80) = v := by omega
        rw [List.cons_append, List.cons_append, List.cons_append, List.singleton_append,
          decodeFrom_lead4 (by omega) (by omega) (by omega) (by omega) (by omega),
          decodeFrom_inner (by omega), decodeFrom_last (by omega), h1, h2, h3, h4, hbits, hc]

/-- Decoding undoes encoding. -/
theorem decodeUtf8_encodeUtf8 (cs : List Char) : decodeUtf8 (encodeUtf8 cs) = cs := by
  unfold decodeUtf8 encodeUtf8
  induction cs with
  | nil => rfl
  | cons c cs ih => rw [List.flatMap_cons, decodeFrom_utf8EncodeChar, ih]

/-! ## Broken bytes -/

/-- A character that has begun leaves something, at least a replacement. -/
theorem decodeFrom_some_ne_nil (p : Pending) (bytes : List UInt8) :
    decodeFrom (some p) bytes ≠ [] := by
  induction bytes generalizing p with
  | nil => simp [decodeFrom]
  | cons b rest ih =>
    simp only [decodeFrom, decodeByte]
    split
    · split
      · simp
      · simpa using ih _
    · simp

theorem decodeUtf8_ne_nil {bytes : List UInt8} (h : bytes ≠ []) : decodeUtf8 bytes ≠ [] := by
  cases bytes with
  | nil => exact (h rfl).elim
  | cons b rest =>
    have hlead : ∀ n, (leadByte n).1 ≠ [] ∨ ∃ p, (leadByte n).2 = some p := by
      intro n
      unfold leadByte
      grind
    simp only [decodeUtf8, decodeFrom, decodeByte]
    rcases hlead b.toNat with hc | ⟨p, hp⟩
    · simp [hc]
    · simp [hp, decodeFrom_some_ne_nil]

end PagedQuery.Text
