import Mathlib.Tactic
import PagedQuery.Proofs.Text.Utf8
import PagedQuery.Text.Percent

/-!
# Percent encodings

A text has many encodings: any characters may be escaped, byte by byte and with hexadecimal digits
of either case, as long as commas and percent signs are. Decoding reads them all back.
-/

namespace PagedQuery.Text.Percent

/-- An escape of a byte. -/
def EscapesByte (b : UInt8) (escape : List Char) : Prop :=
  ∃ h l, escape = ['%', h, l] ∧ hexValue? h = some (b.toNat / 16) ∧
    hexValue? l = some (b.toNat % 16)

/-- The escapes of bytes, one after the other. -/
inductive EscapesBytes : List UInt8 → List Char → Prop
  | nil : EscapesBytes [] []
  | cons {b bs escape escapes} (head : EscapesByte b escape) (tail : EscapesBytes bs escapes) :
    EscapesBytes (b :: bs) (escape ++ escapes)

/-- An encoding of a text. Commas and percent signs are escaped, other characters may be. -/
inductive Encodes : List Char → List Char → Prop
  | nil : Encodes [] []
  | keep {c cs code} (hc : c ≠ ',') (hp : c ≠ '%') (tail : Encodes cs code) :
    Encodes (c :: cs) (c :: code)
  | escape {c cs escapes code} (head : EscapesBytes (String.utf8EncodeChar c) escapes)
    (tail : Encodes cs code) : Encodes (c :: cs) (escapes ++ code)

/-! ## Escapes -/

theorem hexValue?_isAscii {c : Char} {n : ℕ} (h : hexValue? c = some n) : isAscii c := by
  have hle : ∀ d : Char, c ≤ d → d.toNat < 128 → c.toNat < 128 := fun d hcd hd =>
    lt_of_le_of_lt hcd hd
  rw [isAscii, decide_eq_true_eq]
  unfold hexValue? at h
  split at h
  · next hr => exact hle '9' hr.2 (by decide)
  · split at h
    · next hr => exact hle 'f' hr.2 (by decide)
    · split at h
      · next hr => exact hle 'F' hr.2 (by decide)
      · cases h

theorem EscapesByte.isAscii {b : UInt8} {escape : List Char} (h : EscapesByte b escape) :
    ∀ c ∈ escape, isAscii c := by
  obtain ⟨x, y, rfl, hx, hy⟩ := h
  simp [hexValue?_isAscii hx, hexValue?_isAscii hy]
  decide

theorem EscapesByte.bytesOf {b : UInt8} {escape : List Char} (h : EscapesByte b escape)
    (rest : List Char) : bytesOf (escape ++ rest) = b :: bytesOf rest := by
  obtain ⟨x, y, rfl, hx, hy⟩ := h
  have hb : 16 * (b.toNat / 16) + b.toNat % 16 = b.toNat := Nat.div_add_mod _ _
  simp [Percent.bytesOf, hx, hy, hb]

theorem EscapesBytes.isAscii {bs : List UInt8} {escapes : List Char}
    (h : EscapesBytes bs escapes) : ∀ c ∈ escapes, isAscii c := by
  induction h with
  | nil => simp
  | cons head tail ih =>
    intro c hc
    rcases List.mem_append.mp hc with hc | hc
    · exact head.isAscii c hc
    · exact ih c hc

theorem EscapesBytes.bytesOf {bs : List UInt8} {escapes : List Char}
    (h : EscapesBytes bs escapes) (rest : List Char) :
    bytesOf (escapes ++ rest) = bs ++ bytesOf rest := by
  induction h with
  | nil => rfl
  | cons head tail ih => rw [List.append_assoc, head.bytesOf, ih, List.cons_append]

theorem bytesOf_cons {c : Char} (hc : c ≠ '%') (rest : List Char) :
    bytesOf (c :: rest) = UInt8.ofNat c.toNat :: bytesOf rest := by
  rw [bytesOf]
  rintro a b rest' rfl
  exact (hc rfl).elim

/-! ## Runs -/

theorem decodeRun_append {front : List Char} (h : ∀ c ∈ front, isAscii c) (run rest : List Char) :
    decodeRun run (front ++ rest) = decodeRun (front.reverse ++ run) rest := by
  induction front generalizing run with
  | nil => rfl
  | cons c front ih =>
    rw [List.cons_append, decodeRun, if_pos (h c List.mem_cons_self),
      ih fun d hd => h d (List.mem_cons_of_mem c hd), List.reverse_cons, List.append_assoc,
      List.singleton_append]

theorem utf8EncodeChar_of_isAscii {c : Char} (h : isAscii c) :
    String.utf8EncodeChar c = [UInt8.ofNat c.toNat] := by
  have hv : c.val.toNat ≤ 0x7f := Nat.le_of_lt_succ (of_decide_eq_true h)
  simp only [String.utf8EncodeChar, if_pos hv]
  rfl

theorem encodeUtf8_concat (cs : List Char) (c : Char) :
    encodeUtf8 (cs ++ [c]) = encodeUtf8 cs ++ String.utf8EncodeChar c := by
  rw [encodeUtf8, List.flatMap_append, List.flatMap_singleton]
  rfl

/-- The ASCII run read so far holds all bytes of the characters before: an escape never starts in
one run and ends in another one. -/
theorem decodeRun_of_encodes {cs code : List Char}
    (h : Encodes cs code) {run front : List Char}
    (hrun : ∀ rest, bytesOf (run.reverse ++ rest) = encodeUtf8 front ++ bytesOf rest) :
    decodeRun run code = front ++ cs := by
  have hdecode : ∀ {run front : List Char},
      (∀ rest, bytesOf (run.reverse ++ rest) = encodeUtf8 front ++ bytesOf rest) →
      decodeUtf8 (bytesOf run.reverse) = front := by
    intro run front hrun
    have hnil := hrun []
    rw [bytesOf, List.append_nil, List.append_nil] at hnil
    rw [hnil, decodeUtf8_encodeUtf8]
  induction h generalizing run front with
  | nil => rw [decodeRun, hdecode hrun, List.append_nil]
  | @keep c cs code hc hp tail ih =>
    rw [decodeRun]
    split
    · next hascii =>
      have hrun' : ∀ rest, bytesOf ((c :: run).reverse ++ rest) =
          encodeUtf8 (front ++ [c]) ++ bytesOf rest := by
        intro rest
        rw [List.reverse_cons, List.append_assoc, List.singleton_append, hrun, bytesOf_cons hp,
          encodeUtf8_concat, utf8EncodeChar_of_isAscii hascii, List.append_assoc,
          List.singleton_append]
      rw [ih hrun', List.append_assoc, List.singleton_append]
    · have hrest : decodeRun [] code = [] ++ cs := ih fun rest => rfl
      rw [hdecode hrun, hrest, List.nil_append]
  | @escape c cs escapes code head tail ih =>
    have hrun' : ∀ rest, bytesOf ((escapes.reverse ++ run).reverse ++ rest) =
        encodeUtf8 (front ++ [c]) ++ bytesOf rest := by
      intro rest
      rw [List.reverse_append, List.reverse_reverse, List.append_assoc, hrun, head.bytesOf,
        encodeUtf8_concat, List.append_assoc]
    rw [decodeRun_append head.isAscii, ih hrun', List.append_assoc, List.singleton_append]

/-- Decoding undoes every encoding. -/
theorem decodeChars_of_encodes {cs code : List Char}
    (h : Encodes cs code) : decodeChars code = cs := by
  have hrun : decodeRun [] code = [] ++ cs := decodeRun_of_encodes h fun _ => rfl
  exact hrun

theorem EscapesBytes.ne_nil {bs : List UInt8} {escapes : List Char} (h : EscapesBytes bs escapes)
    (hbs : bs ≠ []) : escapes ≠ [] := by
  cases h with
  | nil => exact (hbs rfl).elim
  | cons head tail =>
    obtain ⟨x, y, rfl, -, -⟩ := head
    simp

theorem Encodes.ne_nil {cs code : List Char} (h : Encodes cs code)
    (hcs : cs ≠ []) : code ≠ [] := by
  cases h with
  | nil => exact hcs
  | keep hc hp tail => simp
  | escape head tail =>
    intro hnil
    exact head.ne_nil String.utf8EncodeChar_ne_nil (List.append_eq_nil_iff.mp hnil).1

theorem hexValue?_ne_comma {c : Char} {n : ℕ} (h : hexValue? c = some n) : c ≠ ',' := by
  rintro rfl
  have hcomma : hexValue? ',' = none := by decide
  rw [hcomma] at h
  cases h

theorem EscapesBytes.comma_not_mem {bs : List UInt8} {escapes : List Char}
    (h : EscapesBytes bs escapes) : ',' ∉ escapes := by
  induction h with
  | nil => simp
  | cons head tail ih =>
    obtain ⟨x, y, rfl, hx, hy⟩ := head
    have hx' := (hexValue?_ne_comma hx).symm
    have hy' := (hexValue?_ne_comma hy).symm
    simp [hx', hy', ih]

theorem Encodes.comma_not_mem {cs code : List Char} (h : Encodes cs code) : ',' ∉ code := by
  induction h with
  | nil => simp
  | keep hc hp tail ih => simp [hc.symm, ih]
  | escape head tail ih => simp [head.comma_not_mem, ih]

/-! ## Encoders -/

/-- A hexadecimal digit in one of the letter cases. -/
def hexDigit (upper : Bool) (n : ℕ) : Char :=
  if upper then (Nat.digitChar n).toUpper else Nat.digitChar n

def escapeByte (upper : Bool) (b : UInt8) : List Char :=
  ['%', hexDigit upper (b.toNat / 16), hexDigit upper (b.toNat % 16)]

/-- The encoding of a text that escapes certain characters. -/
def encodeChars (upper : Bool) (escaped : Char → Bool) (cs : List Char) : List Char :=
  cs.flatMap fun c =>
    if escaped c then (String.utf8EncodeChar c).flatMap (escapeByte upper) else [c]

theorem hexValue?_hexDigit : ∀ upper, ∀ n < 16, hexValue? (hexDigit upper n) = some n := by
  decide

theorem escapesByte_escapeByte (upper : Bool) (b : UInt8) : EscapesByte b (escapeByte upper b) := by
  have hb : b.toNat < 256 := b.toNat_lt
  exact ⟨_, _, rfl, hexValue?_hexDigit upper _ (by omega), hexValue?_hexDigit upper _ (by omega)⟩

theorem escapesBytes_flatMap (upper : Bool) (bs : List UInt8) :
    EscapesBytes bs (bs.flatMap (escapeByte upper)) := by
  induction bs with
  | nil => exact .nil
  | cons b bs ih => exact .cons (escapesByte_escapeByte upper b) ih

theorem encodes_encodeChars (upper : Bool) {escaped : Char → Bool} (hc : escaped ',')
    (hp : escaped '%') (cs : List Char) : Encodes cs (encodeChars upper escaped cs) := by
  induction cs with
  | nil => exact .nil
  | cons c cs ih =>
    rw [encodeChars, List.flatMap_cons]
    split
    · exact .escape (escapesBytes_flatMap upper _) ih
    · next hkeep =>
      refine .keep ?_ ?_ ih
      · rintro rfl
        exact hkeep hc
      · rintro rfl
        exact hkeep hp

/-! ## Texts that are left -/

theorem bytesOf_ne_nil {cs : List Char} (h : cs ≠ []) : bytesOf cs ≠ [] := by
  cases cs with
  | nil => exact (h rfl).elim
  | cons c cs =>
    unfold bytesOf
    split
    · simp_all
    · split <;> simp
    · simp

theorem decodeRun_ne_nil {run cs : List Char} (h : run ≠ [] ∨ cs ≠ []) :
    decodeRun run cs ≠ [] := by
  induction cs generalizing run with
  | nil =>
    rw [decodeRun]
    apply decodeUtf8_ne_nil
    apply bytesOf_ne_nil
    simpa using h
  | cons c cs ih =>
    rw [decodeRun]
    split
    · exact ih (.inl (by simp))
    · simp

/-- Decoding leaves something of every text that is not empty. -/
theorem decodeChars_ne_nil {cs : List Char} (h : cs ≠ []) : decodeChars cs ≠ [] :=
  decodeRun_ne_nil (.inr h)

end PagedQuery.Text.Percent
