import PagedQuery.Identifier
import PagedQuery.Proofs.Number.Printed

/-!
# Identifiers read back

The text of an identifier is made of lower-case hexadecimal digits and dashes, so that nothing is
removed from it but the dashes, and the digits give back the number.
-/

namespace PagedQuery.Identifier

open PagedQuery.Number PagedQuery.Text

/-! ## Hexadecimal digits -/

/-- A lower-case hexadecimal digit. -/
def IsHex (c : Char) : Prop := ∃ d < 16, c = Nat.digitChar d

theorem isHex_zero : IsHex '0' := ⟨0, by decide, rfl⟩

/-- What holds of all sixteen digits. -/
theorem IsHex.elim {P : Char → Prop} {c : Char} (h : IsHex c)
    (hall : ∀ d < 16, P (Nat.digitChar d)) : P c := by
  obtain ⟨d, hd, rfl⟩ := h
  exact hall d hd

theorem isHex_of_mem_toDigits (n : ℕ) : ∀ c ∈ Nat.toDigits 16 n, IsHex c := by
  induction n using Nat.strong_induction_on with
  | h n ih =>
    rw [Nat.toDigits_eq_if (by decide)]
    split
    · next h => exact List.forall_mem_singleton.mpr ⟨n, h, rfl⟩
    · next h =>
      rw [List.forall_mem_append]
      exact ⟨ih (n / 16) (Nat.div_lt_self (by omega) (by decide)),
        List.forall_mem_singleton.mpr ⟨n % 16, Nat.mod_lt n (by decide), rfl⟩⟩

/-- The number that hexadecimal digits spell. -/
def hexNumber (cs : List Char) : ℕ := (cs.filterMap letterValue?).foldl (fun n d => 16 * n + d) 0

theorem hexNumber_concat (cs : List Char) {d : ℕ} (h : d < 16) :
    hexNumber (cs ++ [Nat.digitChar d]) = 16 * hexNumber cs + d := by
  have hvalue : ∀ d < 16, letterValue? (Nat.digitChar d) = some d := by decide
  rw [hexNumber, List.filterMap_append, List.filterMap_cons_some (hvalue d h), List.filterMap_nil,
    List.foldl_append]
  rfl

theorem hexNumber_toDigits (n : ℕ) : hexNumber (Nat.toDigits 16 n) = n := by
  induction n using Nat.strong_induction_on with
  | h n ih =>
    rw [Nat.toDigits_eq_if (by decide)]
    split
    · next h => exact (hexNumber_concat [] h).trans (Nat.zero_add n)
    · next h =>
      rw [hexNumber_concat _ (Nat.mod_lt n (by decide)), ih (n / 16)
        (Nat.div_lt_self (by omega) (by decide)), Nat.div_add_mod]

theorem hexNumber_zeros (n : ℕ) (cs : List Char) :
    hexNumber (List.replicate n '0' ++ cs) = hexNumber cs := by
  induction n with
  | zero => rfl
  | succ n ih =>
    rw [List.replicate_succ, List.cons_append, ← ih]
    rfl

/-- The characters of a number as thirty-two hexadecimal digits. -/
def hexChars (n : ℕ) : List Char :=
  List.replicate (32 - (Nat.toDigits 16 n).length) '0' ++ Nat.toDigits 16 n

theorem isHex_of_mem_hexChars {n : ℕ} : ∀ c ∈ hexChars n, IsHex c := by
  unfold hexChars
  rw [List.forall_mem_append]
  exact ⟨fun c hc => List.eq_of_mem_replicate hc ▸ isHex_zero, isHex_of_mem_toDigits n⟩

theorem length_hexChars {n : ℕ} (h : n < 2 ^ 128) : (hexChars n).length = 32 := by
  have hle : (Nat.toDigits 16 n).length ≤ 32 :=
    (Nat.length_toDigits_le_iff (by decide) (by decide)).mpr (h.trans_eq (by decide))
  rw [hexChars, List.length_append, List.length_replicate, Nat.sub_add_cancel hle]

/-- Hexadecimal digits are read as the number that they spell. -/
theorem separatedDigits?_eq {cs : List Char} (h : ∀ c ∈ cs, IsHex c) (after : Bool)
    (hne : after = true ∨ cs ≠ []) :
    separatedDigits? 16 after cs = some (cs.filterMap letterValue?) := by
  induction cs generalizing after with
  | nil =>
    rw [hne.resolve_right (by simp)]
    rfl
  | cons c cs ih =>
    obtain ⟨hc, hcs⟩ := List.forall_mem_cons.mp h
    obtain ⟨d, hd, hvalue⟩ : ∃ d < 16, letterValue? c = some d := by
      obtain ⟨d, hd, rfl⟩ := hc
      exact ⟨d, hd, (by decide : ∀ d < 16, letterValue? (Nat.digitChar d) = some d) d hd⟩
    have hunderscore : c ≠ '_' := hc.elim (P := (· ≠ '_')) (by decide)
    rw [List.filterMap_cons_some hvalue]
    unfold separatedDigits?
    split
    · next heq => cases heq
    · next heq => exact (hunderscore (List.cons.inj heq).1).elim
    · next heq =>
      obtain ⟨rfl, rfl⟩ := List.cons.inj heq
      simp only [hvalue, if_pos hd, ih hcs true (.inl rfl), Option.map_some]

theorem head?_of_isHex {P : Char → Prop} {cs : List Char} (h : ∀ c ∈ cs, IsHex c)
    (hall : ∀ d < 16, P (Nat.digitChar d)) : ∀ c ∈ cs.head?, P c :=
  fun c hc => (h c (List.mem_of_head? hc)).elim hall

theorem stripList_eq_self {blank : Char → Bool} {cs : List Char} (h : ∀ c ∈ cs, blank c = false) :
    stripList blank cs = cs := by
  have hdrop : ∀ cs : List Char, (∀ c ∈ cs, blank c = false) → cs.dropWhile blank = cs := by
    intro cs h
    cases cs with
    | nil => rfl
    | cons c cs => exact List.dropWhile_cons_of_neg (by simp [h c List.mem_cons_self])
  rw [stripList, hdrop cs h, hdrop _ fun c hc => h c (List.mem_reverse.mp hc), List.reverse_reverse]

theorem withoutBaseMark_of_isHex {cs : List Char} (h : ∀ c ∈ cs, IsHex c) :
    withoutBaseMark 16 cs = cs := by
  unfold withoutBaseMark
  split
  · next mark rest =>
    have hmark : ¬ some 'x' = some mark.toLower :=
      (h mark (List.mem_cons_of_mem _ List.mem_cons_self)).elim
        (P := fun c => ¬ some 'x' = some c.toLower) (by decide)
    exact if_neg hmark
  · rfl

theorem readIn_hexChars {n : ℕ} (h : n < 2 ^ 128) :
    readIn 16 (String.ofList (hexChars n)) = .ok (n : ℤ) := by
  have hhex := isHex_of_mem_hexChars (n := n)
  have hne : hexChars n ≠ [] := List.ne_nil_of_length_pos (by rw [length_hexChars h]; decide)
  have hstrip : stripList isNumberBlank (hexChars n) = hexChars n :=
    stripList_eq_self fun c hc => (hhex c hc).elim (P := (isNumberBlank · = false)) (by decide)
  have hascii : (hexChars n).map asciiDigit = hexChars n := by
    rw [List.map_congr_left fun c hc => (hhex c hc).elim (P := fun c => asciiDigit c = id c)
      (by decide), List.map_id]
  have hsign : splitSign (hexChars n) = (false, hexChars n) :=
    splitSign_signChars false (head?_of_isHex hhex (by decide))
  have hnumber : hexNumber (hexChars n) = n := (hexNumber_zeros _ _).trans (hexNumber_toDigits n)
  unfold readIn
  rw [String.toList_ofList, hstrip, hascii, hsign]
  simp only [withoutBaseMark_of_isHex hhex, separatedDigits?_eq hhex false (.inr hne)]
  rw [if_pos (by decide)]
  exact congrArg (fun m : ℕ => Except.ok (m : ℤ)) hnumber

/-! ## Texts -/

/-- Where the first character of a word does not occur, the word does not. -/
theorem withoutWord_eq_self {first : Char} {word cs : List Char} (h : first ∉ cs) :
    withoutWord (first :: word) 0 cs = cs := by
  induction cs with
  | nil => rfl
  | cons c cs ih =>
    obtain ⟨hc, hcs⟩ := not_or.mp (mt List.mem_cons.mpr h)
    have hnot : (first :: word).isPrefixOf (c :: cs) = false := by
      simp [List.isPrefixOf, hc]
    rw [withoutWord, hnot, if_neg Bool.false_ne_true, ih hcs]

theorem removeWord_eq_self (word : String) {s : String} {first : Char} {rest : List Char}
    (hword : word.toList = first :: rest) (h : first ∉ s.toList) : removeWord word s = s := by
  rw [removeWord, hword, withoutWord_eq_self h, String.ofList_toList]

/-- The groups of an identifier with dashes between them. -/
theorem toList_text (n : ℕ) : (text n).toList =
    (hexChars n).take 8 ++ '-' :: (((hexChars n).drop 8).take 4 ++
      '-' :: (((hexChars n).drop 12).take 4 ++ '-' :: (((hexChars n).drop 16).take 4 ++
        '-' :: ((hexChars n).drop 20).take 12))) := by
  have hhex : (hexText 32 n).toList = hexChars n := String.toList_ofList
  simp [text, hhex]

theorem isHex_or_of_mem_text {n : ℕ} : ∀ c ∈ (text n).toList, IsHex c ∨ c = '-' := by
  have hgroup : ∀ start count, ∀ c ∈ ((hexChars n).drop start).take count, IsHex c ∨ c = '-' :=
    fun _ _ c hc => .inl (isHex_of_mem_hexChars c (List.mem_of_mem_drop (List.mem_of_mem_take hc)))
  rw [toList_text]
  simp only [List.forall_mem_append, List.forall_mem_cons]
  exact ⟨hgroup 0 8, .inr trivial, hgroup 8 4, .inr trivial, hgroup 12 4, .inr trivial, hgroup 16 4,
    .inr trivial, hgroup 20 12⟩

/-- What holds of all digits and of the dash holds of all characters of an identifier. -/
theorem forall_mem_text {P : Char → Prop} (hdigits : ∀ d < 16, P (Nat.digitChar d)) (hdash : P '-')
    (n : ℕ) : ∀ c ∈ (text n).toList, P c := by
  intro c hc
  rcases isHex_or_of_mem_text c hc with h | rfl
  · exact h.elim hdigits
  · exact hdash

theorem groups_eq {cs : List Char} (h : cs.length = 32) :
    cs.take 8 ++ ((cs.drop 8).take 4 ++ ((cs.drop 12).take 4 ++ ((cs.drop 16).take 4 ++
      (cs.drop 20).take 12))) = cs := by
  have hrest : ∀ start, (cs.drop start).take 4 ++ cs.drop (start + 4) = cs.drop start := by
    intro start
    rw [← List.drop_drop, List.take_append_drop]
  rw [List.take_of_length_le (l := cs.drop 20) (by rw [List.length_drop, h]), hrest 16, hrest 12,
    hrest 8, List.take_append_drop]

/-- Without its dashes an identifier is its digits. -/
theorem filter_text {n : ℕ} (h : n < 2 ^ 128) :
    (text n).toList.filter (· != '-') = hexChars n := by
  have hgroup : ∀ start count, (((hexChars n).drop start).take count).filter (· != '-') =
      ((hexChars n).drop start).take count := fun start count => by
    rw [List.filter_eq_self]
    intro c hc
    exact (isHex_of_mem_hexChars c (List.mem_of_mem_drop (List.mem_of_mem_take hc))).elim
      (P := fun c => (c != '-') = true) (by decide)
  have hfirst : ((hexChars n).take 8).filter (· != '-') = (hexChars n).take 8 := hgroup 0 8
  rw [toList_text]
  simp only [List.filter_append, List.filter_cons, bne_self_eq_false, Bool.false_eq_true, if_false,
    hfirst, hgroup, groups_eq (length_hexChars h)]

theorem trim_text (n : ℕ) : trim (text n) = text n :=
  trim_of_stripped (stripped_of_forall
    (forall_mem_text (P := (isBlank · = false)) (by decide) rfl n))

/-- An identifier is read back from its text. -/
theorem read_text {n : ℕ} (h : n < 2 ^ 128) : read (text n) = .ok n := by
  have hletter : 'u' ∉ (text n).toList := fun hu =>
    forall_mem_text (P := (· ≠ 'u')) (by decide) (by decide) n 'u' hu rfl
  have hbraces :
      stripList (fun c => c == '\x7b' || c == '\x7d') (text n).toList = (text n).toList :=
    stripList_eq_self (forall_mem_text (P := fun c => (c == '\x7b' || c == '\x7d') = false)
      (by decide) rfl n)
  have hlength : (String.ofList (hexChars n)).length = 32 := by
    rw [String.length_ofList, length_hexChars h]
  unfold stripList at hbraces
  simp only [read, removeWord_eq_self "urn:" rfl hletter,
    removeWord_eq_self "uuid:" rfl hletter, hbraces, filter_text h, hlength,
    readIn_hexChars h]
  simp

end PagedQuery.Identifier
