import PagedQuery.Coercion.Basic
import PagedQuery.Proofs.Time.Order

/-!
# Days and moments read from texts

Whatever notation a day or a moment is read from, it is one of the calendar.
-/

namespace PagedQuery.Time

open PagedQuery.Text

theorem ofDigits_lt {ds : List Nat} (h : ∀ d ∈ ds, d < 10) : ofDigits ds < 10 ^ ds.length := by
  induction ds using List.reverseRecOn with
  | nil => decide
  | append_singleton ds d ih =>
    have ih := ih fun e he => h e (List.mem_append_left _ he)
    have hd := h d (List.mem_append_right _ List.mem_cons_self)
    rw [ofDigits_append_singleton, List.length_append, List.length_singleton, pow_succ]
    omega

theorem Date.valid_of_of? {year month day : Nat} {d : Date} (h : Date.of? year month day = some d) :
    d.valid := by
  simp only [Date.of?, Option.ite_none_right_eq_some, Option.some.injEq] at h
  exact h.2 ▸ h.1

namespace Iso

theorem digits?_lt {n v : Nat} {cs rest : List Char} (h : digits? n cs = some (v, rest)) :
    v < 10 ^ n := by
  simp only [digits?, Option.ite_none_right_eq_some, Option.some.injEq, Prod.mk.injEq] at h
  obtain ⟨⟨hlength, hdigits⟩, rfl, -⟩ := h
  have hall : ∀ d ∈ (cs.take n).map fun c => c.toNat - 48, d < 10 := by
    intro d hd
    obtain ⟨c, hc, rfl⟩ := List.mem_map.mp hd
    have hdigit : c.isDigit := List.all_eq_true.mp hdigits c hc
    simp only [Char.isDigit, Bool.and_eq_true, decide_eq_true_eq] at hdigit
    have hle : c.toNat ≤ 57 := hdigit.2
    omega
  have hlt := ofDigits_lt hall
  rwa [List.length_map, hlength] at hlt

theorem valid_of_ofWeek? {year week day : Nat} {d : Date} (h : ofWeek? year week day = some d) :
    d.valid := by
  unfold ofWeek? at h
  split at h
  · cases h
  · simp only [Option.ite_none_right_eq_some] at h
    exact Date.valid_of_of? h.2

theorem valid_of_readDay? {cs : List Char} {d : Date} (h : readDay? cs = some d) : d.valid := by
  obtain ⟨⟨year, rest⟩, -, h⟩ := Option.bind_eq_some_iff.mp h
  simp only at h
  generalize (if rest.head? = some '-' then rest.drop 1 else rest) = rest' at h
  split at h
  · obtain ⟨⟨week, rest⟩, -, h⟩ := Option.bind_eq_some_iff.mp h
    simp only at h
    split at h
    · exact valid_of_ofWeek? h
    · obtain ⟨rest, -, h⟩ := Option.bind_eq_some_iff.mp h
      obtain ⟨⟨day, rest⟩, -, h⟩ := Option.bind_eq_some_iff.mp h
      exact valid_of_ofWeek? h
  · obtain ⟨⟨month, rest⟩, -, h⟩ := Option.bind_eq_some_iff.mp h
    obtain ⟨rest, -, h⟩ := Option.bind_eq_some_iff.mp h
    obtain ⟨⟨day, rest⟩, -, h⟩ := Option.bind_eq_some_iff.mp h
    exact Date.valid_of_of? h

theorem valid_of_readDate? {s : String} {d : Date} (h : readDate? s = some d) : d.valid := by
  simp only [readDate?, Option.ite_none_right_eq_some] at h
  exact valid_of_readDay? h.2

theorem readFraction?_lt {more stray : Bool} {cs : List Char} {micro : Nat}
    (h : readFraction? more cs = some (micro, stray)) : micro < 1000000 := by
  obtain ⟨⟨value, rest⟩, hvalue, h⟩ := Option.bind_eq_some_iff.mp h
  simp only [pure, Option.some.injEq, Prod.mk.injEq] at h
  obtain ⟨rfl, -⟩ := h
  have hle : min 6 cs.length ≤ 6 := min_le_left _ _
  calc value * Nat.pow 10 (6 - min 6 cs.length)
      < 10 ^ min 6 cs.length * 10 ^ (6 - min 6 cs.length) :=
        Nat.mul_lt_mul_of_pos_right (digits?_lt hvalue) (Nat.pow_pos (by decide))
    _ = 1000000 := by rw [← pow_add, Nat.add_sub_cancel' hle]; rfl

theorem micro_lt_of_readClock? {more : Bool} {cs : List Char} {c : Clock}
    (h : readClock? more cs = some c) : c.micro < 1000000 := by
  obtain ⟨⟨hour, rest⟩, -, h⟩ := Option.bind_eq_some_iff.mp h
  obtain ⟨after, -, h⟩ := Option.bind_eq_some_iff.mp h
  cases after with
  | finish stray => cases h; exact Nat.zero_lt_succ _
  | fraction rest =>
    obtain ⟨⟨micro, stray⟩, hmicro, h⟩ := Option.bind_eq_some_iff.mp h
    cases h
    exact readFraction?_lt hmicro
  | next rest =>
    obtain ⟨⟨minute, rest⟩, -, h⟩ := Option.bind_eq_some_iff.mp h
    obtain ⟨after, -, h⟩ := Option.bind_eq_some_iff.mp h
    cases after with
    | finish stray => cases h; exact Nat.zero_lt_succ _
    | fraction rest =>
      obtain ⟨⟨micro, stray⟩, hmicro, h⟩ := Option.bind_eq_some_iff.mp h
      cases h
      exact readFraction?_lt hmicro
    | next rest =>
      obtain ⟨⟨second, rest⟩, -, h⟩ := Option.bind_eq_some_iff.mp h
      obtain ⟨after, -, h⟩ := Option.bind_eq_some_iff.mp h
      cases after with
      | finish stray => cases h; exact Nat.zero_lt_succ _
      | fraction rest | next rest =>
        obtain ⟨⟨micro, stray⟩, hmicro, h⟩ := Option.bind_eq_some_iff.mp h
        cases h
        exact readFraction?_lt hmicro

theorem micro_lt_of_readParts {cs : List Char} {c : Clock} {offset : Option Int}
    (h : readParts cs = .ok (c, offset)) : c.micro < 1000000 := by
  suffices hclock : ∃ more body, readClock? more body = some c by
    obtain ⟨more, body, hclock⟩ := hclock
    exact micro_lt_of_readClock? hclock
  simp only [readParts] at h
  generalize hread : readClock? _ _ = read at h
  suffices hc : read = some c from ⟨_, _, hread.trans hc⟩
  split at h
  · cases h
  · split at h <;> cases h
    rfl
  · split at h <;> cases h
    rfl
  · split at h
    · cases h
    · split at h
      · cases h
      · split at h <;> cases h
        rfl

theorem valid_of_toTime {c : Clock} {offset : Option Int} {t : TimeOfDay}
    (h : c.toTime offset = .ok t) (hmicro : c.micro < 1000000) : t.valid := by
  unfold Clock.toTime at h
  split at h
  · cases h
  · split at h
    · cases h
    · split at h
      · cases h
      · cases h
        rw [TimeOfDay.valid_iff]
        simp only
        omega

theorem valid_of_readDateTime {s : String} {t : DateTime} (h : readDateTime s = .ok t) :
    t.valid := by
  unfold readDateTime at h
  simp only at h
  split at h
  · cases h
  · next date hdate =>
    have hdate := valid_of_readDay? hdate
    split at h
    · cases h
      rw [DateTime.valid, Date.toDateTime, hdate]
      rfl
    · next first rest hrest =>
      cases hparts : readParts (rest.drop (characterSize first - 1)) with
      | error e =>
        rw [hparts] at h
        cases h
      | ok parts =>
        obtain ⟨clock, offset⟩ := parts
        cases htime : clock.toTime offset with
        | error e =>
          simp only [hparts, htime, bind, Except.bind] at h
          cases h
        | ok time =>
          simp only [hparts, htime, bind, Except.bind, pure, Except.pure] at h
          cases h
          rw [DateTime.valid, hdate, Bool.true_and]
          exact valid_of_toTime htime (micro_lt_of_readParts hparts)

end Iso

theorem Pattern.valid_of_readDate? {s : String} {d : Date} (h : Pattern.readDate? s = some d) :
    d.valid := by
  obtain ⟨form, -, h⟩ := List.exists_of_findSome?_eq_some h
  unfold Form.read? at h
  simp only at h
  split at h
  · split at h
    · exact Date.valid_of_of? h
    · exact Date.valid_of_of? h
  · cases h

end PagedQuery.Time

namespace PagedQuery.Scalar

open PagedQuery.Text PagedQuery.Time

theorem readDate_valid {raw : String} {v : Value} (h : readDate raw = .ok v) :
    ∃ d : Date, v = .date d ∧ d.valid := by
  unfold readDate at h
  generalize trim raw = s at h
  cases hiso : Iso.readDate? s with
  | some d =>
    simp only [hiso, Option.orElse_some] at h
    cases h
    exact ⟨d, rfl, Iso.valid_of_readDate? hiso⟩
  | none =>
    cases hpattern : Pattern.readDate? s with
    | some d =>
      simp only [hiso, hpattern, Option.orElse_none] at h
      cases h
      exact ⟨d, rfl, Pattern.valid_of_readDate? hpattern⟩
    | none =>
      simp only [hiso, hpattern, Option.orElse_none] at h
      cases h

theorem readDateTime_valid {raw : String} {v : Value} (h : readDateTime raw = .ok v) :
    ∃ t : DateTime, v = .dateTime t ∧ t.valid := by
  unfold readDateTime at h
  generalize spellOutZulu (trim raw) = s at h
  cases hiso : Iso.readDateTime s with
  | ok t =>
    simp only [hiso] at h
    cases h
    exact ⟨t, rfl, Iso.valid_of_readDateTime hiso⟩
  | error e =>
    cases hpattern : Pattern.readDate? s with
    | some d =>
      simp only [hiso, hpattern] at h
      cases h
      refine ⟨d.toDateTime, rfl, ?_⟩
      rw [DateTime.valid, Date.toDateTime, Pattern.valid_of_readDate? hpattern]
      rfl
    | none =>
      simp only [hiso, hpattern] at h
      cases h

end PagedQuery.Scalar
