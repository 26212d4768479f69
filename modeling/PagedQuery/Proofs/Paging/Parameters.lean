import Mathlib.Tactic
import PagedQuery.Proofs.Ordering.Kind
import PagedQuery.Query.Request

/-!
# Page parameters

A page parameter that is given is read as an integer or refused by its name. Three kinds of numbers
get past the refusal: infinity has no integer and is not expected, and of an integer of too many
digits, alone or inside another value, no message can tell.
-/

namespace PagedQuery

open PagedQuery.Number

/-! ## Reading one parameter -/

/-- The faults, other than a refusal, of reading an integer from a value. -/
inductive ReadingFault (v : Value) : Fault → Prop
  | infinite {negative decimal : Bool} :
      v.number? = some (.infinite negative, decimal) → ReadingFault v (.pageInfinite decimal)
  | unquotable {e : Fault} : v.number? = none → v.unquotable? = some e → ReadingFault v e

section Reading

variable {p : PageParameter} {v : Value} {n default : Int} {e : Fault}

theorem unquotable?_of_text? {s : String} (h : v.text? = some s) : v.unquotable? = none := by
  cases v with
  | text | code => rfl
  | member _ base _ inner => cases base <;> cases inner <;> first | cases h; done | rfl
  | _ => cases h

theorem text?_of_number? {d : Decimal × Bool} (h : v.number? = some d) : v.text? = none := by
  by_contra ht
  obtain ⟨s, hs⟩ := Option.ne_none_iff_exists'.mp ht
  rw [Kind.number?_of_text? hs] at h
  cases h

/-- Not-a-numbers can be quoted. -/
theorem unquotable?_of_notANumber {negative signaling decimal : Bool} {payload : ℕ}
    (h : v.number? = some (.notANumber negative signaling payload, decimal)) :
    v.unquotable? = none := by
  cases v with
  | float | decimal => rfl
  | member _ base _ inner => cases base <;> cases inner <;> first | cases h | rfl
  | _ => cases h

/-- The integer of a number. -/
theorem pageInteger_of_number? {d : Decimal} {decimal : Bool}
    (h : v.number? = some (d, decimal)) (hbool : ∀ b, v ≠ .bool b) :
    pageInteger p v = match d with
      | .finite negative c e => .ok (Decimal.truncate negative c e)
      | .infinite _ => .error (.pageInfinite decimal)
      | .notANumber .. => .error (.pageUnreadable p v) := by
  have ht : v.text? = none := text?_of_number? h
  cases v with
  | bool b => exact absurd rfl (hbool b)
  | bytes | uuid => cases h
  | _ =>
    simp only [pageInteger, ht, h]
    cases d with
    | finite | infinite => rfl
    | notANumber => simp only [unquotable?_of_notANumber h, Option.getD_none]

/-- What is neither a number nor a text, an identifier nor bytes, is no integer. -/
theorem pageInteger_of_unquotable? (hn : v.number? = none) (h : v.unquotable? = some e) :
    pageInteger p v = .error e := by
  have ht : v.text? = none := by
    by_contra ht
    obtain ⟨s, hs⟩ := Option.ne_none_iff_exists'.mp ht
    rw [unquotable?_of_text? hs] at h
    cases h
  cases v with
  | bool | bytes | uuid => cases h
  | _ => simp only [pageInteger, ht, hn, h, Option.getD_some]

theorem ReadingFault.pageInteger (h : ReadingFault v e) (p : PageParameter) :
    pageInteger p v = .error e := by
  cases h with
  | infinite h =>
    refine pageInteger_of_number? h ?_
    rintro b rfl
    cases h
  | unquotable hn h => exact pageInteger_of_unquotable? hn h

theorem readingFault_of_pageInteger (h : pageInteger p v = .error e) :
    e = .pageUnreadable p v ∨ ReadingFault v e := by
  cases hn : v.number? with
  | some number =>
    obtain ⟨d, decimal⟩ := number
    by_cases hbool : ∃ b, v = .bool b
    · obtain ⟨b, rfl⟩ := hbool
      cases h
      exact .inl rfl
    · rw [pageInteger_of_number? hn (not_exists.mp hbool)] at h
      cases d with
      | finite => cases h
      | infinite => cases h; exact .inr (.infinite hn)
      | notANumber => cases h; exact .inl rfl
  | none =>
    cases hq : v.unquotable? with
    | some fault =>
      rw [pageInteger_of_unquotable? hn hq] at h
      cases h
      exact .inr (.unquotable hn hq)
    | none =>
      refine .inl ?_
      cases v with
      | bool => cases hn
      | uuid => cases h
      | bytes bs =>
        simp only [PagedQuery.pageInteger, hq, Option.getD_none] at h
        split at h
        · split at h
          · cases h
          · exact (Except.error.inj h).symm
        · exact (Except.error.inj h).symm
      | _ =>
        simp only [PagedQuery.pageInteger, hn, hq, Option.getD_none] at h
        split at h
        · split at h
          · cases h
          · exact (Except.error.inj h).symm
        · next heq => cases heq
        · exact (Except.error.inj h).symm

theorem isAbsent_eq_true_iff : v.isAbsent = true ↔ v = .null ∨ v.text? = some "" := by
  cases v <;> simp [Value.isAbsent, Value.isNull, Value.text?]

theorem ReadingFault.pageValue (h : ReadingFault v e) (p : PageParameter) (default : Int) :
    pageValue p default v = .error e := by
  have habsent : v.isAbsent = false := by
    rw [Bool.eq_false_iff, Ne, isAbsent_eq_true_iff]
    rintro (rfl | ht)
    · cases h with
      | infinite h => cases h
      | unquotable _ h => cases h
    · cases h with
      | infinite h => rw [text?_of_number? h] at ht; cases ht
      | unquotable _ h => rw [unquotable?_of_text? ht] at h; cases h
  rw [PagedQuery.pageValue, habsent]
  exact h.pageInteger p

/-- Only a parameter that is given is refused. -/
theorem readingFault_of_pageValue (h : pageValue p default v = .error e) :
    v.isAbsent = false ∧ (e = .pageUnreadable p v ∨ ReadingFault v e) := by
  unfold PagedQuery.pageValue at h
  split at h
  · cases h
  · next habsent => exact ⟨by simpa using habsent, readingFault_of_pageInteger h⟩

/-- Why a value has no text inside another one: a field is missing, or an integer is too long. -/
theorem fault_of_unquotable? (h : v.unquotable? = some e) :
    (∃ type field, e = .missingField type field) ∨ e = .longInteger := by
  unfold Value.unquotable? at h
  split at h
  · next type field _ => exact .inl ⟨type, field, (Option.some.inj h).symm⟩
  · split at h
    · exact .inr (Option.some.inj h).symm
    · cases h

theorem fault_of_unwritable? (h : v.unwritable? = some e) :
    (∃ type field, e = .missingField type field) ∨ e = .longInteger := by
  unfold Value.unwritable? at h
  split at h
  · split at h
    · exact .inr (Option.some.inj h).symm
    · cases h
  · cases h
  · exact fault_of_unquotable? h

theorem ReadingFault.kind_ne (h : ReadingFault v e) :
    e.kind ≠ .validation ∧ e.kind ≠ .grammar := by
  cases h with
  | infinite => exact ⟨nofun, nofun⟩
  | unquotable _ h =>
    obtain ⟨type, field, rfl⟩ | rfl := fault_of_unquotable? h
    · exact ⟨nofun, nofun⟩
    · exact ⟨nofun, nofun⟩

end Reading

/-! ## Page windows -/

/-- A page window is refused for a parameter that is given. -/
def Fault.RefusesPage (size number : Value) (e : Fault) : Prop :=
  e.kind = .validation ∧
    ((e.parameter? = some PageParameter.size.name ∧ size.isAbsent = false) ∨
      (e.parameter? = some PageParameter.number.name ∧ number.isAbsent = false))

theorem telling_cases (n : Int) (fault : Fault) :
    (isLong n = true ∧ Fault.telling n fault = .longInteger) ∨
      (isLong n = false ∧ Fault.telling n fault = fault) := by
  unfold Fault.telling
  cases isLong n with
  | true => exact .inl ⟨rfl, rfl⟩
  | false => exact .inr ⟨rfl, rfl⟩

/-- The number of a page that is too small is given. -/
theorem refusesPage_of_number {number : Value} {n : Int}
    (hn : pageValue .number defaultPageNumber number = .ok n) (h : n < 1) (size : Value) :
    (Fault.pageNumberTooSmall n).RefusesPage size number := by
  refine ⟨rfl, .inr ⟨rfl, ?_⟩⟩
  by_contra habsent
  simp only [Bool.not_eq_false] at habsent
  simp only [pageValue, habsent, if_true, defaultPageNumber] at hn
  cases hn
  omega

namespace RequestPolicy

variable (policy : RequestPolicy)

/-- The page sizes that are neither too small nor too large. -/
structure AllowsSize (size : Int) : Prop where
  positive : 1 ≤ size
  limited : ∀ limit, policy.limit = some limit → size ≤ limit.size

/-- The faults, other than a refusal, of a page window. -/
inductive WindowFault (size number : Value) : Fault → Prop
  | size {e : Fault} : ReadingFault size e → WindowFault size number e
  | number {e : Fault} {s : Int} : pageValue .size policy.defaultSize size = .ok s →
      ReadingFault number e → WindowFault size number e
  | longSize {s n : Int} : pageValue .size policy.defaultSize size = .ok s →
      pageValue .number defaultPageNumber number = .ok n → isLong s = true →
      ¬ policy.AllowsSize s → WindowFault size number .longInteger
  | longNumber {s n : Int} : pageValue .size policy.defaultSize size = .ok s →
      pageValue .number defaultPageNumber number = .ok n → policy.AllowsSize s →
      isLong n = true → n < 1 → WindowFault size number .longInteger

/-- How a page size that is not allowed is refused. -/
inductive RefusesSize (s : Int) : Fault → Prop
  | small : s < 1 → RefusesSize s (.pageSizeNotPositive s)
  | large {limit : SizeLimit} : 1 ≤ s → policy.limit = some limit → limit.size < s →
      RefusesSize s (.pageSizeTooLarge (toString s) limit.shown)

variable {policy} {size number : Value} {s n : Int} {e : Fault}

theorem allowsSize_iff :
    policy.AllowsSize s ↔ ¬ s < 1 ∧ policy.limit.filter (·.size < s) = none := by
  rw [Option.filter_eq_none_iff]
  constructor
  · rintro ⟨hpositive, hlimited⟩
    refine ⟨by omega, fun limit h => ?_⟩
    have := hlimited limit h
    simpa using this
  · rintro ⟨hpositive, hlimited⟩
    refine ⟨by omega, fun limit h => ?_⟩
    have := hlimited limit h
    simpa using this

/-- A page window is what both parameters are read as, if the size and the number are allowed. -/
theorem pageWindow_eq_ok (hs : pageValue .size policy.defaultSize size = .ok s)
    (hn : pageValue .number defaultPageNumber number = .ok n) (hsize : policy.AllowsSize s)
    (hnumber : 1 ≤ n) : policy.pageWindow size number = .ok (s, n) := by
  obtain ⟨hpositive, hlimit⟩ := allowsSize_iff.mp hsize
  simp only [pageWindow, hs, hn, hlimit, bind, Except.bind, if_neg hpositive,
    if_neg (show ¬ n < 1 by omega)]
  rfl

theorem exists_refusesSize (h : ¬ policy.AllowsSize s) : ∃ fault, policy.RefusesSize s fault := by
  by_cases hsmall : s < 1
  · exact ⟨_, .small hsmall⟩
  · obtain ⟨limit, hlimit⟩ : ∃ limit, policy.limit.filter (·.size < s) = some limit :=
      Option.ne_none_iff_exists'.mp fun hnone => h (allowsSize_iff.mpr ⟨hsmall, hnone⟩)
    obtain ⟨hsome, hlarge⟩ := Option.filter_eq_some_iff.mp hlimit
    exact ⟨_, .large (by omega) hsome (of_decide_eq_true hlarge)⟩

theorem RefusesSize.pageWindow (h : policy.RefusesSize s e)
    (hs : pageValue .size policy.defaultSize size = .ok s)
    (hn : pageValue .number defaultPageNumber number = .ok n) :
    policy.pageWindow size number = .error (.telling s e) := by
  cases h with
  | small hsmall =>
    simp only [RequestPolicy.pageWindow, hs, hn, bind, Except.bind, if_pos hsmall]
    rfl
  | @large limit hpositive hlimit hlarge =>
    have hfilter : policy.limit.filter (·.size < s) = some limit :=
      Option.filter_eq_some_iff.mpr ⟨hlimit, decide_eq_true hlarge⟩
    simp only [RequestPolicy.pageWindow, hs, hn, hfilter, bind, Except.bind,
      if_neg (show ¬ s < 1 by omega)]
    rfl

theorem pageWindow_of_number (hs : pageValue .size policy.defaultSize size = .ok s)
    (hn : pageValue .number defaultPageNumber number = .ok n) (hsize : policy.AllowsSize s)
    (hnumber : n < 1) :
    policy.pageWindow size number = .error (.telling n (.pageNumberTooSmall n)) := by
  obtain ⟨hpositive, hlimit⟩ := allowsSize_iff.mp hsize
  simp only [pageWindow, hs, hn, hlimit, bind, Except.bind, if_neg hpositive, if_pos hnumber]
  rfl

theorem pageWindow_of_size_error (h : pageValue .size policy.defaultSize size = .error e) :
    policy.pageWindow size number = .error e := by
  rw [pageWindow, h]
  rfl

theorem pageWindow_of_number_error (hs : pageValue .size policy.defaultSize size = .ok s)
    (h : pageValue .number defaultPageNumber number = .error e) :
    policy.pageWindow size number = .error e := by
  simp only [pageWindow, hs, h, bind, Except.bind]

theorem RefusesSize.kind_eq (h : policy.RefusesSize s e) :
    e.kind = .validation ∧ e.parameter? = some PageParameter.size.name := by
  cases h with
  | small => exact ⟨rfl, rfl⟩
  | large => exact ⟨rfl, rfl⟩

/-- A page window is given as both parameters are read, or fails with one of its faults, or is
refused: for a parameter that is given, or because the default size is not allowed. -/
theorem pageWindow_cases (policy : RequestPolicy) (size number : Value) :
    (∃ s n, pageValue .size policy.defaultSize size = .ok s ∧
      pageValue .number defaultPageNumber number = .ok n ∧ policy.AllowsSize s ∧ 1 ≤ n ∧
      policy.pageWindow size number = .ok (s, n)) ∨
    (∃ e, policy.pageWindow size number = .error e ∧
      (policy.WindowFault size number e ∨ e.RefusesPage size number ∨
        size.isAbsent = true ∧ (∃ n, pageValue .number defaultPageNumber number = .ok n) ∧
          isLong policy.defaultSize = false ∧ policy.RefusesSize policy.defaultSize e)) := by
  cases hs : pageValue .size policy.defaultSize size with
  | error e =>
    refine .inr ⟨e, pageWindow_of_size_error hs, ?_⟩
    obtain ⟨hgiven, rfl | hfault⟩ := readingFault_of_pageValue hs
    · exact .inr (.inl ⟨rfl, .inl ⟨rfl, hgiven⟩⟩)
    · exact .inl (.size hfault)
  | ok s =>
    cases hn : pageValue .number defaultPageNumber number with
    | error e =>
      refine .inr ⟨e, pageWindow_of_number_error hs hn, ?_⟩
      obtain ⟨hgiven, rfl | hfault⟩ := readingFault_of_pageValue hn
      · exact .inr (.inl ⟨rfl, .inr ⟨rfl, hgiven⟩⟩)
      · exact .inl (.number hs hfault)
    | ok n =>
      by_cases hsize : policy.AllowsSize s
      · by_cases hnumber : n < 1
        · refine .inr ⟨_, pageWindow_of_number hs hn hsize hnumber, ?_⟩
          obtain ⟨hlong, htold⟩ | ⟨-, htold⟩ := telling_cases n (.pageNumberTooSmall n)
          · rw [htold]
            exact .inl (.longNumber hs hn hsize hlong hnumber)
          · rw [htold]
            exact .inr (.inl (refusesPage_of_number hn hnumber size))
        · exact .inl ⟨s, n, rfl, rfl, hsize, by omega, pageWindow_eq_ok hs hn hsize (by omega)⟩
      · obtain ⟨fault, hrefuses⟩ := exists_refusesSize hsize
        refine .inr ⟨_, hrefuses.pageWindow hs hn, ?_⟩
        obtain ⟨hlong, htold⟩ | ⟨hshort, htold⟩ := telling_cases s fault
        · rw [htold]
          exact .inl (.longSize hs hn hlong hsize)
        · rw [htold]
          cases hgiven : size.isAbsent with
          | false => exact .inr (.inl ⟨hrefuses.kind_eq.1, .inl ⟨hrefuses.kind_eq.2, hgiven⟩⟩)
          | true =>
            simp only [pageValue, hgiven, if_true] at hs
            cases hs
            exact .inr (.inr ⟨rfl, ⟨n, rfl⟩, hshort, hrefuses⟩)

/-- Each fault does occur. -/
theorem WindowFault.pageWindow (h : policy.WindowFault size number e) :
    policy.pageWindow size number = .error e := by
  cases h with
  | size h => exact pageWindow_of_size_error (h.pageValue .size policy.defaultSize)
  | number hs h => exact pageWindow_of_number_error hs (h.pageValue .number defaultPageNumber)
  | longSize hs hn hlong hsize =>
    obtain ⟨fault, hrefuses⟩ := exists_refusesSize hsize
    rw [hrefuses.pageWindow hs hn, Fault.telling, if_pos hlong]
  | longNumber hs hn hsize hlong hnumber =>
    rw [pageWindow_of_number hs hn hsize hnumber, Fault.telling, if_pos hlong]

theorem WindowFault.kind_ne (h : policy.WindowFault size number e) :
    e.kind ≠ .validation ∧ e.kind ≠ .grammar := by
  cases h with
  | size h => exact h.kind_ne
  | number _ h => exact h.kind_ne
  | longSize => exact ⟨nofun, nofun⟩
  | longNumber => exact ⟨nofun, nofun⟩

end RequestPolicy

end PagedQuery
