import ArgCheck.Numeral
import ArgCheck.Text.Blank

set_option autoImplicit false

/-!
# Texts of whole numbers

An underscore may separate the digits of a whole number for some readers and makes it unreadable for
others; where there is none, they read alike. Blanks at the ends of a text hide no other character,
and a text without blanks stays as it is.
-/

namespace ArgCheck

namespace Text

theorem mem_skipBlanks_iff {c : Char} (mark : isBlank c = false) (text : List Char) :
    c ∈ skipBlanks text ↔ c ∈ text := by
  induction text with
  | nil => rfl
  | cons d text ih =>
    unfold skipBlanks at ih ⊢
    by_cases hd : isBlank d = true
    · have other : c ≠ d := by
        rintro rfl
        rw [mark] at hd
        cases hd
      simp [List.dropWhile_cons_of_pos hd, ih, other]
    · rw [List.dropWhile_cons_of_neg hd]

theorem mem_trim_iff {c : Char} (mark : isBlank c = false) (text : List Char) :
    c ∈ trim text ↔ c ∈ text := by
  simp only [trim, List.mem_reverse, mem_skipBlanks_iff mark]

theorem isBlank_of_isDigit {c : Char} (h : c.isDigit = true) : isBlank c = false := by
  simp only [Char.isDigit, Bool.and_eq_true, decide_eq_true_eq] at h
  obtain ⟨low, high⟩ := h
  have low : 48 ≤ c.toNat := low
  have high : c.toNat ≤ 57 := high
  simp only [isBlank, Bool.or_eq_false_iff, Bool.and_eq_false_iff, decide_eq_false_iff_not,
    beq_eq_false_iff_ne, ne_eq]
  omega

theorem skipBlanks_cons {c : Char} (h : isBlank c = false) (rest : List Char) :
    skipBlanks (c :: rest) = c :: rest :=
  List.dropWhile_cons_of_neg (by simp [h])

def Solid (text : List Char) : Prop := ∀ c ∈ text, isBlank c = false

variable {text rest : List Char}

theorem solid_nil : Solid [] := by
  intro c member
  cases member

theorem Solid.cons {c : Char} (mark : isBlank c = false) (solid : Solid rest) : Solid (c :: rest) :=
  List.forall_mem_cons.mpr ⟨mark, solid⟩

theorem Solid.append (first : Solid text) (second : Solid rest) : Solid (text ++ rest) :=
  List.forall_mem_append.mpr ⟨first, second⟩

theorem Solid.skipBlanks_self (solid : Solid text) : skipBlanks text = text := by
  cases text with
  | nil => rfl
  | cons c rest => exact skipBlanks_cons (solid c (by simp)) rest

theorem Solid.reverse (solid : Solid text) : Solid text.reverse :=
  fun c member => solid c (List.mem_reverse.mp member)

def Blank (text : List Char) : Prop := ∀ c ∈ text, isBlank c = true

instance : DecidablePred Blank := fun text =>
  decidable_of_iff (text.all isBlank = true) List.all_eq_true

theorem blank_nil : Blank [] := by
  intro c member
  cases member

theorem Blank.skipBlanks_append (blank : Blank text) (rest : List Char) :
    skipBlanks (text ++ rest) = skipBlanks rest :=
  List.dropWhile_append_of_pos blank

theorem Blank.reverse (blank : Blank text) : Blank text.reverse :=
  fun c member => blank c (List.mem_reverse.mp member)

theorem exists_skipBlanks (text : List Char) :
    ∃ before, Blank before ∧ text = before ++ skipBlanks text := by
  refine ⟨text.takeWhile isBlank, ?_, List.takeWhile_append_dropWhile.symm⟩
  exact List.all_eq_true.mp List.all_takeWhile

theorem exists_trim (text : List Char) :
    ∃ before after, Blank before ∧ Blank after ∧ text = before ++ trim text ++ after := by
  obtain ⟨before, first, split⟩ := exists_skipBlanks text
  obtain ⟨after, last, cut⟩ := exists_skipBlanks (skipBlanks text).reverse
  refine ⟨before, after.reverse, first, last.reverse, ?_⟩
  rw [List.append_assoc, trim, ← List.reverse_append, ← cut, List.reverse_reverse]
  exact split

theorem Solid.trim_between {core before after : List Char} (solid : Solid core)
    (first : Blank before) (last : Blank after) : trim (before ++ core ++ after) = core := by
  rw [trim, List.append_assoc, first.skipBlanks_append]
  cases core with
  | nil =>
    have skipped : skipBlanks after = [] := by
      rw [← List.append_nil after, last.skipBlanks_append]
      rfl
    rw [List.nil_append, skipped]
    rfl
  | cons c rest =>
    rw [List.cons_append, skipBlanks_cons (solid c (by simp)), ← List.cons_append,
      List.reverse_append, last.reverse.skipBlanks_append, solid.reverse.skipBlanks_self,
      List.reverse_reverse]

theorem trim_eq_nil_iff (text : List Char) : trim text = [] ↔ Blank text := by
  constructor
  · intro empty
    obtain ⟨before, after, first, last, split⟩ := exists_trim text
    rw [split, empty, List.append_nil]
    exact List.forall_mem_append.mpr ⟨first, last⟩
  · intro blank
    simpa using solid_nil.trim_between blank blank_nil

/-- Trimming finds a text of a kind without blanks just where such a text stands between blanks. -/
theorem trim_iff {kind : List Char → Prop} (solid : ∀ core, kind core → Solid core)
    (text : List Char) : kind (trim text) ↔ ∃ before core after, Blank before ∧ Blank after ∧
      text = before ++ core ++ after ∧ kind core := by
  constructor
  · intro inside
    obtain ⟨before, after, first, last, split⟩ := exists_trim text
    exact ⟨before, _, after, first, last, split, inside⟩
  · rintro ⟨before, core, after, first, last, rfl, inside⟩
    rwa [(solid core inside).trim_between first last]

theorem Solid.trim_self (solid : Solid text) : trim text = text := by
  have alone := solid.trim_between blank_nil blank_nil
  rwa [List.nil_append, List.append_nil] at alone

end Text

namespace Numeral

variable {text : List Char}

theorem natural?_of_underscore (h : '_' ∈ text) : natural? text = none := by
  have mixed : ¬ text.all Char.isDigit = true := by
    intro digits
    have := List.all_eq_true.mp digits '_' h
    exact absurd this (by decide)
  rw [natural?, if_neg fun both => mixed both.2]

theorem int64?_of_underscore (h : '_' ∈ text) : int64? text = none := by
  have unread : integer? text = none := by
    unfold integer?
    split
    · rw [natural?_of_underscore (by simpa using h)]
      rfl
    · rw [natural?_of_underscore (by simpa using h)]
      rfl
    · rw [natural?_of_underscore h]
      rfl
  rw [int64?, unread]
  rfl

theorem wellSeparated_of_notMem (h : '_' ∉ text) (afterDigit : Bool) :
    wellSeparated afterDigit text = true := by
  induction text generalizing afterDigit with
  | nil => rfl
  | cons c rest ih =>
    simp only [List.mem_cons, not_or] at h
    rw [wellSeparated]
    · exact ih h.2 c.isDigit
    · rintro rfl
      exact h.1 rfl

theorem separatedInt64?_of_notMem (h : '_' ∉ text) : separatedInt64? text = int64? text := by
  have kept : text.filter (· ≠ '_') = text := by
    rw [List.filter_eq_self]
    intro c member
    have other : c ≠ '_' := fun same => h (same ▸ member)
    simpa using other
  rw [separatedInt64?, if_pos (wellSeparated_of_notMem h false), kept]

end Numeral

end ArgCheck
