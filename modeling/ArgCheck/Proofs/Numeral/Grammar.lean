import ArgCheck.Proofs.Numeral.Digits

set_option autoImplicit false

/-!
# The grammar of whole numbers

A whole number is written with at most one sign and then digits, between which single underscores may
stand. The reader that allows for underscores takes these texts and no others, and gives the number that
the digits denote if it is of 64 bits (`separatedInt64?_eq_some_iff`).
-/

namespace ArgCheck.Numeral

/-- Digits, with at most one underscore between a digit and the next. -/
inductive Separated : List Char → Prop
  | last {c : Char} (digit : c.isDigit = true) : Separated [c]
  | next {c : Char} {text : List Char} (digit : c.isDigit = true) (rest : Separated text) :
      Separated (c :: text)
  | apart {c : Char} {text : List Char} (digit : c.isDigit = true) (rest : Separated text) :
      Separated (c :: '_' :: text)

def condensed (text : List Char) : List Char := text.filter (· ≠ '_')

/-- The number of a text of digits under its sign. -/
inductive Spells : List Char → Int → Prop
  | unsigned {text : List Char} (digits : Separated text) : Spells text (valueOf (condensed text))
  | plus {text : List Char} (digits : Separated text) :
      Spells ('+' :: text) (valueOf (condensed text))
  | minus {text : List Char} (digits : Separated text) :
      Spells ('-' :: text) (-(valueOf (condensed text) : Int))

variable {text : List Char} {c : Char}

theorem condensed_cons (h : c ≠ '_') (rest : List Char) :
    condensed (c :: rest) = c :: condensed rest := by
  rw [condensed, List.filter_cons_of_pos (by simpa using h)]
  rfl

theorem condensed_apart (rest : List Char) : condensed ('_' :: rest) = condensed rest := rfl

theorem ne_underscore (digit : c.isDigit = true) : c ≠ '_' := by
  rintro rfl
  cases digit

theorem wellSeparated_cons (h : c ≠ '_') (afterDigit : Bool) (rest : List Char) :
    wellSeparated afterDigit (c :: rest) = wellSeparated c.isDigit rest := by
  rw [wellSeparated]
  exact h

theorem Separated.exists_cons (separated : Separated text) :
    ∃ c rest, text = c :: rest ∧ c.isDigit = true := by
  cases separated with
  | last digit => exact ⟨_, _, rfl, digit⟩
  | next digit rest => exact ⟨_, _, rfl, digit⟩
  | apart digit rest => exact ⟨_, _, rfl, digit⟩

theorem Separated.wellSeparated (separated : Separated text) (afterDigit : Bool) :
    wellSeparated afterDigit text = true := by
  induction separated generalizing afterDigit with
  | last digit =>
    rw [wellSeparated_cons (ne_underscore digit)]
    rfl
  | next digit rest ih =>
    rw [wellSeparated_cons (ne_underscore digit)]
    exact ih _
  | apart digit rest ih =>
    obtain ⟨first, others, rfl, starts⟩ := rest.exists_cons
    rw [wellSeparated_cons (ne_underscore digit), Numeral.wellSeparated, digit, startsWithDigit,
      starts, ih false]
    rfl

theorem Separated.allDigits (separated : Separated text) :
    condensed text ≠ [] ∧ AllDigits (condensed text) := by
  induction separated with
  | last digit =>
    rw [condensed_cons (ne_underscore digit)]
    exact ⟨List.cons_ne_nil _ _, List.forall_mem_cons.mpr ⟨digit, by simp [condensed]⟩⟩
  | next digit rest ih =>
    rw [condensed_cons (ne_underscore digit)]
    exact ⟨List.cons_ne_nil _ _, List.forall_mem_cons.mpr ⟨digit, ih.2⟩⟩
  | apart digit rest ih =>
    rw [condensed_cons (ne_underscore digit), condensed_apart]
    exact ⟨List.cons_ne_nil _ _, List.forall_mem_cons.mpr ⟨digit, ih.2⟩⟩

theorem natural?_eq_some_iff (text : List Char) (n : Nat) :
    natural? text = some n ↔ text ≠ [] ∧ AllDigits text ∧ valueOf text = n := by
  unfold natural?
  split
  · rename_i h
    have digits : AllDigits text := List.all_eq_true.mp h.2
    simp [h.1, digits]
  · rename_i h
    simp only [reduceCtorEq, false_iff]
    rintro ⟨nonempty, digits, -⟩
    exact h ⟨nonempty, List.all_eq_true.mpr digits⟩

theorem separated_of_wellSeparated (digits : AllDigits (condensed text)) :
    (∀ c : Char, c.isDigit = true → wellSeparated true text = true → Separated (c :: text)) ∧
      (startsWithDigit text = true → wellSeparated false text = true → Separated text) := by
  induction text with
  | nil =>
    refine ⟨fun c digit _ => .last digit, ?_⟩
    intro starts
    cases starts
  | cons d rest ih =>
    by_cases underscore : d = '_'
    · subst underscore
      rw [condensed_apart] at digits
      constructor
      · intro c digit apart
        rw [wellSeparated] at apart
        simp only [Bool.true_and, Bool.and_eq_true] at apart
        exact .apart digit ((ih digits).2 apart.1 apart.2)
      · intro starts
        cases starts
    · rw [condensed_cons underscore] at digits
      obtain ⟨first, digits⟩ := List.forall_mem_cons.mp digits
      have step : ∀ afterDigit, wellSeparated afterDigit (d :: rest) = true →
          Separated (d :: rest) := by
        intro afterDigit apart
        rw [wellSeparated_cons underscore, first] at apart
        exact (ih digits).1 d first apart
      exact ⟨fun c digit apart => .next digit (step true apart), fun _ => step false⟩

theorem separated_iff (text : List Char) (n : Nat) :
    Separated text ∧ valueOf (condensed text) = n ↔
      wellSeparated false text = true ∧ natural? (condensed text) = some n := by
  rw [natural?_eq_some_iff]
  constructor
  · rintro ⟨separated, value⟩
    exact ⟨separated.wellSeparated false, separated.allDigits.1, separated.allDigits.2, value⟩
  · rintro ⟨apart, nonempty, digits, value⟩
    refine ⟨(separated_of_wellSeparated digits).2 ?_ apart, value⟩
    cases text with
    | nil => exact absurd rfl nonempty
    | cons c rest =>
      have other : c ≠ '_' := by
        rintro rfl
        cases apart
      rw [condensed_cons other] at digits
      exact digits c (by simp)

theorem integer?_minus (text : List Char) :
    integer? ('-' :: text) = (natural? text).map fun n : Nat => -(n : Int) := by
  rw [integer?]
  cases natural? text <;> rfl

theorem integer?_plus (text : List Char) :
    integer? ('+' :: text) = (natural? text).map fun n : Nat => (n : Int) := by
  rw [integer?]
  cases natural? text <;> rfl

theorem integer?_unsigned (minus : c ≠ '-') (plus : c ≠ '+') (rest : List Char) :
    integer? (c :: rest) = (natural? (c :: rest)).map fun n : Nat => (n : Int) := by
  rw [integer?]
  · cases natural? (c :: rest) <;> rfl
  · intro other same
    cases same
    exact minus rfl
  · intro other same
    cases same
    exact plus rfl

/-- A text without a sign is not mistaken for one with a sign, since signs are no digits. -/
theorem integer?_eq_some_iff (text : List Char) (n : Int) : integer? text = some n ↔
    (∃ rest m, text = '-' :: rest ∧ natural? rest = some m ∧ n = -(m : Int)) ∨
      (∃ rest m, text = '+' :: rest ∧ natural? rest = some m ∧ n = m) ∨
      ∃ m, natural? text = some m ∧ n = m := by
  constructor
  · intro read
    cases text with
    | nil => cases read
    | cons c rest =>
      by_cases minus : c = '-'
      · subst minus
        rw [integer?_minus, Option.map_eq_some_iff] at read
        obtain ⟨m, found, rfl⟩ := read
        exact .inl ⟨rest, m, rfl, found, rfl⟩
      · by_cases plus : c = '+'
        · subst plus
          rw [integer?_plus, Option.map_eq_some_iff] at read
          obtain ⟨m, found, rfl⟩ := read
          exact .inr (.inl ⟨rest, m, rfl, found, rfl⟩)
        · rw [integer?_unsigned minus plus, Option.map_eq_some_iff] at read
          obtain ⟨m, found, rfl⟩ := read
          exact .inr (.inr ⟨m, found, rfl⟩)
  · rintro (⟨rest, m, rfl, found, rfl⟩ | ⟨rest, m, rfl, found, rfl⟩ | ⟨m, found, rfl⟩)
    · rw [integer?_minus, found]
      rfl
    · rw [integer?_plus, found]
      rfl
    · obtain ⟨nonempty, digits, -⟩ := (natural?_eq_some_iff text m).mp found
      obtain ⟨c, rest, rfl⟩ := List.exists_cons_of_ne_nil nonempty
      rw [integer?_of_isDigit (digits c List.mem_cons_self), found]
      rfl

theorem spells_iff (text : List Char) (n : Int) :
    Spells text n ↔ wellSeparated false text = true ∧ integer? (condensed text) = some n := by
  rw [integer?_eq_some_iff]
  constructor
  · rintro (digits | digits | digits)
    · obtain ⟨apart, read⟩ := (separated_iff text _).mp ⟨digits, rfl⟩
      exact ⟨apart, .inr (.inr ⟨_, read, rfl⟩)⟩
    · obtain ⟨apart, read⟩ := (separated_iff _ _).mp ⟨digits, rfl⟩
      rw [wellSeparated_cons (by decide), condensed_cons (by decide)]
      exact ⟨apart, .inr (.inl ⟨_, _, rfl, read, rfl⟩)⟩
    · obtain ⟨apart, read⟩ := (separated_iff _ _).mp ⟨digits, rfl⟩
      rw [wellSeparated_cons (by decide), condensed_cons (by decide)]
      exact ⟨apart, .inl ⟨_, _, rfl, read, rfl⟩⟩
  · rintro ⟨apart, read⟩
    -- No underscore stands before a sign, so that the sign of what is left is the first of the text.
    have signed : ∀ sign rest, sign ≠ '_' → sign.isDigit = false → condensed text = sign :: rest →
        ∃ digits, text = sign :: digits ∧ wellSeparated false digits = true ∧
          rest = condensed digits := by
      intro sign rest other plain shown
      cases text with
      | nil => cases shown
      | cons c digits =>
        have mark : c ≠ '_' := by
          rintro rfl
          cases apart
        rw [condensed_cons mark] at shown
        cases shown
        rw [wellSeparated_cons other, plain] at apart
        exact ⟨digits, rfl, apart, rfl⟩
    rcases read with ⟨rest, m, shown, read, rfl⟩ | ⟨rest, m, shown, read, rfl⟩ | ⟨m, read, rfl⟩
    · obtain ⟨digits, rfl, apart, rfl⟩ := signed '-' rest (by decide) rfl shown
      obtain ⟨digits, rfl⟩ := (separated_iff _ m).mpr ⟨apart, read⟩
      exact .minus digits
    · obtain ⟨digits, rfl, apart, rfl⟩ := signed '+' rest (by decide) rfl shown
      obtain ⟨digits, rfl⟩ := (separated_iff _ m).mpr ⟨apart, read⟩
      exact .plus digits
    · obtain ⟨digits, rfl⟩ := (separated_iff text m).mpr ⟨apart, read⟩
      exact .unsigned digits

theorem toInt64?_eq_some_iff (n : Int) (i : Int64) : toInt64? n = some i ↔ i.toInt = n := by
  constructor
  · intro h
    unfold toInt64? inInt64 at h
    split at h
    · rename_i fits
      cases h
      simp only [Bool.and_eq_true, decide_eq_true_eq] at fits
      exact Int64.toInt_ofInt_of_le fits.1 fits.2
    · cases h
  · rintro rfl
    exact toInt64?_toInt i

theorem exists_toInt_iff (n : Int) :
    (∃ i : Int64, i.toInt = n) ↔ -0x8000000000000000 ≤ n ∧ n ≤ 0x7fffffffffffffff := by
  constructor
  · rintro ⟨i, rfl⟩
    have lower := i.le_toInt
    have upper := i.toInt_lt
    omega
  · rintro ⟨lower, upper⟩
    exact ⟨Int64.ofInt n, Int64.toInt_ofInt_of_le lower (Int.lt_add_one_of_le upper)⟩

theorem int64?_eq_some_iff (text : List Char) (i : Int64) :
    int64? text = some i ↔ integer? text = some i.toInt := by
  simp only [int64?, Option.bind_eq_some_iff, toInt64?_eq_some_iff]
  constructor
  · rintro ⟨n, read, rfl⟩
    exact read
  · intro read
    exact ⟨i.toInt, read, rfl⟩

theorem separatedInt64?_eq_some_iff (text : List Char) (i : Int64) :
    separatedInt64? text = some i ↔ Spells text i.toInt := by
  rw [spells_iff, separatedInt64?]
  split
  · rename_i apart
    rw [int64?_eq_some_iff, and_iff_right apart]
    rfl
  · rename_i apart
    simp [apart]

theorem Separated.solid (separated : Separated text) : Text.Solid text := by
  induction separated with
  | last digit => exact Text.solid_nil.cons (Text.isBlank_of_isDigit digit)
  | next digit rest ih => exact ih.cons (Text.isBlank_of_isDigit digit)
  | apart digit rest ih => exact (ih.cons rfl).cons (Text.isBlank_of_isDigit digit)

theorem Spells.solid {n : Int} (spells : Spells text n) : Text.Solid text := by
  cases spells with
  | unsigned digits => exact digits.solid
  | plus digits => exact digits.solid.cons rfl
  | minus digits => exact digits.solid.cons rfl

end ArgCheck.Numeral
