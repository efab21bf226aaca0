import Mathlib.Data.List.Forall2

set_option autoImplicit false

/-!
# Going through a list up to the first failure

Items that may fail are worked off in order. Either every item has a result, or the whole fails with
the error of the first item that has none (`mapM_ok_iff`, `mapM_error_iff`).
-/

namespace ArgCheck.Sequence

variable {ε α β γ : Type}

theorem eq_map_of_cons {f : α → β} {along : List α → List β} (nil : along [] = [])
    (cons : ∀ item rest, along (item :: rest) = f item :: along rest) (items : List α) :
    along items = items.map f := by
  induction items with
  | nil => exact nil
  | cons item rest ih => rw [cons, ih, List.map_cons]

theorem map_ok_iff (f : α → β) (x : Except ε α) (b : β) :
    x.map f = .ok b ↔ ∃ a, x = .ok a ∧ f a = b := by
  cases x <;> simp [Except.map]

theorem map_error_iff (f : α → β) (x : Except ε α) (error : ε) :
    x.map f = .error error ↔ x = .error error := by
  cases x <;> simp [Except.map]

theorem bind_ok_iff (x : Except ε α) (f : α → Except ε β) (b : β) :
    x.bind f = .ok b ↔ ∃ a, x = .ok a ∧ f a = .ok b := by
  cases x <;> simp [Except.bind]

theorem bind_error_iff (x : Except ε α) (f : α → Except ε β) (error : ε) :
    x.bind f = .error error ↔ x = .error error ∨ ∃ a, x = .ok a ∧ f a = .error error := by
  cases x <;> simp [Except.bind]

/-- Some item fails with this error, and no item before it fails. -/
def FailsFirst (f : α → Except ε β) (items : List α) (error : ε) : Prop :=
  ∃ before item after, items = before ++ item :: after ∧
    (∀ earlier ∈ before, ∃ result, f earlier = .ok result) ∧ f item = .error error

theorem not_failsFirst_nil (f : α → Except ε β) (error : ε) : ¬ FailsFirst f [] error := by
  rintro ⟨before, item, after, h, -⟩
  simp at h

theorem failsFirst_cons (f : α → Except ε β) (item : α) (rest : List α) (error : ε) :
    FailsFirst f (item :: rest) error ↔
      f item = .error error ∨ (∃ result, f item = .ok result) ∧ FailsFirst f rest error := by
  constructor
  · rintro ⟨before, failing, after, h, earlier, fails⟩
    cases before with
    | nil =>
      cases h
      exact .inl fails
    | cons first before =>
      cases h
      exact .inr ⟨earlier item (by simp),
        before, failing, after, rfl, fun x hx => earlier x (by simp [hx]), fails⟩
  · rintro (fails | ⟨first, before, failing, after, rfl, earlier, fails⟩)
    · exact ⟨[], item, rest, rfl, by simp, fails⟩
    · refine ⟨item :: before, failing, after, rfl, ?_, fails⟩
      intro x hx
      rcases List.mem_cons.mp hx with rfl | hx
      · exact first
      · exact earlier x hx

theorem failsFirst_singleton (f : α → Except ε β) (item : α) (error : ε) :
    FailsFirst f [item] error ↔ f item = .error error := by
  simp [failsFirst_cons, not_failsFirst_nil]

/-- Items that cannot fail may be passed over. -/
theorem failsFirst_filterMap {f : α → Except ε β} {g : γ → Except ε β} {pick : α → Option γ}
    (passed : ∀ item, pick item = none → ∃ result, f item = .ok result)
    (picked : ∀ item other, pick item = some other → f item = g other) (items : List α)
    (error : ε) : FailsFirst f items error ↔ FailsFirst g (items.filterMap pick) error := by
  induction items with
  | nil => exact iff_of_false (not_failsFirst_nil f error) (not_failsFirst_nil g error)
  | cons item rest ih =>
    rw [failsFirst_cons, ih]
    cases found : pick item with
    | none =>
      obtain ⟨result, succeeds⟩ := passed item found
      rw [List.filterMap_cons_none found, succeeds]
      simp
    | some other =>
      rw [List.filterMap_cons_some found, failsFirst_cons, picked item other found]

theorem failsFirst_append (f : α → Except ε β) (first second : List α) (error : ε) :
    FailsFirst f (first ++ second) error ↔ FailsFirst f first error ∨
      (∀ item ∈ first, ∃ result, f item = .ok result) ∧ FailsFirst f second error := by
  induction first with
  | nil => simp [not_failsFirst_nil]
  | cons item rest ih =>
    rw [List.cons_append, failsFirst_cons, failsFirst_cons, ih, List.forall_mem_cons, and_or_left,
      or_assoc, and_assoc]

theorem failsFirst_map_iff (f : α → Except ε β) (g : α → β → γ) (items : List α) (error : ε) :
    FailsFirst (fun item => (f item).map (g item)) items error ↔ FailsFirst f items error := by
  have succeeds : ∀ item, (∃ result, (f item).map (g item) = .ok result) ↔
      ∃ result, f item = .ok result := by
    intro item
    cases f item <;> simp [Except.map]
  simp only [FailsFirst, succeeds, map_error_iff]

theorem mapM_cons (f : α → Except ε β) (item : α) (rest : List α) :
    (item :: rest).mapM f =
      (f item).bind fun result => (rest.mapM f).map fun results => result :: results := by
  rw [List.mapM_cons]
  cases f item with
  | error error => rfl
  | ok result => cases rest.mapM f <;> rfl

theorem mapM_cons_ok {f : α → Except ε β} {item : α} {result : β} (h : f item = .ok result)
    (rest : List α) :
    (item :: rest).mapM f = (rest.mapM f).map fun results => result :: results := by
  rw [mapM_cons, h]
  rfl

theorem mapM_cons_error {f : α → Except ε β} {item : α} {error : ε} (h : f item = .error error)
    (rest : List α) : (item :: rest).mapM f = .error error := by
  rw [mapM_cons, h]
  rfl

theorem mapM_ok_iff (f : α → Except ε β) (items : List α) (results : List β) :
    items.mapM f = .ok results ↔ List.Forall₂ (fun item result => f item = .ok result) items results := by
  induction items generalizing results with
  | nil =>
    rw [List.mapM_nil, List.forall₂_nil_left_iff]
    constructor
    · intro h
      exact (Except.ok.inj h).symm
    · rintro rfl
      rfl
  | cons item rest ih =>
    rw [List.forall₂_cons_left_iff]
    cases hf : f item with
    | error error => simp [mapM_cons_error hf]
    | ok result =>
      rw [mapM_cons_ok hf, map_ok_iff]
      constructor
      · rintro ⟨others, hr, rfl⟩
        exact ⟨result, others, rfl, (ih others).mp hr, rfl⟩
      · rintro ⟨_, others, h, hr, rfl⟩
        cases h
        exact ⟨others, (ih others).mpr hr, rfl⟩

theorem mapM_error_iff (f : α → Except ε β) (items : List α) (error : ε) :
    items.mapM f = .error error ↔ FailsFirst f items error := by
  induction items with
  | nil =>
    refine iff_of_false ?_ (not_failsFirst_nil f error)
    rw [List.mapM_nil]
    intro h
    cases h
  | cons item rest ih =>
    rw [failsFirst_cons, ← ih]
    cases hf : f item with
    | error first => simp [mapM_cons_error hf]
    | ok result =>
      rw [mapM_cons_ok hf, map_error_iff]
      simp

theorem exists_of_forall₂ {R : α → β → Prop} {items : List α} {results : List β}
    (h : List.Forall₂ R items results) {result : β} (member : result ∈ results) :
    ∃ item ∈ items, R item result := by
  induction h with
  | nil => cases member
  | cons head _ ih =>
    rcases List.mem_cons.mp member with rfl | member
    · exact ⟨_, by simp, head⟩
    · obtain ⟨item, inside, h⟩ := ih member
      exact ⟨item, by simp [inside], h⟩

theorem exists_of_mapM_ok {f : α → Except ε β} {items : List α} {results : List β}
    (h : items.mapM f = .ok results) {result : β} (member : result ∈ results) :
    ∃ item ∈ items, f item = .ok result :=
  exists_of_forall₂ ((mapM_ok_iff f items results).mp h) member

theorem result_of_mapM_ok {f : α → Except ε β} {items : List α} {results : List β}
    (h : items.mapM f = .ok results) {item : α} (member : item ∈ items) :
    ∃ result ∈ results, f item = .ok result :=
  exists_of_forall₂ ((mapM_ok_iff f items results).mp h).flip member

theorem mapM_ok_of_forall {f : α → Except ε β} {items : List α}
    (h : ∀ item ∈ items, ∃ result, f item = .ok result) : ∃ results, items.mapM f = .ok results := by
  cases hm : items.mapM f with
  | ok results => exact ⟨results, rfl⟩
  | error error =>
    obtain ⟨_, item, _, rfl, _, fails⟩ := (mapM_error_iff f items error).mp hm
    obtain ⟨result, succeeds⟩ := h item (by simp)
    rw [succeeds] at fails
    cases fails

/-- What fails exactly with the first failure among the items succeeds exactly if all of them do. -/
theorem ok_iff_of_error_iff {x : Except ε γ} {f : α → Except ε β} {items : List α}
    (h : ∀ error, x = .error error ↔ FailsFirst f items error) :
    (∃ result, x = .ok result) ↔ ∀ item ∈ items, ∃ result, f item = .ok result := by
  constructor
  · rintro ⟨result, succeeds⟩
    cases hm : items.mapM f with
    | ok results =>
      intro item member
      obtain ⟨one, -, found⟩ := result_of_mapM_ok hm member
      exact ⟨one, found⟩
    | error error =>
      have fails := (h error).mpr ((mapM_error_iff f items error).mp hm)
      rw [succeeds] at fails
      cases fails
  · intro all
    cases hx : x with
    | ok result => exact ⟨result, rfl⟩
    | error error =>
      obtain ⟨_, item, _, rfl, _, fails⟩ := (h error).mp hx
      obtain ⟨result, succeeds⟩ := all item (by simp)
      rw [succeeds] at fails
      cases fails

/-- Items may be replaced by lists whose first failures are theirs. -/
theorem failsFirst_flatMap {δ : Type} {f : α → Except ε β} {g : γ → Except ε δ} {expand : α → List γ}
    (h : ∀ item error, f item = .error error ↔ FailsFirst g (expand item) error) (items : List α)
    (error : ε) : FailsFirst f items error ↔ FailsFirst g (items.flatMap expand) error := by
  induction items with
  | nil => exact iff_of_false (not_failsFirst_nil f error) (not_failsFirst_nil g error)
  | cons item rest ih =>
    rw [failsFirst_cons, List.flatMap_cons, failsFirst_append, ← h, ← ih,
      ok_iff_of_error_iff (h item)]

theorem mapM_self {f : α → Except ε α} {items : List α} (h : ∀ item ∈ items, f item = .ok item) :
    items.mapM f = .ok items := by
  rw [mapM_ok_iff, List.forall₂_same]
  exact h

theorem map_eq_of_forall₂ {f : α → γ} {g : β → γ} {items : List α} {results : List β}
    (h : List.Forall₂ (fun item result => g result = f item) items results) :
    results.map g = items.map f := by
  induction h with
  | nil => rfl
  | cons head _ ih => rw [List.map_cons, List.map_cons, head, ih]

theorem mapM_forall₂ {f : α → Except ε γ} {g : β → Except ε γ} {items : List α} {others : List β}
    (h : List.Forall₂ (fun item other => f item = g other) items others) :
    items.mapM f = others.mapM g := by
  induction h with
  | nil => rfl
  | cons head _ ih => rw [List.mapM_cons, List.mapM_cons, head, ih]

/-- Both fail with the same error, or both succeed with results that belong together. -/
inductive Agree (R : α → β → Prop) : Except ε α → Except ε β → Prop
  | ok {a : α} {b : β} (h : R a b) : Agree R (.ok a) (.ok b)
  | error (error : ε) : Agree R (.error error) (.error error)

theorem Agree.map {δ : Type} {R : α → β → Prop} {S : γ → δ → Prop} {f : α → γ} {g : β → δ}
    {x : Except ε α} {y : Except ε β} (h : Agree R x y) (results : ∀ a b, R a b → S (f a) (g b)) :
    Agree S (x.map f) (y.map g) := by
  cases h with
  | ok related => exact .ok (results _ _ related)
  | error error => exact .error error

theorem Agree.bind {δ : Type} {R : α → β → Prop} {S : γ → δ → Prop} {f : α → Except ε γ}
    {g : β → Except ε δ} {x : Except ε α} {y : Except ε β} (h : Agree R x y)
    (results : ∀ a b, R a b → Agree S (f a) (g b)) : Agree S (x.bind f) (y.bind g) := by
  cases h with
  | ok related => exact results _ _ related
  | error error => exact .error error

theorem Agree.bind_eq {R : α → β → Prop} {f : α → Except ε γ} {g : β → Except ε γ}
    {x : Except ε α} {y : Except ε β} (h : Agree R x y) (results : ∀ a b, R a b → f a = g b) :
    x.bind f = y.bind g := by
  cases h with
  | ok related => exact results _ _ related
  | error error => rfl

theorem mapM_agree {δ : Type} {R : γ → δ → Prop} {f : α → Except ε γ} {g : β → Except ε δ}
    {items : List α} {others : List β}
    (h : List.Forall₂ (fun item other => Agree R (f item) (g other)) items others) :
    Agree (List.Forall₂ R) (items.mapM f) (others.mapM g) := by
  induction h with
  | nil => exact .ok .nil
  | cons head _ ih =>
    rw [mapM_cons, mapM_cons]
    exact head.bind fun _ _ first => ih.map fun _ _ rest => .cons first rest

end ArgCheck.Sequence
