set_option autoImplicit false

/-!
# Events and traced results

A `Traced` computation yields a result, or a failure, together with the events it emitted. Events
emitted before a failure are kept. The lemmas read `result` and `events` off each operation, so a
statement about results need not mention events and the other way round.
-/

namespace ArgCheck

inductive Level where
  | trace
  | debug
  | info
  | warn
  deriving DecidableEq, Repr

structure Event where
  level : Level
  message : String
  fields : List (String × String)
  deriving DecidableEq, Repr

structure Traced (ε α : Type) where
  events : List Event
  result : Except ε α

namespace Traced

variable {ε ε' α β : Type}

def ofExcept (result : Except ε α) : Traced ε α := ⟨[], result⟩

def fail (error : ε) : Traced ε α := ⟨[], .error error⟩

def emit (level : Level) (message : String) (fields : List (String × String)) : Traced ε Unit :=
  ⟨[⟨level, message, fields⟩], .ok ()⟩

def bind (x : Traced ε α) (f : α → Traced ε β) : Traced ε β :=
  match x.result with
  | .error error => ⟨x.events, .error error⟩
  | .ok a => ⟨x.events ++ (f a).events, (f a).result⟩

instance : Monad (Traced ε) where
  pure a := ⟨[], .ok a⟩
  bind := bind

def mapError (f : ε → ε') (x : Traced ε α) : Traced ε' α := ⟨x.events, x.result.mapError f⟩

/-- Looks at the outcome without being able to change it. -/
def onError (x : Traced ε α) (report : ε → Event) : Traced ε α :=
  match x.result with
  | .error error => ⟨x.events ++ [report error], .error error⟩
  | .ok _ => x

@[simp] theorem result_pure (a : α) : (pure a : Traced ε α).result = .ok a := rfl

@[simp] theorem events_pure (a : α) : (pure a : Traced ε α).events = [] := rfl

@[simp] theorem result_ofExcept (result : Except ε α) : (ofExcept result).result = result := rfl

@[simp] theorem result_fail (error : ε) : (fail error : Traced ε α).result = .error error := rfl

@[simp] theorem result_emit (level : Level) (message : String) (fields : List (String × String)) :
    (emit level message fields : Traced ε Unit).result = .ok () := rfl

@[simp] theorem result_bind (x : Traced ε α) (f : α → Traced ε β) :
    (x >>= f).result = x.result.bind fun a => (f a).result := by
  change (bind x f).result = _
  unfold bind
  cases x.result <;> rfl

@[simp] theorem result_map (f : α → β) (x : Traced ε α) :
    (f <$> x).result = x.result.map f := by
  change (bind x fun a => pure (f a)).result = _
  unfold bind
  cases x.result <;> rfl

@[simp] theorem result_mapError (f : ε → ε') (x : Traced ε α) :
    (mapError f x).result = x.result.mapError f := rfl

@[simp] theorem result_onError (x : Traced ε α) (report : ε → Event) :
    (onError x report).result = x.result := by
  unfold onError
  split
  · rename_i error h
    exact h.symm
  · rfl

theorem events_bind (x : Traced ε α) (f : α → Traced ε β) :
    (x >>= f).events = match x.result with
      | .error _ => x.events
      | .ok a => x.events ++ (f a).events := by
  change (bind x f).events = _
  unfold bind
  cases x.result <;> rfl

theorem ext {x y : Traced ε α} (events : x.events = y.events) (result : x.result = y.result) :
    x = y := by
  cases x
  cases y
  simp_all

theorem id_map (x : Traced ε α) : id <$> x = x := by
  apply ext
  · change (bind x fun a => pure (id a)).events = _
    unfold bind
    cases h : x.result <;> simp
  · rw [result_map]
    cases x.result <;> rfl

theorem pure_bind (a : α) (f : α → Traced ε β) : pure a >>= f = f a := by
  apply ext
  · simp [events_bind]
  · rw [result_bind]
    rfl

theorem bind_assoc {γ : Type} (x : Traced ε α) (f : α → Traced ε β) (g : β → Traced ε γ) :
    x >>= f >>= g = x >>= fun a => f a >>= g := by
  apply ext
  · simp only [events_bind, result_bind]
    cases x.result with
    | error error => rfl
    | ok a => cases h : (f a).result <;> simp [Except.bind, h]
  · simp only [result_bind]
    cases x.result <;> rfl

instance : LawfulMonad (Traced ε) := LawfulMonad.mk' (Traced ε) id_map pure_bind bind_assoc

end Traced

end ArgCheck
