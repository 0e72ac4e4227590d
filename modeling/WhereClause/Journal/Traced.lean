import WhereClause.Failure
import WhereClause.Journal.Event

/-! # Traced computations

A traced computation gives a result or a failure, and in both cases the events up to there.
-/

namespace WhereClause

structure Traced (α : Type) where
  events : List Event
  result : Except Failure α

namespace Traced

variable {α β : Type}

def ofResult (result : Except Failure α) : Traced α := ⟨[], result⟩

def note (e : Event) : Traced Unit := ⟨[e], .ok ()⟩

def noteAll (events : List Event) : Traced Unit := ⟨events, .ok ()⟩

def reject (cause : Rejection) : Traced α := ⟨[], .error (.rejected cause)⟩

/-- Goes on with the value, if there is one. -/
def andThen (x : Traced α) (f : α → Traced β) : Traced β :=
  match x.result with
  | .ok a => ⟨x.events ++ (f a).events, (f a).result⟩
  | .error e => ⟨x.events, .error e⟩

instance : Monad Traced where
  pure a := ⟨[], .ok a⟩
  bind := andThen

theorem bind_def (x : Traced α) (f : α → Traced β) : x >>= f = x.andThen f := rfl

/-! ## Results -/

@[simp] theorem result_pure (a : α) : (pure a : Traced α).result = .ok a := rfl

@[simp] theorem result_ofResult (r : Except Failure α) : (ofResult r).result = r := rfl

@[simp] theorem result_note (e : Event) : (note e).result = .ok () := rfl

@[simp] theorem result_noteAll (events : List Event) : (noteAll events).result = .ok () := rfl

@[simp] theorem result_reject (cause : Rejection) :
    (reject cause : Traced α).result = .error (.rejected cause) := rfl

@[simp] theorem result_bind (x : Traced α) (f : α → Traced β) :
    (x >>= f).result = x.result.bind fun a => (f a).result := by
  rw [bind_def, andThen]
  cases x.result <;> rfl

/-! ## Events -/

@[simp] theorem events_pure (a : α) : (pure a : Traced α).events = [] := rfl

@[simp] theorem events_ofResult (r : Except Failure α) : (ofResult r).events = [] := rfl

@[simp] theorem events_note (e : Event) : (note e).events = [e] := rfl

@[simp] theorem events_noteAll (events : List Event) : (noteAll events).events = events := rfl

@[simp] theorem events_reject (cause : Rejection) : (reject cause : Traced α).events = [] := rfl

theorem events_note_bind (e : Event) (f : Unit → Traced α) :
    (note e >>= f).events = e :: (f ()).events := rfl

theorem bind_eq_ok {x : Traced α} {f : α → Traced β} {b : β} (h : (x >>= f).result = .ok b) :
    ∃ a, x.result = .ok a ∧ (f a).result = .ok b ∧ (x >>= f).events = x.events ++ (f a).events := by
  rw [bind_def, andThen] at h ⊢
  cases hx : x.result with
  | error e => rw [hx] at h; cases h
  | ok a => rw [hx] at h; exact ⟨a, rfl, h, rfl⟩

theorem events_bind_of_silent (x : Traced α) {f : α → Traced β} (h : ∀ a, (f a).events = []) :
    (x >>= f).events = x.events := by
  rw [bind_def, andThen]
  cases x.result with
  | error e => rfl
  | ok a => simp [h a]

theorem forall_events_bind {p : Event → Prop} {x : Traced α} {f : α → Traced β}
    (hx : ∀ e ∈ x.events, p e) (hf : ∀ a, ∀ e ∈ (f a).events, p e) : ∀ e ∈ (x >>= f).events, p e := by
  rw [bind_def, andThen]
  cases x.result with
  | error e => exact hx
  | ok a =>
    intro e he
    rcases List.mem_append.mp he with he | he
    · exact hx e he
    · exact hf a e he

end Traced

end WhereClause
