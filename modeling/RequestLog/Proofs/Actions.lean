import Mathlib.Data.List.Forall2
import RequestLog.Action

/-!
Actions by their outcome: what comes of an action followed by another one, of an attempt and of an
action on the second part of a state, once the outcome of the action itself is known. Before them
stand the same facts of computations that may fail.
-/
namespace RequestLog

/-- A chain of two computations has a result exactly if both have one. -/
theorem bind_eq_ok {ε α β : Type} {x : Except ε α} {f : α → Except ε β} {b : β} :
    x >>= f = .ok b ↔ ∃ a, x = .ok a ∧ f a = .ok b := by
  cases x <;> simp [bind, Except.bind]

/-- A chain of two computations fails with the first of them that does. -/
theorem bind_eq_error {ε α β : Type} {x : Except ε α} {f : α → Except ε β} {e : ε} :
    x >>= f = .error e ↔ x = .error e ∨ ∃ a, x = .ok a ∧ f a = .error e := by
  cases x <;> simp [bind, Except.bind]

theorem bind_congr_ok {ε α β : Type} {x : Except ε α} {f g : α → Except ε β}
    (h : ∀ a, x = .ok a → f a = g a) : x >>= f = x >>= g := by
  cases x with
  | error e => rfl
  | ok a => exact h a rfl

theorem map_eq_ok {ε α β : Type} {x : Except ε α} {f : α → β} {b : β} :
    x.map f = .ok b ↔ ∃ a, x = .ok a ∧ f a = b := by
  cases x <;> simp [Except.map]

theorem map_eq_error {ε α β : Type} {x : Except ε α} {f : α → β} {e : ε} :
    x.map f = .error e ↔ x = .error e := by
  cases x <;> simp [Except.map]

theorem exists_of_isOk {ε α : Type} {x : Except ε α} (h : x.isOk = true) : ∃ a, x = .ok a := by
  cases x with
  | error e => cases h
  | ok a => exact ⟨a, rfl⟩

theorem mapError_eq_ok {ε δ α : Type} {x : Except ε α} {f : ε → δ} {a : α} :
    x.mapError f = .ok a ↔ x = .ok a := by
  cases x <;> simp [Except.mapError]

theorem mapError_eq_error {ε δ α : Type} {x : Except ε α} {f : ε → δ} {d : δ} :
    x.mapError f = .error d ↔ ∃ e, x = .error e ∧ f e = d := by
  cases x <;> simp [Except.mapError]

/-- A computation for each member of a list has a result exactly if every one of them has. -/
theorem mapM_eq_ok {ε α β : Type} {f : α → Except ε β} {as : List α} {bs : List β} :
    as.mapM f = .ok bs ↔ List.Forall₂ (fun a b => f a = .ok b) as bs := by
  induction as generalizing bs with
  | nil => simp [pure, Except.pure, eq_comm]
  | cons a as ih =>
    simp only [List.mapM_cons, bind_eq_ok, ih, List.forall₂_cons_left_iff]
    constructor
    · rintro ⟨b, hb, bs, hbs, h⟩
      cases h
      exact ⟨b, bs, hb, hbs, rfl⟩
    · rintro ⟨b, bs, hb, hbs, rfl⟩
      exact ⟨b, hb, bs, hbs, rfl⟩

theorem exists_mapM_iff {ε α β : Type} {f : α → Except ε β} {as : List α} :
    (∃ bs, as.mapM f = .ok bs) ↔ ∀ a ∈ as, ∃ b, f a = .ok b := by
  simp only [mapM_eq_ok]
  induction as with
  | nil => simp
  | cons a as ih =>
    rw [List.forall_mem_cons, ← ih]
    simp only [List.forall₂_cons_left_iff]
    constructor
    · rintro ⟨_, b, bs, hb, hbs, -⟩
      exact ⟨⟨b, hb⟩, bs, hbs⟩
    · rintro ⟨⟨b, hb⟩, bs, hbs⟩
      exact ⟨_, b, bs, hb, hbs, rfl⟩

namespace Action

variable {σ τ α β : Type} {act : Action σ α} {next : α → Action σ β} {s t : σ}

theorem andThen_of_ok {a : α} (h : act s = (.ok a, t)) : act.andThen next s = next a t := by
  simp only [andThen, h]

theorem andThen_of_error {f : Fault} (h : act s = (.error f, t)) :
    act.andThen next s = (.error f, t) := by
  simp only [andThen, h]

theorem andThen_of_fst {a : α} (h : (act s).1 = .ok a) :
    act.andThen next s = next a (act s).2 :=
  andThen_of_ok (Prod.ext h rfl)

@[simp] theorem done_apply (a : α) (s : σ) : (done a : Action σ α) s = (.ok a, s) := rfl

@[simp] theorem fail_apply (f : Fault) (s : σ) : (fail f : Action σ α) s = (.error f, s) := rfl

@[simp] theorem look_apply (f : σ → α) (s : σ) : look f s = (.ok (f s), s) := rfl

@[simp] theorem change_apply (f : σ → σ) (s : σ) : change f s = (.ok (), f s) := rfl

@[simp] theorem attempt_apply (act : Action σ α) (s : σ) :
    act.attempt s = (.ok (act s).1, (act s).2) := rfl

@[simp] theorem ofExcept_apply (r : Except Fault α) (s : σ) :
    (ofExcept r : Action σ α) s = (r, s) := by
  cases r <;> rfl

@[simp] theorem onHost_apply (act : Action σ α) (w : τ × σ) :
    onHost act w = ((act w.2).1, (w.1, (act w.2).2)) := rfl

theorem attempt_andThen {next : Except Fault α → Action σ β} (act : Action σ α) (s : σ) :
    act.attempt.andThen next s = next (act s).1 (act s).2 := rfl

theorem andThen_done (f : α → β) (act : Action σ α) (s : σ) :
    act.andThen (fun a => done (f a)) s = ((act s).1.map f, (act s).2) := by
  rcases hs : act s with ⟨_ | a, t⟩
  · exact andThen_of_error hs
  · exact andThen_of_ok hs

/-- A chain of two actions has a result only if both have one. -/
theorem andThen_ok_cases {b : β} (h : act.andThen next s = (.ok b, t)) :
    ∃ a u, act s = (.ok a, u) ∧ next a u = (.ok b, t) := by
  rcases hs : act s with ⟨g | a, u⟩
  · rw [andThen_of_error hs] at h
    cases h
  · rw [andThen_of_ok hs] at h
    exact ⟨a, u, rfl, h⟩

/-- A chain of two actions fails where one of them does. -/
theorem andThen_error_cases {f : Fault} (h : act.andThen next s = (.error f, t)) :
    act s = (.error f, t) ∨ ∃ a u, act s = (.ok a, u) ∧ next a u = (.error f, t) := by
  rcases hs : act s with ⟨g | a, u⟩
  · rw [andThen_of_error hs] at h
    cases h
    exact .inl rfl
  · rw [andThen_of_ok hs] at h
    exact .inr ⟨a, u, rfl, h⟩

/-- In a state, an action beside which things are written down does what an action does, and writes
down these. -/
def Records {ι : Type} (recorded : Action (List ι × σ) α) (act : Action σ α) (s : σ)
    (more : List ι) :
    Prop :=
  ∀ earlier, recorded (earlier, s) = ((act s).1, (earlier ++ more, (act s).2))

namespace Records

variable {ι : Type} {recorded : Action (List ι × σ) α} {recordedNext : α → Action (List ι × σ) β}
  {more later : List ι}

/-- An action that does nothing to be written down. -/
theorem silent (h : ∀ earlier, recorded (earlier, s) = ((act s).1, (earlier, (act s).2))) :
    Records recorded act s [] := by
  intro earlier
  rw [h, List.append_nil]

theorem done (a : α) : Records (Action.done a) (Action.done a) s ([] : List ι) :=
  silent fun _ => rfl

theorem ofExcept (r : Except Fault α) :
    Records (Action.ofExcept r) (Action.ofExcept r) s ([] : List ι) := by
  cases r with
  | ok a => exact done a
  | error f => exact silent fun _ => rfl

theorem attempt (h : Records recorded act s more) :
    Records recorded.attempt act.attempt s more := by
  intro earlier
  simp only [attempt_apply, h earlier]

theorem andThen_of_error {f : Fault} (h : Records recorded act s more)
    (hs : act s = (.error f, t)) :
    Records (recorded.andThen recordedNext) (act.andThen next) s more := by
  intro earlier
  have hr : recorded (earlier, s) = (.error f, (earlier ++ more, t)) := by rw [h earlier, hs]
  rw [Action.andThen_of_error hr, Action.andThen_of_error hs]

theorem andThen {a : α} (h : Records recorded act s more) (hs : act s = (.ok a, t))
    (hn : Records (recordedNext a) (next a) t later) :
    Records (recorded.andThen recordedNext) (act.andThen next) s (more ++ later) := by
  intro earlier
  have hr : recorded (earlier, s) = (.ok a, (earlier ++ more, t)) := by rw [h earlier, hs]
  rw [Action.andThen_of_ok hr, Action.andThen_of_ok hs, hn, List.append_assoc]

theorem andThen_done (f : α → β) (h : Records recorded act s more) :
    Records (recorded.andThen fun a => Action.done (f a))
      (act.andThen fun a => Action.done (f a)) s more := by
  intro earlier
  rw [Action.andThen_done, Action.andThen_done, h earlier]

end Records

end Action

end RequestLog
