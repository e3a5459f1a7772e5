import Mathlib.Tactic.Common

/-!
# Peeling fallible computations apart

Go's `if err != nil { return err }` is a bind of `Except`. A sequence that
came out well came out well at every step; these lemmas hand the steps back
one at a time, so a proof about a long function never unfolds the monad.
-/

namespace WebEid.Lib

variable {ε ε' α β : Type}

@[simp] theorem bind_ok (a : α) (f : α → Except ε β) :
    ((Except.ok a : Except ε α) >>= f) = f a := rfl

@[simp] theorem bind_error (e : ε) (f : α → Except ε β) :
    ((Except.error e : Except ε α) >>= f) = .error e := rfl

/-- A sequence answers exactly when each step answers in turn. -/
theorem bind_eq_ok_iff {x : Except ε α} {f : α → Except ε β} {b : β} :
    (x >>= f) = .ok b ↔ ∃ a, x = .ok a ∧ f a = .ok b := by
  cases x with
  | error e => simp
  | ok a => simp

/-- A sequence that answered answered at its first step. -/
theorem bind_eq_ok {x : Except ε α} {f : α → Except ε β} {b : β}
    (h : (x >>= f) = .ok b) : ∃ a, x = .ok a ∧ f a = .ok b :=
  bind_eq_ok_iff.mp h

/-- Wrapping the error changes no answer. -/
theorem mapError_eq_ok_iff {x : Except ε α} {f : ε → ε'} {a : α} :
    x.mapError f = .ok a ↔ x = .ok a := by
  cases x with
  | error e => simp [Except.mapError]
  | ok b => simp [Except.mapError]

theorem mapError_eq_ok {x : Except ε α} {f : ε → ε'} {a : α}
    (h : x.mapError f = .ok a) : x = .ok a :=
  mapError_eq_ok_iff.mp h

/-- A sequence that failed failed at its first step or after it. -/
theorem bind_eq_error {x : Except ε α} {f : α → Except ε β} {e : ε}
    (h : (x >>= f) = .error e) : x = .error e ∨ ∃ a, x = .ok a ∧ f a = .error e := by
  cases x with
  | error e' => rw [bind_error] at h; cases h; exact Or.inl rfl
  | ok a => exact Or.inr ⟨a, rfl, h⟩

/-- Two checks before one continuation, where neither fails as it does. -/
theorem bind_eq_bind_iff {x y : Except ε Unit} {z : Except ε β}
    (hx : ∀ e, x = .error e → z ≠ .error e) (hy : ∀ e, y = .error e → z ≠ .error e) :
    (x >>= fun _ => z) = (y >>= fun _ => z) ↔ x = y := by
  refine ⟨?_, fun h => by rw [h]⟩
  intro h
  cases x with
  | ok u =>
      cases y with
      | ok u' => rfl
      | error e => exact absurd h (hy e rfl)
  | error e =>
      cases y with
      | ok u' => exact absurd h.symm (hx e rfl)
      | error e' => exact congrArg Except.error (Except.error.inj h)

theorem mapError_eq_error {x : Except ε α} {f : ε → ε'} {e : ε'}
    (h : x.mapError f = .error e) : ∃ e', x = .error e' ∧ e = f e' := by
  cases x with
  | error e' => exact ⟨e', rfl, (Except.error.inj h).symm⟩
  | ok a => cases h

theorem map_eq_ok {x : Except ε α} {f : α → β} {b : β} (h : x.map f = .ok b) :
    ∃ a, x = .ok a ∧ f a = b := by
  cases x with
  | error e => cases h
  | ok a => exact ⟨a, rfl, Except.ok.inj h⟩

theorem map_eq_error {x : Except ε α} {f : α → β} {e : ε} (h : x.map f = .error e) :
    x = .error e := by
  cases x with
  | error e' => exact congrArg Except.error (Except.error.inj h)
  | ok a => cases h

theorem toOption_eq_some_iff {x : Except ε α} {a : α} : x.toOption = some a ↔ x = .ok a := by
  cases x with
  | error e => simp [Except.toOption]
  | ok b => simp [Except.toOption]

theorem toOption_eq_none_iff {x : Except ε α} : x.toOption = none ↔ ¬ ∃ a, x = .ok a := by
  cases x with
  | error e => simp [Except.toOption]
  | ok a => simp [Except.toOption]

/-! ## Loops -/

/-- What one round keeps, a loop that came out well kept. -/
theorem foldlM_invariant {σ : Type} {f : σ → α → Except ε σ} {I : σ → Prop}
    (hstep : ∀ s a s', I s → f s a = .ok s' → I s') (l : List α) {s s' : σ} (hs : I s)
    (h : l.foldlM f s = .ok s') : I s' := by
  induction l generalizing s with
  | nil =>
      cases h
      exact hs
  | cons a l ih =>
      rw [List.foldlM_cons] at h
      obtain ⟨s₁, h₁, h⟩ := bind_eq_ok h
      exact ih (hstep s a s₁ hs h₁) h

theorem mapM_ok_of_mem {f : α → Except ε β} {l : List α} {bs : List β}
    (h : l.mapM f = .ok bs) {a : α} (ha : a ∈ l) : ∃ b, f a = .ok b := by
  induction l generalizing bs with
  | nil => cases ha
  | cons x l ih =>
      rw [List.mapM_cons] at h
      obtain ⟨b, hb, h⟩ := bind_eq_ok h
      obtain ⟨bs', hbs, -⟩ := bind_eq_ok h
      rcases List.mem_cons.mp ha with rfl | hmem
      · exact ⟨b, hb⟩
      · exact ih hbs hmem

/-- A list of computations fails with an error of one of them. -/
theorem mapM_eq_error {f : α → Except ε β} {l : List α} {e : ε} (h : l.mapM f = .error e) :
    ∃ a ∈ l, f a = .error e := by
  induction l with
  | nil => cases h
  | cons a l ih =>
      rw [List.mapM_cons] at h
      rcases bind_eq_error h with hfail | ⟨b, -, h⟩
      · exact ⟨a, List.mem_cons_self, hfail⟩
      · rcases bind_eq_error h with hfail | ⟨bs, -, h⟩
        · obtain ⟨a', ha', hfail⟩ := ih hfail
          exact ⟨a', List.mem_cons_of_mem a ha', hfail⟩
        · cases h

theorem mem_mapM_iff {f : α → Except ε β} {l : List α} {bs : List β} (h : l.mapM f = .ok bs)
    {b : β} : b ∈ bs ↔ ∃ a ∈ l, f a = .ok b := by
  induction l generalizing bs with
  | nil =>
      cases h
      simp
  | cons a l ih =>
      rw [List.mapM_cons] at h
      obtain ⟨b', hb', h⟩ := bind_eq_ok h
      obtain ⟨bs', hbs', h⟩ := bind_eq_ok h
      cases h
      simp only [List.mem_cons, exists_eq_or_imp, ih hbs', hb', Except.ok.injEq]
      rw [eq_comm]

theorem exists_mapM_iff {f : α → Except ε β} {l : List α} :
    (∃ bs, l.mapM f = .ok bs) ↔ ∀ a ∈ l, ∃ b, f a = .ok b := by
  refine ⟨fun h a ha => h.elim fun bs hbs => mapM_ok_of_mem hbs ha, ?_⟩
  intro h
  induction l with
  | nil => exact ⟨[], rfl⟩
  | cons a l ih =>
      obtain ⟨b, hb⟩ := h a List.mem_cons_self
      obtain ⟨bs, hbs⟩ := ih fun x hx => h x (List.mem_cons_of_mem a hx)
      rw [List.mapM_cons, hb, hbs]
      exact ⟨b :: bs, rfl⟩

/-! ## Encodings -/

/-- The value survives being written and read. -/
def Encodes (marshal : α → Except ε β) (unmarshal : β → Except ε α) (a : α) : Prop :=
  ∃ b, marshal a = .ok b ∧ unmarshal b = .ok a

theorem Encodes.read {marshal : α → Except ε β} {unmarshal : β → Except ε α} {a : α}
    (h : Encodes marshal unmarshal a) {b : β} (hb : marshal a = .ok b) : unmarshal b = .ok a := by
  obtain ⟨b', hb', hread⟩ := h
  rw [hb] at hb'
  cases hb'
  exact hread

end WebEid.Lib
