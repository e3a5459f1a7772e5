import Mathlib.Tactic.Common

/-!
# Calls that load a shared cell while others store into it

A goroutine that reads an atomic pointer several times is, to the writers
around it, a sequence of loads: between two of them the cell may have been
swapped any number of times. `Call` is such a goroutine with everything but
its loads abstracted away. It has answered, it has failed, or it is about to
load and continues with whatever it finds.

Two readings of a call matter. `alone` runs it against a cell that never
changes. `run` interleaves it with stores along a schedule, one atomic step
at a time, and `loads` is the list of values it met on the way. The bridge
is `run_call`: whatever the schedule was, the call has become what those
values make of it (`feed`), so every statement about interleavings is a
statement about lists of loaded values.
-/

namespace WebEid.Lib

/-- A call that loads a cell of type `σ`, fails with `ε` or answers `α`. -/
inductive Call (σ ε α : Type) where
  | ok (a : α)
  | error (e : ε)
  | load (k : σ → Call σ ε α)

namespace Call

variable {σ ε α β ρ : Type}

/-- Sequencing: a failure skips the rest. -/
def bind : Call σ ε α → (α → Call σ ε β) → Call σ ε β
  | ok a, f => f a
  | error e, _ => error e
  | load k, f => load fun s => (k s).bind f

instance : Monad (Call σ ε) where
  pure := ok
  bind := bind

/-- A computation that touches no cell. -/
def lift : Except ε α → Call σ ε α
  | .ok a => ok a
  | .error e => error e

instance : MonadLift (Except ε) (Call σ ε) := ⟨lift⟩

instance : MonadExceptOf ε (Call σ ε) where
  throw := error
  tryCatch := fun c _ => c

/-- One atomic load. -/
def read : Call σ ε σ := load ok

@[simp] theorem bind_def (c : Call σ ε α) (f : α → Call σ ε β) :
    (c >>= f) = c.bind f := rfl

@[simp] theorem pure_def (a : α) : (pure a : Call σ ε α) = ok a := rfl

@[simp] theorem throw_def (e : ε) : (throw e : Call σ ε α) = error e := rfl

@[simp] theorem monadLift_def (x : Except ε α) :
    (MonadLift.monadLift x : Call σ ε α) = lift x := rfl

@[simp] theorem ok_bind (a : α) (f : α → Call σ ε β) :
    (ok a : Call σ ε α).bind f = f a := rfl

@[simp] theorem error_bind (e : ε) (f : α → Call σ ε β) :
    (error e : Call σ ε α).bind f = error e := rfl

@[simp] theorem load_bind (k : σ → Call σ ε α) (f : α → Call σ ε β) :
    (load k).bind f = load fun s => (k s).bind f := rfl

@[simp] theorem lift_ok (a : α) : (lift (.ok a) : Call σ ε α) = ok a := rfl

@[simp] theorem lift_error (e : ε) :
    (lift (.error e) : Call σ ε α) = error e := rfl

theorem bind_assoc {γ : Type} (c : Call σ ε α) (f : α → Call σ ε β) (g : β → Call σ ε γ) :
    (c.bind f).bind g = c.bind fun a => (f a).bind g := by
  induction c with
  | ok a => rfl
  | error e => rfl
  | load k ih =>
      rw [load_bind, load_bind, load_bind]
      congr 1
      funext s
      exact ih s

/-- The call against a cell that holds `s` throughout. -/
def alone (s : σ) : Call σ ε α → Except ε α
  | ok a => .ok a
  | error e => .error e
  | load k => (k s).alone s

/-- The call to its end, when its `n`-th load finds `f n`. -/
def under (f : Nat → σ) : Call σ ε α → Except ε α
  | ok a => .ok a
  | error e => .error e
  | load k => (k (f 0)).under fun n => f (n + 1)

/-- What a call has become once its loads found these values. -/
def feed : Call σ ε α → List σ → Call σ ε α
  | load k, s :: ss => (k s).feed ss
  | c, _ => c

@[simp] theorem feed_nil (c : Call σ ε α) : c.feed [] = c := by
  cases c <;> rfl

@[simp] theorem feed_ok (a : α) (ss : List σ) :
    (ok a : Call σ ε α).feed ss = ok a := by cases ss <;> rfl

@[simp] theorem feed_error (e : ε) (ss : List σ) :
    (error e : Call σ ε α).feed ss = error e := by cases ss <;> rfl

@[simp] theorem feed_load (k : σ → Call σ ε α) (s : σ) (ss : List σ) :
    (load k).feed (s :: ss) = (k s).feed ss := rfl

/-- A sequence that ran to an answer ran both of its halves to one. -/
theorem under_bind_ok {c : Call σ ε α} {f : α → Call σ ε β} {b : β} :
    ∀ {t : Nat → σ}, (c.bind f).under t = .ok b →
      ∃ a t', c.under t = .ok a ∧ (f a).under t' = .ok b := by
  induction c with
  | ok a => intro t h; exact ⟨a, t, rfl, h⟩
  | error e => intro t h; cases h
  | load k ih =>
      intro t h
      obtain ⟨a, t', hc, hf⟩ := ih (t 0) h
      exact ⟨a, t', hc, hf⟩

@[simp] theorem under_lift (x : Except ε α) (t : Nat → σ) :
    (lift x : Call σ ε α).under t = x := by
  cases x <;> rfl

/-- A step that loads nothing leaves the loads to what follows. -/
theorem under_lift_bind (x : Except ε α) (f : α → Call σ ε β) (t : Nat → σ) :
    ((lift x).bind f).under t = (x >>= fun a => (f a).under t) := by
  cases x <;> rfl

/-- A last step that loads nothing is applied to the answer. -/
theorem under_bind_lift (c : Call σ ε α) (g : α → Except ε β) :
    ∀ t : Nat → σ, (c.bind fun a => lift (g a)).under t = (c.under t >>= g) := by
  induction c with
  | ok a => exact fun t => under_lift (g a) t
  | error e => exact fun _ => rfl
  | load k ih => exact fun t => ih (t 0) fun n => t (n + 1)

/-- What is made of the answer afterwards is made of it under any loads. -/
theorem under_bind_pure (c : Call σ ε α) (f : α → β) :
    ∀ t : Nat → σ, (c.bind fun a => ok (f a)).under t = (c.under t).map f := by
  induction c with
  | ok a => exact fun _ => rfl
  | error e => exact fun _ => rfl
  | load k ih => exact fun t => ih (t 0) fun n => t (n + 1)

/-- Against a cell that never changes, sequencing is that of `Except`. -/
theorem alone_bind (s : σ) (c : Call σ ε α) (f : α → Call σ ε β) :
    (c.bind f).alone s = (c.alone s >>= fun a => (f a).alone s) := by
  induction c with
  | ok a => rfl
  | error e => rfl
  | load k ih => exact ih s

@[simp] theorem alone_lift (s : σ) (x : Except ε α) :
    (lift x : Call σ ε α).alone s = x := by
  cases x <;> rfl

/-! ## Interleavings -/

/-- One atomic step of the whole system: the call's next load, or a store by
someone else. -/
inductive Event (ρ : Type) where
  | step
  | store (r : ρ)

/-- The cell and the call after a schedule. A store applies `put`; a step of
a call that has already answered or failed does nothing. -/
def run (put : σ → ρ → σ) : List (Event ρ) → σ → Call σ ε α → σ × Call σ ε α
  | [], s, c => (s, c)
  | .store r :: evs, s, c => run put evs (put s r) c
  | .step :: evs, s, load k => run put evs s (k s)
  | .step :: evs, s, c => run put evs s c

/-- The values the call's loads found along a schedule. -/
def loads (put : σ → ρ → σ) : List (Event ρ) → σ → Call σ ε α → List σ
  | [], _, _ => []
  | .store r :: evs, s, c => loads put evs (put s r) c
  | .step :: evs, s, load k => s :: loads put evs s (k s)
  | .step :: evs, s, c => loads put evs s c

/-- After any schedule the call is what its loaded values make of it. -/
theorem run_call (put : σ → ρ → σ) :
    ∀ (evs : List (Event ρ)) (s : σ) (c : Call σ ε α),
      (run put evs s c).2 = c.feed (loads put evs s c) := by
  intro evs
  induction evs with
  | nil => intro s c; rw [run, loads, feed_nil]
  | cons ev evs ih =>
      intro s c
      cases ev with
      | store r => rw [run, loads]; exact ih (put s r) c
      | step =>
          cases c with
          | ok a => rw [run, loads, ih] <;> simp
          | error e => rw [run, loads, ih] <;> simp
          | load k => rw [run, loads, feed_load]; exact ih s (k s)

end Call

end WebEid.Lib
