import WebEid.Lib.Call
import WebEid.Lib.Fallible

/-!
# Calls that load the same cell twice

A call that loads a cell, checks what it found, loads the cell again and checks
what it finds then behaves like one that loaded once only as long as nobody
stores in between, or the second check does not care. `reread` is the shape of
such a call and `reread_outcome_iff` the exact statement: along a schedule that
runs it to the end, its outcome is the one it has against the first value alone
just when the second check says of the second value what it says of the first.

For that to be exact the last part of the call must not fail with an error the
second check also fails with, or two different failures could look the same.
-/

namespace WebEid.Lib.Call

variable {σ ε α β ρ : Type}

theorem loads_lift (put : σ → ρ → σ) (evs : List (Event ρ)) (s : σ) (x : Except ε α) :
    loads put evs s (lift x) = [] := by
  induction evs generalizing s with
  | nil => rw [loads]
  | cons ev evs ih =>
      cases ev with
      | store r => rw [loads]; exact ih (put s r)
      | step => cases x <;> (rw [lift, loads]; exact ih s; intro k hk; cases hk)

/-- A call about to load has loaded nothing yet, or a value and then what the
call it became loads. -/
theorem loads_load (put : σ → ρ → σ) (k : σ → Call σ ε α) (evs : List (Event ρ)) (s : σ) :
    loads put evs s (load k) = [] ∨
      ∃ evs' a, loads put evs s (load k) = a :: loads put evs' a (k a) := by
  induction evs generalizing s with
  | nil => exact Or.inl (by rw [loads])
  | cons ev evs ih =>
      cases ev with
      | store r => rw [loads]; exact ih (put s r)
      | step => exact Or.inr ⟨evs, s, by rw [loads]⟩

theorem lift_bind_lift (x : Except ε α) (f : α → Except ε β) :
    ((lift x : Call σ ε α).bind fun a => lift (f a)) = lift (x >>= f) := by
  cases x <;> rfl

theorem lift_inj {x y : Except ε α} (h : (lift x : Call σ ε α) = lift y) : x = y := by
  cases x <;> cases y <;> cases h <;> rfl

/-- Two loads with a check after each, between a part that loads nothing and
another. -/
def reread (pre : Except ε α) (first second : σ → α → Except ε Unit)
    (rest : α → Except ε β) : Call σ ε β :=
  (lift pre).bind fun a =>
    load fun s => (lift (first s a)).bind fun _ =>
      load fun s' => (lift (second s' a)).bind fun _ => lift (rest a)

section

variable {pre : Except ε α} {first second : σ → α → Except ε Unit} {rest : α → Except ε β}

theorem alone_reread (s : σ) :
    (reread pre first second rest).alone s =
      (pre >>= fun a => first s a >>= fun _ => second s a >>= fun _ => rest a) := by
  unfold reread
  rw [alone_bind, alone_lift]
  congr 1
  funext a
  rw [alone, alone_bind, alone_lift]
  congr 1
  funext _
  rw [alone, alone_bind, alone_lift]
  congr 1
  funext _
  rw [alone_lift]

/-- The three ways such a call ends, and what it has loaded by then. -/
theorem reread_run {put : σ → ρ → σ} {evs : List (Event ρ)} {s : σ} {r : Except ε β}
    (hrun : (run put evs s (reread pre first second rest)).2 = lift r) :
    (loads put evs s (reread pre first second rest) = [] ∧
        ∃ e, pre = .error e ∧ r = .error e) ∨
      (∃ a t e, pre = .ok a ∧ first t a = .error e ∧ r = .error e ∧
        loads put evs s (reread pre first second rest) = [t]) ∨
      ∃ a t t', pre = .ok a ∧ first t a = .ok () ∧ r = (second t' a >>= fun _ => rest a) ∧
        loads put evs s (reread pre first second rest) = [t, t'] := by
  rw [run_call] at hrun
  cases hpre : pre with
  | error e =>
      have hc : reread (.error e) first second rest =
          (lift (.error e) : Call σ ε β) := rfl
      rw [hpre, hc, loads_lift, feed_nil] at hrun
      rw [hc, loads_lift]
      exact Or.inl ⟨rfl, e, rfl, (lift_inj hrun).symm⟩
  | ok a =>
      -- the call is a load, so the first value is there once it has ended
      have hc : reread (.ok a) first second rest = load fun t =>
          (lift (first t a)).bind fun _ =>
            load fun t' => (lift (second t' a)).bind fun _ => lift (rest a) := rfl
      rw [hpre, hc] at hrun
      rw [hc]
      rcases loads_load put (fun t => (lift (first t a)).bind fun _ =>
          load fun t' => (lift (second t' a)).bind fun _ => lift (rest a)) evs s with
        hnil | ⟨evs', t, hloads⟩
      · rw [hnil, feed_nil] at hrun
        cases r <;> cases hrun
      · rw [hloads, feed_load] at hrun
        rw [hloads]
        cases hfirst : first t a with
        | error e =>
            rw [hfirst, lift_error, error_bind, ← lift_error, loads_lift, feed_nil] at hrun
            rw [lift_error, error_bind, ← lift_error, loads_lift]
            exact Or.inr (Or.inl ⟨a, t, e, rfl, hfirst, (lift_inj hrun).symm, rfl⟩)
        | ok u =>
            rw [hfirst, lift_ok, ok_bind] at hrun
            rw [lift_ok, ok_bind]
            rcases loads_load put (fun t' =>
                (lift (second t' a)).bind fun _ => lift (rest a)) evs' t with
              hnil | ⟨evs'', t', hloads'⟩
            · rw [hnil, feed_nil] at hrun
              cases r <;> cases hrun
            · rw [hloads', feed_load, lift_bind_lift, loads_lift, feed_nil] at hrun
              rw [hloads', lift_bind_lift, loads_lift]
              exact Or.inr (Or.inr ⟨a, t, t', rfl, hfirst, (lift_inj hrun).symm, rfl⟩)

/-- The outcome is that of the first value alone exactly when the second check
says the same of both. -/
theorem reread_outcome_iff {put : σ → ρ → σ} {evs : List (Event ρ)} {s : σ}
    {r : Except ε β} (hdisj : ∀ a t e, pre = .ok a → second t a = .error e →
      rest a ≠ .error e)
    (hrun : (run put evs s (reread pre first second rest)).2 = lift r) :
    (∀ t, (loads put evs s (reread pre first second rest)).head? = some t →
        (reread pre first second rest).alone t = r) ↔
      ∀ a t t', pre = .ok a →
        loads put evs s (reread pre first second rest) = [t, t'] →
        second t a = second t' a := by
  rcases reread_run hrun with ⟨hloads, e, hpre, rfl⟩ | ⟨a, t, e, hpre, hfirst, rfl, hloads⟩ |
    ⟨a, t, t', hpre, hfirst, rfl, hloads⟩
  · rw [hloads]
    constructor
    · intro _ a t t' _ h
      cases h
    · intro _ t h
      cases h
  · rw [hloads]
    constructor
    · intro _ a t t' _ h
      cases h
    · intro _ t₀ h
      cases h
      rw [alone_reread, hpre, bind_ok, hfirst, bind_error]
  · rw [hloads]
    have halone : (reread pre first second rest).alone t =
        (second t a >>= fun _ => rest a) := by
      rw [alone_reread, hpre, bind_ok, hfirst, bind_ok]
    -- a failure of the second check is never a failure of the rest
    have hcancel : (second t a >>= fun _ => rest a) = (second t' a >>= fun _ => rest a) ↔
        second t a = second t' a :=
      bind_eq_bind_iff (fun e => hdisj a t e hpre) (fun e => hdisj a t' e hpre)
    constructor
    · intro h a₀ t₀ t₀' ha₀ ht₀
      rw [hpre] at ha₀
      cases ha₀
      cases ht₀
      rw [← hcancel, ← halone]
      exact h t rfl
    · intro h t₀ ht₀
      cases ht₀
      rw [halone, h a t t' hpre rfl]

end

end WebEid.Lib.Call
