import Mathlib.Tactic.Common

/-!
# State machines with assumptions on the environment

`step` is what the system does and is total; `allowed` is what is assumed of
whoever picks the next action. Keeping the two apart keeps the assumptions of
a result in one readable place, and leaves `step` a function that can be run.
-/

namespace WebEid.Lib

structure Machine (σ α : Type) where
  init : σ → Prop
  allowed : σ → α → Prop
  step : α → σ → σ

namespace Machine

variable {σ α : Type} {M : Machine σ α}

/-- The states of the runs that keep to the assumptions. -/
inductive Reach (M : Machine σ α) : σ → Prop
  | init {s : σ} (h : M.init s) : Reach M s
  | step {s : σ} {a : α} (hs : Reach M s) (ha : M.allowed s a) : Reach M (M.step a s)

/-- What holds at the start and survives every allowed step holds always. -/
theorem Reach.invariant {I : σ → Prop} (hinit : ∀ s, M.init s → I s)
    (hstep : ∀ s a, I s → M.allowed s a → I (M.step a s)) {s : σ} (hs : M.Reach s) :
    I s := by
  induction hs with
  | init h => exact hinit _ h
  | step _ ha ih => exact hstep _ _ ih ha

end Machine

end WebEid.Lib
