import Mathlib.Logic.Function.Basic
import Mathlib.Tactic.Common

/-!
# Tables whose entries go stale

A table with a lifetime on its entries may be cleaned at any moment: on every
write, by a timer, when a key is next looked at, or never. Nobody who only uses
entries that are still fresh can tell the difference, and `Agree` is that
relation between two tables. It survives everything such a table undergoes:
a write of one key on both sides (`Agree.update`), the passing of time
(`Agree.mono`), and the cleaning of one side, of many entries (`Agree.prune`)
or of one (`Agree.drop`).
-/

namespace WebEid.Lib

abbrev Table (K V : Type) := K → Option V

namespace Table

variable {K V : Type} {fresh : V → Bool} {m m₁ m₂ m₃ : Table K V}

/-- The tables hold the same fresh entries. -/
def Agree (fresh : V → Bool) (m₁ m₂ : Table K V) : Prop :=
  ∀ k, (m₁ k).filter fresh = (m₂ k).filter fresh

/-- A coarser filter before a finer one changes nothing. -/
theorem filter_filter_of_le {keep : V → Bool} (hle : ∀ v, fresh v = true → keep v = true)
    (o : Option V) : (o.filter keep).filter fresh = o.filter fresh := by
  cases o with
  | none => rfl
  | some v =>
      cases hkeep : keep v with
      | true => rw [Option.filter_some_pos hkeep]
      | false =>
          have hfresh : fresh v = false := by
            rw [← Bool.not_eq_true]
            intro h
            rw [hle v h] at hkeep
            cases hkeep
          rw [Option.filter_some_neg hkeep, Option.filter_some_neg hfresh]
          rfl

theorem Agree.trans (h₁₂ : Agree fresh m₁ m₂) (h₂₃ : Agree fresh m₂ m₃) :
    Agree fresh m₁ m₃ := fun k => (h₁₂ k).trans (h₂₃ k)

/-- Fewer entries are fresh later. -/
theorem Agree.mono {later : V → Bool} (hle : ∀ v, later v = true → fresh v = true)
    (h : Agree fresh m₁ m₂) : Agree later m₁ m₂ := by
  intro k
  rw [← filter_filter_of_le hle (m₁ k), h k, filter_filter_of_le hle]

theorem Agree.update [DecidableEq K] (h : Agree fresh m₁ m₂) (k : K) (o : Option V) :
    Agree fresh (Function.update m₁ k o) (Function.update m₂ k o) := by
  intro k'
  by_cases hk : k' = k
  · subst hk
    rw [Function.update_self, Function.update_self]
  · rw [Function.update_of_ne hk, Function.update_of_ne hk]
    exact h k'

theorem Agree.prune {keep : V → Bool} (hle : ∀ v, fresh v = true → keep v = true)
    (m : Table K V) : Agree fresh m fun k => (m k).filter keep :=
  fun k => (filter_filter_of_le hle (m k)).symm

theorem Agree.drop [DecidableEq K] {k : K} (hstale : (m k).filter fresh = none) :
    Agree fresh m (Function.update m k none) := by
  intro k'
  by_cases hk : k' = k
  · subst hk
    rw [Function.update_self, hstale]
    rfl
  · rw [Function.update_of_ne hk]

end Table

end WebEid.Lib
