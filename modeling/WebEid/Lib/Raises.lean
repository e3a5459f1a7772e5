import WebEid.Lib.Fallible

/-!
# Which errors a computation can fail with

`Raises C x` bounds the failures of `x` by a class of errors and says nothing
about its answers. The rules below follow the shapes a fallible function is
written in, so that a bound for a function is put together from bounds for the
functions it calls, in the order it calls them.
-/

namespace WebEid.Lib

variable {ε ε' α β : Type} {C D : ε → Prop}

/-- Whatever `x` fails with is in the class. -/
def Raises (C : ε → Prop) (x : Except ε α) : Prop := ∀ e, x = .error e → C e

namespace Raises

theorem ok (a : α) : Raises C (.ok a : Except ε α) := by
  intro e h
  cases h

theorem error {e : ε} (h : C e) : Raises C (.error e : Except ε α) := by
  intro e' he
  cases he
  exact h

theorem mono {x : Except ε α} (h : Raises C x) (hsub : ∀ e, C e → D e) : Raises D x :=
  fun e he => hsub e (h e he)

theorem bind {x : Except ε α} {f : α → Except ε β} (hx : Raises C x)
    (hf : ∀ a, Raises C (f a)) : Raises C (x >>= f) := by
  intro e h
  rcases bind_eq_error h with hfail | ⟨a, -, hfail⟩
  · exact hx e hfail
  · exact hf a e hfail

theorem mapError {x : Except ε' α} {f : ε' → ε} (h : ∀ e, C (f e)) :
    Raises C (x.mapError f) := by
  intro e he
  obtain ⟨e', -, rfl⟩ := mapError_eq_error he
  exact h e'

theorem ite {p : Prop} [Decidable p] {x y : Except ε α} (hx : Raises C x) (hy : Raises C y) :
    Raises C (if p then x else y) := by
  split
  · exact hx
  · exact hy

end Raises

end WebEid.Lib
