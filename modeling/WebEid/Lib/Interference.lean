import Mathlib.Data.List.Basic

/-!
# What one party sees of a component it shares

A component answers requests one after the other and moves its state with
each. Several parties send requests; `answersOf mine` are the answers that go
to one of them along a run of all, and `answers` are the answers of a run. A
party is isolated from the others when it gets the same answers, up to what
it can tell apart (`view`), in the run in which the others never called.

The rule is the unwinding of that statement into two obligations on single
steps, `own` and `other`. The relation between the two states may look at the
requests served so far, because what it promises can depend on when they were
made; `before` is what is known of any two requests in the order in which
they were served.
-/

namespace WebEid.Lib

variable {σ α ο ω : Type}

/-- The answers of a run. -/
def answers (step : α → σ → ο × σ) : List α → σ → List ο
  | [], _ => []
  | a :: as, s => (step a s).1 :: answers step as (step a s).2

/-- The answers of a run that go to one party. -/
def answersOf (mine : α → Bool) (step : α → σ → ο × σ) : List α → σ → List ο
  | [], _ => []
  | a :: as, s =>
      if mine a then (step a s).1 :: answersOf mine step as (step a s).2
      else answersOf mine step as (step a s).2

/-- A party's own requests keep the relation and are answered alike, and those
of the others keep it on one side. -/
structure Unwinding (mine : α → Bool) (step : α → σ → ο × σ) (view : ο → ω)
    (before : α → α → Prop) (R : List α → σ → σ → Prop) : Prop where
  own : ∀ past a s t, mine a = true → (∀ b ∈ past, before b a) → R past s t →
    view (step a s).1 = view (step a t).1 ∧ R (a :: past) (step a s).2 (step a t).2
  other : ∀ past a s t, mine a = false → (∀ b ∈ past, before b a) → R past s t →
    R (a :: past) (step a s).2 t

variable {mine : α → Bool} {step : α → σ → ο × σ} {view : ο → ω} {before : α → α → Prop}
  {R : List α → σ → σ → Prop}

theorem Unwinding.run (hU : Unwinding mine step view before R) :
    ∀ (as past : List α) (s t : σ), as.Pairwise before →
      (∀ b ∈ past, ∀ a ∈ as, before b a) → R past s t →
      (answersOf mine step as s).map view = (answers step (as.filter mine) t).map view := by
  intro as
  induction as with
  | nil => intro past s t _ _ _; rfl
  | cons a as ih =>
      intro past s t hpair hpast hR
      rw [List.pairwise_cons] at hpair
      have ha : ∀ b ∈ past, before b a := fun b hb => hpast b hb a List.mem_cons_self
      have hnext : ∀ b ∈ a :: past, ∀ a' ∈ as, before b a' := by
        intro b hb a' ha'
        rcases List.mem_cons.mp hb with rfl | hb
        · exact hpair.1 a' ha'
        · exact hpast b hb a' (List.mem_cons_of_mem a ha')
      cases hmine : mine a with
      | true =>
          obtain ⟨hview, hR'⟩ := hU.own past a s t hmine ha hR
          rw [answersOf, if_pos hmine, List.filter_cons_of_pos hmine, answers, List.map_cons,
            List.map_cons, hview, ih (a :: past) _ _ hpair.2 hnext hR']
      | false =>
          have hno : ¬ mine a = true := by rw [hmine]; exact Bool.false_ne_true
          rw [answersOf, if_neg hno, List.filter_cons_of_neg hno]
          exact ih (a :: past) _ t hpair.2 hnext (hU.other past a s t hmine ha hR)

/-- What a party is answered does not depend on the others. -/
theorem Unwinding.isolated (hU : Unwinding mine step view before R) (as : List α)
    (has : as.Pairwise before) (s : σ) (hs : R [] s s) :
    (answersOf mine step as s).map view = (answers step (as.filter mine) s).map view :=
  hU.run as [] s s has (fun _ hb => absurd hb List.not_mem_nil) hs

end WebEid.Lib
