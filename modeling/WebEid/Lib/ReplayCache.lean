import WebEid.Lib.Machine

/-!
# Remembering names until they expire

A consumer of single-use tokens keeps the name of every token it accepted and
refuses a name it still remembers. It need not remember for ever: each item
says until when its name is kept, and afterwards the name may be dropped. The
clock only moves forward.

`nodup_iff` says what that is worth. Whether some item is accepted twice does
not depend on the order of events or on how eagerly names are dropped, only
on whether an item can pass the check a second time after it stopped being
kept.
-/

namespace WebEid.Lib

/-- The state of a consumer, with everything it ever accepted. -/
structure ReplayCache (ν α : Type) where
  now : Int
  memory : List (ν × Int)
  accepted : List α

namespace ReplayCache

inductive Event (τ : Type) where
  | present (token : τ)
  | advance (d : Nat)
  | forget

variable {ν α τ : Type}

/-- How tokens are judged, and by what name and for how long their items are
kept. -/
structure Policy (ν α τ : Type) where
  check : Int → τ → Option α
  name : α → ν
  keep : α → Int

def remembers [DecidableEq ν] (s : ReplayCache ν α) (n : ν) : Bool := s.memory.any fun e => e.1 = n

def accept (p : Policy ν α τ) (a : α) (s : ReplayCache ν α) : ReplayCache ν α :=
  { s with memory := (p.name a, p.keep a) :: s.memory, accepted := a :: s.accepted }

def present [DecidableEq ν] (p : Policy ν α τ) (token : τ) (s : ReplayCache ν α) :
    ReplayCache ν α :=
  match p.check s.now token with
  | none => s
  | some a => if s.remembers (p.name a) then s else s.accept p a

def machine [DecidableEq ν] (p : Policy ν α τ) : Machine (ReplayCache ν α) (Event τ) where
  init s := s.memory = [] ∧ s.accepted = []
  allowed _ _ := True
  step
    | .present token, s => s.present p token
    | .advance d, s => { s with now := s.now + d }
    | .forget, s => { s with memory := s.memory.filter fun e => s.now ≤ e.2 }

variable {p : Policy ν α τ}

/-- Everything accepted passed the check by now, and is still remembered or
no longer kept. -/
structure Inv (p : Policy ν α τ) (s : ReplayCache ν α) : Prop where
  nodup : s.accepted.Nodup
  checked : ∀ a ∈ s.accepted, ∃ t x, t ≤ s.now ∧ p.check t x = some a
  kept : ∀ a ∈ s.accepted, (p.name a, p.keep a) ∈ s.memory ∨ p.keep a < s.now

/-- No item passes the check again once it is no longer kept. -/
def Bounded (p : Policy ν α τ) : Prop :=
  ∀ t t' x x' a, p.check t x = some a → p.check t' x' = some a → t ≤ t' → t' ≤ p.keep a

theorem inv_advance {s : ReplayCache ν α} (hs : Inv p s) (d : Nat) :
    Inv p { s with now := s.now + d } := by
  refine ⟨hs.nodup, ?_, ?_⟩
  · intro a ha
    obtain ⟨t, x, ht, hcheck⟩ := hs.checked a ha
    exact ⟨t, x, show t ≤ s.now + d by omega, hcheck⟩
  · intro a ha
    exact (hs.kept a ha).imp_right (fun h => show p.keep a < s.now + d by omega)

theorem inv_forget {s : ReplayCache ν α} (hs : Inv p s) :
    Inv p { s with memory := s.memory.filter fun e => s.now ≤ e.2 } := by
  refine ⟨hs.nodup, hs.checked, ?_⟩
  intro a ha
  rcases hs.kept a ha with hmemory | hpast
  · by_cases hle : s.now ≤ p.keep a
    · exact .inl (List.mem_filter.mpr ⟨hmemory, decide_eq_true hle⟩)
    · exact .inr (Int.not_le.mp hle)
  · exact .inr hpast

variable [DecidableEq ν]

theorem remembers_of_mem {s : ReplayCache ν α} {n : ν} {k : Int} (h : (n, k) ∈ s.memory) :
    s.remembers n = true := by
  rw [remembers, List.any_eq_true]
  exact ⟨(n, k), h, by simp⟩

theorem inv_present (hp : Bounded p) {s : ReplayCache ν α} (hs : Inv p s) (token : τ) :
    Inv p (s.present p token) := by
  unfold present
  split
  · exact hs
  · next a hcheck =>
      split
      · exact hs
      · next hnew =>
          refine ⟨List.nodup_cons.mpr ⟨?_, hs.nodup⟩, ?_, ?_⟩
          · -- a second time: not remembered, so not kept, so not accepted
            intro hmem
            obtain ⟨t, x, ht, hfirst⟩ := hs.checked a hmem
            have hkeep := hp t s.now x token a hfirst hcheck ht
            rcases hs.kept a hmem with hmemory | hpast
            · exact hnew (remembers_of_mem hmemory)
            · omega
          · intro b hb
            rcases List.mem_cons.mp hb with rfl | hb
            · exact ⟨s.now, token, Int.le_refl _, hcheck⟩
            · exact hs.checked b hb
          · intro b hb
            rcases List.mem_cons.mp hb with rfl | hb
            · exact .inl (List.mem_cons_self ..)
            · exact (hs.kept b hb).imp_left (List.mem_cons_of_mem _)

theorem inv_reach (hp : Bounded p) {s : ReplayCache ν α} (hs : (machine p).Reach s) :
    Inv p s := by
  refine hs.invariant ?_ ?_
  · rintro s ⟨-, hnone⟩
    refine ⟨?_, ?_, ?_⟩ <;> rw [hnone]
    · exact List.nodup_nil
    · intro a ha
      cases ha
    · intro a ha
      cases ha
  · intro s e hs _
    cases e with
    | present token => exact inv_present hp hs token
    | advance d => exact inv_advance hs d
    | forget => exact inv_forget hs

/-- An item that passes again after its time is accepted again, by a consumer
that forgets in between. -/
theorem reach_twice {t t' : Int} {x x' : τ} {a : α} (ht : p.check t x = some a)
    (ht' : p.check t' x' = some a) (hle : t ≤ t') (hpast : p.keep a < t') :
    ∃ s, (machine p).Reach s ∧ s.accepted = [a, a] := by
  have h₀ : (machine p).Reach ⟨t, [], []⟩ := .init ⟨rfl, rfl⟩
  have h₁ := h₀.step (a := Event.present x) trivial
  have h₂ := h₁.step (a := Event.advance (t' - t).toNat) trivial
  have h₃ := h₂.step (a := Event.forget) trivial
  have h₄ := h₃.step (a := Event.present x') trivial
  have hfirst : (machine p).step (.present x) ⟨t, [], []⟩ =
      ⟨t, [(p.name a, p.keep a)], [a]⟩ := by
    simp [machine, present, ht, remembers, accept]
  have hclock : t + ((t' - t).toNat : Int) = t' := by omega
  have hforgot : (machine p).step .forget ((machine p).step (.advance (t' - t).toNat)
      ⟨t, [(p.name a, p.keep a)], [a]⟩) = ⟨t', [], [a]⟩ := by
    have hdrop : decide (t' ≤ p.keep a) = false := decide_eq_false (Int.not_le.mpr hpast)
    simp only [machine, hclock, List.filter_cons, hdrop]
    rfl
  rw [hfirst, hforgot] at h₄
  refine ⟨_, h₄, ?_⟩
  simp [machine, present, ht', remembers, accept]

/-- No run accepts an item twice exactly when none passes the check again
after its time. -/
theorem nodup_iff (p : Policy ν α τ) :
    (∀ s, (machine p).Reach s → s.accepted.Nodup) ↔ Bounded p := by
  constructor
  · intro h t t' x x' a ht ht' hle
    by_contra hpast
    obtain ⟨s, hs, htwice⟩ := reach_twice ht ht' hle (Int.not_le.mp hpast)
    have hnodup := h s hs
    rw [htwice] at hnodup
    simp at hnodup
  · intro hp s hs
    exact (inv_reach hp hs).nodup

end ReplayCache

end WebEid.Lib
