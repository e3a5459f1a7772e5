import Mathlib.Data.List.Nodup
import Mathlib.Data.List.Perm.Basic

/-!
# Names that are drawn fresh and used once

A protocol that draws unpredictable names and consumes each of them keeps
them in several places: on the way in, in a store, in the hands of someone
who took one out. `Once drawn uses` says that over all places together no
name occurs twice and none occurs that was not drawn. Moving a name from one
place to another, or losing it, keeps this (`Once.mono`); only a draw adds a
use, and a fresh one at that (`Once.draw`).

`InjectiveAgreement` is what such a protocol is for: everything that was
accepted can be charged to a run of its own.
-/

namespace WebEid.Lib

variable {ν α β : Type}

/-- Every name is used at most once, and only after it was drawn. -/
structure Once (drawn : List ν) (uses : ν → Nat) : Prop where
  le_one : ∀ n, uses n ≤ 1
  mem_drawn : ∀ n, 0 < uses n → n ∈ drawn

namespace Once

variable {drawn : List ν} {uses uses' : ν → Nat}

theorem nil : Once ([] : List ν) fun _ => 0 :=
  ⟨fun _ => Nat.zero_le 1, fun _ h => absurd h (Nat.lt_irrefl 0)⟩

/-- A step that only moves names or loses them. -/
theorem mono (h : Once drawn uses) (hle : ∀ n, uses' n ≤ uses n) : Once drawn uses' := by
  refine ⟨fun n => ?_, fun n hn => ?_⟩
  · exact Nat.le_trans (hle n) (h.le_one n)
  · exact h.mem_drawn n (Nat.lt_of_lt_of_le hn (hle n))

/-- A step that brings one fresh name in. -/
theorem draw [DecidableEq ν] {m : ν} (h : Once drawn uses) (hfresh : m ∉ drawn)
    (hle : ∀ n, uses' n ≤ uses n + if m = n then 1 else 0) : Once (m :: drawn) uses' := by
  have hm : uses m = 0 := by
    by_contra hne
    exact hfresh (h.mem_drawn m (Nat.pos_of_ne_zero hne))
  refine ⟨fun n => ?_, fun n hn => ?_⟩
  · have hn := hle n
    by_cases hmn : m = n
    · subst hmn
      rw [if_pos rfl, hm] at hn
      exact hn
    · rw [if_neg hmn] at hn
      exact Nat.le_trans hn (h.le_one n)
  · by_cases hmn : m = n
    · exact List.mem_cons.mpr (Or.inl hmn.symm)
    · have hle' := hle n
      rw [if_neg hmn] at hle'
      exact List.mem_cons_of_mem m (h.mem_drawn n (Nat.lt_of_lt_of_le hn hle'))

/-- A list of names that is part of the count has no repetition. -/
theorem nodup [DecidableEq ν] (h : Once drawn uses) {l : List ν}
    (hl : ∀ n, l.count n ≤ uses n) : l.Nodup :=
  List.nodup_iff_count_le_one.mpr fun n => Nat.le_trans (hl n) (h.le_one n)

end Once

/-- Taking one element out of a list takes one name out of the count. -/
theorem count_map_eraseIdx [DecidableEq ν] (f : α → ν) {l : List α} {i : Nat} {a : α}
    (h : l[i]? = some a) (n : ν) :
    (l.map f).count n = ((l.eraseIdx i).map f).count n + if f a = n then 1 else 0 := by
  obtain ⟨hi, rfl⟩ := List.getElem?_eq_some_iff.mp h
  have hperm := (List.getElem_cons_eraseIdx_perm hi).map f
  rw [← hperm.count_eq n, List.map_cons, List.count_cons]
  simp only [beq_iff_eq]

/-- Every commitment is charged to a run that it matches, and no two to the
same run. -/
def InjectiveAgreement (commits : List α) (runs : List β) (R : α → β → Prop) : Prop :=
  ∃ f : Fin commits.length → Fin runs.length,
    Function.Injective f ∧ ∀ i, R (commits.get i) (runs.get (f i))

/-- Commitments that match runs of their own name agree injectively when no
name is committed to twice. -/
theorem InjectiveAgreement.of_nodup {commits : List α} {runs : List β} {R : α → β → Prop}
    {name : α → ν} {name' : β → ν} (hmatch : ∀ a ∈ commits, ∃ b ∈ runs, R a b)
    (hname : ∀ a b, R a b → name a = name' b) (hnodup : (commits.map name).Nodup) :
    InjectiveAgreement commits runs R := by
  have hidx : ∀ i : Fin commits.length, ∃ j : Fin runs.length,
      R (commits.get i) (runs.get j) := by
    intro i
    obtain ⟨b, hb, hR⟩ := hmatch (commits.get i) (List.get_mem commits i)
    obtain ⟨j, rfl⟩ := List.get_of_mem hb
    exact ⟨j, hR⟩
  choose f hf using hidx
  refine ⟨f, ?_, hf⟩
  intro i j hij
  -- two commitments charged to one run carry its name, so they are one
  have hsame : name (commits.get i) = name (commits.get j) := by
    rw [hname _ _ (hf i), hname _ _ (hf j), hij]
  have hi : i.val < (commits.map name).length := by simp
  have hj : j.val < (commits.map name).length := by simp
  refine Fin.ext ((@List.Nodup.getElem_inj_iff _ _ hnodup i hi j hj).mp ?_)
  simpa using hsame

end WebEid.Lib
