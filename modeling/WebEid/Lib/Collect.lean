import Mathlib.Data.List.Forall2
import WebEid.Lib.Fallible

/-!
# Loops that collect

A loop over a list that appends what each element yields to one result, and
gives up at the first element that fails. Whether it comes out well depends on
every element alone, and what comes out is the concatenation. Elements that
yield nothing can be left out; an element that yields something is missed.
-/

namespace WebEid.Lib

variable {ε α β : Type}

def collect (f : α → Except ε (List β)) : List α → Except ε (List β)
  | [] => .ok []
  | x :: xs => do
      let ys ← f x
      let zs ← collect f xs
      pure (ys ++ zs)

section

variable {f : α → Except ε (List β)} {xs : List α} {zs : List β}

theorem collect_cons_eq_ok_iff {x : α} :
    collect f (x :: xs) = .ok zs ↔
      ∃ ys zs', f x = .ok ys ∧ collect f xs = .ok zs' ∧ zs = ys ++ zs' := by
  rw [collect, bind_eq_ok_iff]
  refine exists_congr (fun ys => ?_)
  rw [bind_eq_ok_iff]
  constructor
  · rintro ⟨hys, zs', hzs, h⟩
    cases h
    exact ⟨zs', hys, hzs, rfl⟩
  · rintro ⟨zs', hys, hzs, rfl⟩
    exact ⟨hys, zs', hzs, rfl⟩

/-- One round of the loop, behind what it has already. -/
theorem map_collect_cons (acc : List β) (x : α) :
    (collect f (x :: xs)).map (acc ++ ·) =
      f x >>= fun ys => (collect f xs).map (acc ++ ys ++ ·) := by
  rw [collect]
  cases f x with
  | error e => rfl
  | ok ys =>
      rw [bind_ok, bind_ok]
      cases collect f xs with
      | error e => rfl
      | ok zs =>
          show Except.ok (acc ++ (ys ++ zs)) = Except.ok (acc ++ ys ++ zs)
          rw [List.append_assoc]

/-- The concatenation of what the elements yield, in order. -/
theorem collect_eq_ok_iff :
    collect f xs = .ok zs ↔
      ∃ yss, List.Forall₂ (fun x ys => f x = .ok ys) xs yss ∧ zs = yss.flatten := by
  induction xs generalizing zs with
  | nil =>
      constructor
      · intro h
        cases h
        exact ⟨[], .nil, rfl⟩
      · rintro ⟨yss, hyss, rfl⟩
        cases hyss
        rfl
  | cons x xs ih =>
      rw [collect_cons_eq_ok_iff]
      constructor
      · rintro ⟨ys, zs', hys, hzs, rfl⟩
        obtain ⟨yss, hyss, rfl⟩ := ih.mp hzs
        exact ⟨ys :: yss, .cons hys hyss, rfl⟩
      · rintro ⟨yss, hyss, rfl⟩
        cases hyss with
        | cons hys hyss => exact ⟨_, _, hys, ih.mpr ⟨_, hyss, rfl⟩, rfl⟩

theorem exists_collect_iff :
    (∃ zs, collect f xs = .ok zs) ↔ ∀ x ∈ xs, ∃ ys, f x = .ok ys := by
  induction xs with
  | nil =>
      refine iff_of_true ⟨[], rfl⟩ ?_
      intro x hx
      cases hx
  | cons x xs ih =>
      simp only [collect_cons_eq_ok_iff, List.forall_mem_cons, ← ih]
      constructor
      · rintro ⟨zs, ys, zs', hys, hzs, -⟩
        exact ⟨⟨ys, hys⟩, zs', hzs⟩
      · rintro ⟨⟨ys, hys⟩, zs', hzs⟩
        exact ⟨_, ys, zs', hys, hzs, rfl⟩

/-- The first failure is the loop's. -/
theorem collect_eq_error_iff {e : ε} :
    collect f xs = .error e ↔
      ∃ pre x post, xs = pre ++ x :: post ∧ (∀ y ∈ pre, ∃ ys, f y = .ok ys) ∧ f x = .error e := by
  induction xs with
  | nil =>
      refine iff_of_false (by simp [collect]) ?_
      rintro ⟨pre, x, post, hsplit, -⟩
      simp at hsplit
  | cons x xs ih =>
      constructor
      · intro h
        rcases bind_eq_error h with hx | ⟨ys, hys, h⟩
        · exact ⟨[], x, xs, rfl, by simp, hx⟩
        · rcases bind_eq_error h with hxs | ⟨zs, -, h⟩
          · obtain ⟨pre, y, post, rfl, hpre, hy⟩ := ih.mp hxs
            exact ⟨x :: pre, y, post, rfl, List.forall_mem_cons.mpr ⟨⟨ys, hys⟩, hpre⟩, hy⟩
          · cases h
      · rintro ⟨pre, y, post, hsplit, hpre, hy⟩
        cases pre with
        | nil =>
            cases hsplit
            rw [collect, hy]
            rfl
        | cons x' pre =>
            cases hsplit
            obtain ⟨⟨ys, hys⟩, hpre⟩ := List.forall_mem_cons.mp hpre
            rw [collect, hys, bind_ok, ih.mpr ⟨pre, y, post, rfl, hpre, hy⟩]
            rfl

theorem collect_map {γ : Type} (g : γ → α) (l : List γ) :
    collect f (l.map g) = collect (fun c => f (g c)) l := by
  induction l with
  | nil => rfl
  | cons c l ih => rw [List.map_cons, collect, collect, ih]

/-- Where every element yields one thing or fails, the results pair up with the
elements. -/
theorem collect_eq_ok_iff_forall₂ {R : α → β → Prop}
    (hone : ∀ x ∈ xs, ∀ ys, f x = .ok ys ↔ ∃ y, R x y ∧ ys = [y]) :
    collect f xs = .ok zs ↔ List.Forall₂ R xs zs := by
  induction xs generalizing zs with
  | nil =>
      constructor
      · intro h
        cases h
        exact .nil
      · intro h
        cases h
        rfl
  | cons x xs ih =>
      obtain ⟨hx, hxs⟩ := List.forall_mem_cons.mp hone
      rw [collect_cons_eq_ok_iff]
      constructor
      · rintro ⟨ys, zs', hys, hzs, rfl⟩
        obtain ⟨y, hy, rfl⟩ := (hx ys).mp hys
        exact .cons hy ((ih hxs).mp hzs)
      · intro h
        cases h with
        | cons hy hzs => exact ⟨_, _, (hx _).mpr ⟨_, hy, rfl⟩, (ih hxs).mpr hzs, rfl⟩

/-- Nothing comes out only if nothing was yielded. -/
theorem collect_eq_nil_iff : collect f xs = .ok [] ↔ ∀ x ∈ xs, f x = .ok [] := by
  induction xs with
  | nil => simp [collect]
  | cons x xs ih =>
      rw [collect_cons_eq_ok_iff, List.forall_mem_cons, ← ih]
      constructor
      · rintro ⟨ys, zs', hys, hzs, h⟩
        obtain ⟨rfl, rfl⟩ := List.append_eq_nil_iff.mp h.symm
        exact ⟨hys, hzs⟩
      · rintro ⟨hys, hzs⟩
        exact ⟨[], [], hys, hzs, rfl⟩

/-- A loop that has to come out with something. -/
theorem bind_nonempty_eq_ok_iff {x : Except ε (List β)} {e : ε} :
    (x >>= fun zs => if zs.isEmpty then .error e else .ok zs) = .ok zs ↔ x = .ok zs ∧ zs ≠ [] := by
  rw [bind_eq_ok_iff]
  constructor
  · rintro ⟨zs', hzs, h⟩
    split at h
    · cases h
    · next hne =>
        cases h
        exact ⟨hzs, fun hnil => hne (List.isEmpty_iff.mpr hnil)⟩
  · rintro ⟨hzs, hne⟩
    exact ⟨zs, hzs, if_neg (fun hnil => hne (List.isEmpty_iff.mp hnil))⟩

theorem collect_filter {p : α → Bool} (h : ∀ x ∈ xs, p x = false → f x = .ok []) :
    collect f (xs.filter p) = collect f xs := by
  induction xs with
  | nil => rfl
  | cons x xs ih =>
      obtain ⟨hx, hxs⟩ := List.forall_mem_cons.mp h
      cases hp : p x with
      | true => rw [List.filter_cons_of_pos hp, collect, collect, ih hxs]
      | false =>
          rw [List.filter_cons_of_neg (by simp [hp]), collect, hx hp, bind_ok, ih hxs]
          cases collect f xs <;> rfl

/-- Whoever leaves out an element that yields something ends up with less. -/
theorem length_collect_filter {p : α → Bool} {zs' : List β} (h : collect f xs = .ok zs)
    (h' : collect f (xs.filter p) = .ok zs') :
    zs'.length ≤ zs.length ∧
      (zs'.length = zs.length → ∀ x ∈ xs, p x = false → f x = .ok []) := by
  induction xs generalizing zs zs' with
  | nil =>
      cases h
      cases h'
      refine ⟨Nat.le_refl _, ?_⟩
      intro _ x hx
      cases hx
  | cons x xs ih =>
      obtain ⟨ys, zs₁, hys, hzs₁, rfl⟩ := collect_cons_eq_ok_iff.mp h
      cases hp : p x with
      | true =>
          rw [List.filter_cons_of_pos hp] at h'
          obtain ⟨ys', zs₁', hys', hzs₁', rfl⟩ := collect_cons_eq_ok_iff.mp h'
          cases hys.symm.trans hys'
          obtain ⟨hle, heq⟩ := ih hzs₁ hzs₁'
          rw [List.length_append, List.length_append]
          refine ⟨by omega, ?_⟩
          intro hlen
          rw [List.forall_mem_cons]
          refine ⟨?_, heq (by omega)⟩
          intro hfalse
          rw [hp] at hfalse
          cases hfalse
      | false =>
          rw [List.filter_cons_of_neg (by simp [hp])] at h'
          obtain ⟨hle, heq⟩ := ih hzs₁ h'
          rw [List.length_append]
          refine ⟨by omega, ?_⟩
          intro hlen
          have hnil : ys = [] := List.eq_nil_of_length_eq_zero (by omega)
          rw [List.forall_mem_cons]
          exact ⟨fun _ => hnil ▸ hys, heq (by omega)⟩

end

end WebEid.Lib
