/-
Two lists correspond if they are equally long and their members stand in a relation, one by one. What the
members of such lists have in common is found in both.
-/
import Mathlib.Data.List.Forall2

namespace RecordMapper

/-- What stands in the first of two lists that correspond has its counterpart in the other. -/
theorem exists_of_forall₂ {α β : Type} {R : α → β → Prop} {firsts : List α} {seconds : List β}
    (h : List.Forall₂ R firsts seconds) {first : α} (hm : first ∈ firsts) :
    ∃ second ∈ seconds, R first second := by
  induction h with
  | nil => cases hm
  | @cons own second firsts seconds related _ ih =>
    rcases List.mem_cons.mp hm with rfl | hm
    · exact ⟨second, List.mem_cons_self, related⟩
    · obtain ⟨other, ho, related⟩ := ih hm
      exact ⟨other, List.mem_cons_of_mem _ ho, related⟩

theorem isSome_find?_eq_of_forall₂ {α β : Type} {R : α → β → Prop} {p : α → Bool} {q : β → Bool}
    {xs : List α} {ys : List β} (h : List.Forall₂ R xs ys) (same : ∀ x y, R x y → p x = q y) :
    (xs.find? p).isSome = (ys.find? q).isSome := by
  induction h with
  | nil => rfl
  | cons first _ ih =>
    rw [List.find?_cons, List.find?_cons, same _ _ first]
    split
    · rfl
    · exact ih

/-- Lists that correspond have the same keys if what corresponds has. -/
theorem map_eq_of_forall₂ {α β κ : Type} {R : α → β → Prop} {xs : List α} {ys : List β}
    {key : α → κ} {written : β → κ} (h : List.Forall₂ R xs ys)
    (same : ∀ x ∈ xs, ∀ y, R x y → written y = key x) : ys.map written = xs.map key := by
  induction h with
  | nil => rfl
  | cons related _ ih =>
    rw [List.map_cons, List.map_cons, same _ List.mem_cons_self _ related,
      ih fun x hm => same x (List.mem_cons_of_mem _ hm)]

theorem mapM_eq_some_iff {α β : Type} {f : α → Option β} {xs : List α} {ys : List β} :
    xs.mapM f = some ys ↔ List.Forall₂ (fun x y => f x = some y) xs ys := by
  induction xs generalizing ys with
  | nil => simp [eq_comm]
  | cons x xs ih =>
    simp only [List.mapM_cons, Option.bind_eq_bind, Option.bind_eq_some_iff, Option.pure_def,
      Option.some.injEq, ih, List.forall₂_cons_left_iff]
    constructor
    · rintro ⟨y, first, ys, others, rfl⟩
      exact ⟨y, ys, first, others, rfl⟩
    · rintro ⟨y, ys, first, others, rfl⟩
      exact ⟨y, first, ys, others, rfl⟩

end RecordMapper
