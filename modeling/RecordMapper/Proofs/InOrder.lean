/-
A pass over a list gives every element an answer that depends on the elements before it and on their
answers. `InOrder R xs` says that of a whole list at once: each element stands in the relation `R` to
the list of those before it. Where `R` leaves one answer, a list of keys has one list of answers.
-/
import Mathlib.Data.List.Basic
import Mathlib.Data.List.Induction

namespace RecordMapper

variable {α κ β : Type}

/-- Every element stands in a relation to the list of those before it. -/
def InOrder (R : List α → α → Prop) (xs : List α) : Prop :=
  ∀ before x after, xs = before ++ x :: after → R before x

namespace InOrder

theorem nil {R : List α → α → Prop} : InOrder R [] := by
  intro before x after h
  simp at h

theorem cons_iff {R : List α → α → Prop} {x : α} {xs : List α} :
    InOrder R (x :: xs) ↔ R [] x ∧ InOrder (fun before => R (x :: before)) xs := by
  constructor
  · intro h
    refine ⟨h [] x xs rfl, fun before y after hxs => h (x :: before) y after ?_⟩
    rw [hxs, List.cons_append]
  · rintro ⟨hx, hxs⟩ before y after h
    cases before with
    | nil =>
      simp only [List.nil_append, List.cons.injEq] at h
      exact h.1 ▸ hx
    | cons z before =>
      simp only [List.cons_append, List.cons.injEq] at h
      obtain ⟨rfl, h⟩ := h
      exact hxs before y after h

theorem concat_iff {R : List α → α → Prop} {x : α} {xs : List α} :
    InOrder R (xs ++ [x]) ↔ InOrder R xs ∧ R xs x := by
  constructor
  · intro h
    refine ⟨fun before y after hxs => h before y (after ++ [x]) ?_, h xs x [] rfl⟩
    simp [hxs]
  · rintro ⟨hxs, hx⟩ before y after h
    rcases List.eq_nil_or_concat' after with rfl | ⟨later, z, rfl⟩
    · obtain ⟨rfl, hz⟩ := List.append_inj' h rfl
      simp only [List.cons.injEq, and_true] at hz
      exact hz ▸ hx
    · have h' : xs ++ [x] = (before ++ y :: later) ++ [z] := by simpa using h
      exact hxs before y later (List.append_inj' h' rfl).1

theorem append_iff {R : List α → α → Prop} {xs ys : List α} :
    InOrder R (xs ++ ys) ↔ InOrder R xs ∧ InOrder (fun before => R (xs ++ before)) ys := by
  induction xs generalizing R with
  | nil => exact ⟨fun h => ⟨nil, h⟩, fun h => h.2⟩
  | cons x xs ih => rw [List.cons_append, cons_iff, cons_iff, ih, and_assoc]; rfl

theorem imp {R S : List α → α → Prop} {xs : List α} (h : InOrder R xs)
    (himp : ∀ before x, x ∈ xs → R before x → S before x) : InOrder S xs := by
  intro before x after hxs
  exact himp before x (by simp [hxs]) (h before x after hxs)

theorem of_mem {R : List α → α → Prop} {x : α} {xs : List α} (h : InOrder R xs) (hx : x ∈ xs) :
    ∃ before, R before x := by
  obtain ⟨before, after, hxs⟩ := List.append_of_mem hx
  exact ⟨before, h before x after hxs⟩

/-- Where the relation leaves one answer to a key, the keys determine the answers. -/
theorem eq_of_keys {R : List (κ × β) → κ × β → Prop}
    (unique : ∀ {before key a b}, InOrder R before → R before (key, a) → R before (key, b) → a = b)
    {xs ys : List (κ × β)} (hx : InOrder R xs) (hy : InOrder R ys)
    (keys : xs.map Prod.fst = ys.map Prod.fst) : xs = ys := by
  induction xs using List.reverseRecOn generalizing ys with
  | nil => exact (List.map_eq_nil_iff.mp keys.symm).symm
  | append_singleton xs x ih =>
    rcases List.eq_nil_or_concat' ys with rfl | ⟨ys, y, rfl⟩
    · simp at keys
    obtain ⟨hxs, hx⟩ := concat_iff.mp hx
    obtain ⟨hys, hy⟩ := concat_iff.mp hy
    simp only [List.map_append, List.map_cons, List.map_nil] at keys
    obtain ⟨hkeys, hkey⟩ := List.append_inj' keys rfl
    obtain rfl := ih hxs hys hkeys
    obtain ⟨key, a⟩ := x
    obtain ⟨key', b⟩ := y
    simp only [List.cons.injEq, and_true] at hkey
    subst hkey
    rw [unique hxs hx hy]

end InOrder

end RecordMapper
