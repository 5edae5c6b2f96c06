/-
The upper case of a character that starts an identifier may go on in one. Case and identifiers are given by
tables of ranges, so the statement about all characters is one about ranges: the ranges of one table lie in
ranges of the other, and ranges that ascend are searched without a miss.
-/
import RecordMapper.Text.Casing
import RecordMapper.Text.IdentifierClass
import Mathlib.Data.List.Chain

namespace RecordMapper.Text

namespace CharRanges

variable {ranges : CharRanges} {c : Char}

/-! ## Searching ranges -/

/-- A range that is found holds the character. -/
theorem exists_of_holdsBetween {code lo hi : Nat} (h : ranges.holdsBetween code lo hi = true) :
    ∃ range ∈ ranges.toList, range.1 ≤ code ∧ code ≤ range.2 := by
  fun_induction holdsBetween ranges code lo hi with
  | case1 => cases h
  | case2 _ _ _ _ _ _ _ ih => exact ih h
  | case3 _ _ _ _ _ _ _ _ ih => exact ih h
  | case4 lo hi _ first last found low high =>
    refine ⟨(first, last), ?_, by omega, by omega⟩
    rw [Array.mem_toList_iff]
    exact Array.mem_of_getElem? found
  | case5 => cases h

/-- A range is not empty and stands before another one. -/
def Before (range next : Nat × Nat) : Prop :=
  range.1 ≤ range.2 ∧ range.2 < next.1

instance (range next : Nat × Nat) : Decidable (Before range next) :=
  inferInstanceAs (Decidable (_ ∧ _))

instance : Trans Before Before Before where
  trans first second := ⟨first.1, Nat.lt_trans (Nat.lt_of_lt_of_le first.2 second.1) second.2⟩

/-- A range of ascending ranges is found. The search leaves it in the half that it goes on with, because the
ranges of the other half stand before it or after it. -/
theorem holdsBetween_of_range (ascending : ranges.toList.IsChain Before) {code lo hi i : Nat}
    {range : Nat × Nat} (found : ranges[i]? = some range) (above : lo ≤ i) (below : i < hi)
    (size : hi ≤ ranges.size) (first : range.1 ≤ code) (last : code ≤ range.2) : ranges.holdsBetween code lo hi = true := by
  have ordered : ∀ {i j : Nat} {range next : Nat × Nat}, i < j → ranges[i]? = some range →
      ranges[j]? = some next → Before range next := by
    intro i j range next before hi hj
    rw [← Array.getElem?_toList, List.getElem?_eq_some_iff] at hi hj
    obtain ⟨hi, rfl⟩ := hi
    obtain ⟨hj, rfl⟩ := hj
    exact List.pairwise_iff_getElem.mp ascending.pairwise i j hi hj before
  fun_induction holdsBetween ranges code lo hi with
  | case1 lo hi _ beyond =>
    rw [Array.getElem?_eq_none_iff] at beyond
    omega
  | case2 lo hi _ low high middle early ih =>
    refine ih above ?_ (by omega)
    by_contra later
    rcases Nat.eq_or_lt_of_le (Nat.not_lt.mp later) with same | later
    · rw [same, found] at middle
      cases middle
      omega
    · have := ordered later middle found
      unfold Before at this
      omega
  | case3 lo hi _ low high middle early late ih =>
    refine ih ?_ below size
    by_contra earlier
    rcases Nat.eq_or_lt_of_le (Nat.le_of_lt_succ (Nat.not_le.mp earlier)) with same | earlier
    · rw [← same, found] at middle
      cases middle
      omega
    · have := ordered earlier found middle
      unfold Before at this
      omega
  | case4 => rfl
  | case5 => omega

/-- Whether each of some ranges lies in one of the others, where both ascend. -/
def within : List (Nat × Nat) → List (Nat × Nat) → Bool
  | [], _ => true
  | range :: rest, others =>
    match others.dropWhile (fun other => other.2.blt range.2) with
    | [] => false
    | other :: more => other.1.ble range.1 && within rest (other :: more)

theorem exists_of_within {inner outer : List (Nat × Nat)} (h : within inner outer = true) :
    ∀ range ∈ inner, ∃ other ∈ outer, other.1 ≤ range.1 ∧ range.2 ≤ other.2 := by
  induction inner generalizing outer with
  | nil => simp
  | cons first inner ih =>
    have rest : outer.dropWhile (fun other => other.2.blt first.2) ⊆ outer :=
      (List.dropWhile_suffix _).subset
    unfold within at h
    split at h
    · cases h
    · next other more left =>
      rw [left] at rest
      rw [Bool.and_eq_true, Nat.ble_eq] at h
      have reaches := List.head?_dropWhile_not (fun other : Nat × Nat => other.2.blt first.2) outer
      intro range hm
      rcases List.mem_cons.mp hm with rfl | hm
      · refine ⟨other, rest List.mem_cons_self, h.1, ?_⟩
        by_contra short
        simp [left, Nat.blt_eq.mpr (Nat.not_le.mp short)] at reaches
      · obtain ⟨found, hf, inside⟩ := ih h.2 range hm
        exact ⟨found, rest hf, inside⟩

theorem exists_of_holds (h : ranges.holds c = true) :
    ∃ range ∈ ranges.toList, range.1 ≤ c.toNat ∧ c.toNat ≤ range.2 :=
  exists_of_holdsBetween h

theorem holds_of_range (ascending : ranges.toList.IsChain Before)
    (h : ∃ range ∈ ranges.toList, range.1 ≤ c.toNat ∧ c.toNat ≤ range.2) : ranges.holds c = true := by
  obtain ⟨range, hm, first, last⟩ := h
  obtain ⟨i, below, found⟩ := Array.getElem_of_mem (Array.mem_toList_iff.mp hm)
  exact holdsBetween_of_range ascending (Array.getElem?_eq_some_iff.mpr ⟨below, found⟩) (Nat.zero_le i) below
    (Nat.le_refl _) first last

end CharRanges

/-! ## Characters of identifiers -/

/-- A character in a range of those that go on in identifiers. -/
theorem continues_of_range {c : Char} (h : ∃ range ∈ identifierContinue.toList,
    range.1 ≤ c.toNat ∧ c.toNat ≤ range.2) : continuesIdentifier c = true := by
  have ascending : identifierContinue.toList.IsChain CharRanges.Before := by decide +kernel
  have held := CharRanges.holds_of_range ascending h
  unfold continuesIdentifier
  by_cases low : c.toNat < 0x80
  · have ascii : ∀ n < 0x80, identifierContinue.holds (Char.ofNat n) = true →
        ((Char.ofNat n).isAlphanum || Char.ofNat n = '_') = true := by decide +kernel
    rw [if_pos low, ← Char.ofNat_toNat c]
    exact ascii _ low (by rwa [Char.ofNat_toNat])
  · rwa [if_neg low]

/-- What starts an identifier may go on in one. -/
theorem continues_of_starts {c : Char} (h : startsIdentifier c = true) :
    continuesIdentifier c = true := by
  by_cases low : c.toNat < 0x80
  · unfold startsIdentifier at h
    rw [if_pos low] at h
    unfold continuesIdentifier
    rw [if_pos low, Char.isAlphanum, Bool.or_assoc, Bool.or_left_comm, Bool.or_eq_true]
    exact .inr h
  · have inside : CharRanges.within identifierStart.toList identifierContinue.toList = true := by
      decide +kernel
    unfold startsIdentifier at h
    rw [if_neg low] at h
    obtain ⟨range, hm, first, last⟩ := CharRanges.exists_of_holds h
    obtain ⟨other, ho, wider⟩ := CharRanges.exists_of_within inside range hm
    exact continues_of_range ⟨other, ho, by omega, by omega⟩

/-- A number in a range of characters that go on in identifiers is that of such a character. -/
theorem continues_ofNat {n : Nat} (h : ∃ range ∈ identifierContinue.toList, range.1 ≤ n ∧ n ≤ range.2) :
    continuesIdentifier (Char.ofNat n) = true := by
  have valid : ∀ range ∈ identifierContinue.toList,
      range.2 < 0xD800 ∨ 0xDFFF < range.1 ∧ range.2 < 0x110000 := by decide +kernel
  obtain ⟨range, hm, first, last⟩ := h
  have own : n.isValidChar := by
    have := valid range hm
    unfold Nat.isValidChar
    omega
  have number : (Char.ofNat n).toNat = n := by
    rw [Char.ofNat, dif_pos own]
    rfl
  exact continues_of_range ⟨range, hm, by rwa [number], by rwa [number]⟩

/-! ## Upper case -/

/-- A run maps into a range of characters that go on in identifiers, or those of its characters that start
an identifier are mapped to such. -/
theorem continues_of_map? {run : CaseRun} (hr : run ∈ upperRuns.toList) {c : Char} {code : Nat}
    (starts : startsIdentifier c = true) (h : run.map? c.toNat = some code) :
    continuesIdentifier (Char.ofNat code) = true := by
  have runs : ∀ run ∈ upperRuns.toList,
      CharRanges.within [((run.first + run.offset).toNat, (run.last + run.offset).toNat)]
          identifierContinue.toList = true ∨
        ∀ k < (run.last - run.first) / run.step + 1,
          startsIdentifier (Char.ofNat (run.first + k * run.step)) = true →
          continuesIdentifier (Char.ofNat ((run.first + k * run.step : Nat) + run.offset).toNat) = true := by
    decide +kernel
  unfold CaseRun.map? at h
  split at h
  · next listed =>
    obtain ⟨first, last, steps⟩ := listed
    obtain rfl := Option.some.inj h
    rcases runs run hr with inside | each
    · obtain ⟨range, hm, low, high⟩ := CharRanges.exists_of_within inside _ List.mem_cons_self
      exact continues_ofNat ⟨range, hm, by omega, by omega⟩
    · have place : run.first + (c.toNat - run.first) / run.step * run.step = c.toNat := by
        rw [Nat.div_mul_cancel (Nat.dvd_of_mod_eq_zero steps)]
        omega
      have few : (c.toNat - run.first) / run.step < (run.last - run.first) / run.step + 1 :=
        Nat.lt_succ_of_le (Nat.div_le_div_right (by omega))
      have mapped := each _ few
      rw [place, Char.ofNat_toNat] at mapped
      exact mapped starts
  · cases h

/-- The upper case of a character that starts an identifier goes on in one. -/
theorem continues_of_mem_upperChar {c d : Char} (starts : startsIdentifier c = true)
    (hd : d ∈ upperChar c) : continuesIdentifier d = true := by
  unfold upperChar at hd
  by_cases low : c.toNat < 0x80
  · have ascii : ∀ n < 0x80, startsIdentifier (Char.ofNat n) = true →
        continuesIdentifier (Char.ofNat n).toUpper = true := by decide +kernel
    rw [if_pos low, List.mem_singleton] at hd
    have mapped := ascii _ low
    rw [Char.ofNat_toNat] at mapped
    exact hd ▸ mapped starts
  · rw [if_neg low] at hd
    unfold mapCase at hd
    split at hd
    · next codes listed =>
      have special : ∀ pair ∈ upperSpecial, ∀ code ∈ pair.2,
          continuesIdentifier (Char.ofNat code) = true := by decide +kernel
      obtain ⟨_, _, split, -⟩ := List.lookup_eq_some_iff.mp listed
      obtain ⟨code, hc, rfl⟩ := List.mem_map.mp hd
      exact special (c.toNat, codes) (by simp [split]) code hc
    · split at hd
      · next code found =>
        obtain ⟨run, hr, mapped⟩ := Array.exists_of_findSome?_eq_some found
        rw [List.mem_singleton] at hd
        exact hd ▸ continues_of_map? (Array.mem_toList_iff.mpr hr) starts mapped
      · rw [List.mem_singleton] at hd
        exact hd ▸ continues_of_starts starts

end RecordMapper.Text
