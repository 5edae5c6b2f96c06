/-
Segments are put together with separators and found again by cutting at them. Any identity comes back from its
own segments with the same segments, since cutting leaves no piece that could be cut again. Segments without
colons come back from their identity, apart from empty ones; the last of them is its last name, the others are
what encloses it. So such identities are equal exactly if their segments are.
-/
import RecordMapper.Proofs.ModulePaths
import RecordMapper.Proofs.Rerooting

namespace RecordMapper

/-- The second name is the first without one mark of a raw name, if it starts with one. -/
inductive Unmarked : String → String → Prop
  | raw (name : String) : Unmarked ("r#" ++ name) name
  | plain {name : String} : ¬['r', '#'] <+: name.toList → Unmarked name name

theorem unmarked_dropRawMark (name : String) : Unmarked name (String.ofList (dropRawMark name.toList)) := by
  by_cases marked : ['r', '#'] <+: name.toList
  · obtain ⟨rest, text⟩ := marked
    have whole : name = "r#" ++ String.ofList rest := by
      rw [← String.ofList_toList (s := name), ← text, String.ofList_append]
    rw [← text]
    exact whole ▸ .raw _
  · have same : dropRawMark name.toList = name.toList := by
      rw [dropRawMark]
      intro rest text
      exact marked ⟨rest, text.symm⟩
    rw [same, String.ofList_toList]
    exact .plain marked

section Segments

variable {names : List String}

/-- Empty segments do not matter. -/
theorem ofSegments_filter (names : List String) :
    Identity.ofSegments (names.filter (· ≠ "")) = Identity.ofSegments names := by
  simp [Identity.ofSegments, List.filter_filter]

theorem cleanCut_segments (identity : Identity) :
    CleanCut (identity.segments.map String.toList) := by
  have kept : identity.segments.map String.toList =
      (splitAtSeparators identity.text.toList).filter (String.ofList · ≠ "") := by
    rw [Identity.segments, List.filter_map, List.map_map]
    exact (List.map_congr_left fun piece _ => String.toList_ofList).trans (List.map_id' _)
  rw [kept]
  exact (cleanCut_splitAtSeparators _).sublist List.filter_sublist

theorem CleanCut.segments_ofSegments (h : CleanCut (names.map String.toList)) :
    (Identity.ofSegments names).segments = names.filter (· ≠ "") := by
  have clean := h.sublist ((List.filter_sublist (p := (· ≠ ""))).map String.toList)
  rw [Identity.ofSegments, clean.segments_intercalate, List.filter_filter]
  simp

/-- The segments of an identity are those of the identity that they make up. -/
theorem segments_ofSegments_segments (identity : Identity) :
    (Identity.ofSegments identity.segments).segments = identity.segments := by
  rw [(cleanCut_segments identity).segments_ofSegments]
  simp [Identity.segments]

/-- **Segments and identities.** The identity of the segments of an identity has the same segments, whatever
colons stand in a row. Segments without colons are found again in their identity, apart from empty ones. The
last one without a raw mark is its simple name, and it is enclosed by the identity of the others, if there are
others. Two such identities are equal exactly if their segments are. -/
theorem segments_read_back :
    (∀ identity : Identity,
      (Identity.ofSegments identity.segments).segments = identity.segments ∧
        Identity.ofSegments (Identity.ofSegments identity.segments).segments =
          Identity.ofSegments identity.segments) ∧
    ∀ names : List String, (∀ name ∈ names, ':' ∉ name.toList) →
      (Identity.ofSegments names).segments = names.filter (· ≠ "") ∧
      (∀ front last, names.filter (· ≠ "") = front ++ [last] →
        Unmarked last (Identity.ofSegments names).simpleName ∧
        (Identity.ofSegments names).enclosing? =
          if front = [] then none else some (Identity.ofSegments front).text) ∧
      (names.filter (· ≠ "") = [] → (Identity.ofSegments names).simpleName = "" ∧
        (Identity.ofSegments names).enclosing? = none) ∧
      ∀ others : List String, (∀ name ∈ others, ':' ∉ name.toList) →
        (Identity.ofSegments names = Identity.ofSegments others ↔
          names.filter (· ≠ "") = others.filter (· ≠ "")) := by
  have again := segments_ofSegments_segments
  have read {names : List String} (plain : ∀ name ∈ names, ':' ∉ name.toList) :
      (Identity.ofSegments names).segments = names.filter (· ≠ "") :=
    (cleanCut_of_plain (by simpa using plain)).segments_ofSegments
  refine ⟨fun identity => ⟨again identity, by rw [again]⟩, fun names plain => ⟨read plain, ?_, ?_, ?_⟩⟩
  · intro front last kept
    have nonempty : ∀ name ∈ front ++ [last], name ≠ "" := by
      rw [← kept]
      exact fun name hm => by simpa using (List.mem_filter.mp hm).2
    have hm : last ∈ names := List.mem_of_mem_filter (kept ▸ List.mem_concat_self)
    have front_kept : front.filter (· ≠ "") = front :=
      List.filter_eq_self.mpr fun name hm => by simpa using nonempty name (List.mem_append_left _ hm)
    have some_last := nonempty last List.mem_concat_self
    rw [← ofSegments_filter names, kept, simpleName_ofSegments some_last (plain last hm),
      Identity.enclosing?, splitAtLastSeparator?_ofSegments front some_last (plain last hm), front_kept]
    refine ⟨unmarked_dropRawMark last, ?_⟩
    split
    · rfl
    · exact congrArg some (String.ofList_toList ..)
  · intro none_named
    rw [← ofSegments_filter names, none_named]
    exact ⟨rfl, rfl⟩
  · intro others plain'
    constructor
    · intro same
      rw [← read plain, same, read plain']
    · intro same
      rw [← ofSegments_filter names, same, ofSegments_filter]

theorem segments_read_back_overlapping :
    let identity := Identity.mk ":::a:::b:::::c:"
    let names := ["", "r#r#a", "b", "", "r#r#c"]
    identity.segments = [":a", ":b", ":c:"] ∧
      (Identity.ofSegments identity.segments).segments = identity.segments ∧
      (∀ name ∈ names, ':' ∉ name.toList) ∧
      (Identity.ofSegments names).segments = ["r#r#a", "b", "r#r#c"] ∧
      Unmarked "r#r#c" (Identity.ofSegments names).simpleName ∧
      (Identity.ofSegments names).enclosing? = some (Identity.ofSegments ["r#r#a", "b"]).text ∧
      Identity.ofSegments names ≠ Identity.ofSegments ["r#r#a", "b", "r#c"] := by
  intro identity names
  have plain : ∀ name ∈ names, ':' ∉ name.toList := by decide
  obtain ⟨again, read⟩ := segments_read_back
  obtain ⟨segments, last, -, equal⟩ := read names plain
  obtain ⟨simple, enclosing⟩ := last ["r#r#a", "b"] "r#r#c" (by decide)
  refine ⟨by decide, (again identity).1, plain, segments.trans (by decide), simple, enclosing, fun same => ?_⟩
  exact absurd ((equal _ (by decide)).mp same) (by decide)

end Segments

end RecordMapper
