/-
A pass shared among workers answers what it answers alone. The chunks are consecutive pieces of the
list of directives, whose joined outcomes therefore pair every directive with its own; and their number
is bounded by the number of workers because the chunk size is the least that takes all directives.

Workers finish in any order. Each writes to its own handle, and the handles are joined in the order in
which the workers were started, so the order of finishing leaves no trace.
-/
import RecordMapper.Pass
import Mathlib.Algebra.Group.Nat.Defs
import Mathlib.Data.List.Basic

namespace RecordMapper

/-! ## Division rounded up -/

theorem le_ceilDiv_mul (n : Nat) {d : Nat} (hd : 0 < d) : n ≤ (n + d - 1) / d * d := by
  have h := Nat.lt_div_mul_add (a := n + d - 1) hd
  omega

theorem ceilDiv_le_of_le_mul {n d k : Nat} (hd : 0 < d) (h : n ≤ k * d) : (n + d - 1) / d ≤ k := by
  rw [← Nat.lt_succ_iff, Nat.div_lt_iff_lt_mul hd, Nat.succ_mul]
  omega

theorem ceilDiv_pos {n d : Nat} (hn : 0 < n) (hd : 0 < d) : 0 < (n + d - 1) / d :=
  Nat.div_pos (by omega) hd

/-! ## Chunks -/

section Chunks

variable {α : Type} {size : Nat}

theorem flatten_chunksOf (size : Nat) (xs : List α) : (chunksOf size xs).flatten = xs := by
  induction xs using chunksOf.induct size with
  | case1 => simp [chunksOf]
  | case2 x rest ih => rw [chunksOf, List.flatten_cons, ih, List.cons_append, List.take_append_drop]

theorem length_chunksOf (hsize : 0 < size) (xs : List α) :
    (chunksOf size xs).length = (xs.length + size - 1) / size := by
  induction xs using chunksOf.induct size with
  | case1 =>
    have none_left : (0 + size - 1) / size = 0 := Nat.div_eq_of_lt (by omega)
    simpa [chunksOf] using none_left.symm
  | case2 x rest ih =>
    rw [chunksOf, List.length_cons, ih, List.length_drop, List.length_cons]
    have whole : rest.length + 1 + size - 1 = rest.length + size := by omega
    rw [whole, Nat.add_div_right _ hsize, Nat.add_right_cancel_iff]
    by_cases h : size - 1 ≤ rest.length
    · congr 1
      omega
    · rw [Nat.div_eq_of_lt (by omega), Nat.div_eq_of_lt (by omega)]

theorem flatten_map_chunksOf {β : Type} (f : α → β) (size : Nat) (xs : List α) :
    ((chunksOf size xs).map fun chunk => chunk.map f).flatten = xs.map f := by
  rw [← List.map_flatten, flatten_chunksOf]

end Chunks

/-! ## Workers and sizes -/

section Sizes

variable {workers count : Nat}

theorem usefulWorkers_pos (hcount : 0 < count) : 0 < usefulWorkers workers count := by
  unfold usefulWorkers
  omega

theorem usefulWorkers_le_count : usefulWorkers workers count ≤ count :=
  Nat.min_le_right _ _

theorem usefulWorkers_le_max : usefulWorkers workers count ≤ max 1 workers := by
  unfold usefulWorkers
  omega

theorem chunkSize_pos (hcount : 0 < count) : 0 < chunkSize workers count :=
  ceilDiv_pos hcount (usefulWorkers_pos hcount)

/-- Rounding up twice does not go beyond the number of workers. -/
theorem length_chunksOf_chunkSize_le {α : Type} {xs : List α} (h : 0 < xs.length) :
    (chunksOf (chunkSize workers xs.length) xs).length ≤ usefulWorkers workers xs.length := by
  rw [length_chunksOf (chunkSize_pos h)]
  refine ceilDiv_le_of_le_mul (chunkSize_pos h) ?_
  rw [Nat.mul_comm]
  exact le_ceilDiv_mul _ (usefulWorkers_pos h)

end Sizes

/-! ## Handles -/

/-- The handles of the workers in the order in which these were started. A worker that is busy has
no outcomes yet. -/
abbrev Handles := List (Option (List Outcome))

namespace Handles

/-- Before any worker has finished. -/
def started (chunks : List (List Directive)) : Handles :=
  List.replicate chunks.length none

/-- A worker finishes with the outcomes of its chunk. -/
def finish (chunks : List (List Directive)) (handles : Handles) (worker : Nat) : Handles :=
  match chunks[worker]? with
  | some chunk => handles.set worker (some (chunk.map Directive.outcome))
  | none => handles

/-- The outcomes of all workers, joined in the order of the handles; none while one is busy. -/
def join (handles : Handles) : Option (List Outcome) :=
  (handles.mapM id).map List.flatten

/-- The workers of `finished` are done with their chunks and the others are busy. -/
structure Record (chunks : List (List Directive)) (finished : List Nat) (handles : Handles) : Prop where
  length_eq : handles.length = chunks.length
  handle : ∀ {worker chunk}, chunks[worker]? = some chunk →
    handles[worker]? =
      some (if worker ∈ finished then some (chunk.map Directive.outcome) else none)

variable {chunks : List (List Directive)} {finished : List Nat} {handles : Handles}

theorem record_started : Record chunks [] (started chunks) := by
  refine ⟨List.length_replicate, fun {worker chunk} h => ?_⟩
  obtain ⟨bound, -⟩ := List.getElem?_eq_some_iff.mp h
  simp [started, bound]

/-- Finishing fills the worker's own handle and no other. -/
theorem Record.finish (h : Record chunks finished handles) (worker : Nat) :
    Record chunks (worker :: finished) (handles.finish chunks worker) := by
  unfold Handles.finish
  cases hw : chunks[worker]? with
  | none =>
    refine ⟨h.length_eq, fun {other chunk} hc => ?_⟩
    have apart : other ≠ worker := by
      rintro rfl
      rw [hw] at hc
      cases hc
    rw [h.handle hc]
    simp [apart]
  | some mine =>
    refine ⟨by simp [h.length_eq], fun {other chunk} hc => ?_⟩
    obtain ⟨bound, -⟩ := List.getElem?_eq_some_iff.mp hc
    by_cases same : worker = other
    · subst same
      rw [hw, Option.some.injEq] at hc
      subst hc
      simp [h.length_eq, bound]
    · rw [List.getElem?_set_ne same, h.handle hc]
      simp [Ne.symm same]

/-- The handles after workers have finished in some order. -/
theorem Record.foldl (order : List Nat) (h : Record chunks finished handles) :
    Record chunks (order.reverse ++ finished) (order.foldl (Handles.finish chunks) handles) := by
  induction order generalizing finished handles with
  | nil => exact h
  | cons worker order ih => simpa using ih (h.finish worker)

/-- When all workers have finished, joining gives the outcomes of the chunks in order. -/
theorem Record.join_eq (h : Record chunks finished handles)
    (all : ∀ worker, worker < chunks.length → worker ∈ finished) :
    handles.join = some (chunks.map fun chunk => chunk.map Directive.outcome).flatten := by
  have filled : handles = (chunks.map fun chunk => chunk.map Directive.outcome).map some := by
    apply List.ext_getElem?
    intro worker
    cases hw : chunks[worker]? with
    | none =>
      have beyond := List.getElem?_eq_none_iff.mp hw
      rw [List.getElem?_eq_none (h.length_eq ▸ beyond), List.getElem?_eq_none (by simpa using beyond)]
    | some chunk =>
      obtain ⟨bound, -⟩ := List.getElem?_eq_some_iff.mp hw
      simp [h.handle hw, hw, all worker bound]
  have done : ((chunks.map fun chunk => chunk.map Directive.outcome).map some).mapM id =
      some (chunks.map fun chunk => chunk.map Directive.outcome) := by
    rw [List.mapM_map]
    exact List.mapM_pure.trans (congrArg some (List.map_id _))
  rw [Handles.join, filled, done, Option.map_some]

end Handles

/-- What the pass answers when its workers finish in some order. -/
def generateFinishing (directives : List Directive) (workers : Nat) (order : List Nat) :
    Option Generation :=
  let chunks := chunksOf (chunkSize workers directives.length) directives
  (order.foldl (Handles.finish chunks) (Handles.started chunks)).join.map fun outcomes =>
    assembleOutcomes .empty (directives.zip outcomes)

/-! ## The shared pass -/

/-- The arithmetic and the chunks of a pass over some directives shared among `workers`. -/
structure SoundChunks (directives : List Directive) (workers : Nat) : Prop where
  /-- Adding the number of workers and taking one away stays in a machine word. -/
  fits : directives.length + usefulWorkers workers directives.length < 2 ^ 64
  no_underflow : 1 ≤ directives.length + usefulWorkers workers directives.length
  divisor_ne_zero : usefulWorkers workers directives.length ≠ 0
  size_ne_zero : chunkSize workers directives.length ≠ 0
  /-- Nothing is lost, repeated or moved. -/
  flatten_eq :
    (chunksOf (chunkSize workers directives.length) directives).flatten = directives
  /-- Every directive is paired with its own outcome. -/
  paired :
    directives.zip ((chunksOf (chunkSize workers directives.length) directives).map
      fun chunk => chunk.map Directive.outcome).flatten =
    directives.map fun directive => (directive, directive.outcome)
  /-- So many workers are started. -/
  few : (chunksOf (chunkSize workers directives.length) directives).length ≤
    min (max 1 workers) directives.length

theorem zip_outcomes (directives : List Directive) (size : Nat) :
    directives.zip ((chunksOf size directives).map fun chunk => chunk.map Directive.outcome).flatten =
      directives.map fun directive => (directive, directive.outcome) := by
  rw [flatten_map_chunksOf]
  simpa using List.zip_map' (f := fun directive => directive) (g := Directive.outcome)

theorem soundChunks {directives : List Directive} (workers : Nat) (nonempty : directives ≠ [])
    (short : directives.length < 2 ^ 63) : SoundChunks directives workers := by
  have hcount : 0 < directives.length := List.length_pos_iff.mpr nonempty
  have hworkers : 0 < usefulWorkers workers directives.length := usefulWorkers_pos hcount
  have hle : usefulWorkers workers directives.length ≤ directives.length := usefulWorkers_le_count
  have hmax : usefulWorkers workers directives.length ≤ max 1 workers := usefulWorkers_le_max
  have hfew : (chunksOf (chunkSize workers directives.length) directives).length ≤
      usefulWorkers workers directives.length := length_chunksOf_chunkSize_le hcount
  exact {
    fits := by omega
    no_underflow := by omega
    divisor_ne_zero := by omega
    size_ne_zero := Nat.pos_iff_ne_zero.mp (chunkSize_pos hcount)
    flatten_eq := flatten_chunksOf _ _
    paired := zip_outcomes _ _
    few := Nat.le_min.mpr ⟨Nat.le_trans hfew hmax, Nat.le_trans hfew hle⟩ }

/-- **Sharing a pass changes nothing.** For any number of workers the shared pass answers what the
pass alone answers, whatever order the workers finish in; and for any list that fits in memory the
chunks behind it are sound. -/
theorem generateParallel_eq_generate (directives : List Directive) (workers : Nat)
    (short : directives.length < 2 ^ 63) :
    generateParallel directives workers = generate directives ∧
    (directives ≠ [] → SoundChunks directives workers) ∧
    ∀ order : List Nat,
      order.Perm (List.range (chunksOf (chunkSize workers directives.length) directives).length) →
      generateFinishing directives workers order = some (generate directives) := by
  refine ⟨?_, fun nonempty => soundChunks workers nonempty short, fun order perm => ?_⟩
  · unfold generateParallel
    split
    · next empty =>
      rw [List.isEmpty_iff.mp empty]
      rfl
    · simp only [zip_outcomes]
      rfl
  · have all : ∀ worker,
        worker < (chunksOf (chunkSize workers directives.length) directives).length →
        worker ∈ order.reverse ++ [] := by
      intro worker bound
      simpa using perm.mem_iff.mpr (List.mem_range.mpr bound)
    simp only [generateFinishing, (Handles.record_started.foldl order).join_eq all, zip_outcomes,
      Option.map_some]
    rfl

/-- Three directives for two workers, of which the second finishes first. -/
theorem generateParallel_second_first :
    let directives := ["a", "b", "c"].map fun name =>
      Directive.single (Schema.unresolved ⟨name⟩ "an enum") (Schema.unresolved ⟨"T"⟩ "an enum")
    directives.length < 2 ^ 63 ∧
    generateParallel directives 2 = generate directives ∧
    SoundChunks directives 2 ∧
    generateFinishing directives 2 [1, 0] = some (generate directives) := by
  intro directives
  have short : directives.length < 2 ^ 63 := by decide
  obtain ⟨same, sound, ordered⟩ := generateParallel_eq_generate directives 2 short
  refine ⟨short, same, sound (by decide), ordered [1, 0] ?_⟩
  rw [length_chunksOf (by decide)]
  decide

end RecordMapper
