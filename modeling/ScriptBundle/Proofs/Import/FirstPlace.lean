import ScriptBundle.Proofs.Import.Candidates

namespace ScriptBundle

open LogicalPath

/-- What a candidate is taken for at a place: its path below the logical name, and its file. -/
def Candidate.matchAt (place : String × String) (k : Candidate) : Match :=
  ⟨below place.2 k.path, Path.join place.1 k.fileName⟩

namespace Resolver

/-- Whether the candidate with a given number counts at a place: its file is there, and no earlier
candidate whose file is there has the same canonical path. -/
def Counts (fs : FileSystem) (place : String × String) (candidates : List Candidate) (i : Nat) :
    Prop :=
  ∃ k, candidates[i]? = some k ∧ Holds fs place k ∧
    ∀ j < i, ∀ earlier, candidates[j]? = some earlier → Holds fs place earlier →
      (earlier.matchAt place).canonical ≠ (k.matchAt place).canonical

variable {fs : FileSystem} {place : String × String}

theorem mem_canonical_matchesIn {candidates : List Candidate} {canonical : String} :
    canonical ∈ (matchesIn fs place.1 place.2 candidates).map Match.canonical ↔
      ∃ k ∈ candidates, Holds fs place k ∧ (k.matchAt place).canonical = canonical := by
  constructor
  · intro h
    obtain ⟨m, hm, rfl⟩ := List.mem_map.1 h
    obtain ⟨k, hk, hmatch⟩ := mem_matchesIn hm
    obtain ⟨holds, rfl⟩ := matchAt_eq_some.1 hmatch
    exact ⟨k, hk, holds, rfl⟩
  · rintro ⟨k, hk, holds, rfl⟩
    obtain ⟨m, hm, hcanonical⟩ := canonical_mem_matchesIn hk holds
    exact List.mem_map.2 ⟨m, hm, hcanonical⟩

/-- One more candidate gives one more match if it is there under a path that is not taken. -/
theorem matchesIn_concat (candidates : List Candidate) (k : Candidate) :
    matchesIn fs place.1 place.2 (candidates ++ [k]) =
      if Holds fs place k ∧ (k.matchAt place).canonical ∉
          (matchesIn fs place.1 place.2 candidates).map Match.canonical then
        matchesIn fs place.1 place.2 candidates ++ [k.matchAt place]
      else matchesIn fs place.1 place.2 candidates := by
  by_cases holds : Holds fs place k
  · have hmatch : matchAt fs place.1 place.2 k = some (k.matchAt place) :=
      matchAt_eq_some.2 ⟨holds, rfl⟩
    simp only [matchesIn, List.filterMap_append, List.filterMap_cons, hmatch, List.filterMap_nil,
      List.foldl_append, List.foldl_cons, List.foldl_nil, holds, true_and]
    generalize List.foldl _ [] _ = done
    by_cases taken : (k.matchAt place).canonical ∈ done.map Match.canonical
    · rw [if_neg (not_not_intro taken), if_pos]
      simpa using taken
    · rw [if_pos taken, if_neg]
      simpa using taken
  · have hmatch : matchAt fs place.1 place.2 k = none := by
      exact if_neg holds
    rw [if_neg fun h => holds h.1]
    simp only [matchesIn, List.filterMap_append, List.filterMap_cons, hmatch, List.filterMap_nil,
      List.append_nil]

theorem nodup_matchesIn (candidates : List Candidate) :
    ((matchesIn fs place.1 place.2 candidates).map Match.canonical).Nodup := by
  induction candidates using List.reverseRecOn with
  | nil => exact List.nodup_nil
  | append_singleton candidates k ih =>
    rw [matchesIn_concat]
    split
    · rename_i h
      rw [List.map_append, List.nodup_append]
      refine ⟨ih, by simp, ?_⟩
      intro a ha b hb
      rw [List.map_singleton, List.mem_singleton] at hb
      rintro rfl
      exact h.2 (hb ▸ ha)
    · exact ih

theorem counts_append_of_lt {candidates : List Candidate} {i : Nat} (h : i < candidates.length)
    (more : List Candidate) :
    Counts fs place (candidates ++ more) i ↔ Counts fs place candidates i := by
  have hearlier : ∀ j ≤ i, (candidates ++ more)[j]? = candidates[j]? := fun j hj =>
    List.getElem?_append_left (by omega)
  unfold Counts
  rw [hearlier i (Nat.le_refl i)]
  refine exists_congr fun k => and_congr_right fun _ => and_congr_right fun _ => ?_
  refine forall_congr' fun j => imp_congr_right fun hj => ?_
  rw [hearlier j (Nat.le_of_lt hj)]

theorem counts_length {candidates : List Candidate} {k : Candidate} :
    Counts fs place (candidates ++ [k]) candidates.length ↔
      Holds fs place k ∧ (k.matchAt place).canonical ∉
        (matchesIn fs place.1 place.2 candidates).map Match.canonical := by
  have hlast : (candidates ++ [k])[candidates.length]? = some k := List.getElem?_concat_length
  rw [mem_canonical_matchesIn]
  constructor
  · rintro ⟨k', hk', holds, first⟩
    obtain rfl : k = k' := Option.some.inj (hlast.symm.trans hk')
    refine ⟨holds, ?_⟩
    rintro ⟨earlier, hearlier, there, same⟩
    obtain ⟨j, hj, rfl⟩ := List.mem_iff_getElem.1 hearlier
    refine first j hj _ ?_ there same
    rw [List.getElem?_append_left hj, List.getElem?_eq_getElem hj]
  · rintro ⟨holds, free⟩
    refine ⟨k, hlast, holds, ?_⟩
    intro j hj earlier hearlier there same
    rw [List.getElem?_append_left hj] at hearlier
    exact free ⟨earlier, List.mem_of_getElem? hearlier, there, same⟩

/-- The matches of a place are the candidates that count there, in order. -/
theorem matchesIn_counts (candidates : List Candidate) :
    ∃ numbers : List Nat, numbers.Pairwise (· < ·) ∧
      (∀ i, i ∈ numbers ↔ Counts fs place candidates i) ∧
      (matchesIn fs place.1 place.2 candidates).map some =
        numbers.map fun i => candidates[i]?.map (·.matchAt place) := by
  induction candidates using List.reverseRecOn with
  | nil =>
    refine ⟨[], List.Pairwise.nil, fun i => ?_, rfl⟩
    simp [Counts]
  | append_singleton candidates k ih =>
    obtain ⟨numbers, sorted, counted, matched⟩ := ih
    have below_length : ∀ i ∈ numbers, i < candidates.length := by
      intro i hi
      obtain ⟨k', hk', -⟩ := (counted i).1 hi
      exact (List.getElem?_eq_some_iff.1 hk').1
    have beyond : ∀ i, Counts fs place (candidates ++ [k]) i →
        i < candidates.length ∨ i = candidates.length := by
      rintro i ⟨k', hk', -⟩
      have hi := (List.getElem?_eq_some_iff.1 hk').1
      rw [List.length_append, List.length_singleton] at hi
      omega
    have matched' : (matchesIn fs place.1 place.2 candidates).map some =
        numbers.map fun i => (candidates ++ [k])[i]?.map (·.matchAt place) := by
      rw [matched]
      refine List.map_congr_left fun i hi => ?_
      rw [List.getElem?_append_left (below_length i hi)]
    rw [matchesIn_concat]
    split
    · rename_i new
      refine ⟨numbers ++ [candidates.length], ?_, fun i => ?_, ?_⟩
      · rw [List.pairwise_append]
        refine ⟨sorted, List.pairwise_singleton _ _, fun i hi j hj => ?_⟩
        rw [List.mem_singleton.1 hj]
        exact below_length i hi
      · rw [List.mem_append, List.mem_singleton]
        constructor
        · rintro (hi | rfl)
          · exact (counts_append_of_lt (below_length i hi) [k]).2 ((counted i).1 hi)
          · exact counts_length.2 new
        · intro hi
          rcases beyond i hi with hlt | rfl
          · exact .inl ((counted i).2 ((counts_append_of_lt hlt [k]).1 hi))
          · exact .inr rfl
      · rw [List.map_append, List.map_append, matched', List.map_singleton, List.map_singleton,
          List.getElem?_concat_length]
        rfl
    · rename_i old
      refine ⟨numbers, sorted, fun i => ?_, matched'⟩
      constructor
      · intro hi
        exact (counts_append_of_lt (below_length i hi) [k]).2 ((counted i).1 hi)
      · intro hi
        rcases beyond i hi with hlt | rfl
        · exact (counted i).2 ((counts_append_of_lt hlt [k]).1 hi)
        · exact absurd (counts_length.1 hi) old

theorem matchesIn_eq_nil {candidates : List Candidate} :
    matchesIn fs place.1 place.2 candidates = [] ↔ ∀ k ∈ candidates, ¬ Holds fs place k := by
  constructor
  · intro h k hk holds
    obtain ⟨m, hm, -⟩ := canonical_mem_matchesIn hk holds
    rw [h] at hm
    cases hm
  · intro h
    by_contra hne
    obtain ⟨k, hk, holds⟩ := exists_holds hne
    exact h k hk holds

/-- **A reference is answered by the first place that has any of its candidates.** The places are
the directory of the importer, if there is one, and then the roots. If no place has a candidate, the
answer is empty. Otherwise it holds the candidates that are at the first such place, in order and
the first for each canonical path, so that no path comes twice. -/
theorem resolve_first_place (r : Resolver) (fs : FileSystem) (importer : Option Record)
    (reference : Reference) :
    (∀ place ∈ r.places importer, ∀ k ∈ reference.candidates, ¬ Holds fs place k) ∧
        (r.resolve fs importer reference).value = [] ∨
    ∃ before place after, r.places importer = before ++ place :: after ∧
      (∀ earlier ∈ before, ∀ k ∈ reference.candidates, ¬ Holds fs earlier k) ∧
      (∃ k ∈ reference.candidates, Holds fs place k) ∧
      (((r.resolve fs importer reference).value).map Match.canonical).Nodup ∧
      ∃ numbers : List Nat, numbers.Pairwise (· < ·) ∧
        (∀ i, i ∈ numbers ↔ Counts fs place reference.candidates i) ∧
        ((r.resolve fs importer reference).value).map some =
          numbers.map fun i => reference.candidates[i]?.map (·.matchAt place) := by
  by_cases none_found : (r.resolve fs importer reference).value = []
  · refine .inl ⟨fun place hplace k hk holds => ?_, none_found⟩
    obtain ⟨m, hm, -⟩ := canonical_mem_matchesIn hk holds
    have hlist : matchesIn fs place.1 place.2 reference.candidates ∈
        (r.places importer).map fun place => matchesIn fs place.1 place.2 reference.candidates :=
      List.mem_map_of_mem hplace
    rw [resolve_eq, firstAny, Option.getD_eq_iff] at none_found
    rcases none_found with found | ⟨missing, -⟩
    · simpa using List.find?_some found
    · have hempty := List.find?_eq_none.1 missing _ hlist
      rw [Bool.not_eq_true, Bool.not_eq_false', List.isEmpty_iff] at hempty
      rw [hempty] at hm
      cases hm
  · rw [resolve_eq] at none_found ⊢
    obtain ⟨befores, afters, hlists, hbefores⟩ := firstAny_ne_nil none_found
    obtain ⟨before, rest, hplaces, hbefore, hrest⟩ := List.map_eq_append_iff.1 hlists
    obtain ⟨place, after, rfl, hplace, -⟩ := List.map_eq_cons_iff.1 hrest
    rw [← hplace] at none_found ⊢
    refine .inr ⟨before, place, after, hplaces, fun earlier hearlier => ?_,
      exists_holds none_found, nodup_matchesIn _, matchesIn_counts _⟩
    refine matchesIn_eq_nil.1 (hbefores _ ?_)
    rw [← hbefore]
    exact List.mem_map_of_mem hearlier

end Resolver

end ScriptBundle
