import Mathlib.Data.List.Nodup
import Mathlib.Data.List.Perm.Subperm
import ScriptBundle.Proofs.Closure.Reach
import ScriptBundle.Proofs.Import.Candidates

namespace ScriptBundle

open LogicalPath

namespace Collector

/-- A module whose name is no longer than the path of its file allows. -/
def Fits (canonical absolute : String) : Prop :=
  canonical.utf8ByteSize < 4096 ∧ ∃ above, Path.parent? absolute = some above ∧
    weight (segments (directory canonical)) ≤ weight (segments above)

theorem size_of_isFile {fs : FileSystem} {path : String} (h : fs.isFile path = true) :
    path.utf8ByteSize < 4096 := by
  apply Nat.lt_of_not_le
  intro hlong
  have hloc : ∀ place, fs.resolve path ≠ .ok place := by
    intro place
    unfold FileSystem.resolve FileSystem.locate
    split
    · nofun
    · split <;> nofun
  unfold FileSystem.isFile FileSystem.entry? at h
  cases hr : fs.resolve path with
  | ok place => exact hloc place hr
  | error e => simp [hr] at h

theorem weight_congr {l m : List String} (h : l.filter Path.counts = m.filter Path.counts) :
    weight l = weight m := by
  rw [← weight_filter, h, weight_filter]

theorem weight_directory (path : String) :
    weight (segments (directory path)) = weight (segments path).dropLast := by
  rw [segments_directory]
  split
  · rename_i h
    rw [h]
    decide
  · rfl

theorem weight_directory_below (base path : String) {init : List String} {last : String}
    (hs : segments path = init ++ [last]) (hl : last ≠ "..") :
    weight (segments (directory (below base path))) ≤ weight (segments base ++ init) := by
  rw [weight_directory, segments_below]
  split
  · simp
  · rw [hs, ← List.append_assoc]
    exact weight_dropLast_normalSegments _ hl

/-- A place is good for a candidate if it is a root, or if its logical name weighs no more than its
path and the candidate is looked for below it. -/
def Suits (place : String × String) (k : Candidate) : Prop :=
  place.2 = "" ∨
    Path.isAbsolute k.fileName = false ∧ weight (segments place.2) ≤ weight (segments place.1)

theorem segments_location {place : String × String} {k : Candidate} (h : Suits place k) :
    ∃ above, segments (Path.join place.1 k.fileName) = above ++ segments k.fileName ∧
      weight (segments place.2) ≤ weight above := by
  have htop : weight (segments "") = 0 := by decide
  cases ha : Path.isAbsolute k.fileName with
  | true =>
    refine ⟨[], by simp [Path.join, ha], ?_⟩
    rcases h with hb | ⟨hr, -⟩
    · rw [hb, htop]
      exact Nat.zero_le _
    · simp [ha] at hr
  | false =>
    obtain ⟨above, hc, hj⟩ := Path.segments_join place.1
    refine ⟨above, hj _ ha, ?_⟩
    rw [weight_congr hc]
    rcases h with hb | ⟨-, hb⟩
    · rw [hb, htop]
      exact Nat.zero_le _
    · exact hb

theorem fits_of_holds {fs : FileSystem} {place : String × String} {k : Candidate}
    {init : List String} {last : String} (h : Resolver.Holds fs place k)
    (hs : segments k.path = init ++ [last]) (hl : last ≠ "..") (suits : Suits place k) :
    Fits (below place.2 k.path) (Path.join place.1 k.fileName) := by
  obtain ⟨above, hseg, hw⟩ := segments_location suits
  rw [segments_fileName hs, ← List.append_assoc] at hseg
  obtain ⟨directory, hp, hd⟩ := Path.parent?_eq_some hseg (counts_file last)
  constructor
  · have hsize := size_below_le place.2 k.path
    have hnormal := weight_normalSegments (segments place.2 ++ segments k.path)
    have hlast := weight_singleton_le last
    have hweight := weight_segments_le (Path.join place.1 k.fileName)
    have hext : (last ++ "." ++ sourceExtension).utf8ByteSize = last.utf8ByteSize + 3 := by
      simp [show ".".utf8ByteSize = 1 by decide, show sourceExtension.utf8ByteSize = 2 by decide]
    rw [hseg, weight_append, weight_append, weight_singleton_of_counts (counts_file last),
      hext] at hweight
    rw [hs] at hsize
    rw [hs, weight_append, weight_append] at hnormal
    have hfits := size_of_isFile h
    omega
  · refine ⟨directory, hp, ?_⟩
    have hb := weight_directory_below place.2 k.path hs hl
    rw [segments_eq directory, weight_congr hd, weight_append]
    rw [weight_append] at hb
    omega

variable {c : Collector}

/-- What is found from a place that fits, by a path that is not absolute, fits as well. Without an
importer any path will do. -/
theorem fits_of_found {importer : Option Record} {reference : Reference} {m : Match}
    (h : m ∈ c.found importer reference)
    (words : ∀ item ∈ reference.items, ∃ word : Python.Word, item = word.text)
    (importers : ∀ r, importer = some r → Fits r.canonical r.absolute ∧
      ∃ first rest, segments reference.path = first :: rest ∧ first ≠ "") :
    Fits m.canonical m.absolute := by
  obtain ⟨place, hplace, k, hk, hh, rfl⟩ := Resolver.mem_resolve h
  obtain ⟨init, last, hs, -, hl⟩ := candidate_last words hk
  refine fits_of_holds hh hs hl ?_
  rcases Resolver.mem_places.1 hplace with ⟨i, directory, hi, hp, rfl⟩ | ⟨root, -, rfl⟩
  · obtain ⟨⟨-, above, ha, hw⟩, first, rest, hf, hne⟩ := importers i hi
    obtain rfl : directory = above := by simpa [hp] using ha
    obtain ⟨rest, hk⟩ := candidate_first words hk hf
    exact .inr ⟨isAbsolute_fileName hs hk hne, hw⟩
  · exact .inl rfl

variable {entry source : String} {names : List String}

theorem Asks.words {records : List Record} {importer : Option Record} {reference : Reference}
    (h : Asks entry source names records importer reference) :
    ∀ item ∈ reference.items, ∃ word : Python.Word, item = word.text := by
  cases h with
  | entry hf | record _ hf =>
    obtain ⟨imports, hi, hr, -⟩ := hf
    exact (spelled_of_extract hi _ hr).words
  | name => simp [Reference.ofDotted]

theorem Reached.fits {records : List Record} {m : Match}
    (h : c.Reached entry source names records m)
    (hr : ∀ r ∈ records, Fits r.canonical r.absolute) : Fits m.canonical m.absolute := by
  obtain ⟨importer, reference, asks, hm⟩ := h
  refine fits_of_found hm asks.words ?_
  rintro r rfl
  cases asks with
  | record hin hf =>
    obtain ⟨imports, hi, href, -⟩ := hf
    exact ⟨hr _ hin, (spelled_of_extract hi _ href).first⟩

/-- Every record of a sound list fits: each is reached from those before it. -/
theorem Sound.fits {records : List Record} (h : c.Sound entry source names records) :
    ∀ r ∈ records, Fits r.canonical r.absolute :=
  h.induction fun _ _ _ _ before reached => reached.fits before

/-! ## Few short texts -/

/-- The number with given digits to the base 256, lowest first, and a one above them. -/
def number : List UInt8 → Nat
  | [] => 1
  | b :: rest => b.toNat + 256 * number rest

theorem number_pos (bytes : List UInt8) : 0 < number bytes := by
  induction bytes with
  | nil => decide
  | cons b rest ih =>
    unfold number
    omega

theorem number_lt (bytes : List UInt8) : number bytes < 2 * Nat.pow 256 bytes.length := by
  induction bytes with
  | nil => decide
  | cons b rest ih =>
    have hb := b.toNat_lt
    have hpow : Nat.pow 256 (rest.length + 1) = Nat.pow 256 rest.length * 256 := rfl
    simp only [number, List.length_cons]
    omega

theorem number_injective {l m : List UInt8} (h : number l = number m) : l = m := by
  induction l generalizing m with
  | nil =>
    cases m with
    | nil => rfl
    | cons b rest =>
      have := number_pos rest
      simp only [number] at h
      omega
  | cons a l ih =>
    cases m with
    | nil =>
      have := number_pos l
      simp only [number] at h
      omega
    | cons b m =>
      have := a.toNat_lt
      have := b.toNat_lt
      simp only [number] at h
      have hab : a = b := UInt8.toNat_inj.1 (by omega)
      have hlm : number l = number m := by omega
      rw [hab, ih hlm]

/-- There are fewer than `256 ^ k` distinct texts of fewer than `k` bytes. -/
theorem length_lt_pow {texts : List String} {k : Nat} (distinct : texts.Nodup)
    (short : ∀ t ∈ texts, t.utf8ByteSize < k) : texts.length < Nat.pow 256 k := by
  let code (t : String) : Nat := number t.toByteArray.data.toList
  have hcode : Function.Injective code := by
    intro s t h
    exact String.toByteArray_inj.1 (ByteArray.ext (Array.toList_inj.1 (number_injective h)))
  have hbound : texts.map code ⊆ List.range' 1 (Nat.pow 256 k - 1) := by
    intro n hn
    obtain ⟨t, ht, rfl⟩ := List.mem_map.1 hn
    have hlt : code t < 2 * Nat.pow 256 t.utf8ByteSize := number_lt t.toByteArray.data.toList
    have hpow : Nat.pow 256 (t.utf8ByteSize + 1) ≤ Nat.pow 256 k :=
      Nat.pow_le_pow_right (by decide) (short t ht)
    have hsucc : Nat.pow 256 (t.utf8ByteSize + 1) = Nat.pow 256 t.utf8ByteSize * 256 := rfl
    have hpos : 0 < code t := number_pos _
    rw [List.mem_range'_1]
    omega
  have hsub := List.Nodup.subperm (distinct.map hcode) hbound
  have hpos : 0 < Nat.pow 256 k := Nat.pow_pos (by decide)
  have hlen := hsub.length_le
  simp only [List.length_map, List.length_range'] at hlen
  omega

/-- In the middle of a walk there is room for one more record. -/
theorem Walking.room {registry : Registry} {stack : List (List Match)}
    (h : Walking c entry source names registry stack) : registry.size < capacity := by
  have short : ∀ path ∈ registry.paths, path.utf8ByteSize < 4096 := by
    intro path hp
    obtain ⟨r, hr, rfl⟩ := List.mem_map.1 hp
    exact (h.sound.fits r hr).1
  have hsize : registry.paths.length = registry.size := List.length_map _
  unfold capacity
  generalize 4096 = k at short ⊢
  exact hsize ▸ length_lt_pow h.distinct short

end Collector

end ScriptBundle
