import ScriptBundle.Proofs.FileSystem.Linkless

namespace ScriptBundle

namespace FileSystem

variable (fs : FileSystem)

/-- A name leads from a directory to a place, and not through a link. -/
inductive Enters (place : Location) : String → Location → Prop
  | point : Enters place "." place
  | up : Enters place ".." place.dropLast
  | down {name : String} {entry : Entry} : name ≠ "." → name ≠ ".." → name.utf8ByteSize ≤ 255 →
      fs.find? (place ++ [name]) = some entry → (∀ text, entry ≠ .link text) →
      Enters place name (place ++ [name])

/-- Names lead from a place to another one, through some number of links. -/
inductive Leads : Nat → Location → List String → Location → Prop
  | here {place : Location} : Leads 0 place [] place
  | on {links : Nat} {place next target : Location} {name : String} {rest : List String} :
      fs.find? place = some .directory → fs.Enters place name next →
      Leads links next rest target → Leads links place (name :: rest) target
  | across {links : Nat} {place target : Location} {name text : String} {rest : List String} :
      fs.find? place = some .directory → name ≠ "." → name ≠ ".." → name.utf8ByteSize ≤ 255 →
      fs.find? (place ++ [name]) = some (.link text) →
      Leads links (if Path.isAbsolute text then [] else place) (names text ++ rest) target →
      Leads (links + 1) place (name :: rest) target

variable {fs} {links more : Nat} {place next target : Location} {name text : String}
  {front rest : List String}

theorem Enters.eq_of_point (h : fs.Enters place "." next) : next = place := by
  generalize hn : "." = name at h
  cases h with
  | point => rfl
  | up => exact absurd hn (by decide)
  | down hp => exact absurd hn.symm hp

/-! ## Walks and where names lead -/

theorem walkAcross_on {across : Location → String → List String → Except IoError Location}
    (hd : fs.find? place = some .directory) (h : fs.Enters place name next) :
    fs.walkAcross {} across place (name :: rest) = fs.walkAcross {} across next rest := by
  rw [walkAcross, hd]
  cases h with
  | point => rfl
  | up => rfl
  | @down _ entry hp hu hs hf hlink =>
    cases entry with
    | link text => exact absurd rfl (hlink text)
    | file | directory | device => simp [hp, hu, Nat.not_lt.2 hs, hf]

theorem walkAcross_link {across : Location → String → List String → Except IoError Location}
    (hd : fs.find? place = some .directory) (hp : name ≠ ".") (hu : name ≠ "..")
    (hs : name.utf8ByteSize ≤ 255) (hf : fs.find? (place ++ [name]) = some (.link text)) :
    fs.walkAcross {} across place (name :: rest) = across place text rest := by
  simp [walkAcross, hd, hp, hu, Nat.not_lt.2 hs, hf]

/-- What a walk must have done that ends well: its first name leads on, or it is a link. -/
theorem walkAcross_eq_ok {across : Location → String → List String → Except IoError Location}
    (h : fs.walkAcross {} across place (name :: rest) = .ok target) :
    fs.find? place = some .directory ∧
      ((∃ next, fs.Enters place name next ∧ fs.walkAcross {} across next rest = .ok target) ∨
        ∃ text, name ≠ "." ∧ name ≠ ".." ∧ name.utf8ByteSize ≤ 255 ∧
          fs.find? (place ++ [name]) = some (.link text) ∧ across place text rest = .ok target) := by
  rw [walkAcross] at h
  split at h
  · rename_i hd
    refine ⟨hd, ?_⟩
    split at h
    · rename_i hp
      exact .inl ⟨place, hp ▸ .point, h⟩
    · rename_i hp
      split at h
      · rename_i hu
        exact .inl ⟨place.dropLast, hu ▸ .up, h⟩
      · rename_i hu
        split at h
        · cases h
        · rename_i hs
          split at h
          · rename_i text hf
            exact .inr ⟨text, hp, hu, Nat.not_lt.1 hs, hf, by simpa using h⟩
          · rename_i entry hlink hf
            refine .inl ⟨place ++ [name], .down hp hu (Nat.not_lt.1 hs) hf ?_, h⟩
            intro text he
            exact hlink text he
          · simp at h
  all_goals cases h

theorem leads_of_walkAcross {across : Location → String → List String → Except IoError Location}
    (through : ∀ place text rest target, across place text rest = .ok target → ∃ used < links,
      fs.Leads used (if Path.isAbsolute text then [] else place) (names text ++ rest) target)
    (h : fs.walkAcross {} across place rest = .ok target) :
    ∃ used ≤ links, fs.Leads used place rest target := by
  induction rest generalizing place with
  | nil =>
    cases h
    exact ⟨0, Nat.zero_le _, .here⟩
  | cons name rest ih =>
    obtain ⟨hd, ⟨next, henter, h⟩ | ⟨text, hp, hu, hs, hf, h⟩⟩ := walkAcross_eq_ok h
    · obtain ⟨used, le, hlead⟩ := ih h
      exact ⟨used, le, .on hd henter hlead⟩
    · obtain ⟨used, lt, hlead⟩ := through place text rest target h
      exact ⟨used + 1, lt, .across hd hp hu hs hf hlead⟩

theorem leads_of_walk (h : fs.walk {} links place rest = .ok target) :
    ∃ used ≤ links, fs.Leads used place rest target := by
  induction links generalizing place rest target with
  | zero =>
    apply leads_of_walkAcross _ h
    intro place text rest target h
    cases h
  | succ links ih =>
    apply leads_of_walkAcross _ h
    intro place text rest target h
    obtain ⟨used, le, hlead⟩ := ih h
    exact ⟨used, Nat.lt_succ_of_le le, hlead⟩

/-- A walk ends where the names lead, if it may go through as many links. -/
theorem Leads.walk (h : fs.Leads links place rest target) (most : Nat) :
    fs.walk {} most place rest = if links ≤ most then .ok target else .error .tooManyLinks := by
  induction h generalizing most with
  | here => cases most <;> rfl
  | on hd henter _ ih =>
    rw [← ih]
    cases most <;> exact walkAcross_on hd henter
  | across hd hp hu hs hf _ ih =>
    cases most with
    | zero => exact walkAcross_link hd hp hu hs hf
    | succ most =>
      rw [FileSystem.walk, walkAcross_link hd hp hu hs hf, ih]
      simp only [Nat.succ_le_succ_iff]

theorem walk_eq_ok : fs.walk {} links place rest = .ok target ↔
    ∃ used ≤ links, fs.Leads used place rest target := by
  constructor
  · exact leads_of_walk
  · rintro ⟨used, le, h⟩
    rw [h.walk, if_pos le]

/-! ## Walks one after the other -/

theorem Leads.append {middle : Location} (h : fs.Leads links place front middle)
    (h' : fs.Leads more middle rest target) : fs.Leads (links + more) place (front ++ rest) target := by
  induction h with
  | here => simpa using h'
  | on hd henter _ ih => exact .on hd henter (ih h')
  | @across links place target name text rest hd hp hu hs hf _ ih =>
    rw [Nat.succ_add, List.cons_append]
    apply Leads.across hd hp hu hs hf
    rw [← List.append_assoc]
    exact ih h'

theorem Leads.split (h : fs.Leads links place (front ++ rest) target) :
    ∃ used left middle, used + left = links ∧ fs.Leads used place front middle ∧
      fs.Leads left middle rest target := by
  generalize hall : front ++ rest = all at h
  induction h generalizing front with
  | here =>
    obtain ⟨rfl, rfl⟩ := List.append_eq_nil_iff.1 hall
    exact ⟨0, 0, _, rfl, .here, .here⟩
  | @on links place next target name others hd henter hlead ih =>
    cases front with
    | nil =>
      rw [List.nil_append] at hall
      subst hall
      exact ⟨0, links, place, Nat.zero_add _, .here, .on hd henter hlead⟩
    | cons first front =>
      rw [List.cons_append, List.cons.injEq] at hall
      obtain ⟨rfl, rfl⟩ := hall
      obtain ⟨used, left, middle, hsum, hfront, hrest⟩ := ih rfl
      exact ⟨used, left, middle, hsum, .on hd henter hfront, hrest⟩
  | @across links place target name text others hd hp hu hs hf hlead ih =>
    cases front with
    | nil =>
      rw [List.nil_append] at hall
      subst hall
      exact ⟨0, links + 1, place, Nat.zero_add _, .here, .across hd hp hu hs hf hlead⟩
    | cons first front =>
      rw [List.cons_append, List.cons.injEq] at hall
      obtain ⟨rfl, rfl⟩ := hall
      obtain ⟨used, left, middle, hsum, hfront, hrest⟩ := ih (List.append_assoc _ _ _)
      exact ⟨used + 1, left, middle, by omega, .across hd hp hu hs hf hfront, hrest⟩

/-- Names lead to one place only. -/
theorem Leads.unique {other : Location} (h : fs.Leads links place rest target)
    (h' : fs.Leads more place rest other) : target = other := by
  have ends := h.walk (links + more)
  rw [h'.walk, if_pos (Nat.le_add_left _ _), if_pos (Nat.le_add_right _ _)] at ends
  exact (Except.ok.inj ends).symm

/-! ## Places that stand -/

/-- A file system as there are: entries have file names for their names, and the working directory
is one. -/
structure Proper (fs : FileSystem) : Prop where
  named : ∀ e ∈ fs.entries, ∀ name ∈ e.1, LogicalPath.Ordinary name ∧ '/' ∉ name.toList ∧
    '\x00' ∉ name.toList ∧ name.utf8ByteSize ≤ 255
  working : ∀ above, above <+: fs.workingDirectory → fs.find? above = some .directory

/-- A place that is there, through directories only. -/
def Stands (fs : FileSystem) (place : Location) : Prop :=
  ∀ above name, above ++ [name] <+: place → fs.find? above = some .directory ∧
    ∃ entry, fs.find? (above ++ [name]) = some entry ∧ ∀ text, entry ≠ .link text

theorem Stands.of_prefix {above : Location} (h : fs.Stands place) (hp : above <+: place) :
    fs.Stands above :=
  fun front name hfront => h front name (hfront.trans hp)

theorem Stands.enters (h : fs.Stands place) (hd : fs.find? place = some .directory)
    (henter : fs.Enters place name next) : fs.Stands next := by
  cases henter with
  | point => exact h
  | up => exact h.of_prefix (List.dropLast_prefix place)
  | @down _ entry hp hu hs hf hlink =>
    intro above last hpre
    rcases List.prefix_concat_iff.1 hpre with hall | hpre
    · obtain ⟨rfl, hlast⟩ := List.append_inj' hall rfl
      cases hlast
      exact ⟨hd, entry, hf, hlink⟩
    · exact h above last hpre

theorem Leads.stands (h : fs.Leads links place rest target) (hs : fs.Stands place) :
    fs.Stands target := by
  induction h with
  | here => exact hs
  | on hd henter _ ih => exact ih (hs.enters hd henter)
  | @across links place target name text rest _ _ _ _ _ _ ih =>
    apply ih
    split
    · exact hs.of_prefix List.nil_prefix
    · exact hs

theorem Proper.stands (proper : fs.Proper) : fs.Stands fs.workingDirectory := by
  intro above name hpre
  constructor
  · exact proper.working above ((List.prefix_append above [name]).trans hpre)
  · exact ⟨.directory, proper.working _ hpre, nofun⟩

theorem Proper.stands_start (proper : fs.Proper) (path : String) : fs.Stands (fs.start path) := by
  unfold start
  split
  · exact proper.stands.of_prefix List.nil_prefix
  · exact proper.stands

theorem Proper.named_of_find? (proper : fs.Proper) {entry : Entry} (h : fs.find? place = some entry)
    (hn : name ∈ place) : LogicalPath.Ordinary name ∧ '/' ∉ name.toList ∧
      '\x00' ∉ name.toList ∧ name.utf8ByteSize ≤ 255 := by
  have some : place ≠ [] := List.ne_nil_of_mem hn
  rw [find?, if_neg some, Option.map_eq_some_iff] at h
  obtain ⟨e, he, -⟩ := h
  have hplace : e.1 = place := by simpa using List.find?_some he
  exact proper.named e (List.mem_of_find?_eq_some he) name (hplace ▸ hn)

theorem Stands.named (h : fs.Stands place) (proper : fs.Proper) (hn : name ∈ place) :
    LogicalPath.Ordinary name ∧ '/' ∉ name.toList ∧ '\x00' ∉ name.toList ∧
      name.utf8ByteSize ≤ 255 := by
  obtain ⟨above, below, rfl⟩ := List.append_of_mem hn
  have hpre : above ++ [name] <+: above ++ name :: below := by simp
  obtain ⟨-, entry, hf, -⟩ := h above name hpre
  exact proper.named_of_find? hf (by simp)

/-- The names of a place that stands lead there through no link. -/
theorem Stands.leads (h : fs.Stands place) (proper : fs.Proper) {above : Location}
    (hplace : above ++ rest = place) : fs.Leads 0 above rest place := by
  induction rest generalizing above with
  | nil =>
    rw [List.append_nil] at hplace
    subst hplace
    exact .here
  | cons name rest ih =>
    have hpre : above ++ [name] <+: place := by simp [← hplace]
    obtain ⟨hd, entry, hf, hlink⟩ := h above name hpre
    have member : name ∈ place := by simp [← hplace]
    obtain ⟨ordinary, -, -, short⟩ := h.named proper member
    apply Leads.on hd (.down ordinary.2.1 ordinary.2.2 short hf hlink)
    apply ih
    simpa using hplace

end FileSystem

end ScriptBundle
