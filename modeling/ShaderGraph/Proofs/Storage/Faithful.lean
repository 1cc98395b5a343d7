import ShaderGraph.Proofs.Storage.Walking

/-!
# Disks that keep what is written

A disk is faithful if what was written to a file is read back from it, and nothing else changes what
is read: neither reading nor a write that is refused. The disk in memory is faithful. The walk of a
path passes folders and links only, and a file is made in a place where there is none of these, so
the same path leads to the new file by the same steps.
-/

set_option autoImplicit false

namespace ShaderGraph

/-- Whether a disk reads back what was written to it last. -/
structure Disk.Faithful {σ : Type} (disk : Disk (StateM σ)) : Prop where
  /-- Reading changes nothing. -/
  read_keeps : ∀ path state, ((disk.read path).run state).2 = state
  /-- What was written is read back. -/
  read_written : ∀ path content state, ((disk.write path content).run state).1 = .ok () →
    ((disk.read path).run ((disk.write path content).run state).2).1 = .ok content
  /-- A write that is refused changes nothing that is read. -/
  read_refused : ∀ path content state error,
    ((disk.write path content).run state).1 = .error error →
    ∀ other, ((disk.read other).run ((disk.write path content).run state).2).1 =
      ((disk.read other).run state).1

/-- The place where a walk ends that a file can be written to. -/
def WalkEnd.filePlace? : WalkEnd → Option Place
  | .found place (.file _) | .vacant place _ => some place
  | _ => none

namespace FileTree

variable {tree : FileTree} {place other : Place} {entry : FileEntry} {content : ByteArray}

/-! ## What stands where -/

/-- Leaving out the entries at one place does not change what is found at another. -/
theorem lookup_filter_ne (entries : List (Place × FileEntry)) (hne : other ≠ place) :
    (entries.filter fun (p, _) => p != place).lookup other = entries.lookup other := by
  induction entries with
  | nil => rfl
  | cons head rest ih =>
    obtain ⟨p, e⟩ := head
    by_cases hp : p = place
    · have hother : (other == p) = false := by simpa [hp] using hne
      rw [List.filter_cons_of_neg (by simp [hp]), ih, List.lookup_cons, hother]
    · rw [List.filter_cons_of_pos (by simpa using hp), List.lookup_cons, List.lookup_cons, ih]

/-- What is put at a place is found there. -/
theorem found_put_self (hplace : place ≠ []) :
    entry? (tree.put place (some entry)) place = some entry := by
  have hnot : place.isEmpty = false := List.isEmpty_eq_false_iff.mpr hplace
  unfold entry? put
  simp [hnot]

/-- What is put at a place does not change what is found at another. -/
theorem found_put_of_ne (hne : other ≠ place) :
    entry? (tree.put place (some entry)) other = tree.entry? other := by
  have hother : (other == place) = false := beq_eq_false_iff_ne.mpr hne
  unfold entry? put
  split
  · rfl
  · show List.lookup other ((place, entry) :: _) = _
    rw [List.lookup_cons, hother]
    exact lookup_filter_ne tree.entries hne

/-! ## Walking to a file that was made -/

/-- Where a file can be written to, there is a file or nothing. -/
theorem Walks.vacant_or_file {purpose : WalkUse} {links : Nat} {start : Place}
    {segments : List String} {last : WalkEnd} (hwalk : tree.Walks purpose links start segments last)
    (hplace : last.filePlace? = some place) :
    tree.entry? place = none ∨ ∃ old, tree.entry? place = some (.file old) := by
  induction hwalk with
  | done links start =>
    cases hstart : tree.entry? start with
    | none => simp [hstart, WalkEnd.filePlace?] at hplace
    | some e => cases e <;> simp_all [WalkEnd.filePlace?]
  | here _ _ _ ih => exact ih hplace
  | up _ _ ih => exact ih hplace
  | vacant _ _ hnone =>
    obtain rfl := Option.some.inj hplace
    exact .inl hnone
  | entry e _ _ hsome => cases e <;> simp_all [WalkEnd.filePlace?]
  | link hfolder hstep hsome hentry hrest ih => exact ih hplace
  | into e hfolder hstep hsome hentry hnot hrest ih => exact ih hplace

/-- Where a file can be written to, there is no folder and no link. -/
theorem ne_of_vacant_or_file
    (hfree : tree.entry? place = none ∨ ∃ old, tree.entry? place = some (.file old))
    (hother : tree.entry? other = some entry) (hnot : ∀ old, entry ≠ .file old) :
    other ≠ place := by
  rintro rfl
  rcases hfree with hnone | ⟨old, hold⟩
  · rw [hnone] at hother
    cases hother
  · rw [hold] at hother
    exact hnot old (Option.some.inj hother).symm

/-- The step over the name of a file that is made is one over a name that is used. -/
theorem IsStep.use {segment : String} {rest : List String}
    (hstep : IsStep .makeFile segment rest) : IsStep .use segment rest :=
  ⟨hstep.not_here, hstep.not_up, by simp, hstep.fits⟩

/-- **A file is found where it was made**: the walk that ended where it was made ends there again,
at the file. -/
theorem Walks.put {links : Nat} {start : Place} {segments : List String} {last : WalkEnd}
    (hwalk : tree.Walks .makeFile links start segments last)
    (hplace : last.filePlace? = some place) :
    (tree.put place (some (.file content))).Walks .use links start segments
      (.found place (.file content)) := by
  have hfree := hwalk.vacant_or_file hplace
  have hroot : place ≠ [] :=
    (ne_of_vacant_or_file hfree (rfl : tree.entry? [] = some .folder) (by simp)).symm
  have hself : entry? (tree.put place (some (.file content))) place = some (.file content) :=
    found_put_self hroot
  have hdone : ∀ links, (tree.put place (some (.file content))).Walks .use links place []
      (.found place (.file content)) := by
    intro links
    have hend : (tree.put place (some (.file content))).Walks .use links place []
        (.found place
          ((FileTree.entry? (tree.put place (some (.file content))) place).getD .folder)) :=
      .done links place
    rwa [hself] at hend
  -- the steps of the walk are folders and links, so none of them is the place of the file
  have hfolder : ∀ other, tree.entry? other = some .folder →
      entry? (tree.put place (some (.file content))) other = some .folder := fun other hother =>
    (found_put_of_ne (ne_of_vacant_or_file hfree hother (by simp))).trans hother
  have hlink : ∀ other target, tree.entry? other = some (.link target) →
      entry? (tree.put place (some (.file content))) other = some (.link target) :=
    fun other target hother =>
      (found_put_of_ne (ne_of_vacant_or_file hfree hother (by simp))).trans hother
  have hused : ∀ rest : List String, ¬(WalkUse.use = .entry ∧ rest.all String.isEmpty = true) := by
    simp
  induction hwalk with
  | done links start =>
    have hend : start = place := by
      cases hstart : tree.entry? start with
      | none => simp [hstart, WalkEnd.filePlace?] at hplace
      | some e => cases e <;> simp_all [WalkEnd.filePlace?]
    rw [hend]
    exact hdone links
  | here hstart hhere _ ih => exact .here (hfolder _ hstart) hhere (ih hplace)
  | up hstart _ ih => exact .up (hfolder _ hstart) (ih hplace)
  | @vacant links start segment rest hstart hstep hnone hlast =>
    obtain rfl := Option.some.inj hplace
    -- no separator may stand behind the name of a file to be made, so nothing does
    have hrest : rest = [] := by
      by_contra hne
      exact hstep.not_folder ⟨rfl, hlast, by simpa using hne⟩
    subst hrest
    exact .into _ (hfolder _ hstart) hstep.use hself (hused _) (by simp) (hdone links)
  | entry _ _ _ _ hentry => exact absurd hentry.1 (by decide)
  | link hstart hstep hsome _ _ ih =>
    exact .link (hfolder _ hstart) hstep.use (hlink _ _ hsome) (hused _) (ih hplace)
  | @into e links start segment rest last hstart hstep hsome hentry hnot hrest ih =>
    by_cases hnext : start ++ [segment] = place
    · have hmade : entry? (tree.put place (some (.file content))) (start ++ [segment]) =
          some (.file content) := by rw [hnext, hself]
      exact .into _ (hfolder _ hstart) hstep.use hmade (hused _) (by simp) (ih hplace)
    · exact .into e (hfolder _ hstart) hstep.use ((found_put_of_ne hnext).trans hsome) (hused _)
        hnot (ih hplace)

/-- The path of a file that was made leads to it. -/
theorem walkPath_put {path : Path} {last : WalkEnd}
    (hwalk : tree.walkPath .makeFile path = .ok last) (hplace : last.filePlace? = some place) :
    (tree.put place (some (.file content))).walkPath .use path =
      .ok (.found place (.file content)) := by
  unfold walkPath at hwalk ⊢
  split_ifs at hwalk ⊢ with hlength
  unfold walkAny at hwalk ⊢
  split at hwalk
  · cases hwalk
  · split_ifs at hwalk ⊢ with hempty
    exact ((walk_eq_ok_iff.mp hwalk).put hplace).walk_eq

/-- A file is written at the place where the walk of its path ends. -/
theorem write_eq_ok_iff {path : Path} {written : FileTree} :
    tree.write path content = .ok written ↔ ∃ last place,
      tree.walkPath .makeFile path = .ok last ∧ last.filePlace? = some place ∧
        written = tree.put place (some (.file content)) := by
  unfold write
  cases tree.walkPath .makeFile path with
  | error e => simp [bind, Except.bind]
  | ok last =>
    simp only [bind, Except.bind, Except.ok.injEq]
    cases last with
    | found place entry =>
      cases entry <;> simp [WalkEnd.filePlace?, eq_comm]
    | vacant place folderOnly => simp [WalkEnd.filePlace?, eq_comm]

/-- A write goes through as it does on the tree; a tree that refuses it stays as it is. -/
theorem run_write (tree : FileTree) (path : Path) (content : ByteArray) :
    (disk.write path content).run tree = (match tree.write path content with
      | .ok written => (.ok (), written)
      | .error error => (.error error, tree)) := rfl

/-- What has been written to a file is read from it. -/
theorem read_write {path : Path} {written : FileTree}
    (hwrite : tree.write path content = .ok written) : written.read path = .ok content := by
  obtain ⟨last, place, hwalk, hplace, rfl⟩ := write_eq_ok_iff.mp hwrite
  unfold read
  rw [walkPath_put hwalk hplace]
  rfl

/-- **The disk in memory is faithful.** -/
theorem disk_faithful : disk.Faithful where
  read_keeps _ _ := rfl
  read_written path content tree hwritten := by
    rw [run_write] at hwritten ⊢
    cases hwrite : tree.write path content with
    | error e =>
      rw [hwrite] at hwritten
      cases hwritten
    | ok written => exact read_write hwrite
  read_refused path content tree error hrefused other := by
    rw [run_write] at hrefused ⊢
    cases hwrite : tree.write path content with
    | error e => rfl
    | ok written =>
      rw [hwrite] at hrefused
      cases hrefused

end FileTree

end ShaderGraph
