import Mathlib.Data.List.Basic
import ShaderGraph.Proofs.Storage.Faithful
import ShaderGraph.Proofs.Storage.Path

/-!
# Where resolved paths lead

A path resolves to the place it leads to, written from the root. Folders and links change, so what a
resolved path leads to later need not be that place: it is exactly if the place is still there, with
folders on the way to it and no link, neither on the way nor at its end. The walk of a path only
ever stops at such places.
-/

set_option autoImplicit false

namespace ShaderGraph

/-- Whether a name can be that of an entry in a folder. -/
structure IsEntryName (name : String) : Prop where
  not_empty : name ≠ ""
  not_here : name ≠ "."
  not_up : name ≠ ".."
  no_separator : '/' ∉ name.toList
  no_nul : '\x00' ∉ name.toList
  length_le : name.utf8ByteSize ≤ FileTree.nameLimit

/-- A name is checked character by character. -/
instance (name : String) : Decidable (IsEntryName name) :=
  decidable_of_iff (name ≠ "" ∧ name ≠ "." ∧ name ≠ ".." ∧ '/' ∉ name.toList ∧
      '\x00' ∉ name.toList ∧ name.utf8ByteSize ≤ FileTree.nameLimit)
    ⟨fun ⟨h₁, h₂, h₃, h₄, h₅, h₆⟩ => ⟨h₁, h₂, h₃, h₄, h₅, h₆⟩,
      fun h => ⟨h.1, h.2, h.3, h.4, h.5, h.6⟩⟩

/-- Whether a place can be one in a tree of files. -/
def Place.Proper (place : Place) : Prop := ∀ name ∈ place, IsEntryName name

/-- A place is checked name by name. -/
instance (place : Place) : Decidable place.Proper :=
  inferInstanceAs (Decidable (∀ name ∈ place, IsEntryName name))

/-- The path from the root to a place. -/
def Path.ofPlace (place : Place) : Path := ⟨"/" ++ "/".intercalate place⟩

namespace Path

variable {place other : Place}

/-- The path of a place has its names behind a slash each. -/
theorem toList_ofPlace (hne : place ≠ []) : (ofPlace place).text.toList =
    ['/'].intercalate (([] : List Char) :: place.map String.toList) := by
  obtain ⟨name, rest, rfl⟩ := List.exists_cons_of_ne_nil hne
  simp [ofPlace, String.toList_intercalate, List.intercalate]

/-- The path of a place is cut into the names of the place. -/
theorem segments_ofPlace (hne : place ≠ []) (hplace : place.Proper) :
    (ofPlace place).segments = "" :: place := by
  have hparts : ∀ part ∈ ([] : List Char) :: place.map String.toList, '/' ∉ part := by
    refine List.forall_mem_cons.mpr ⟨List.not_mem_nil, List.forall_mem_map.mpr ?_⟩
    exact fun name hname => (hplace name hname).no_separator
  rw [segments, toList_ofPlace hne, List.splitOn_intercalate '/' hparts (List.cons_ne_nil _ _)]
  simp

/-- The steps of the path of a place are the names of the place. -/
theorem components_ofPlace (hplace : place.Proper) :
    (ofPlace place).components = .root :: place.map .name := by
  by_cases hne : place = []
  · subst hne
    decide
  have hsteps : place.filterMap step? = place.map .name := by
    refine List.filterMap_eq_map_iff_forall_eq_some.mpr fun name hname => ?_
    have hproper := hplace name hname
    unfold step?
    split
    · exact absurd rfl hproper.not_empty
    · exact absurd rfl hproper.not_here
    · exact absurd rfl hproper.not_up
    · rfl
  obtain ⟨name, rest, rfl⟩ := List.exists_cons_of_ne_nil hne
  rw [components, segments_ofPlace hne hplace]
  simp only [← hsteps]
  rfl

/-- The paths of different places are different. -/
theorem same_ofPlace_iff (hplace : place.Proper) (hother : other.Proper) :
    (ofPlace place).same (ofPlace other) = true ↔ place = other := by
  rw [same_iff, components_ofPlace hplace, components_ofPlace hother, List.cons_inj_right]
  exact List.map_inj_right fun _ _ => Component.name.inj

/-- What is in no part and not in the separator is not in the joined list. -/
theorem not_mem_intercalate {α : Type} {a : α} {separator : List α} {parts : List (List α)}
    (hseparator : a ∉ separator) (hparts : ∀ part ∈ parts, a ∉ part) :
    a ∉ separator.intercalate parts := by
  induction parts with
  | nil => simp
  | cons part parts ih =>
    obtain ⟨hpart, hrest⟩ := List.forall_mem_cons.mp hparts
    cases parts with
    | nil => simpa using hpart
    | cons next parts =>
      rw [List.intercalate_cons_cons, List.mem_append, List.mem_append]
      rintro ((ha | ha) | ha)
      · exact hpart ha
      · exact hseparator ha
      · exact ih hrest ha

/-- The path of a place with proper names has no fault. -/
theorem fault?_ofPlace (hne : place ≠ []) (hplace : place.Proper) :
    (ofPlace place).fault? = none := by
  have hnot : '\x00' ∉ (ofPlace place).text.toList := by
    rw [toList_ofPlace hne]
    refine not_mem_intercalate (by decide) ?_
    refine List.forall_mem_cons.mpr ⟨List.not_mem_nil, List.forall_mem_map.mpr ?_⟩
    exact fun name hname => (hplace name hname).no_nul
  refine if_neg ?_
  rwa [List.contains_iff_mem]

end Path

namespace FileTree

variable {tree : FileTree} {place : Place}

/-! ## Places that stand -/

/-- Whether there is something at a place that is no link, with folders on the way to it. -/
structure Stands (tree : FileTree) (place : Place) : Prop where
  folders : ∀ k < place.length, tree.entry? (place.take k) = some .folder
  entry : ∃ entry, tree.entry? place = some entry ∧ ∀ target, entry ≠ .link target

/-- The root stands in every tree. -/
theorem stands_root (tree : FileTree) : tree.Stands [] :=
  ⟨fun _ h => absurd h (Nat.not_lt_zero _), .folder, rfl, by simp⟩

/-- The folder around a place that stands does. -/
theorem Stands.dropLast (hplace : tree.Stands place) : tree.Stands place.dropLast := by
  by_cases hne : place = []
  · rw [hne]
    exact stands_root tree
  have hlength : 0 < place.length := List.length_pos_iff.mpr hne
  constructor
  · intro k hk
    rw [List.length_dropLast] at hk
    rw [List.dropLast_eq_take, List.take_take, Nat.min_eq_left (by omega)]
    exact hplace.folders k (by omega)
  · rw [List.dropLast_eq_take]
    exact ⟨.folder, hplace.folders _ (by omega), by simp⟩

/-- What is in a folder stands, if it is no link. -/
theorem Stands.append (hplace : tree.Stands place) (hfolder : tree.entry? place = some .folder)
    {name : String} {entry : FileEntry} (hentry : tree.entry? (place ++ [name]) = some entry)
    (hnot : ∀ target, entry ≠ .link target) : tree.Stands (place ++ [name]) := by
  refine ⟨?_, entry, hentry, hnot⟩
  intro k hk
  rw [List.length_append, List.length_singleton] at hk
  rw [List.take_append_of_le_length (by omega)]
  by_cases hlast : k = place.length
  · rw [hlast, List.take_length, hfolder]
  · exact hplace.folders k (by omega)

/-- The folders on the way to what stands in a folder, and that folder. -/
theorem Stands.folders_to {folder : Place} {name : String} (hplace : tree.Stands (folder ++ [name]))
    (k : Nat) (hk : k ≤ folder.length) : tree.entry? (folder.take k) = some .folder := by
  have hfolder := hplace.folders k (by rw [List.length_append, List.length_singleton]; omega)
  rwa [List.take_append_of_le_length hk] at hfolder

/-- **A walk ends where something stands**, if it starts at such a place and follows the last link,
too. -/
theorem Walks.stands {links : Nat} {start : Place} {segments : List String} {last : WalkEnd}
    (hwalk : tree.Walks .use links start segments last) (hstart : tree.Stands start)
    {entry : FileEntry} (hlast : last = .found place entry) : tree.Stands place := by
  induction hwalk with
  | done links start =>
    cases hlast
    exact hstart
  | here _ _ _ ih => exact ih hstart hlast
  | up _ _ ih => exact ih hstart.dropLast hlast
  | vacant => cases hlast
  | entry _ _ _ _ hentry => exact absurd hentry.1 (by decide)
  | link hfolder hstep hsome hentry hrest ih =>
    refine ih ?_ hlast
    split_ifs
    · exact stands_root tree
    · exact hstart
  | into _ hfolder _ hsome _ hnot _ ih => exact ih (hstart.append hfolder hsome hnot) hlast

/-- The step over the name of an entry, used as it is. -/
theorem isStep_use {name : String} (hname : IsEntryName name) (rest : List String) :
    IsStep .use name rest where
  not_here := not_or.mpr ⟨hname.not_empty, hname.not_here⟩
  not_up := hname.not_up
  not_folder := by simp
  fits := Nat.not_lt.mpr hname.length_le

/-- A name that is there, and no link, is walked to. -/
theorem walk_cons_of_some {links : Nat} {name : String} {rest : List String} {entry : FileEntry}
    (hname : IsEntryName name) (hfolder : tree.entry? place = some .folder)
    (hentry : tree.entry? (place ++ [name]) = some entry) (hnot : ∀ target, entry ≠ .link target) :
    tree.walk .use links place (name :: rest) = tree.walk .use links (place ++ [name]) rest := by
  rw [(isStep_use hname rest).walk_eq hfolder, hentry]
  cases entry with
  | link target => exact absurd rfl (hnot target)
  | _ => rfl

/-- At a name that is not there the walk ends. -/
theorem walk_cons_of_none {links : Nat} {name : String} {rest : List String}
    (hname : IsEntryName name) (hfolder : tree.entry? place = some .folder)
    (hvacant : tree.entry? (place ++ [name]) = none) :
    tree.walk .use links place (name :: rest) =
      if rest.all String.isEmpty then .ok (.vacant (place ++ [name]) (!rest.isEmpty))
      else .error .notFound := by
  rw [(isStep_use hname rest).walk_eq hfolder, hvacant]

/-- Folders that follow each other are walked through. -/
theorem walk_folders {links : Nat} {names rest : List String} (hnames : Place.Proper names)
    (hfolders : ∀ k ≤ names.length, tree.entry? (place ++ names.take k) = some .folder) :
    tree.walk .use links place (names ++ rest) = tree.walk .use links (place ++ names) rest := by
  induction names generalizing place with
  | nil => simp
  | cons name names ih =>
    obtain ⟨hname, hnames⟩ := List.forall_mem_cons.mp hnames
    have hfolder : tree.entry? place = some .folder := by simpa using hfolders 0 (Nat.zero_le _)
    have hnext : tree.entry? (place ++ [name]) = some .folder := by
      simpa using hfolders 1 (by simp)
    have hrest : ∀ k ≤ names.length,
        tree.entry? (place ++ [name] ++ names.take k) = some .folder := by
      intro k hk
      simpa using hfolders (k + 1) (by simpa using hk)
    rw [List.cons_append, walk_cons_of_some hname hfolder hnext (by simp), ih hnames hrest]
    simp

/-! ## Resolving paths -/

/-- Whether the names in a tree are names that entries can have, as they are on every disk. -/
structure Named (tree : FileTree) : Prop where
  current : Place.Proper tree.current
  entries : ∀ entry ∈ tree.entries, Place.Proper entry.1

/-- The places of a tree are finitely many, so their names can be checked. -/
instance (tree : FileTree) : Decidable tree.Named :=
  decidable_of_iff (Place.Proper tree.current ∧ ∀ entry ∈ tree.entries, Place.Proper entry.1)
    ⟨fun ⟨hcurrent, hentries⟩ => ⟨hcurrent, hentries⟩, fun h => ⟨h.current, h.entries⟩⟩

/-- What stands at a place of the tree has a proper name, and so has the root. -/
theorem Named.proper_of_entry? (htree : tree.Named) {entry : FileEntry}
    (hentry : tree.entry? place = some entry) : place.Proper := by
  unfold entry? at hentry
  split_ifs at hentry with hempty
  · rw [List.isEmpty_iff.mp hempty]
    exact List.forall_mem_nil _
  · obtain ⟨before, after, hentries, -⟩ := List.lookup_eq_some_iff.mp hentry
    exact htree.entries (place, entry) (by simp [hentries])

/-- The walk of a path in a tree ends where names are proper. -/
theorem Walks.proper (htree : tree.Named) {purpose : WalkUse} {links : Nat} {start : Place}
    {segments : List String} {last : WalkEnd} (hwalk : tree.Walks purpose links start segments last)
    (hstart : start.Proper) {entry : FileEntry} (hlast : last = .found place entry) :
    place.Proper := by
  induction hwalk with
  | done links start =>
    cases hlast
    exact hstart
  | here _ _ _ ih => exact ih hstart hlast
  | up _ _ ih => exact ih (fun name hname => hstart name (List.dropLast_subset _ hname)) hlast
  | vacant => cases hlast
  | entry _ _ _ hsome =>
    obtain ⟨rfl, rfl⟩ := WalkEnd.found.inj hlast
    exact htree.proper_of_entry? hsome
  | link hfolder hstep hsome hentry hrest ih =>
    refine ih ?_ hlast
    split_ifs
    · exact List.forall_mem_nil _
    · exact hstart
  | into e hfolder hstep hsome hentry hnot hrest ih => exact ih (htree.proper_of_entry? hsome) hlast

/-- A path is resolved exactly if its walk finds an entry, and then to the place of that entry. -/
theorem resolve_eq_ok_iff {path resolved : Path} : tree.resolve path = .ok resolved ↔
    ∃ place entry, tree.walkAny .use path = .ok (.found place entry) ∧
      resolved = .ofPlace place := by
  unfold resolve
  cases tree.walkAny .use path with
  | error error => simp [bind, Except.bind]
  | ok last => cases last <;> simp [bind, Except.bind, Path.ofPlace, eq_comm]

/-- What a path resolves to is the path of a place with proper names. -/
theorem Named.exists_place (htree : tree.Named) {path resolved : Path}
    (hresolved : tree.resolve path = .ok resolved) :
    ∃ place : Place, place.Proper ∧ resolved = .ofPlace place := by
  obtain ⟨place, entry, hwalk, rfl⟩ := resolve_eq_ok_iff.mp hresolved
  refine ⟨place, ?_, rfl⟩
  have hstart : Place.Proper (tree.start path.text) := by
    unfold start
    split_ifs
    · exact List.forall_mem_nil _
    · exact htree.current
  unfold walkAny at hwalk
  split at hwalk
  · cases hwalk
  · split_ifs at hwalk
    exact (walk_eq_ok_iff.mp hwalk).proper htree hstart rfl

/-- The path of a place is walked from the root along the names of the place. -/
theorem walkAny_ofPlace (hne : place ≠ []) (hplace : place.Proper) :
    tree.walkAny .use (.ofPlace place) = tree.walk .use linkLimit [] place := by
  have hstart : tree.start (Path.ofPlace place).text = [] := if_pos (by simp [Path.ofPlace])
  have hempty : ¬(Path.ofPlace place).text.isEmpty = true := by
    simp [Path.ofPlace]
  have hroot : tree.entry? [] = some .folder := rfl
  rw [walkAny, Path.fault?_ofPlace hne hplace]
  simp only
  rw [if_neg hempty, hstart, Path.segments_ofPlace hne hplace, walk, if_neg (not_not.mpr hroot),
    if_pos (.inl rfl)]

/-- The walk of the path of a place goes through the folders that lead there. -/
theorem walkAny_append {folder rest : Place} (hne : folder ++ rest ≠ [])
    (hplace : Place.Proper (folder ++ rest))
    (hfolders : ∀ k ≤ folder.length, tree.entry? (folder.take k) = some .folder) :
    tree.walkAny .use (.ofPlace (folder ++ rest)) = tree.walk .use linkLimit folder rest := by
  rw [walkAny_ofPlace hne hplace]
  exact walk_folders (fun name hname => hplace name (List.mem_append_left _ hname)) hfolders

/-- **The path of a place resolves to itself exactly if the place stands.** -/
theorem Named.resolve_ofPlace_iff (htree : tree.Named) (hne : place ≠ []) (hplace : place.Proper) :
    tree.resolve (.ofPlace place) = .ok (.ofPlace place) ↔ tree.Stands place := by
  constructor
  · intro hresolved
    obtain ⟨other, entry, hwalk, hpath⟩ := resolve_eq_ok_iff.mp hresolved
    rw [walkAny_ofPlace hne hplace] at hwalk
    have hwalks := walk_eq_ok_iff.mp hwalk
    have hother := hwalks.proper htree (List.forall_mem_nil _) rfl
    obtain rfl := (Path.same_ofPlace_iff hplace hother).mp (by rw [hpath, Path.same_iff])
    exact hwalks.stands (stands_root tree) rfl
  · intro hstands
    obtain ⟨folder, name, rfl⟩ := (List.eq_nil_or_concat' place).resolve_left hne
    obtain ⟨entry, hentry, hnot⟩ := hstands.entry
    have hfolder : tree.entry? folder = some .folder := by
      simpa using hstands.folders_to folder.length (Nat.le_refl _)
    refine resolve_eq_ok_iff.mpr ⟨folder ++ [name], entry, ?_, rfl⟩
    rw [walkAny_append hne hplace hstands.folders_to,
      walk_cons_of_some (hplace name (by simp)) hfolder hentry hnot, walk, hentry]
    rfl

/-! ## Places that are missing -/

/-- Whether a place is not there, or a folder on the way to it is not. -/
def Missing (tree : FileTree) (place : Place) : Prop :=
  ∃ folder name rest, place = folder ++ name :: rest ∧
    (∀ k ≤ folder.length, tree.entry? (folder.take k) = some .folder) ∧
    tree.entry? (folder ++ [name]) = none

/-- Where something stood, it is missing once it was taken away. -/
theorem Stands.missing_put (hplace : tree.Stands place) (hne : place ≠ []) :
    (tree.put place none).Missing place := by
  obtain ⟨folder, name, rfl⟩ := (List.eq_nil_or_concat' place).resolve_left hne
  refine ⟨folder, name, [], rfl, ?_, ?_⟩
  · intro k hk
    rw [← hplace.folders_to k hk]
    have hshorter : folder.take k ≠ folder ++ [name] := by
      intro h
      have hlength := congrArg List.length h
      simp at hlength
      omega
    unfold entry? put
    split
    · rfl
    · exact lookup_filter_ne tree.entries hshorter
  · have hnot : (folder ++ [name]).isEmpty = false := List.isEmpty_eq_false_iff.mpr hne
    unfold entry? put
    rw [hnot]
    refine List.lookup_eq_none_iff.mpr fun other hother => ?_
    exact bne_iff_ne.mpr (bne_iff_ne.mp (List.mem_filter.mp hother).2).symm

/-- The path of a place that is missing does not resolve. -/
theorem Missing.resolve_ofPlace (hmissing : tree.Missing place) (hplace : place.Proper) :
    tree.resolve (.ofPlace place) = .error .notFound := by
  obtain ⟨folder, name, rest, rfl, hfolders, hvacant⟩ := hmissing
  have hfolder : tree.entry? folder = some .folder := by
    simpa using hfolders folder.length (Nat.le_refl _)
  rw [resolve, walkAny_append (by simp) hplace hfolders,
    walk_cons_of_none (hplace name (by simp)) hfolder hvacant]
  split_ifs <;> rfl

end FileTree

end ShaderGraph
