import Mathlib.Data.List.Basic
import ShaderGraph.Proofs.Storage.Path
import ShaderGraph.Watch

/-!
# Watched folders are counted right

A watcher keeps the documents and, apart from them, a count for each folder. Whatever is watched and
no longer watched, in any order, and however the system answers, the count of a folder is the number
of watched documents in it, and a folder without documents has no count at all. The counts only move
together with the documents: a document is new when it is counted, and counted when it is taken
away.
-/

set_option autoImplicit false

namespace ShaderGraph

/-! ## Runs -/

/-- What can be asked of a watcher, with how the path resolves and how the system answers when a
folder begins or ends to be watched. -/
inductive WatchCall
  | watch (resolved : Except DiskError Path) (begin : Path → Except String Unit)
  | unwatch (resolved : Except DiskError Path) (finish : Path → Except String Unit)

/-- The watcher after a call. -/
def WatchCall.apply (w : Watcher) : WatchCall → Watcher
  | watch resolved begin => (w.watch resolved begin).2
  | unwatch resolved finish => (w.unwatch resolved finish).2

namespace Watcher

/-- The watcher after a list of calls on one that watches nothing. -/
def ofCalls (calls : List WatchCall) : Watcher := calls.foldl WatchCall.apply .empty

/-- Whether a document is in a folder. -/
def isIn (folder document : Path) : Bool := document.parent?.any folder.same

/-- How many watched documents are in a folder. -/
def watchedIn (w : Watcher) (folder : Path) : Nat := w.documents.countP (isIn folder)

/-- Whether documents and folders are kept once each, every document is in some folder, and a folder
has a count exactly if documents are watched in it, namely their number. -/
structure Balanced (w : Watcher) : Prop where
  documents_distinct : w.documents.Pairwise fun p q => p.same q = false
  folders_distinct : w.folders.Pairwise fun a b => a.1.same b.1 = false
  has_folder : ∀ document ∈ w.documents, ∃ folder, document.parent? = some folder
  count?_eq : ∀ folder, w.count? folder =
    if w.watchedIn folder = 0 then none else some (w.watchedIn folder)

variable {w : Watcher} {path folder other : Path}

/-! ## Looking at documents and counts -/

/-- A document is watched exactly if one of the documents is at the same path. -/
theorem holds_iff : w.holds path = true ↔ ∃ document ∈ w.documents, path.same document = true :=
  List.any_eq_true

/-- Documents at the same path are in the same folders. -/
theorem isIn_of_same (h : path.same other = true) : isIn folder path = isIn folder other := by
  rw [isIn, isIn, Path.parent?_congr h]

/-- Folders at the same path have the same number of watched documents. -/
theorem watchedIn_congr (w : Watcher) (h : folder.same other = true) :
    w.watchedIn folder = w.watchedIn other := by
  refine List.countP_congr fun document _ => ?_
  cases hparent : document.parent? <;> simp [isIn, hparent, Path.same_congr h]

/-- A document is in its own folder only. -/
theorem isIn_of_parent? (h : path.parent? = some folder) (other : Path) :
    isIn other path = folder.same other := by
  rw [isIn, h, Option.any_some, Path.same_comm]

/-- A document that was put in and is taken out again leaves the documents from before. -/
theorem without_of_not_holds (hholds : w.holds path = false) (folders : List (Path × Nat)) :
    without ⟨path :: w.documents, folders⟩ path = w.documents := by
  have hself : path.same path = true := Path.same_iff.mpr rfl
  rw [without, List.filter_cons_of_neg (by simp [hself]), List.filter_eq_self]
  intro document hmem
  simpa using List.any_eq_false.mp hholds document hmem

/-- **A watch that the system refuses is rolled back**: what watching does, without the steps that
cancel. -/
theorem watch_eq (w : Watcher) (resolved : Except DiskError Path)
    (begin : Path → Except String Unit) : w.watch resolved begin =
      match resolved with
      | .error error => (.error (.disk error), w)
      | .ok path =>
        match path.parent? with
        | none => (.error (.noParent path), w)
        | some folder =>
          if w.holds path then (.ok path, w)
          else match w.count? folder with
            | some n => (.ok path, ⟨path :: w.documents, w.setCount folder (some (n + 1))⟩)
            | none =>
              match begin folder with
              | .error words => (.error (.system words), w)
              | .ok () => (.ok path, ⟨path :: w.documents, w.setCount folder (some 1)⟩) := by
  unfold watch
  cases resolved with
  | error error => rfl
  | ok path =>
    dsimp only
    cases path.parent? with
    | none => rfl
    | some folder =>
      cases hholds : w.holds path with
      | true => rfl
      | false =>
        have hsame : count? ⟨path :: w.documents, w.folders⟩ folder = w.count? folder := rfl
        dsimp only
        rw [hsame]
        cases hcount : w.count? folder with
        | some n => rfl
        | none =>
          cases begin folder with
          | ok => rfl
          | error words => simp [without_of_not_holds hholds]

/-- Setting a count changes the count of that folder and of no other. -/
theorem count?_setCount (w : Watcher) (documents : List Path) (folder other : Path)
    (count : Option Nat) : count? ⟨documents, w.setCount folder count⟩ other =
      if folder.same other then count else w.count? other := by
  have hrest : (w.folders.filter fun entry => !folder.same entry.1).find?
      (fun entry => other.same entry.1) =
        if folder.same other then none else w.folders.find? fun entry => other.same entry.1 := by
    rw [List.find?_filter]
    split_ifs with hsame
    · rw [List.find?_eq_none]
      intro entry _
      simp [Path.same_congr hsame]
    · congr 1
      funext entry
      by_cases hentry : other.same entry.1 = true
      · have hfolder : folder.same entry.1 = false := by
          rw [Path.same_comm, ← Path.same_congr hentry, Path.same_comm]
          exact Bool.eq_false_iff.mpr hsame
        simp [hentry, hfolder]
      · simp [hentry]
  unfold count? setCount
  cases count with
  | none =>
    dsimp only
    rw [hrest]
    split_ifs <;> rfl
  | some n =>
    dsimp only
    rw [List.find?_cons, Path.same_comm other folder]
    split_ifs with hsame
    · rw [hsame]
      rfl
    · rw [Bool.eq_false_iff.mpr hsame]
      dsimp only
      rw [hrest, if_neg hsame]

/-- Setting the count of a folder keeps folders once each. -/
theorem folders_setCount (w : Watcher) (hw : w.folders.Pairwise fun a b => a.1.same b.1 = false)
    (folder : Path) (count : Option Nat) :
    (w.setCount folder count).Pairwise fun a b => a.1.same b.1 = false := by
  unfold setCount
  cases count with
  | none => exact hw.filter _
  | some n =>
    refine List.pairwise_cons.mpr ⟨fun entry hentry => ?_, hw.filter _⟩
    simpa using (List.mem_filter.mp hentry).2

/-- Without a document that was kept once, all the others are left. -/
theorem perm_without (hd : w.documents.Pairwise fun p q => p.same q = false)
    (hholds : w.holds path = true) : ∃ document, path.same document = true ∧
      w.documents.Perm (document :: w.without path) := by
  unfold without
  obtain ⟨documents, folders⟩ := w
  obtain ⟨document, hmem, hsame⟩ := holds_iff.mp hholds
  dsimp only at *
  clear hholds
  induction documents with
  | nil => cases hmem
  | cons first rest ih =>
    obtain ⟨hfirst, hrest⟩ := List.pairwise_cons.mp hd
    by_cases hpath : path.same first = true
    · -- the others differ from the first, so none of them is left out
      have hkept : rest.filter (fun other => !path.same other) = rest := by
        rw [List.filter_eq_self]
        intro other hother
        rw [Path.same_congr hpath, hfirst other hother]
        rfl
      refine ⟨first, hpath, ?_⟩
      rw [List.filter_cons_of_neg (by simp [hpath]), hkept]
    · rcases List.mem_cons.mp hmem with rfl | hmem
      · exact absurd hsame hpath
      · obtain ⟨found, hfound, hperm⟩ := ih hrest hmem
        refine ⟨found, hfound, ?_⟩
        rw [List.filter_cons_of_pos (by simp [hpath])]
        exact (hperm.cons first).trans (.swap _ _ _)

/-! ## What calls keep -/

/-- A watcher that watches nothing is balanced. -/
theorem balanced_empty : empty.Balanced where
  documents_distinct := .nil
  folders_distinct := .nil
  has_folder := List.forall_mem_nil _
  count?_eq _ := rfl

namespace Balanced

/-- In a folder with a watched document the count is positive. -/
theorem exists_count (hw : w.Balanced) (hholds : w.holds path = true) :
    ∃ folder n, path.parent? = some folder ∧ w.count? folder = some (n + 1) ∧
      w.watchedIn folder = n + 1 := by
  obtain ⟨document, hmem, hsame⟩ := holds_iff.mp hholds
  obtain ⟨folder, hfolder⟩ := hw.has_folder document hmem
  have hpos : 0 < w.watchedIn folder := by
    refine List.countP_pos_iff.mpr ⟨document, hmem, ?_⟩
    rw [isIn_of_parent? hfolder, Path.same_iff]
  obtain ⟨n, hn⟩ := Nat.exists_eq_add_of_lt hpos
  rw [Nat.zero_add] at hn
  refine ⟨folder, n, (Path.parent?_congr hsame).trans hfolder, ?_, hn⟩
  rw [hw.count?_eq, hn, if_neg (Nat.succ_ne_zero n)]

/-- The count that is kept for a folder is the number of documents watched in it, and positive. -/
theorem entry (hw : w.Balanced) {n : Nat} (hentry : (folder, n) ∈ w.folders) :
    n = w.watchedIn folder ∧ 0 < n := by
  have hfound : w.count? folder = some n := by
    rw [count?, Option.map_eq_some_iff]
    refine ⟨(folder, n), ?_, rfl⟩
    have hself : folder.same folder = true := Path.same_iff.mpr rfl
    have hd := hw.folders_distinct
    generalize w.folders = folders at hentry hd
    induction folders with
    | nil => cases hentry
    | cons first rest ih =>
      obtain ⟨hfirst, hrest⟩ := List.pairwise_cons.mp hd
      rcases List.mem_cons.mp hentry with rfl | hentry
      · exact List.find?_cons_of_pos hself
      · have hdiffers := hfirst _ hentry
        rw [Path.same_comm] at hdiffers
        rw [List.find?_cons_of_neg (by simp [hdiffers])]
        exact ih hentry hrest
  rw [hw.count?_eq] at hfound
  split_ifs at hfound with hzero
  obtain rfl := Option.some.inj hfound
  exact ⟨rfl, Nat.pos_of_ne_zero hzero⟩

/-- A new document is counted in its folder. -/
theorem begin_watching (hw : w.Balanced) (hholds : w.holds path = false)
    (hfolder : path.parent? = some folder) :
    Balanced ⟨path :: w.documents, w.setCount folder (some (w.watchedIn folder + 1))⟩ where
  documents_distinct := by
    refine List.pairwise_cons.mpr ⟨fun document hmem => ?_, hw.documents_distinct⟩
    simpa using List.any_eq_false.mp hholds document hmem
  folders_distinct := w.folders_setCount hw.folders_distinct folder (some (w.watchedIn folder + 1))
  has_folder := List.forall_mem_cons.mpr ⟨⟨folder, hfolder⟩, hw.has_folder⟩
  count?_eq other := by
    have hcount : ∀ folders, watchedIn ⟨path :: w.documents, folders⟩ other =
        w.watchedIn other + if folder.same other then 1 else 0 := by
      intro folders
      rw [watchedIn, List.countP_cons, isIn_of_parent? hfolder]
      rfl
    rw [count?_setCount, hcount]
    by_cases hsame : folder.same other = true
    · rw [if_pos hsame, if_pos hsame, if_neg (Nat.succ_ne_zero _), w.watchedIn_congr hsame]
    · rw [if_neg hsame, if_neg hsame, Nat.add_zero, hw.count?_eq]

/-- A document that is taken away is no longer counted, and the last one in a folder takes the count
of the folder away. -/
theorem end_watching (hw : w.Balanced) (hholds : w.holds path = true)
    (hfolder : path.parent? = some folder) {n : Nat} (hn : w.watchedIn folder = n + 1) :
    Balanced ⟨w.without path, w.setCount folder (if n = 0 then none else some n)⟩ where
  documents_distinct := hw.documents_distinct.filter _
  folders_distinct :=
    w.folders_setCount hw.folders_distinct folder (if n = 0 then none else some n)
  has_folder document hmem := hw.has_folder document (List.mem_filter.mp hmem).1
  count?_eq other := by
    obtain ⟨document, hsame, hperm⟩ := perm_without hw.documents_distinct hholds
    have hcount : ∀ folders, w.watchedIn other =
        watchedIn ⟨w.without path, folders⟩ other +
          if folder.same other then 1 else 0 := by
      intro folders
      rw [watchedIn, hperm.countP_eq, List.countP_cons, ← isIn_of_same hsame,
        isIn_of_parent? hfolder]
      rfl
    rw [count?_setCount]
    have hother := hcount (w.setCount folder (if n = 0 then none else some n))
    by_cases hfolders : folder.same other = true
    · rw [if_pos hfolders, ← w.watchedIn_congr hfolders, hn] at hother
      rw [if_pos hfolders, ← Nat.succ.inj hother]
    · rw [if_neg hfolders, Nat.add_zero] at hother
      rw [if_neg hfolders, ← hother, hw.count?_eq]

/-- Watching keeps the balance, whether it is refused by the system or not. -/
theorem watch (hw : w.Balanced) (resolved : Except DiskError Path)
    (begin : Path → Except String Unit) : (w.watch resolved begin).2.Balanced := by
  rw [Watcher.watch_eq]
  split
  · exact hw
  next path =>
    split
    · exact hw
    next folder hfolder =>
      by_cases hholds : w.holds path = true
      · rw [if_pos hholds]
        exact hw
      have hnew := hw.begin_watching (Bool.eq_false_iff.mpr hholds) hfolder
      rw [if_neg hholds, hw.count?_eq folder]
      by_cases hzero : w.watchedIn folder = 0
      · rw [if_pos hzero]
        dsimp only
        split
        · exact hw
        · rwa [hzero] at hnew
      · rw [if_neg hzero]
        exact hnew

/-- Unwatching keeps the balance, whatever the system answers. -/
theorem unwatch (hw : w.Balanced) (resolved : Except DiskError Path)
    (finish : Path → Except String Unit) : (w.unwatch resolved finish).2.Balanced := by
  unfold Watcher.unwatch
  split
  · exact hw
  next path =>
    cases hholds : w.holds path with
    | false => exact hw
    | true =>
      obtain ⟨folder, n, hfolder, hcount, hn⟩ := hw.exists_count hholds
      have hrest := hw.end_watching hholds hfolder hn
      simp only [hfolder, hcount, Option.bind_some, Option.map_some, Bool.not_true,
        Bool.false_eq_true, if_false]
      by_cases hzero : n = 0
      · rw [if_pos hzero] at hrest
        rwa [if_pos (by omega)]
      · rw [if_neg hzero] at hrest
        rwa [if_neg (by omega)]

/-- Every call keeps the balance. -/
theorem apply (hw : w.Balanced) (call : WatchCall) : (call.apply w).Balanced := by
  cases call with
  | watch resolved begin => exact hw.watch resolved begin
  | unwatch resolved finish => exact hw.unwatch resolved finish

end Balanced

/-- Every run of calls leaves a watcher balanced, whatever the paths and the answers. -/
theorem balanced_ofCalls (calls : List WatchCall) : (ofCalls calls).Balanced :=
  List.foldlRecOn calls WatchCall.apply balanced_empty fun _ hw call _ => hw.apply call

/-- A watch that fails changes nothing. -/
theorem watch_of_error {resolved : Except DiskError Path} {begin : Path → Except String Unit}
    {error : WatchError} (h : (w.watch resolved begin).1 = .error error) :
    (w.watch resolved begin).2 = w := by
  rw [watch_eq] at h ⊢
  split at h
  · rfl
  · split at h
    · rfl
    · split_ifs at h ⊢
      split at h
      · cases h
      · split at h
        · rfl
        · cases h

/-- **The bookkeeping of a watcher.** After every run of calls, with any paths and any answers of
the system, the count of a folder is the number of watched documents in it, where there are any, and
no other folder has a count; no document and no folder is kept twice. The folder of a watched
document has a positive count, so there is always something to count down from. A watch that fails
changes nothing, and neither does watching what is watched or no longer watching what is not. -/
theorem bookkeeping_ofCalls (calls : List WatchCall) :
    let w := ofCalls calls
    (∀ folder, w.count? folder =
      if w.watchedIn folder = 0 then none else some (w.watchedIn folder)) ∧
    (∀ entry ∈ w.folders, entry.2 = w.watchedIn entry.1 ∧ 0 < entry.2) ∧
    w.documents.Pairwise (fun p q => p.same q = false) ∧
    w.folders.Pairwise (fun a b => a.1.same b.1 = false) ∧
    (∀ path, w.holds path = true →
      ∃ folder n, path.parent? = some folder ∧ w.count? folder = some (n + 1)) ∧
    (∀ resolved begin error, (w.watch resolved begin).1 = .error error →
      (w.watch resolved begin).2 = w) ∧
    (∀ resolved begin, w.isWatching resolved = true →
      w.watch resolved begin = (resolved.mapError .disk, w)) ∧
    ∀ resolved finish, w.isWatching resolved = false → (w.unwatch resolved finish).2 = w := by
  intro w
  have hw : w.Balanced := balanced_ofCalls calls
  refine ⟨hw.count?_eq, fun entry => hw.entry, hw.documents_distinct, hw.folders_distinct, ?_,
    fun _ _ _ => watch_of_error, ?_, ?_⟩
  · intro path hholds
    obtain ⟨folder, n, hfolder, hcount, -⟩ := hw.exists_count hholds
    exact ⟨folder, n, hfolder, hcount⟩
  · intro resolved begin hwatching
    cases resolved with
    | error e => cases hwatching
    | ok path =>
      have hholds : w.holds path = true := hwatching
      obtain ⟨folder, n, hfolder, -, -⟩ := hw.exists_count hholds
      simp only [Watcher.watch, hfolder, hholds, if_true]
      rfl
  · intro resolved finish hwatching
    cases resolved with
    | error e => rfl
    | ok path =>
      have hholds : w.holds path = false := hwatching
      simp only [Watcher.unwatch, hholds, Bool.not_false, if_true]

/-- Two documents share a folder; the second folder could not be watched. -/
example : (ofCalls [.watch (.ok ⟨"/a/x"⟩) fun _ => .ok (),
    .watch (.ok ⟨"/b/x"⟩) fun _ => .error "full",
    .watch (.ok ⟨"/a//y"⟩) fun _ => .ok ()]).folders = [(⟨"/a"⟩, 2)] := by
  decide +kernel

end Watcher

end ShaderGraph
