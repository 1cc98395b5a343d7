import ShaderGraph.Proofs.Storage.Resolving
import ShaderGraph.Proofs.Watching

/-!
# Which watched documents can be released

A document is kept under the path it resolved to, and that path is resolved once more to release
it. So a document is released exactly as long as its place stands. A document that was deleted or
renamed stays watched, and its folder counted, for its path does not resolve any more. Where a link
has come in its place, the document the link leads to is released instead, if that one is watched.
-/

set_option autoImplicit false

namespace ShaderGraph

namespace Watcher

variable {w : Watcher} {path folder document : Path}

/-! ## Releasing a document -/

/-- Whether exactly one document is watched no longer: it is not held any more, its folder counts
one less, or is gone with its last document, and all other documents and folders are as before. -/
structure Releases (w : Watcher) (document : Path) (after : Watcher) : Prop where
  gone : after.holds document = false
  others : ∀ other, document.same other = false → after.holds other = w.holds other
  counts : ∃ folder n, document.parent? = some folder ∧ w.count? folder = some (n + 1) ∧
    ∀ other, after.count? other =
      if folder.same other then if n = 0 then none else some n else w.count? other

/-- Without a document, every other document is still watched. -/
theorem holds_without (w : Watcher) (folders : List (Path × Nat)) (path other : Path) :
    holds ⟨w.without path, folders⟩ other =
      (w.holds other && !path.same other) := by
  have hsame : ∀ document, (!path.same document && other.same document) =
      (other.same document && !path.same other) := by
    intro document
    by_cases h : other.same document = true
    · rw [h, Path.same_comm, ← Path.same_congr h, Path.same_comm, Bool.and_comm]
    · simp [h]
  unfold holds without
  simp only [List.any_filter, hsame, List.and_any_distrib_right]

/-- What is watched under the path that a path resolves to is released. -/
theorem Balanced.unwatch_of_holds (hw : w.Balanced) (hholds : w.holds path = true)
    {finish : Path → Except String Unit} (hfinish : ∀ folder, finish folder = .ok ()) :
    (w.unwatch (.ok path) finish).1 = .ok () ∧
      w.Releases path (w.unwatch (.ok path) finish).2 := by
  obtain ⟨folder, n, hfolder, hcount, -⟩ := hw.exists_count hholds
  have hafter : w.unwatch (.ok path) finish =
      (.ok (), ⟨w.without path, w.setCount folder (if n = 0 then none else some n)⟩) := by
    simp only [Watcher.unwatch, hholds, hfolder, hcount, Option.bind_some, Option.map_some,
      Bool.not_true, Bool.false_eq_true, if_false, hfinish]
    by_cases hzero : n = 0
    · rw [if_pos (by omega), if_pos hzero]
      rfl
    · rw [if_neg (by omega), if_neg hzero]
      rfl
  rw [hafter]
  refine ⟨rfl, ?_, ?_, folder, n, hfolder, hcount, ?_⟩
  · rw [holds_without, Path.same_iff.mpr rfl, Bool.not_true, Bool.and_false]
  · intro other hother
    rw [holds_without, hother, Bool.not_false, Bool.and_true]
  · exact fun other => w.count?_setCount _ folder other _

/-- A document that is not watched needs no release. -/
theorem unwatch_of_not_holds (hholds : w.holds path = false) (finish : Path → Except String Unit) :
    w.unwatch (.ok path) finish = (.ok (), w) := by
  rw [unwatch, hholds]
  rfl

/-- Watching adds no document but the one that is watched. -/
theorem documents_watch_subset (w : Watcher) (path : Path) (begin : Path → Except String Unit) :
    (w.watch (.ok path) begin).2.documents ⊆ path :: w.documents := by
  have hkept : w.documents ⊆ path :: w.documents := List.subset_cons_self _ _
  rw [watch_eq]
  dsimp only
  split
  · exact hkept
  · split_ifs
    · exact hkept
    · split
      · exact List.Subset.refl _
      · split
        · exact hkept
        · exact List.Subset.refl _

/-- To no longer watch a document adds none. -/
theorem documents_unwatch_subset (w : Watcher) (resolved : Except DiskError Path)
    (finish : Path → Except String Unit) :
    (w.unwatch resolved finish).2.documents ⊆ w.documents := by
  unfold unwatch
  split
  · exact List.Subset.refl _
  · split_ifs
    · exact List.Subset.refl _
    · dsimp only
      split
      · exact List.filter_subset_self _
      · split_ifs
        · exact List.filter_subset_self _
        · exact List.filter_subset_self _

/-- A call adds no document but the one it watches. -/
theorem mem_documents_apply {call : WatchCall} (hmem : document ∈ (call.apply w).documents) :
    document ∈ w.documents ∨ ∃ begin, call = .watch (.ok document) begin := by
  cases call with
  | watch resolved begin =>
    cases resolved with
    | error error => exact .inl hmem
    | ok path =>
      rcases List.mem_cons.mp (w.documents_watch_subset path begin hmem) with rfl | hmem
      · exact .inr ⟨begin, rfl⟩
      · exact .inl hmem
  | unwatch resolved finish => exact .inl (w.documents_unwatch_subset resolved finish hmem)

/-- Every watched document is one that a path resolved to when it was watched. -/
theorem exists_watch_of_mem {calls : List WatchCall} (hmem : document ∈ (ofCalls calls).documents) :
    ∃ begin, .watch (.ok document) begin ∈ calls := by
  refine List.foldlRecOn
    (motive := fun w => document ∈ w.documents → ∃ begin, .watch (.ok document) begin ∈ calls)
    calls WatchCall.apply (fun h => absurd h List.not_mem_nil) ?_ hmem
  intro w hw call hcall hmem
  rcases mem_documents_apply hmem with hmem | ⟨begin, rfl⟩
  · exact hw hmem
  · exact ⟨begin, hcall⟩

end Watcher

/-! ## Watching files -/

/-- What can be asked of a watcher, with the files as they are at the time, and with how the system
answers when a folder begins or ends to be watched. -/
inductive FileCall
  | watch (files : FileTree) (path : Path) (begin : Path → Except String Unit)
  | unwatch (files : FileTree) (path : Path) (finish : Path → Except String Unit)

namespace FileCall

/-- The files at the time of a call. -/
def files : FileCall → FileTree
  | watch files _ _ | unwatch files _ _ => files

/-- A call with its path resolved. -/
def resolved : FileCall → WatchCall
  | watch files path begin => .watch (files.resolve path) begin
  | unwatch files path finish => .unwatch (files.resolve path) finish

end FileCall

namespace Watcher

/-- The watcher after a list of calls on one that watches nothing, with the files of each time. -/
def ofFileCalls (calls : List FileCall) : Watcher := ofCalls (calls.map FileCall.resolved)

/-- Every watched document is the path of a place. -/
theorem exists_place_of_mem {calls : List FileCall} (hcalls : ∀ call ∈ calls, call.files.Named)
    {document : Path} (hmem : document ∈ (ofFileCalls calls).documents) :
    ∃ place : Place, place.Proper ∧ place ≠ [] ∧ document = .ofPlace place := by
  obtain ⟨begin, hwatch⟩ := exists_watch_of_mem hmem
  obtain ⟨call, hcall, hresolved⟩ := List.mem_map.mp hwatch
  cases call with
  | unwatch files path finish => cases hresolved
  | watch files path begin =>
    obtain ⟨hdocument, -⟩ := WatchCall.watch.inj hresolved
    obtain ⟨place, hproper, rfl⟩ := (hcalls _ hcall).exists_place hdocument
    refine ⟨place, hproper, ?_, rfl⟩
    -- the root has no folder around it, and so it is not watched
    rintro rfl
    obtain ⟨folder, hfolder⟩ := (balanced_ofCalls _).has_folder _ hmem
    have hroot : (Path.ofPlace []).parent? = none := by decide
    rw [hroot] at hfolder
    cases hfolder

/-- **Which watched documents can be released.** After every run of calls, with any files at the
time of each of them, a watched document is the path of a place. Given files as they are later, and
a system that ends to watch every folder, asking to no longer watch the document

* releases it, if its place still stands, and only then;
* otherwise fails and changes nothing, if its path does not resolve, or releases the document that
  its path leads to now, if that one is watched, or else changes nothing, without an error;
* fails, in particular, if the document or a folder on the way to it was deleted or renamed. -/
theorem unwatch_ofFileCalls {calls : List FileCall} (hcalls : ∀ call ∈ calls, call.files.Named)
    {document : Path} (hmem : document ∈ (ofFileCalls calls).documents)
    {now : FileTree} (hnow : now.Named)
    {finish : Path → Except String Unit} (hfinish : ∀ folder, finish folder = .ok ()) :
    let w := ofFileCalls calls
    let answer := (w.unwatch (now.resolve document) finish).1
    let after := (w.unwatch (now.resolve document) finish).2
    ∃ place : Place, place.Proper ∧ document = .ofPlace place ∧
      (after.holds document = false ↔ now.Stands place) ∧
      (now.Stands place → answer = .ok () ∧ w.Releases document after) ∧
      (¬now.Stands place →
        (∃ error, now.resolve document = .error error ∧
          answer = .error (.disk error) ∧ after = w) ∨
        ∃ other, now.resolve document = .ok other ∧ document.same other = false ∧ answer = .ok () ∧
          (w.holds other = false ∧ after = w ∨ w.holds other = true ∧ w.Releases other after)) ∧
      (now.Missing place → answer = .error (.disk .notFound) ∧ after = w) := by
  intro w
  obtain ⟨place, hplace, hne, rfl⟩ := exists_place_of_mem hcalls hmem
  have hw : w.Balanced := balanced_ofCalls _
  have hholds : w.holds (.ofPlace place) = true :=
    holds_iff.mpr ⟨_, hmem, Path.same_iff.mpr rfl⟩
  refine ⟨place, hplace, rfl, ?_⟩
  rw [← and_assoc, ← and_assoc]
  refine ⟨?_, fun hmissing => by rw [hmissing.resolve_ofPlace hplace]; exact ⟨rfl, rfl⟩⟩
  by_cases hstands : now.Stands place
  · obtain ⟨hanswer, hreleases⟩ := hw.unwatch_of_holds hholds hfinish
    rw [(hnow.resolve_ofPlace_iff hne hplace).mpr hstands]
    exact ⟨⟨iff_of_true hreleases.gone hstands, fun _ => ⟨hanswer, hreleases⟩⟩,
      fun hnot => absurd hstands hnot⟩
  -- the document is not released, and what happens instead is left
  suffices h : (w.unwatch (now.resolve (.ofPlace place)) finish).2.holds (.ofPlace place) = true ∧ _
    from ⟨⟨iff_of_false (by simp [h.1]) hstands, fun h => absurd h hstands⟩, fun _ => h.2⟩
  cases hresolved : now.resolve (.ofPlace place) with
  | error error => exact ⟨hholds, .inl ⟨error, rfl, rfl, rfl⟩⟩
  | ok other =>
    obtain ⟨otherPlace, hother, rfl⟩ := hnow.exists_place hresolved
    have hdiffers : (Path.ofPlace otherPlace).same (.ofPlace place) = false := by
      rw [Bool.eq_false_iff, ne_eq, Path.same_ofPlace_iff hother hplace]
      rintro rfl
      exact hstands ((hnow.resolve_ofPlace_iff hne hplace).mp hresolved)
    have hdocument := hdiffers
    rw [Path.same_comm] at hdocument
    cases hheld : w.holds (.ofPlace otherPlace) with
    | false =>
      rw [unwatch_of_not_holds hheld]
      exact ⟨hholds, .inr ⟨_, rfl, hdocument, rfl, .inl ⟨hheld, rfl⟩⟩⟩
    | true =>
      obtain ⟨hanswer, hreleases⟩ := hw.unwatch_of_holds hheld hfinish
      exact ⟨(hreleases.others _ hdiffers).trans hholds,
        .inr ⟨_, rfl, hdocument, hanswer, .inr ⟨hheld, hreleases⟩⟩⟩

/-- A watcher of the only file there is. -/
theorem ofFileCalls_watch_single :
    ofFileCalls [.watch ⟨[(["a"], .file .empty)], []⟩ ⟨"/a"⟩ fun _ => .ok ()] =
      ofCalls [.watch (.ok ⟨"/a"⟩) fun _ => .ok ()] := by
  have hstands : FileTree.Stands ⟨[(["a"], .file .empty)], []⟩ ["a"] :=
    (FileTree.stands_root _).append rfl rfl (by simp)
  have hresolved := (FileTree.Named.resolve_ofPlace_iff (by decide) (by decide) (by decide)).mpr
    hstands
  exact congrArg (fun resolved => ofCalls [.watch resolved fun _ => .ok ()]) hresolved

/-- A file that still stands is watched and released. -/
theorem unwatch_ofFileCalls_single :
    let files : FileTree := ⟨[(["a"], .file .empty)], []⟩
    let w := ofFileCalls [.watch files ⟨"/a"⟩ fun _ => .ok ()]
    files.Named ∧ ⟨"/a"⟩ ∈ w.documents ∧ files.Stands ["a"] ∧
      w.Releases ⟨"/a"⟩ (w.unwatch (files.resolve ⟨"/a"⟩) fun _ => .ok ()).2 := by
  intro files w
  have hfiles : files.Named := by decide
  have hcalls : ∀ call ∈ [FileCall.watch files ⟨"/a"⟩ fun _ => .ok ()], call.files.Named :=
    List.forall_mem_singleton.mpr hfiles
  have hmem : ⟨"/a"⟩ ∈ w.documents := by
    rw [show w = _ from ofFileCalls_watch_single]
    decide
  have hstands : files.Stands ["a"] := (FileTree.stands_root files).append rfl rfl (by simp)
  have hfinish : ∀ folder, (fun _ => .ok () : Path → Except String Unit) folder = .ok () :=
    fun _ => rfl
  obtain ⟨place, hplace, hdocument, -, hreleases, -⟩ :=
    unwatch_ofFileCalls hcalls hmem hfiles hfinish
  obtain rfl : ["a"] = place :=
    (Path.same_ofPlace_iff (by decide) hplace).mp (by rw [← hdocument]; decide)
  exact ⟨hfiles, hmem, hstands, (hreleases hstands).2⟩

/-- A document that was deleted stays watched, and its folder counted. -/
theorem unwatch_deleted :
    let files : FileTree := ⟨[(["a"], .file .empty)], []⟩
    let w := ofFileCalls [.watch files ⟨"/a"⟩ fun _ => .ok ()]
    w.documents = [⟨"/a"⟩] ∧ w.count? ⟨"/"⟩ = some 1 ∧
      w.unwatch ((files.put ["a"] none).resolve ⟨"/a"⟩) (fun _ => .ok ()) =
        (.error (.disk .notFound), w) := by
  intro files w
  have hstands : files.Stands ["a"] := (FileTree.stands_root files).append rfl rfl (by simp)
  have hresolved : (files.put ["a"] none).resolve ⟨"/a"⟩ = .error .notFound :=
    (hstands.missing_put (by decide)).resolve_ofPlace (by decide)
  rw [show w = _ from ofFileCalls_watch_single, hresolved]
  exact ⟨by decide, by decide, rfl⟩

end Watcher

end ShaderGraph
