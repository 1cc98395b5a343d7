import ShaderGraph.Proofs.Session.Files
import ShaderGraph.Proofs.Storage.Path

/-!
# Recent documents

The list of recent documents is cut to its length each time a file is used. Nothing is lost by
cutting it that early: using a file takes one entry at most out of the list and puts one in front,
so what was cut off could not have come back but by being used again. The list is what the whole
record of used files begins with, latest first and each file once.
-/

set_option autoImplicit false

namespace ShaderGraph

/-- Of a list that loses one entry at most, as many entries less one are left in front, whether it
is cut before or after. -/
theorem take_filter_take {α : Type} {kept : α → Bool} {items : List α}
    (hone : items.Pairwise fun a b => kept a = true ∨ kept b = true) (n : Nat) :
    ((items.take (n + 1)).filter kept).take n = (items.filter kept).take n := by
  induction items generalizing n with
  | nil => rfl
  | cons a rest ih =>
    obtain ⟨ha, hrest⟩ := List.pairwise_cons.mp hone
    rw [List.take_succ_cons]
    cases hkept : kept a with
    | true =>
      rw [List.filter_cons_of_pos hkept, List.filter_cons_of_pos hkept]
      cases n with
      | zero => rfl
      | succ n => rw [List.take_succ_cons, List.take_succ_cons, ih hrest n]
    | false =>
      -- the one entry is lost, so all of the rest stay
      have hall : ∀ b ∈ rest, kept b = true := fun b hb => by simpa [hkept] using ha b hb
      have hnot : ¬kept a = true := by simp [hkept]
      rw [List.filter_cons_of_neg hnot, List.filter_cons_of_neg hnot, List.filter_eq_self.mpr hall,
        List.filter_eq_self.mpr fun b hb => hall b (List.mem_of_mem_take hb), List.take_take,
        Nat.min_self]

namespace Session

variable {s t : Session}

/-! ## What leaves the list as it is -/

/-- Compiling anew notes no file. -/
theorem rebuild_recent (s : Session) : s.rebuild.2.recent = s.recent := by
  obtain ⟨order, artifact, hrebuilt⟩ := s.rebuild_changes
  rw [hrebuilt]

/-- Compiling notes no file, whatever the mode. -/
theorem compile_recent (s : Session) (mode : CompileMode) :
    (s.compile mode).2.recent = s.recent := by
  cases mode with
  | preview =>
    obtain ⟨order, artifact, hpreview⟩ := s.preview_changes
    rw [compile, hpreview]
  | commit => exact s.recordLive.rebuild_recent

/-- A command notes no file. -/
theorem execute_recent (s : Session) (command : EditCommand) :
    (s.execute command).2.recent = s.recent := by
  rw [execute_eq]
  split
  · rfl
  · split
    · exact compile_recent _ _
    · rfl

/-- Undo notes no file. -/
theorem undo_recent (s : Session) : s.undo.2.recent = s.recent := by
  unfold undo
  simp only
  split_ifs
  · exact rebuild_recent _
  · rfl

/-- Redo notes no file. -/
theorem redo_recent (s : Session) : s.redo.2.recent = s.recent := by
  unfold redo
  simp only
  split_ifs
  · exact rebuild_recent _
  · rfl

/-- Choosing a back end notes no file. -/
theorem setBackend_recent (s : Session) (backend : Backend) :
    (s.setBackend backend).recent = s.recent := by
  unfold setBackend
  simp only
  split_ifs
  · rfl
  · exact rebuild_recent _
  · rfl

/-- Replacing the document notes no file by itself. -/
theorem replaceDocument_recent (s : Session) (g : Graph) :
    (s.replaceDocument g).recent = s.recent :=
  rebuild_recent _

/-- Loading bytes notes no file, as they come from none. -/
theorem load_recent (s : Session) (bytes : ByteArray) : (s.load bytes).2.recent = s.recent := by
  unfold load
  split
  · rfl
  · exact s.replaceDocument_recent _

/-- A new session has used no file. -/
theorem ofConfig_recent (config : Config) : (ofConfig config).recent = [] :=
  replaceDocument_recent _ _

/-! ## Files that are used -/

/-- A file that was opened comes first. -/
theorem opened_recent {path : Path} {content : Except DiskError ByteArray}
    (h : s.opened path content = (.ok (), t)) : t.recent = (s.atPath path).recent := by
  cases content with
  | error error => cases congrArg Prod.fst h
  | ok bytes =>
    unfold opened at h
    simp only at h
    split at h
    · cases congrArg Prod.fst h
    · rename_i u hload
      obtain ⟨-, rfl⟩ := Prod.mk.inj h
      have hkept : u.recent = s.recent := by simpa [hload] using s.load_recent bytes
      rw [atPath, atPath, hkept]

/-- A file that was written comes first. -/
theorem saved_recent {path : Path} {written : Except DiskError Unit}
    (h : s.saved path written = (.ok (), t)) : t.recent = (s.atPath path).recent := by
  cases written with
  | error error => cases congrArg Prod.fst h
  | ok =>
    obtain ⟨-, rfl⟩ := Prod.mk.inj h
    rfl

end Session

namespace DeskCall

variable {σ : Type}

/-- The file that a call opened or wrote, if it did. -/
def used? (disk : Disk (StateM σ)) (d : Desk σ) (call : DeskCall) : Option Path :=
  match call with
  | openFile path | saveTo path => if (call.run disk d).1.isSome then none else some path
  | saveDocument => if (call.run disk d).1.isSome then none else d.session.path
  | _ => none

/-- A call that is refused uses no file, and neither does one that neither opens nor saves. -/
theorem used?_eq_none {disk : Disk (StateM σ)} {d : Desk σ} {call : DeskCall}
    (hcall : (call.run disk d).1.isSome = true ∨
      ∀ path, call ≠ openFile path ∧ call ≠ saveTo path ∧ call ≠ saveDocument) :
    call.used? disk d = none := by
  rcases hcall with hrefused | hother
  · cases call with
    | openFile path | saveTo path | saveDocument => exact if_pos hrefused
    | _ => rfl
  · cases call with
    | openFile path => exact absurd rfl (hother path).1
    | saveTo path => exact absurd rfl (hother path).2.1
    | saveDocument => exact absurd rfl (hother default).2.2
    | _ => rfl

/-- The desk after a list of calls. -/
def runAll (disk : Disk (StateM σ)) (d : Desk σ) (calls : List DeskCall) : Desk σ :=
  calls.foldl (fun d call => (call.run disk d).2) d

/-- The files that a list of calls opened or wrote, the latest first. -/
def usedAll (disk : Disk (StateM σ)) (d : Desk σ) : List DeskCall → List Path
  | [] => []
  | call :: rest => usedAll disk (call.run disk d).2 rest ++ (call.used? disk d).toList

/-- The list of recent documents with the file that was used, if any, in front. -/
def noted (s : Session) (file : Option Path) : List Path :=
  (file.elim s fun path => s.atPath path).recent

/-- What is refused as a whole, and otherwise uses a file, leaves the list with the file it used. -/
theorem recent_of_answer {s : Session} {path : Path} {answer : Except SessionError Unit × Session}
    (hrefused : ∀ error, answer.1 = .error error → answer.2 = s)
    (hdone : answer.1 = .ok () → answer.2.recent = (s.atPath path).recent) :
    answer.2.recent = noted s (if (refusal? answer.1).isSome then none else some path) := by
  obtain ⟨result, t⟩ := answer
  cases result with
  | error error =>
    obtain rfl : t = s := hrefused error rfl
    rfl
  | ok => exact hdone rfl

/-- Opening notes exactly the file that it used. -/
theorem openFile_recent (disk : Disk (StateM σ)) (d : Desk σ) (path : Path) :
    ((openFile path).run disk d).2.session.recent =
      noted d.session ((openFile path).used? disk d) :=
  recent_of_answer (fun _ h => Session.opened_refused (Prod.ext h rfl))
    fun h => Session.opened_recent (Prod.ext h rfl)

/-- Saving notes exactly the file that it used. -/
theorem saveTo_recent (disk : Disk (StateM σ)) (d : Desk σ) (path : Path) :
    ((saveTo path).run disk d).2.session.recent =
      noted d.session ((saveTo path).used? disk d) :=
  recent_of_answer (fun _ h => Session.saved_refused (Prod.ext h rfl))
    fun h => Session.saved_recent (Prod.ext h rfl)

/-- Saving the document uses the file that the document has. -/
theorem saveDocument_recent (disk : Disk (StateM σ)) (d : Desk σ) :
    (saveDocument.run disk d).2.session.recent =
      noted d.session (saveDocument.used? disk d) := by
  cases hpath : d.session.path with
  | none =>
    have hused : saveDocument.used? disk d = none := by simp [used?, hpath]
    rw [run_saveDocument_of_none disk hpath, hused]
    rfl
  | some path =>
    have hused : saveDocument.used? disk d = (saveTo path).used? disk d := by
      simp only [used?, run_saveDocument_of_some disk hpath, hpath]
    rw [run_saveDocument_of_some disk hpath, hused]
    exact saveTo_recent disk d path

/-- **A call puts the file it used in front of the list**, and leaves the list as it is if it used
none. -/
theorem run_recent (disk : Disk (StateM σ)) (d : Desk σ) (call : DeskCall) :
    (call.run disk d).2.session.recent = noted d.session (call.used? disk d) := by
  cases call with
  | execute command => exact d.session.execute_recent command
  | compile mode => exact d.session.compile_recent mode
  | undo => exact d.session.undo_recent
  | redo => exact d.session.redo_recent
  | load bytes => exact d.session.load_recent bytes
  | openFile path => exact openFile_recent disk d path
  | saveTo path => exact saveTo_recent disk d path
  | saveDocument => exact saveDocument_recent disk d
  | setBackend backend => exact d.session.setBackend_recent backend
  | newDocument => exact d.session.replaceDocument_recent _

/-- A list that begins like a list of distinct files still does after a file was used. -/
theorem noted_take {s : Session} {files : List Path}
    (hrecent : s.recent = (files.eraseDupsBy Path.same).take recentLimit) (used : Option Path) :
    noted s used = ((used.toList ++ files).eraseDupsBy Path.same).take recentLimit := by
  cases used with
  | none => exact hrecent
  | some path =>
    have hone : (files.eraseDupsBy Path.same).Pairwise fun a b =>
        (!a.same path) = true ∨ (!b.same path) = true := by
      refine (Path.pairwise_eraseDupsBy_same files).imp ?_
      intro a b hdiffers
      by_contra hboth
      simp only [not_or, Bool.not_eq_true', Bool.not_eq_false] at hboth
      rw [Path.same_congr hboth.2, Path.same_comm, hboth.1] at hdiffers
      cases hdiffers
    show (path :: s.recent.filter fun other => !other.same path).take recentLimit = _
    rw [hrecent, Option.toList_some, List.singleton_append, Path.eraseDupsBy_same_cons, recentLimit,
      List.take_succ_cons, List.take_succ_cons, take_filter_take hone]

/-- **Recent documents are the files used last.** On whatever disk, after every run of calls from a
new session the list of recent documents is what the list of all files that were opened or saved to
begins with, latest first and each file once. A call that is refused leaves the list as it is, and
so does every call that neither opens nor saves. -/
theorem recent_runAll (disk : Disk (StateM σ)) (config : Config) (state : σ)
    (calls : List DeskCall) :
    let start : Desk σ := ⟨.ofConfig config, state⟩
    let d := runAll disk start calls
    d.session.recent = ((usedAll disk start calls).eraseDupsBy Path.same).take recentLimit ∧
      ∀ call : DeskCall, ((call.run disk d).1.isSome = true ∨
          ∀ path, call ≠ openFile path ∧ call ≠ saveTo path ∧ call ≠ saveDocument) →
        (call.run disk d).2.session.recent = d.session.recent := by
  intro start d
  have hrun : ∀ (calls : List DeskCall) (d : Desk σ) (files : List Path),
      d.session.recent = (files.eraseDupsBy Path.same).take recentLimit →
      (runAll disk d calls).session.recent =
        ((usedAll disk d calls ++ files).eraseDupsBy Path.same).take recentLimit := by
    intro calls
    induction calls with
    | nil => exact fun d files hd => hd
    | cons call rest ih =>
      intro d files hd
      have hnext := (run_recent disk d call).trans (noted_take hd (call.used? disk d))
      rw [usedAll, List.append_assoc]
      exact ih _ _ hnext
  refine ⟨?_, ?_⟩
  · have hstart := hrun calls start [] (Session.ofConfig_recent config)
    rwa [List.append_nil] at hstart
  · intro call hcall
    rw [run_recent, used?_eq_none hcall]
    rfl

/-- A disk takes all files but one, and gives none back. Two files are saved to, the first of them
again under another spelling. -/
theorem recent_runAll_again :
    let disk : Disk (StateM Unit) := {
      read := fun _ => pure (.error .notFound)
      write := fun path _ => pure (if path = ⟨"c"⟩ then .error .isADirectory else .ok ())
      leadsSomewhere := fun _ => pure false
      makeFolders := fun _ => pure (.ok ())
      resolve := fun path => pure (.ok path) }
    let d := runAll disk ⟨.ofConfig .default, ()⟩
      [saveTo ⟨"a"⟩, saveTo ⟨"b"⟩, saveTo ⟨"c"⟩, openFile ⟨"b"⟩, saveTo ⟨"a/"⟩]
    d.session.recent = [⟨"a/"⟩, ⟨"b"⟩] ∧ ((openFile ⟨"b"⟩).run disk d).1 = some (.disk .notFound) ∧
      ((openFile ⟨"b"⟩).run disk d).2.session.recent = d.session.recent ∧
      (newDocument.run disk d).2.session.recent = d.session.recent := by
  intro disk d
  obtain ⟨hrecent, hkept⟩ := recent_runAll disk .default ()
    [saveTo ⟨"a"⟩, saveTo ⟨"b"⟩, saveTo ⟨"c"⟩, openFile ⟨"b"⟩, saveTo ⟨"a/"⟩]
  have hrefused : ((openFile ⟨"b"⟩).run disk d).1 = some (.disk .notFound) := rfl
  exact ⟨hrecent.trans (by decide +kernel), hrefused, hkept _ (.inl rfl),
    hkept newDocument (.inr fun path => by simp)⟩

end DeskCall

end ShaderGraph
