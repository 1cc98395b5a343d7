import Mathlib.Tactic.Common
import ShaderGraph.Storage.FileTree

/-!
# Walks that arrive

A walk that does not fail takes one of six steps at each segment, or is at its end. What each step
takes is said here once, as a relation; what holds wherever walks arrive is proved by induction on
it, and none of those proofs walks a path again.
-/

set_option autoImplicit false

namespace ShaderGraph.FileTree

variable {tree : FileTree} {purpose : WalkUse} {links : Nat} {place : Place} {segment : String}
  {rest segments : List String} {last : WalkEnd}

/-- Whether a segment, given those behind it, is the name of an entry of a folder, short enough and
not the name of a file to be made with a separator behind it. -/
structure IsStep (purpose : WalkUse) (segment : String) (rest : List String) : Prop where
  /-- The segment does not stay in the folder. -/
  not_here : ¬(segment = "" ∨ segment = ".")
  /-- The segment does not lead to the folder around. -/
  not_up : segment ≠ ".."
  /-- A file is not made with a separator behind its name. -/
  not_folder : ¬(purpose = .makeFile ∧ rest.all String.isEmpty ∧ !rest.isEmpty)
  /-- The name is not too long. -/
  fits : ¬nameLimit < segment.utf8ByteSize

/-- Whether the walk of segments from a place, with some links left to follow, arrives. -/
inductive Walks (tree : FileTree) (purpose : WalkUse) :
    Nat → Place → List String → WalkEnd → Prop
  /-- No segment is left. -/
  | done (links : Nat) (place : Place) :
    Walks tree purpose links place [] (.found place ((tree.entry? place).getD .folder))
  /-- The segment stays in the folder. -/
  | here {links : Nat} {place : Place} {segment : String} {rest : List String} {last : WalkEnd}
    (hfolder : tree.entry? place = some .folder) (hhere : segment = "" ∨ segment = ".")
    (hrest : Walks tree purpose links place rest last) :
    Walks tree purpose links place (segment :: rest) last
  /-- The segment leads to the folder around. -/
  | up {links : Nat} {place : Place} {rest : List String} {last : WalkEnd}
    (hfolder : tree.entry? place = some .folder)
    (hrest : Walks tree purpose links place.dropLast rest last) :
    Walks tree purpose links place (".." :: rest) last
  /-- The last name is that of nothing in the folder. -/
  | vacant {links : Nat} {place : Place} {segment : String} {rest : List String}
    (hfolder : tree.entry? place = some .folder) (hstep : IsStep purpose segment rest)
    (hnone : tree.entry? (place ++ [segment]) = none) (hlast : rest.all String.isEmpty = true) :
    Walks tree purpose links place (segment :: rest)
      (.vacant (place ++ [segment]) (!rest.isEmpty))
  /-- The last name is that of an entry, and the entry itself is asked for. -/
  | entry (entry : FileEntry) {links : Nat} {place : Place} {segment : String} {rest : List String}
    (hfolder : tree.entry? place = some .folder) (hstep : IsStep purpose segment rest)
    (hsome : tree.entry? (place ++ [segment]) = some entry)
    (hentry : purpose = .entry ∧ rest.all String.isEmpty = true) :
    Walks tree purpose links place (segment :: rest) (.found (place ++ [segment]) entry)
  /-- The name is that of a link, which is followed. -/
  | link {links : Nat} {place : Place} {segment target : String} {rest : List String}
    {last : WalkEnd} (hfolder : tree.entry? place = some .folder)
    (hstep : IsStep purpose segment rest)
    (hsome : tree.entry? (place ++ [segment]) = some (.link target))
    (hentry : ¬(purpose = .entry ∧ rest.all String.isEmpty = true))
    (hrest : Walks tree purpose links (if target.startsWith "/" then [] else place)
      (Path.segments ⟨target⟩ ++ rest) last) :
    Walks tree purpose (links + 1) place (segment :: rest) last
  /-- The name is that of a folder or a file, where the walk goes on. -/
  | into (entry : FileEntry) {links : Nat} {place : Place} {segment : String} {rest : List String}
    {last : WalkEnd} (hfolder : tree.entry? place = some .folder)
    (hstep : IsStep purpose segment rest)
    (hsome : tree.entry? (place ++ [segment]) = some entry)
    (hentry : ¬(purpose = .entry ∧ rest.all String.isEmpty = true))
    (hnot : ∀ target, entry ≠ .link target)
    (hrest : Walks tree purpose links (place ++ [segment]) rest last) :
    Walks tree purpose links place (segment :: rest) last

/-- The step over a name looks at what stands there. -/
theorem IsStep.walk_eq (hstep : IsStep purpose segment rest)
    (hfolder : tree.entry? place = some .folder) :
    tree.walk purpose links place (segment :: rest) =
      match tree.entry? (place ++ [segment]) with
      | none =>
        if rest.all String.isEmpty then .ok (.vacant (place ++ [segment]) (!rest.isEmpty))
        else .error .notFound
      | some entry =>
        if purpose = .entry ∧ rest.all String.isEmpty then .ok (.found (place ++ [segment]) entry)
        else match entry with
        | .link target =>
          match links with
          | 0 => .error .tooManyLinks
          | links + 1 =>
            tree.walk purpose links (if target.startsWith "/" then [] else place)
              (Path.segments ⟨target⟩ ++ rest)
        | _ => tree.walk purpose links (place ++ [segment]) rest := by
  rw [walk, if_neg (not_not.mpr hfolder), if_neg hstep.not_here, if_neg hstep.not_up]
  refine (if_neg hstep.not_folder).trans ((if_neg hstep.fits).trans ?_)
  cases tree.entry? (place ++ [segment]) with
  | none => rfl
  | some entry =>
    cases entry with
    | link target => cases links <;> rfl
    | _ => rfl

/-- A walk that arrives stays in the folder, leads to the folder around, or steps over a name. -/
theorem isStep_of_walk (hfolder : tree.entry? place = some .folder)
    (hhere : ¬(segment = "" ∨ segment = ".")) (hup : segment ≠ "..")
    (hwalk : tree.walk purpose links place (segment :: rest) = .ok last) :
    IsStep purpose segment rest := by
  rw [walk, if_neg (not_not.mpr hfolder), if_neg hhere, if_neg hup] at hwalk
  dsimp only at hwalk
  by_cases hmake : purpose = .makeFile ∧ rest.all String.isEmpty ∧ !rest.isEmpty
  · rw [if_pos hmake] at hwalk
    cases hwalk
  · rw [if_neg hmake] at hwalk
    by_cases hlong : nameLimit < segment.utf8ByteSize
    · rw [if_pos hlong] at hwalk
      cases hwalk
    · exact ⟨hhere, hup, hmake, hlong⟩

/-- A walk that does not fail takes these steps. -/
theorem walks_of_walk (links : Nat) (place : Place) :
    ∀ segments, tree.walk purpose links place segments = .ok last →
      tree.Walks purpose links place segments last
  | [], hwalk => by
    rw [walk] at hwalk
    obtain rfl := Except.ok.inj hwalk
    exact .done links place
  | segment :: rest, hwalk => by
    by_cases hfolder : tree.entry? place = some .folder
    case neg =>
      rw [walk, if_pos hfolder] at hwalk
      cases hwalk
    by_cases hhere : segment = "" ∨ segment = "."
    case pos =>
      rw [walk, if_neg (not_not.mpr hfolder), if_pos hhere] at hwalk
      exact .here hfolder hhere (walks_of_walk links place rest hwalk)
    by_cases hup : segment = ".."
    case pos =>
      rw [walk, if_neg (not_not.mpr hfolder), if_neg hhere, if_pos hup] at hwalk
      obtain rfl := hup
      exact .up hfolder (walks_of_walk links place.dropLast rest hwalk)
    have hstep := isStep_of_walk hfolder hhere hup hwalk
    rw [hstep.walk_eq hfolder] at hwalk
    cases hentry : tree.entry? (place ++ [segment]) with
    | none =>
      rw [hentry] at hwalk
      dsimp only at hwalk
      split_ifs at hwalk with hlast
      obtain rfl := Except.ok.inj hwalk
      exact .vacant hfolder hstep hentry hlast
    | some entry =>
      rw [hentry] at hwalk
      dsimp only at hwalk
      split_ifs at hwalk with hasked
      · obtain rfl := Except.ok.inj hwalk
        exact .entry entry hfolder hstep hentry hasked
      · cases entry with
        | link target =>
          cases links with
          | zero => cases hwalk
          | succ links => exact .link hfolder hstep hentry hasked (walks_of_walk links _ _ hwalk)
        | file content =>
          exact .into _ hfolder hstep hentry hasked (by simp) (walks_of_walk links _ rest hwalk)
        | folder =>
          exact .into _ hfolder hstep hentry hasked (by simp) (walks_of_walk links _ rest hwalk)
termination_by segments => (links, segments.length)

/-- A walk that takes these steps does not fail. -/
theorem Walks.walk_eq (h : tree.Walks purpose links place segments last) :
    tree.walk purpose links place segments = .ok last := by
  induction h with
  | done links place => rw [walk]
  | here hfolder hhere _ ih => rw [walk, if_neg (not_not.mpr hfolder), if_pos hhere, ih]
  | up hfolder _ ih =>
    rw [walk, if_neg (not_not.mpr hfolder), if_neg (by decide), if_pos rfl, ih]
  | vacant hfolder hstep hnone hlast =>
    rw [hstep.walk_eq hfolder, hnone]
    exact if_pos hlast
  | entry _ hfolder hstep hsome hentry =>
    rw [hstep.walk_eq hfolder, hsome]
    exact if_pos hentry
  | link hfolder hstep hsome hentry _ ih =>
    rw [hstep.walk_eq hfolder, hsome]
    dsimp only
    rw [if_neg hentry, ih]
  | into entry hfolder hstep hsome hentry hnot _ ih =>
    rw [hstep.walk_eq hfolder, hsome]
    dsimp only
    rw [if_neg hentry]
    cases entry with
    | link target => exact absurd rfl (hnot target)
    | _ => exact ih

/-- **Walks arrive where the relation says**, and fail where it says nothing. -/
theorem walk_eq_ok_iff : tree.walk purpose links place segments = .ok last ↔
    tree.Walks purpose links place segments last :=
  ⟨walks_of_walk links place segments, Walks.walk_eq⟩

end ShaderGraph.FileTree
