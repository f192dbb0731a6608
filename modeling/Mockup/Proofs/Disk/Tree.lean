import Mathlib.Data.List.Basic
import Mathlib.Tactic.Common
import Mockup.Disk.Access
import Mockup.Proofs.OrderedMap

/-!
# Changes of file trees

Making directories adds directories and nothing else, and a file that is written is the one entry
that changes. A plain name joined to a path leads to a child of the directory that the path names.
-/

namespace Mockup

namespace Path

/-- A name that leads one step down from any directory. -/
def IsPlain (name : String) : Prop :=
  '/' ∉ name.toList ∧ staysThere name = false ∧ name ≠ ".."

theorem head?_ne_slash {name : String} (h : '/' ∉ name.toList) :
    name.toList.head? ≠ some '/' :=
  fun hhead => h (List.mem_of_head? hhead)

theorem names_eq_singleton {name : String} (h : '/' ∉ name.toList) : names name = [name] := by
  rw [names, List.splitOn_eq_singleton h, List.map_singleton, String.ofList_toList]

theorem names_under (base path : String) :
    names (base ++ "/" ++ path) = names base ++ names path := by
  rw [names, names, names, ← List.map_append, String.append_assoc, String.toList_append,
    String.toList_append]
  exact congrArg _ (List.splitOn_append_cons_self _ _)

/-- The names of a path with a name behind it. The path itself may end with one more name, which
is empty. -/
theorem names_join (base : String) {name : String} (h : '/' ∉ name.toList) :
    ∃ front, names (join base name) = front ++ [name] ∧
      (names base = front ∨ names base = front ++ [""]) := by
  have hempty : names "" = [""] := names_eq_singleton (by decide)
  rw [join, if_neg (head?_ne_slash h)]
  split
  · next hbase =>
    rcases hbase with rfl | hlast
    · rw [String.empty_append]
      exact ⟨[], names_eq_singleton h, Or.inr hempty⟩
    · obtain ⟨front, hfront⟩ := List.getLast?_eq_some_iff.1 hlast
      have hbase : base = String.ofList front ++ "/" :=
        String.toList_inj.1 (by rw [hfront, String.toList_append, String.toList_ofList]; rfl)
      refine ⟨names (String.ofList front), ?_, Or.inr ?_⟩
      · rw [hbase, names_under, names_eq_singleton h]
      · rw [hbase, ← String.append_empty (s := String.ofList front ++ "/"), names_under, hempty]
  · exact ⟨names base, by rw [names_under, names_eq_singleton h], Or.inl rfl⟩

theorem isAbsolute_join (base : String) {name : String} (h : '/' ∉ name.toList) :
    isAbsolute (join base name) = isAbsolute base := by
  rw [join, if_neg (head?_ne_slash h)]
  by_cases hbase : base = ""
  · rw [if_pos (Or.inl hbase), hbase, String.empty_append]
    exact decide_eq_false (head?_ne_slash h)
  · have hne : base.toList ≠ [] := fun hnil => hbase (String.toList_eq_nil_iff.1 hnil)
    have happend (rest : String) : isAbsolute (base ++ rest) = isAbsolute base := by
      rw [isAbsolute, isAbsolute, String.toList_append, List.head?_append_of_ne_nil _ hne]
    split
    · exact happend name
    · rw [String.append_assoc, happend]

end Path

namespace Place

theorem child_injective (place : Place) : (child place).Injective := by
  intro name other h
  exact (String.append_right_inj _).1 h

theorem child_ne_top (place : Place) (name : String) : place.child name ≠ top := by
  intro h
  have hslash : '/' ∈ (place.child name).toList := by simp [child]
  rw [h] at hslash
  cases hslash

end Place

namespace FileTree

/-- The content of the file at a place. -/
def file? (t : FileTree) (place : Place) : Option String :=
  match t.entry? place with
  | some (.file content) => some content
  | _ => none

/-- The directory that a path leads to. -/
def directory? (t : FileTree) (path : String) : Option Place :=
  t.enter? (t.start path) (Path.names path)

theorem entry?_put_child (t : FileTree) (place : Place) (name : String) (entry : Entry)
    (other : Place) : FileTree.entry? (t.put (place.child name) entry) other =
      if other = place.child name then some entry else t.entry? other := by
  by_cases htop : other = .top
  · subst htop
    rw [if_neg (place.child_ne_top name).symm]
    rfl
  · unfold FileTree.entry?
    rw [if_neg htop, if_neg htop, put]
    exact OrderedMap.get?_insert ..

theorem enter?_cons (t : FileTree) (place : Place) (name : String) (names : List String) :
    t.enter? place (name :: names) =
      if Path.staysThere name then t.enter? place names
      else if name = ".." then t.enter? place.parent names
      else if t.entry? (place.child name) = some .directory then
        t.enter? (place.child name) names
      else none := by
  rw [enter?]
  congr 2
  split
  · next h => rw [if_pos h]
  · next h => rw [if_neg h]

theorem enter?_append (t : FileTree) (place : Place) (front rear : List String) :
    t.enter? place (front ++ rear) = (t.enter? place front).bind (t.enter? · rear) := by
  induction front generalizing place with
  | nil => rfl
  | cons name front ih =>
    rw [List.cons_append, enter?_cons, enter?_cons, ih, ih, ih]
    split_ifs <;> rfl

theorem enter?_congr {t t' : FileTree}
    (h : ∀ place, t'.entry? place = some .directory ↔ t.entry? place = some .directory)
    (place : Place) (names : List String) : t'.enter? place names = t.enter? place names := by
  induction names generalizing place with
  | nil => rfl
  | cons name names ih => simp only [enter?_cons, ih, h]

/-- A path with a plain name behind it leads to a child of the directory. -/
theorem filePlace?_join (t : FileTree) (directory : String) {name : String}
    (h : Path.IsPlain name) : t.filePlace? (Path.join directory name) =
      if Path.isPath (Path.join directory name) ∧ Path.isName name then
        (t.directory? directory).map (·.child name)
      else none := by
  obtain ⟨hslash, hthere, hup⟩ := h
  obtain ⟨front, hjoin, hdirectory⟩ := Path.names_join directory hslash
  have hstart : t.start (Path.join directory name) = t.start directory := by
    rw [start, start, Path.isAbsolute_join directory hslash]
  have henter : t.enter? (t.start directory) front = t.directory? directory := by
    rw [directory?]
    rcases hdirectory with hnames | hnames
    · rw [hnames]
    · rw [hnames, enter?_append]
      cases t.enter? (t.start directory) front <;> rfl
  rw [filePlace?, hjoin, List.getLast?_concat, List.dropLast_concat, hstart, henter]
  cases t.directory? directory with
  | none => simp
  | some place => simp [hthere, hup]

/-- Directories are added where nothing was. -/
structure AddsDirectories (t t' : FileTree) : Prop where
  current : t'.current = t.current
  entry? : ∀ place, t'.entry? place = t.entry? place ∨
    t.entry? place = none ∧ t'.entry? place = some .directory

namespace AddsDirectories

variable {t t' t'' : FileTree}

theorem refl (t : FileTree) : t.AddsDirectories t :=
  ⟨rfl, fun _ => Or.inl rfl⟩

theorem trans (h : t.AddsDirectories t') (h' : t'.AddsDirectories t'') : t.AddsDirectories t'' where
  current := h'.current.trans h.current
  entry? place := by
    rcases h'.entry? place with hsame | ⟨hnone, hnew⟩
    · rw [hsame]
      exact h.entry? place
    · rcases h.entry? place with hsame | ⟨-, hnew'⟩
      · exact Or.inr ⟨hsame ▸ hnone, hnew⟩
      · rw [hnone] at hnew'
        cases hnew'

theorem put_child {place : Place} {name : String} (h : t.entry? (place.child name) = none) :
    t.AddsDirectories (t.put (place.child name) .directory) where
  current := rfl
  entry? other := by
    rw [entry?_put_child]
    split
    · next hother => exact Or.inr ⟨hother ▸ h, rfl⟩
    · exact Or.inl rfl

theorem directory (h : t.AddsDirectories t') {place : Place}
    (hplace : t.entry? place = some .directory) : t'.entry? place = some .directory := by
  rcases h.entry? place with hsame | ⟨-, hnew⟩
  · rw [hsame, hplace]
  · exact hnew

theorem file? (h : t.AddsDirectories t') (place : Place) : t'.file? place = t.file? place := by
  rcases h.entry? place with hsame | ⟨hnone, hnew⟩
  · rw [FileTree.file?, FileTree.file?, hsame]
  · rw [FileTree.file?, FileTree.file?, hnone, hnew]

end AddsDirectories

theorem makeAlong_addsDirectories (t : FileTree) (place : Place) (names : List String) :
    t.AddsDirectories (t.makeAlong place names).1 := by
  induction names generalizing t place with
  | nil => exact .refl t
  | cons name names ih =>
    rw [makeAlong]
    split
    · exact ih t place
    · split
      · exact ih t place.parent
      · split
        · exact ih t (place.child name)
        · exact .refl t
        · next hnone =>
          split
          · exact (AddsDirectories.put_child hnone).trans (ih _ _)
          · exact .refl t

theorem exists_enter?_of_makeAlong {t t' : FileTree} {place : Place} {names : List String}
    (h : t.makeAlong place names = (t', true)) :
    ∃ reached, t'.enter? place names = some reached := by
  induction names generalizing t place with
  | nil => exact ⟨place, rfl⟩
  | cons name names ih =>
    rw [makeAlong] at h
    rw [enter?_cons]
    by_cases hthere : Path.staysThere name = true
    · rw [if_pos hthere] at h ⊢
      exact ih h
    rw [if_neg hthere] at h ⊢
    by_cases hup : name = ".."
    · rw [if_pos hup] at h ⊢
      exact ih h
    rw [if_neg hup] at h ⊢
    have hstep : ∃ u : FileTree, u.entry? (place.child name) = some .directory ∧
        u.makeAlong (place.child name) names = (t', true) := by
      split at h
      · next hdirectory => exact ⟨t, hdirectory, h⟩
      · cases h
      · split at h
        · exact ⟨_, by rw [entry?_put_child, if_pos rfl], h⟩
        · cases h
    obtain ⟨u, hdirectory, hu⟩ := hstep
    have hadds := u.makeAlong_addsDirectories (place.child name) names
    rw [hu] at hadds
    rw [if_pos (hadds.directory hdirectory)]
    exact ih hu

theorem makeDirectories_addsDirectories (t : FileTree) (path : String) :
    t.AddsDirectories (t.makeDirectories path).1 := by
  rw [makeDirectories]
  split
  · exact t.makeAlong_addsDirectories _ _
  · exact .refl t

theorem exists_directory?_of_makeDirectories {t t' : FileTree} {path : String}
    (h : t.makeDirectories path = (t', true)) :
    ∃ directory, t'.directory? path = some directory := by
  have hadds := t.makeDirectories_addsDirectories path
  rw [h] at hadds
  rw [makeDirectories] at h
  split at h
  · have hstart : t'.start path = t.start path := by rw [start, start, hadds.current]
    rw [directory?, hstart]
    exact exists_enter?_of_makeAlong h
  · cases h

/-- A file that could be written into a directory is its child now, and nothing else has
changed. -/
theorem write?_join {t t' : FileTree} {path name content : String} {directory : Place}
    (hname : Path.IsPlain name) (hdirectory : t.directory? path = some directory)
    (h : t.write? (Path.join path name) content = some t') :
    t' = t.put (directory.child name) (.file content) ∧
      t.entry? (directory.child name) ≠ some .directory := by
  rw [write?, filePlace?_join t path hname, hdirectory] at h
  split at h
  · simp only [Option.map_some, Option.bind_eq_bind, Option.bind_some] at h
    split at h
    · cases h
    · next hentry => exact ⟨(Option.some.inj h).symm, hentry⟩
  · cases h

theorem directory?_put_file {t : FileTree} {directory : Place} {name : String}
    (h : t.entry? (directory.child name) ≠ some .directory) (content path : String) :
    (t.put (directory.child name) (.file content)).directory? path = t.directory? path := by
  refine enter?_congr (fun place => ?_) _ _
  rw [entry?_put_child]
  split_ifs with hplace
  · rw [hplace]
    exact iff_of_false (by simp) h
  · rfl

/-- The tree with files in a directory, each written over what was there. -/
def fill (t : FileTree) (directory : Place) (files : List (String × String)) : FileTree :=
  files.foldl (fun t file => t.put (directory.child file.1) (.file file.2)) t

theorem fill_cons (t : FileTree) (directory : Place) (name content : String)
    (files : List (String × String)) : t.fill directory ((name, content) :: files) =
      (t.put (directory.child name) (.file content)).fill directory files :=
  rfl

theorem file?_put_child (t : FileTree) (directory : Place) (name content : String)
    (place : Place) : (t.put (directory.child name) (.file content)).file? place =
      if place = directory.child name then some content else t.file? place := by
  rw [file?, entry?_put_child]
  split_ifs <;> rfl

theorem file?_fill_of_notMem {directory place : Place} {files : List (String × String)}
    (h : ∀ file ∈ files, place ≠ directory.child file.1) (t : FileTree) :
    (t.fill directory files).file? place = t.file? place := by
  induction files generalizing t with
  | nil => rfl
  | cons file files ih =>
    rw [List.forall_mem_cons] at h
    rw [fill_cons, ih h.2, file?_put_child, if_neg h.1]

theorem file?_fill_of_mem {files : List (String × String)} (hnodup : (files.map Prod.fst).Nodup)
    {name content : String} (h : (name, content) ∈ files) (t : FileTree) (directory : Place) :
    (t.fill directory files).file? (directory.child name) = some content := by
  induction files generalizing t with
  | nil => cases h
  | cons file files ih =>
    rw [List.map_cons, List.nodup_cons] at hnodup
    rcases List.mem_cons.1 h with rfl | h
    · rw [fill_cons, file?_fill_of_notMem, file?_put_child, if_pos rfl]
      intro file hfile hplace
      exact hnodup.1 (List.mem_map.2 ⟨file, hfile, (directory.child_injective hplace).symm⟩)
    · exact ih hnodup.2 h _

end FileTree
end Mockup
