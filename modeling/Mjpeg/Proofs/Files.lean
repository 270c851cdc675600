import Mjpeg.FileTree
import Mjpeg.Proofs.Texts

/-!
# Files that are written

Following a path looks at directories only, so it leads to the same place in two trees with the
same directories (`LeadsTo.congr`). Writing puts a file at the place that its path leads to, where
no directory may stand (`write_eq_ok_iff`), and making directories puts them where nothing stands.
So every path leads where it led before a file was written (`leadsTo_put_iff`), and the files stay
when directories are made (`sameFiles_makeDirectories`).

The path of a name in a directory takes the steps to the directory and then the name (`route_join`),
so the name leads to a place in that directory (`leadsTo_join`). The last step of a path is the last
name of the place that it leads to (`LeadsTo.getLast?_place`), so files with different names in one
directory stand at different places.
-/

namespace Mjpeg.FileTree

variable {t t' : FileTree} {place place' directory directory' : List String} {path step : String}
  {contents : Bytes} {entry : FileEntry}

/-! ### What stands at a place -/

/-- A place that never changes: the root, the working directory, or one above it. -/
def isFixed (place : List String) : Bool := place == [""] || place.all (· == "..")

theorem get?_eq (t : FileTree) (place : List String) :
    t.get? place = if isFixed place then some .directory
      else (t.entries.find? fun e => e.1 == place).map (·.2) := rfl

theorem get?_put_eq (t : FileTree) (place place' : List String) (entry : FileEntry) :
    (t.put place entry).get? place' = if isFixed place' then some .directory
      else ((t.entries.filter (fun e => e.1 != place) ++ [(place, entry)]).find?
        fun e => e.1 == place').map (·.2) := rfl

theorem get?_put_of_ne (h : place' ≠ place) : (t.put place entry).get? place' = t.get? place' := by
  have hlast : (place == place') = false := beq_eq_false_iff_ne.mpr h.symm
  have hrest : (fun e : List String × FileEntry =>
      decide ((e.1 != place) = true ∧ (e.1 == place') = true)) = fun e => e.1 == place' := by
    funext e
    by_cases heq : e.1 = place' <;> simp [heq, h]
  rw [get?_put_eq, get?_eq, List.find?_append, List.find?_filter, hrest, List.find?_singleton,
    hlast, if_neg Bool.false_ne_true, Option.or_none]

/-- An entry that is put where no directory stands is there then. -/
theorem get?_put_self (h : t.get? place ≠ some .directory) :
    (t.put place entry).get? place = some entry := by
  have hfixed : ¬ isFixed place = true := fun hfixed => h (by rw [get?_eq, if_pos hfixed])
  have hnone : (t.entries.filter fun e => e.1 != place).find? (fun e => e.1 == place) = none := by
    refine List.find?_eq_none.mpr fun e he => ?_
    simpa using (List.mem_filter.mp he).2
  rw [get?_put_eq, if_neg hfixed, List.find?_append, hnone, Option.none_or, List.find?_singleton,
    if_pos (beq_self_eq_true _), Option.map_some]

/-- Putting a file where no directory stands adds no directory and takes none away. -/
theorem get?_put_eq_directory_iff (h : t.get? place ≠ some .directory) :
    (t.put place (.file contents)).get? place' = some .directory ↔
      t.get? place' = some .directory := by
  by_cases heq : place' = place
  · subst heq
    rw [get?_put_self h]
    exact iff_of_false (by simp) h
  · rw [get?_put_of_ne heq]

/-! ### Following a path -/

/-- Directories stand at the same places of two trees. -/
def SameDirectories (t t' : FileTree) : Prop :=
  ∀ place, t.get? place = some .directory ↔ t'.get? place = some .directory

theorem SameDirectories.refl (t : FileTree) : SameDirectories t t := fun _ => Iff.rfl

theorem SameDirectories.trans {t'' : FileTree} (h : SameDirectories t t')
    (h' : SameDirectories t' t'') : SameDirectories t t'' :=
  fun place => (h place).trans (h' place)

theorem sameDirectories_put (h : t.get? place ≠ some .directory) :
    SameDirectories t (t.put place (.file contents)) :=
  fun _ => (get?_put_eq_directory_iff h).symm

/-- Two steps one after the other succeed when both do. -/
theorem bind_eq_ok_iff {α β : Type} {x : Except IoError α} {f : α → Except IoError β} {b : β} :
    x >>= f = .ok b ↔ ∃ a, x = .ok a ∧ f a = .ok b := by
  cases x with
  | error e => exact iff_of_false (by simp [bind, Except.bind]) (by simp)
  | ok a => exact ⟨fun h => ⟨a, rfl, h⟩, fun ⟨_, ha, h⟩ => Except.ok.inj ha ▸ h⟩

/-- A name leads to a directory when one stands at its place. -/
theorem enter_of_isName (h : Route.isName step = true) :
    t.enter directory step = .ok directory' ↔
      placeOf directory step = .ok directory' ∧ t.get? directory' = some .directory := by
  obtain ⟨hdot, hdots⟩ : (step == ".") = false ∧ (step == "..") = false := by
    simpa [Route.isName] using h
  rw [enter, hdot, hdots]
  change placeOf directory step >>= _ = _ ↔ _
  rw [bind_eq_ok_iff]
  constructor
  · rintro ⟨place, hplace, hget⟩
    split at hget
    · exact absurd hget nofun
    · exact absurd hget nofun
    · rename_i hdirectory
      obtain rfl := Except.ok.inj hget
      exact ⟨hplace, hdirectory⟩
  · rintro ⟨hplace, hget⟩
    refine ⟨directory', hplace, ?_⟩
    rw [hget]
    rfl

theorem enter_dot (t : FileTree) (directory : List String) :
    t.enter directory "." = .ok directory := rfl

theorem enter_dots (t : FileTree) (directory : List String) :
    t.enter directory ".." = .ok (placeAbove directory) := rfl

theorem SameDirectories.enter_eq_ok_iff (h : SameDirectories t t') :
    t.enter directory step = .ok directory' ↔ t'.enter directory step = .ok directory' := by
  by_cases hdot : step = "."
  · rw [hdot, enter_dot, enter_dot]
  by_cases hdots : step = ".."
  · rw [hdots, enter_dots, enter_dots]
  have hname : Route.isName step = true := by simp [Route.isName, hdot, hdots]
  rw [enter_of_isName hname, enter_of_isName hname, h directory']

theorem SameDirectories.foldlM_enter_eq_ok_iff (h : SameDirectories t t') (steps : List String)
    (directory : List String) :
    steps.foldlM t.enter directory = .ok directory' ↔
      steps.foldlM t'.enter directory = .ok directory' := by
  induction steps generalizing directory with
  | nil => exact Iff.rfl
  | cons step steps ih => simp only [List.foldlM_cons, bind_eq_ok_iff, h.enter_eq_ok_iff, ih]

theorem SameDirectories.walk_eq_ok_iff (h : SameDirectories t t') {r : Route}
    {target : List String × Option String} : t.walk r = .ok target ↔ t'.walk r = .ok target := by
  simp only [walk, bind_eq_ok_iff, h.foldlM_enter_eq_ok_iff]

theorem place?_eq_some_iff : t.place? path = some place ↔
    ∃ directory name, t.walk (route path) = .ok (directory, some name) ∧
      place = directory ++ [name] := by
  unfold place?
  rcases t.walk (route path) with e | ⟨directory, _ | name⟩ <;> simp [eq_comm]

theorem SameDirectories.place?_eq (h : SameDirectories t t') (path : String) :
    t.place? path = t'.place? path :=
  Option.ext fun place => by simp only [place?_eq_some_iff, h.walk_eq_ok_iff]

/-- A path leads by a name to a place at which a file may stand. -/
structure LeadsTo (t : FileTree) (path : String) (place : List String) : Prop where
  length : checkLength path = .ok ()
  slashed : (route path).slashed = false
  walk : ∃ directory name, t.walk (route path) = .ok (directory, some name) ∧
    Route.isName name = true ∧ placeOf directory name = .ok place

theorem LeadsTo.congr (h : SameDirectories t t') : LeadsTo t path place ↔ LeadsTo t' path place :=
  ⟨fun ⟨hlength, hslashed, directory, name, hwalk, hname, hplace⟩ =>
      ⟨hlength, hslashed, directory, name, h.walk_eq_ok_iff.mp hwalk, hname, hplace⟩,
    fun ⟨hlength, hslashed, directory, name, hwalk, hname, hplace⟩ =>
      ⟨hlength, hslashed, directory, name, h.walk_eq_ok_iff.mpr hwalk, hname, hplace⟩⟩

/-- **A path leads where it led before a file was written.** -/
theorem leadsTo_put_iff (h : t.get? place' ≠ some .directory) :
    LeadsTo (t.put place' (.file contents)) path place ↔ LeadsTo t path place :=
  (LeadsTo.congr (sameDirectories_put h)).symm

theorem placeOf_eq_ok {name : String} (h : placeOf directory name = .ok place) :
    place = directory ++ [name] := by
  unfold placeOf at h
  split at h
  · exact absurd h (by simp)
  · exact (Except.ok.inj h).symm

theorem LeadsTo.place?_eq (h : LeadsTo t path place) : t.place? path = some place := by
  obtain ⟨directory, name, hwalk, -, hplace⟩ := h.walk
  rw [place?, hwalk, placeOf_eq_ok hplace]

theorem LeadsTo.eq (h : LeadsTo t path place) (h' : LeadsTo t path place') : place = place' :=
  Option.some.inj (h.place?_eq.symm.trans h'.place?_eq)

theorem eq_of_walk {r : Route} {name? : Option String} (h : t.walk r = .ok (directory, name?)) :
    name? = r.steps.getLast? := by
  simp only [FileTree.walk, bind, Except.bind, pure, Except.pure] at h
  split at h
  · exact absurd h (by simp)
  · exact (Prod.mk.inj (Except.ok.inj h)).2.symm

/-- The last step of a path is the last name of the place that it leads to. -/
theorem LeadsTo.getLast?_place (h : LeadsTo t path place) :
    place.getLast? = (route path).steps.getLast? := by
  obtain ⟨directory, name, hwalk, -, hplace⟩ := h.walk
  rw [placeOf_eq_ok hplace, ← eq_of_walk hwalk, List.getLast?_concat]

/-! ### Opening and writing -/

theorem leadsTo_of_walk {name : String} (hlength : checkLength path = .ok ())
    (hwalk : t.walk (route path) = .ok (directory, some name))
    (hname : ¬ ((route path).slashed || !Route.isName name) = true)
    (hplace : placeOf directory name = .ok place) : LeadsTo t path place := by
  obtain ⟨hslashed, hname⟩ : (route path).slashed = false ∧ Route.isName name = true := by
    simpa using hname
  exact ⟨hlength, hslashed, directory, name, hwalk, hname, hplace⟩

/-- A path lets a file be written where it leads, if no directory stands there. -/
theorem writablePlace_eq_ok_iff : t.writablePlace path = .ok place ↔
    LeadsTo t path place ∧ t.get? place ≠ some .directory := by
  constructor
  · intro h
    obtain ⟨⟨⟩, hlength, h⟩ := bind_eq_ok_iff.mp h
    obtain ⟨⟨directory, _ | name⟩, hwalk, h⟩ := bind_eq_ok_iff.mp h
    · exact absurd h nofun
    dsimp only at h
    split at h
    · exact absurd h nofun
    rename_i hname
    obtain ⟨place', hplace, h⟩ := bind_eq_ok_iff.mp h
    have hleads := leadsTo_of_walk hlength hwalk hname hplace
    split at h
    · exact absurd h nofun
    · rename_i hget
      obtain rfl := Except.ok.inj h
      exact ⟨hleads, by simp [hget]⟩
    · rename_i hget
      obtain rfl := Except.ok.inj h
      exact ⟨hleads, by simp [hget]⟩
  · rintro ⟨⟨hlength, hslashed, directory, name, hwalk, hname, hplace⟩, hfree⟩
    simp only [writablePlace, bind, Except.bind, pure, Except.pure, hlength, hwalk, hslashed, hname,
      hplace]
    cases hget : t.get? place with
    | none => rfl
    | some entry =>
      cases entry with
      | file c => rfl
      | directory => exact absurd hget hfree

/-- **Writing puts a file at the place that its path leads to**, where no directory may stand. -/
theorem write_eq_ok_iff : t.write path contents = .ok t' ↔
    ∃ place, LeadsTo t path place ∧ t.get? place ≠ some .directory ∧
      t' = t.put place (.file contents) := by
  unfold write
  constructor
  · intro h
    cases hplace : t.writablePlace path with
    | error e => exact absurd (hplace ▸ h) nofun
    | ok place =>
      rw [hplace] at h
      obtain ⟨hleads, hfree⟩ := writablePlace_eq_ok_iff.mp hplace
      exact ⟨place, hleads, hfree, (Except.ok.inj h).symm⟩
  · rintro ⟨place, hleads, hfree, rfl⟩
    rw [writablePlace_eq_ok_iff.mpr ⟨hleads, hfree⟩]
    rfl

/-- The same places can be written to in two trees with the same directories. -/
theorem SameDirectories.writablePlace_eq_ok_iff (h : SameDirectories t t') :
    t.writablePlace path = .ok place ↔ t'.writablePlace path = .ok place := by
  rw [FileTree.writablePlace_eq_ok_iff, FileTree.writablePlace_eq_ok_iff, LeadsTo.congr h, Ne, Ne,
    h place]

/-! ### Many files at once -/

@[simp] theorem putAll_nil (t : FileTree) : t.putAll [] = t := by
  simp [putAll]

/-- The last of many files is put behind those before it. -/
theorem putAll_concat {files : List (List String × Bytes)} (h : ∀ file ∈ files, file.1 ≠ place) :
    t.putAll (files ++ [(place, contents)]) = (t.putAll files).put place (.file contents) := by
  have hkeep : (files.map fun file => (file.1, FileEntry.file file.2)).filter
      (fun e => e.1 != place) = files.map fun file => (file.1, .file file.2) := by
    refine List.filter_eq_self.mpr fun e he => ?_
    obtain ⟨file, hfile, rfl⟩ := List.mem_map.mp he
    simpa using h file hfile
  have hgone : (fun e : List String × FileEntry =>
      (files ++ [(place, contents)]).all fun file => file.1 != e.1) =
      fun e => e.1 != place && files.all fun file => file.1 != e.1 := by
    funext e
    simp [Bool.and_comm, bne_comm (a := place)]
  unfold putAll put
  rw [List.filter_append, List.filter_filter, hkeep, hgone, List.map_append, List.append_assoc]
  rfl

/-- A file that is opened stands at the place that its path leads to. -/
theorem open?_eq_file_iff : t.open? path = .ok (.file contents) ↔
    ∃ place, LeadsTo t path place ∧ t.get? place = some (.file contents) := by
  constructor
  · intro h
    obtain ⟨⟨⟩, hlength, h⟩ := bind_eq_ok_iff.mp h
    obtain ⟨⟨directory, _ | name⟩, hwalk, h⟩ := bind_eq_ok_iff.mp h
    · exact absurd h nofun
    dsimp only at h
    split at h
    · -- only a directory is opened by a path that does not end with a name
      obtain ⟨-, -, h⟩ := bind_eq_ok_iff.mp h
      exact absurd h nofun
    rename_i hname
    obtain ⟨place, hplace, h⟩ := bind_eq_ok_iff.mp h
    split at h
    · exact absurd h nofun
    · rename_i entry hget
      obtain rfl := Except.ok.inj h
      exact ⟨place, leadsTo_of_walk hlength hwalk hname hplace, hget⟩
  · rintro ⟨place, ⟨hlength, hslashed, directory, name, hwalk, hname, hplace⟩, hget⟩
    simp [open?, bind, Except.bind, pure, Except.pure, hlength, hwalk, hslashed, hname, hplace,
      hget]

/-! ### Making directories -/

/-- The same files stand in two trees. -/
def SameFiles (t t' : FileTree) : Prop :=
  ∀ place contents, t'.get? place = some (.file contents) ↔ t.get? place = some (.file contents)

theorem SameFiles.refl (t : FileTree) : SameFiles t t := fun _ _ => Iff.rfl

theorem SameFiles.trans {t'' : FileTree} (h : SameFiles t t') (h' : SameFiles t' t'') :
    SameFiles t t'' :=
  fun place contents => (h' place contents).trans (h place contents)

/-- A directory is made where nothing stands. -/
theorem sameFiles_of_makeDirectory {r : Route} (h : t.makeDirectory r = .ok t') :
    SameFiles t t' := by
  obtain ⟨⟨directory, _ | name⟩, -, h⟩ := bind_eq_ok_iff.mp h
  · exact absurd h nofun
  dsimp only at h
  split at h
  · exact absurd h nofun
  obtain ⟨place, -, h⟩ := bind_eq_ok_iff.mp h
  split at h
  · exact absurd h nofun
  rename_i hget
  have hnone : t.get? place = none := by simpa using hget
  obtain rfl := Except.ok.inj h
  intro place' contents
  by_cases heq : place' = place
  · subst heq
    rw [get?_put_self (by simp [hnone]), hnone]
    simp
  · rw [get?_put_of_ne heq]

theorem sameFiles_of_ensureDirectory {r : Route} (h : t.ensureDirectory r = .ok t') :
    SameFiles t t' := by
  unfold ensureDirectory at h
  split at h
  · rename_i made hmade
    obtain rfl := Except.ok.inj h
    exact sameFiles_of_makeDirectory hmade
  · split at h
    · obtain rfl := Except.ok.inj h
      exact SameFiles.refl t
    · exact absurd h (by simp)

theorem sameFiles_ensureDirectories (t : FileTree) (routes : List Route) :
    SameFiles t (t.ensureDirectories routes).1 := by
  induction routes generalizing t with
  | nil => exact SameFiles.refl t
  | cons r routes ih =>
    unfold ensureDirectories
    split
    · rename_i made hmade
      exact (sameFiles_of_ensureDirectory hmade).trans (ih made)
    · exact SameFiles.refl t

/-- **Making directories leaves the files as they are**, whether all of them can be made or not. -/
theorem sameFiles_makeDirectories (t : FileTree) (path : String) :
    SameFiles t (t.makeDirectories path).1 := by
  unfold makeDirectories
  dsimp only
  split
  · exact SameFiles.refl t
  · exact SameFiles.refl t
  · exact sameFiles_ensureDirectories t _

end Mjpeg.FileTree

/-! ### Names in a directory -/

namespace Mjpeg.FileTree

theorem startsWith_slash_iff (path : String) :
    path.startsWith "/" = true ↔ path.toList.head? = some '/' := by
  rw [← String.startsWith_toSlice, String.Slice.startsWith_string_iff, String.copy_toSlice]
  exact List.singleton_prefix_iff_head?_eq_some

theorem endsWith_slash_iff (path : String) :
    path.endsWith "/" = true ↔ path.toList.getLast? = some '/' := by
  rw [← String.endsWith_toSlice, String.Slice.endsWith_string_iff, String.copy_toSlice]
  exact List.singleton_suffix_iff_getLast?_eq_some

theorem join_empty (name : String) : join "" name = name := String.empty_append

/-- A slash is set behind a directory that does not end with one. -/
theorem join_of_ne {directory : String} (hne : directory ≠ "")
    (hlast : directory.toList.getLast? ≠ some '/') (name : String) :
    join directory name = directory ++ "/" ++ name := by
  refine if_neg fun hcond => ?_
  rcases Bool.or_eq_true_iff.mp hcond with hempty | hslash
  · exact hne (String.isEmpty_iff.mp hempty)
  · exact hlast ((endsWith_slash_iff directory).mp hslash)

/-- The path of a name in a directory is the name alone, or the name behind a slash that ends the
directory or is set behind it. -/
theorem join_cases (directory name : String) :
    directory = "" ∧ join directory name = name ∨
      (∃ before, directory.toList = before ++ ['/'] ∧
        (join directory name).toList = before ++ '/' :: name.toList) ∨
      directory ≠ "" ∧ (join directory name).toList = directory.toList ++ '/' :: name.toList := by
  by_cases hne : directory = ""
  · exact Or.inl ⟨hne, hne ▸ join_empty name⟩
  by_cases hlast : directory.toList.getLast? = some '/'
  · obtain ⟨before, hbefore⟩ := List.getLast?_eq_some_iff.mp hlast
    refine Or.inr (Or.inl ⟨before, hbefore, ?_⟩)
    have hslash : (directory.isEmpty || directory.endsWith "/") = true :=
      Bool.or_eq_true_iff.mpr (Or.inr ((endsWith_slash_iff directory).mpr hlast))
    rw [join, if_pos hslash, String.toList_append, hbefore, List.append_assoc]
    rfl
  · refine Or.inr (Or.inr ⟨hne, ?_⟩)
    rw [join_of_ne hne hlast, String.toList_append, String.toList_append, List.append_assoc]
    rfl

/-- The steps between the slashes of a path. -/
def stepsOf (cs : List Char) : List String :=
  ((Text.splitAll (· == '/') cs).map String.ofList).filter (· != "")

/-- A path as its characters tell it. -/
theorem route_eq (path : String) : route path =
    { start := if path.toList.head? = some '/' then [""] else []
      steps := stepsOf path.toList
      slashed := decide (path.toList.getLast? = some '/') } := by
  unfold route
  simp only [stepsOf, ← startsWith_slash_iff, ← endsWith_slash_iff, Bool.decide_eq_true]

theorem stepsOf_append_slash (cs ds : List Char) :
    stepsOf (cs ++ '/' :: ds) = stepsOf cs ++ stepsOf ds := by
  rw [stepsOf, Text.splitAll_append_cons (by decide), List.map_append, List.filter_append]
  rfl

/-- A name is the only step of itself. -/
theorem stepsOf_name {name : String} (hname : '/' ∉ name.toList) (hne : name ≠ "") :
    stepsOf name.toList = [name] := by
  have hpiece : Text.splitAll (· == '/') name.toList = [name.toList] := by
    refine Text.splitAll_eq_singleton fun c hc => beq_eq_false_iff_ne.mpr ?_
    rintro rfl
    exact hname hc
  rw [stepsOf, hpiece, List.map_singleton, String.ofList_toList]
  simp [hne]

/-- **The path of a name in a directory takes the steps to the directory and then the name.** -/
theorem route_join (directory : String) {name : String} (hname : '/' ∉ name.toList)
    (hne : name ≠ "") : route (join directory name) =
      { start := (route directory).start
        steps := (route directory).steps ++ [name]
        slashed := false } := by
  have hstep := stepsOf_name hname hne
  have hlast : name.toList.getLast? ≠ some '/' := fun h => hname (List.mem_of_getLast? h)
  have hhead : name.toList.head? ≠ some '/' := fun h => hname (List.mem_of_head? h)
  have hsteps : stepsOf (join directory name).toList = stepsOf directory.toList ++ [name] := by
    rcases join_cases directory name with ⟨rfl, heq⟩ | ⟨before, hbefore, heq⟩ | ⟨-, heq⟩
    · rw [heq, hstep]
      rfl
    · rw [heq, hbefore, stepsOf_append_slash, stepsOf_append_slash, hstep, List.append_assoc]
      rfl
    · rw [heq, stepsOf_append_slash, hstep]
  have hslashed : (join directory name).toList.getLast? ≠ some '/' := by
    have hnil : name.toList ≠ [] := mt String.toList_eq_nil_iff.mp hne
    rcases join_cases directory name with ⟨-, heq⟩ | ⟨before, -, heq⟩ | ⟨-, heq⟩
    · rwa [heq]
    · rwa [heq, List.append_cons, List.getLast?_append_of_ne_nil _ hnil]
    · rwa [heq, List.append_cons, List.getLast?_append_of_ne_nil _ hnil]
  have hstart : (join directory name).toList.head? = some '/' ↔
      directory.toList.head? = some '/' := by
    rcases join_cases directory name with ⟨rfl, heq⟩ | ⟨before, hbefore, heq⟩ | ⟨hdirectory, heq⟩
    · rw [heq]
      exact iff_of_false hhead nofun
    · rw [heq, hbefore, List.head?_append, List.head?_append]
      rfl
    · rw [heq, List.head?_append_of_ne_nil _ (mt String.toList_eq_nil_iff.mp hdirectory)]
  rw [route_eq, route_eq directory, Route.mk.injEq]
  exact ⟨if_congr hstart rfl rfl, hsteps, decide_eq_false hslashed⟩

theorem utf8ByteSize_join_le (directory name : String) :
    (join directory name).utf8ByteSize ≤ directory.utf8ByteSize + 1 + name.utf8ByteSize := by
  unfold join
  split
  · rw [String.utf8ByteSize_append]
    omega
  · rw [String.utf8ByteSize_append, String.utf8ByteSize_append]
    exact Nat.le_refl _

/-- A name in a directory that is there leads to a place in it. -/
theorem leadsTo_join {t : FileTree} {directory name : String} {place : List String}
    (hdirectory : (route directory).steps.foldlM t.enter (route directory).start = .ok place)
    (hname : '/' ∉ name.toList) (hne : name ≠ "") (hstep : Route.isName name = true)
    (hsize : name.utf8ByteSize ≤ maxName) (hlength : (join directory name).utf8ByteSize ≤ maxPath) :
    LeadsTo t (join directory name) (place ++ [name]) := by
  have hroute := route_join directory hname hne
  have hnonempty : (join directory name).isEmpty = false := by
    rw [Bool.eq_false_iff, Ne, String.isEmpty_iff]
    intro hempty
    have hsteps := congrArg Route.steps hroute
    rw [hempty] at hsteps
    exact List.append_ne_nil_of_right_ne_nil _ (List.cons_ne_nil _ _) hsteps.symm
  refine ⟨?_, ?_, place, name, ?_, hstep, ?_⟩
  · rw [checkLength, hnonempty, if_neg Bool.false_ne_true, if_neg (Nat.not_lt.mpr hlength)]
  · rw [hroute]
  · rw [walk, hroute, List.dropLast_concat, List.getLast?_concat, hdirectory]
    rfl
  · rw [placeOf, if_neg (Nat.not_lt.mpr hsize)]

/-- A name leads to itself, also behind a dot. -/
theorem leadsTo_here (t : FileTree) {dir name : String} (hdir : dir = "" ∨ dir = ".")
    (hname : '/' ∉ name.toList) (hne : name ≠ "") (hstep : Route.isName name = true)
    (hsize : name.utf8ByteSize ≤ maxName) : LeadsTo t (join dir name) [name] := by
  have hlength : (join dir name).utf8ByteSize ≤ maxPath := by
    have hjoin := utf8ByteSize_join_le dir name
    have hdots : dir.utf8ByteSize ≤ 1 := by rcases hdir with rfl | rfl <;> decide
    unfold maxName at hsize
    unfold maxPath
    omega
  have hstart : (route dir).steps.foldlM t.enter (route dir).start = .ok [] := by
    rcases hdir with rfl | rfl <;> rw [route_eq] <;> rfl
  exact leadsTo_join hstart hname hne hstep hsize hlength

/-- The last step of the path of a name in a directory is the name. -/
theorem getLast?_steps_route_join (directory : String) {name : String} (hname : '/' ∉ name.toList)
    (hne : name ≠ "") : (route (join directory name)).steps.getLast? = some name := by
  rw [route_join directory hname hne, List.getLast?_concat]

/-- Paths of different names lead to different places. -/
theorem LeadsTo.ne_of_names {t : FileTree} {directory name name' : String}
    {place place' : List String} (h : LeadsTo t (join directory name) place)
    (h' : LeadsTo t (join directory name') place') (hname : '/' ∉ name.toList)
    (hname' : '/' ∉ name'.toList) (hne : name ≠ "") (hne' : name' ≠ "") (hdiff : name ≠ name') :
    place ≠ place' := by
  rintro rfl
  have hlast := h.getLast?_place.symm.trans h'.getLast?_place
  rw [getLast?_steps_route_join directory hname hne,
    getLast?_steps_route_join directory hname' hne'] at hlast
  exact hdiff (Option.some.inj hlast)

end Mjpeg.FileTree
