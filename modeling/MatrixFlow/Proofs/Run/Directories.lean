import MatrixFlow.Proofs.Run.Environment
import MatrixFlow.Proofs.Text

/-!
# Directories that steps add

* `StepEnv.listed`: the directories that an environment lists for programs.
* `StepEnv.Joinable`: a directory can stand in a list.
* `StepEnv.listed_withDirectories`, `StepEnv.withDirectories_eq_self`: directories that are added
  together are all listed, or none of them is.
* `StepEnv.directories_together`: what is listed after any history of steps and one step more.
* `StepEnv.one_spoils_all`: a directory that cannot be listed takes those of earlier steps with it.
* `StepEnv.IsListName`: the name of the variable that lists directories, where it has one spelling.
* `StepEnv.path_of_history`: after any history of steps, this variable lists the added directories
  over those of its old value, and all others are as without them.
-/

namespace MatrixFlow.StepEnv

/-! ## Lists of directories -/

/-- The directories that an environment lists for programs. -/
def listed (env : Env) : List String :=
  ((env.get? (pathName env)).getD "").piecesBy ':'

/-- A directory can stand in a list: it has no separator in it. -/
def Joinable (directory : String) : Prop :=
  ':' ∉ directory.toList

instance (directory : String) : Decidable (Joinable directory) :=
  inferInstanceAs (Decidable (':' ∉ directory.toList))

theorem pathValue?_eq (directories : List String) : pathValue? directories =
    if ∀ d ∈ directories, Joinable d then some (":".intercalate directories) else none := by
  have hany : (directories.any fun d => d.toList.contains ':') = true ↔
      ¬∀ d ∈ directories, Joinable d := by
    simp [Joinable]
  unfold pathValue?
  by_cases h : ∀ d ∈ directories, Joinable d
  · rw [if_pos h, if_neg fun h' => hany.mp h' h]
  · rw [if_neg h, if_pos (hany.mpr h)]

/-- Directories can be read back from the list of them. -/
theorem piecesBy_intercalate {directories : List String} (h : ∀ d ∈ directories, Joinable d)
    (hne : directories ≠ []) : (":".intercalate directories).piecesBy ':' = directories := by
  have hsplit : List.splitOn ':' ([':'].intercalate (directories.map String.toList)) =
      directories.map String.toList :=
    List.splitOn_intercalate ':' (by simpa [Joinable] using h) (by simpa using hne)
  rw [String.piecesBy, String.toList_intercalate, Text.splitOn_eq, show ":".toList = [':'] from rfl,
    hsplit, List.map_map]
  exact List.map_id'' (fun d => String.ofList_toList) directories

theorem joinable_of_mem_directoriesOf {value d : String} (h : d ∈ directoriesOf value) :
    Joinable d := by
  obtain ⟨piece, hpiece, rfl⟩ := List.mem_map.mp (List.mem_of_mem_filter h)
  rw [Joinable, String.toList_ofList]
  exact fun hin => (Text.mem_of_mem_splitOn hpiece _ hin).1 rfl

/-! ## Added directories -/

section Added

variable {vars : Env} {directories : List String}

/-- The list of directories keeps its name when it is bound anew. -/
theorem pathName_insert (vars : Env) (value : String) :
    pathName (vars.insert (pathName vars) value) = pathName vars := by
  have hnames := names_putNamed (pathName vars) value vars.vars
  rw [pathName, Env.vars_insert, hnames]
  split
  · rfl
  · rw [List.find?_append]
    unfold pathName
    cases (vars.vars.map (·.1)).find? isPathName <;> rfl

theorem listed_insert (vars : Env) (value : String) :
    listed (vars.insert (pathName vars) value) = value.piecesBy ':' := by
  rw [listed, pathName_insert, Env.get?_insert, if_pos rfl]
  rfl

/-- Directories that can all stand in a list stand in front of those listed before, the last one
first. -/
theorem withDirectories_eq_insert (vars : Env) (h : ∀ d ∈ directories, Joinable d)
    (hne : directories ≠ []) : ∃ value, withDirectories vars directories = vars.insert (pathName vars) value ∧
      value.piecesBy ':' = directories.reverse ++ (listed vars).filter fun d => !d.isEmpty := by
  have hall : ∀ d ∈ directories.reverse ++ directoriesOf ((vars.get? (pathName vars)).getD ""),
      Joinable d := by
    rw [List.forall_mem_append]
    exact ⟨by simpa using h, fun d => joinable_of_mem_directoriesOf⟩
  unfold withDirectories
  dsimp only
  rw [if_neg (by simpa using hne), pathValue?_eq, if_pos hall]
  exact ⟨_, rfl, piecesBy_intercalate hall (by simp [hne])⟩

theorem listed_withDirectories (h : ∀ d ∈ directories, Joinable d) (hne : directories ≠ []) :
    listed (withDirectories vars directories) =
      directories.reverse ++ (listed vars).filter fun d => !d.isEmpty := by
  obtain ⟨value, heq, hvalue⟩ := withDirectories_eq_insert vars h hne
  rw [heq, listed_insert, hvalue]

/-- If one of the directories cannot stand in a list, nothing changes. -/
theorem withDirectories_eq_self (h : ∃ d ∈ directories, ¬Joinable d) :
    withDirectories vars directories = vars := by
  obtain ⟨d, hd, hbad⟩ := h
  have hall : ¬∀ d ∈ directories.reverse ++ directoriesOf ((vars.get? (pathName vars)).getD ""),
      Joinable d := fun h => hbad (h d (by simp [hd]))
  unfold withDirectories
  dsimp only
  rw [pathValue?_eq, if_neg hall]
  exact ite_self vars

end Added

/-! ## Histories -/

section Histories

/-- What steps leave behind, but for the directories that they add. -/
def plain (e : StepEnv) : Env :=
  e.base.extend e.exported.vars

variable {e : StepEnv} {d : String}

theorem current_eq_plain (h : e.directories = []) : e.current = e.plain := by
  rw [current, h]
  rfl

theorem mem_listed_current (h : ∀ d ∈ e.directories, Joinable d) (hd : d ∈ e.directories) :
    d ∈ listed e.current := by
  rw [current, listed_withDirectories h (List.ne_nil_of_mem hd)]
  exact List.mem_append_left _ (List.mem_reverse.mpr hd)

/-- Added directories are listed only together. -/
theorem mem_listed_current_iff (hd : d ≠ "") : d ∈ listed e.current ↔
    d ∈ listed e.plain ∨ (d ∈ e.directories ∧ ∀ d' ∈ e.directories, Joinable d') := by
  by_cases h : ∀ d' ∈ e.directories, Joinable d'
  · by_cases hne : e.directories = []
    · rw [current, hne]
      simp [withDirectories, plain]
    · rw [current, listed_withDirectories h hne, ← plain, List.mem_append, List.mem_reverse,
        List.mem_filter, and_iff_left h, or_comm]
      simp [hd]
  · rw [current, withDirectories_eq_self (by simpa using h), ← plain, or_iff_left fun h' => h h'.2]

theorem directories_foldl_apply (e : StepEnv) (history : List Exports) :
    (history.foldl apply e).directories = e.directories ++ history.flatMap (·.paths) := by
  induction history generalizing e with
  | nil => exact (List.append_nil _).symm
  | cons x history ih => exact (ih (e.apply x)).trans (List.append_assoc ..)

/-- After any history of steps and the output of one more: as long as all added directories can
stand in a list, none that was listed is lost and the new ones are listed too. In general a
directory is listed if it is listed without the added ones, or if it is one of them and all of them
can stand in a list. -/
theorem directories_together (i : Instance) (history : List Exports) (output : String) :
    let e := history.foldl apply (start i)
    let e' := e.apply (Exports.ofOutput output)
    let earlier := history.flatMap (·.paths)
    let new := (Exports.ofOutput output).paths
    ((∀ d ∈ earlier ++ new, Joinable d) →
      (∀ d ∈ earlier, d ∈ listed e.current ∧ d ∈ listed e'.current) ∧
        ∀ d ∈ new, d ∈ listed e'.current) ∧
    ∀ d, d ≠ "" → (d ∈ listed e'.current ↔
      d ∈ listed e'.plain ∨ (d ∈ earlier ++ new ∧ ∀ d' ∈ earlier ++ new, Joinable d')) := by
  intro e e' earlier new
  have hearlier : e.directories = earlier := directories_foldl_apply (start i) history
  have hall : e'.directories = earlier ++ new := congrArg (· ++ new) hearlier
  refine ⟨fun h => ?_, fun d hd => hall ▸ mem_listed_current_iff hd⟩
  rw [← hall] at h
  have hlisted : ∀ d ∈ earlier ++ new, d ∈ listed e'.current := fun d hd =>
    mem_listed_current h (hall ▸ hd)
  have hbefore : ∀ d ∈ earlier, d ∈ listed e.current := fun d hd =>
    mem_listed_current (fun d' hd' => h d' (List.mem_append_left _ hd')) (hearlier ▸ hd)
  exact ⟨fun d hd => ⟨hbefore d hd, hlisted d (List.mem_append_left _ hd)⟩,
    fun d hd => hlisted d (List.mem_append_right _ hd)⟩

/-- Directories of two steps are listed, although the second one sets the whole list. -/
theorem directories_together_sample :
    let e := (start Sample.layeredInst).apply (Exports.ofOutput "::add-path::/a")
    let e' := e.apply (Exports.ofOutput "::set-env name=PATH::/p\n::add-path::/b")
    "/a" ∈ listed e'.current ∧ "/b" ∈ listed e'.current ∧ "/p" ∈ listed e'.current := by
  obtain ⟨hkept, hlisted⟩ := directories_together Sample.layeredInst
    [Exports.ofOutput "::add-path::/a"] "::set-env name=PATH::/p\n::add-path::/b"
  obtain ⟨hearlier, hnew⟩ := hkept (by decide)
  exact ⟨(hearlier "/a" (by decide)).2, hnew "/b" (by decide),
    (hlisted "/p" (by decide)).mpr (.inl (by decide))⟩

/-- A directory that cannot stand in a list takes one of an earlier step with it, and one that is
added beside it. -/
theorem one_spoils_all :
    let e := (start Sample.layeredInst).apply (Exports.ofOutput "::add-path::/a")
    let e' := e.apply (Exports.ofOutput "::add-path::/x:y\n::add-path::/b")
    "/a" ∈ listed e.current ∧ "/a" ∉ listed e'.current ∧
      Joinable "/b" ∧ "/b" ∉ listed e'.current := by
  decide

end Histories

/-! ## The variable itself -/

section Names

/-- Of these names, `name` is the one of the variable that lists directories: the spelling that is
there, or the usual one if there is none. -/
def IsListName (names : List String) (name : String) : Prop :=
  name ∈ names ∧ isPathName name = true ∨ name = "PATH" ∧ ∀ n ∈ names, isPathName n = false

theorem isListName_pathName (env : Env) : IsListName (env.vars.map (·.1)) (pathName env) := by
  unfold pathName
  cases h : (env.vars.map (·.1)).find? isPathName with
  | none => exact .inr ⟨rfl, by simpa using h⟩
  | some name => exact .inl ⟨List.mem_of_find?_eq_some h, List.find?_some h⟩

/-- Where there is one spelling only, there is one such name. -/
theorem IsListName.unique {names : List String} {name name' : String} (h : IsListName names name)
    (h' : IsListName names name')
    (hone : ∀ n ∈ names, ∀ n' ∈ names, isPathName n = true → isPathName n' = true → n = n') :
    name = name' := by
  have absurd_none : ∀ {n}, n ∈ names → isPathName n = true →
      ¬∀ n ∈ names, isPathName n = false := fun hmem hpath hnone => by
    rw [hnone _ hmem] at hpath
    cases hpath
  obtain ⟨hmem, hpath⟩ | ⟨rfl, hnone⟩ := h
  · obtain ⟨hmem', hpath'⟩ | ⟨-, hnone⟩ := h'
    · exact hone _ hmem _ hmem' hpath hpath'
    · exact absurd hnone (absurd_none hmem hpath)
  · obtain ⟨hmem', hpath'⟩ | ⟨rfl, -⟩ := h'
    · exact absurd hnone (absurd_none hmem' hpath')
    · rfl

variable (i : Instance) (history : List Exports)

/-- The names that the instance and the steps of a history bind. -/
def namesOf : List String :=
  i.env.vars.map (·.1) ++ (history.flatMap (·.vars)).map (·.1)

theorem exported_foldl_apply (e : StepEnv) :
    (history.foldl apply e).exported = e.exported.extend (history.flatMap (·.vars)) := by
  induction history generalizing e with
  | nil => rfl
  | cons x history ih =>
    rw [List.foldl_cons, ih, List.flatMap_cons, Env.extend_append]
    rfl

theorem base_foldl_apply (e : StepEnv) : (history.foldl apply e).base = e.base := by
  induction history generalizing e with
  | nil => rfl
  | cons x history ih => exact ih (e.apply x)

theorem plain_foldl_apply : (history.foldl apply (start i)).plain =
    i.env.extend (Env.ofList (history.flatMap (·.vars))).vars := by
  rw [plain, base_foldl_apply, exported_foldl_apply]
  rfl

theorem get?_plain (n : String) : (history.foldl apply (start i)).plain.get? n =
    (lastBound (history.flatMap (·.vars)) n).or (i.env.get? n) := by
  rw [plain_foldl_apply, Env.get?_extend_ofList, Env.get?_extend]

theorem mem_names_plain {n : String} :
    n ∈ (history.foldl apply (start i)).plain.vars.map (·.1) ↔ n ∈ namesOf i history := by
  rw [plain_foldl_apply, Env.vars_extend, mem_names_putAll, Env.ofList, Env.vars_extend,
    mem_names_putAll, namesOf, List.mem_append]
  simp [Env.empty]

theorem isListName_plain :
    IsListName (namesOf i history) (pathName (history.foldl apply (start i)).plain) := by
  have h := isListName_pathName (history.foldl apply (start i)).plain
  simpa only [IsListName, mem_names_plain] using h

/-- A history without its directories leaves behind what is plain. -/
theorem get?_withoutPaths (n : String) :
    ((history.map fun x => { x with paths := [] }).foldl apply (start i)).current.get? n =
      (history.foldl apply (start i)).plain.get? n := by
  have hnone : ((history.map fun x => { x with paths := [] }).foldl apply (start i)).directories =
      [] := by
    rw [directories_foldl_apply]
    simp [start, List.flatMap_map]
  rw [current_eq_plain hnone, get?_plain, get?_plain, List.flatMap_map]

/-- After any history of steps whose directories can stand in a list, and where the variable that
lists directories has one spelling at most: if directories were added, it lists them, the last one
first, and then those of its old value that are not empty. The old value is the one that a step has
set last, or else that of the instance. All other variables, and all of them if no directory was
added, are as without the directories. -/
theorem path_of_history (hjoin : ∀ d ∈ history.flatMap (·.paths), Joinable d)
    (hone : ∀ n ∈ namesOf i history, ∀ n' ∈ namesOf i history, isPathName n = true →
      isPathName n' = true → n = n') :
    let e := history.foldl apply (start i)
    let without := (history.map fun x => { x with paths := [] }).foldl apply (start i)
    let added := history.flatMap (·.paths)
    ∃ name, (∀ n, IsListName (namesOf i history) n ↔ n = name) ∧
      (∀ n, without.current.get? n = (lastBound (history.flatMap (·.vars)) n).or (i.env.get? n)) ∧
      (added = [] → ∀ n, e.current.get? n = without.current.get? n) ∧
      (added ≠ [] → ∃ value, e.current.get? name = some value ∧ value.piecesBy ':' =
        added.reverse ++
          (((without.current.get? name).getD "").piecesBy ':').filter fun d => !d.isEmpty) ∧
      ∀ n, n ≠ name → e.current.get? n = without.current.get? n := by
  intro e without added
  have hadded : e.directories = added := directories_foldl_apply (start i) history
  have hwithout : ∀ n, without.current.get? n = e.plain.get? n := get?_withoutPaths i history
  have hname := isListName_plain i history
  refine ⟨pathName e.plain, fun n => ⟨fun h => h.unique hname hone, fun h => h ▸ hname⟩,
    fun n => ?_, fun hnone n => ?_, fun hne => ?_, fun n hn => ?_⟩
  · rw [hwithout, get?_plain]
  · rw [hwithout, current_eq_plain (hadded.trans hnone)]
  · obtain ⟨value, heq, hvalue⟩ := withDirectories_eq_insert e.plain hjoin hne
    refine ⟨value, ?_, ?_⟩
    · rw [current, hadded, ← plain, heq, Env.get?_insert, if_pos rfl]
    · rw [hvalue, listed, hwithout]
  · rw [hwithout, current, ← plain, get?_withDirectories_of_ne hn]

/-- The variable is spelled in another way and set by a step between two that add directories. -/
theorem path_of_history_sample :
    let e := [Exports.ofOutput "::add-path::/a", Exports.ofOutput "::set-env name=Path::/p::/q",
      Exports.ofOutput "::add-path::/b\n::add-path::/a"].foldl apply (start Sample.layeredInst)
    ∃ value, e.current.get? "Path" = some value ∧
      value.piecesBy ':' = ["/a", "/b", "/a", "/p", "/q"] ∧ e.current.get? "PATH" = none := by
  intro e
  obtain ⟨name, hname, hwithout, -, hlisted, hothers⟩ := path_of_history Sample.layeredInst
    [Exports.ofOutput "::add-path::/a", Exports.ofOutput "::set-env name=Path::/p::/q",
      Exports.ofOutput "::add-path::/b\n::add-path::/a"] (by decide) (by decide)
  obtain rfl : "Path" = name := (hname "Path").mp (.inl (by decide))
  obtain ⟨value, hvalue, hpieces⟩ := hlisted (by decide)
  refine ⟨value, hvalue, ?_, ?_⟩
  · rw [hpieces, hwithout]
    decide
  · rw [hothers "PATH" (by decide), hwithout]
    decide

end Names

end MatrixFlow.StepEnv
