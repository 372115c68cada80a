import Mathlib.Data.List.Chain
import Mathlib.Data.List.DropRight
import Mathlib.Data.List.Infix
import ScriptBridge.Proofs.Config.Load
import ScriptBridge.Proofs.Config.Resolution

/-!
# Finding the project

A project belongs to the nearest directory, from the start up to the root, that has a settings
file (`FileSystem.Nearest`).  The search goes by the text of the start instead, from a path to its
parent until there is none (`Path.ancestors_complete`).  For a path that does not turn back these
are the directories from the start up to where the path begins, so the search finds the project if
the path is absolute.  If it is relative, then nothing above the working directory is found.
-/

namespace ScriptBridge

namespace Path

/-! ## Parents -/

theorem names_dropIdleEnd (segments : List String) :
    names (dropIdleEnd segments) = names segments := by
  change names (segments.rdropWhile isIdle) = names segments
  induction segments using List.reverseRecOn with
  | nil => rfl
  | append_singleton front last ih =>
      cases idle : isIdle last with
      | true =>
          rw [List.rdropWhile_concat_pos _ _ _ idle, ih, names_append, names_cons_of_isIdle idle,
            names_nil, List.append_nil]
      | false => rw [List.rdropWhile_concat_neg _ _ _ (by simp [idle])]

theorem dropIdleEnd_isPrefix (segments : List String) : dropIdleEnd segments <+: segments :=
  List.rdropWhile_prefix isIdle segments

theorem names_of_dropLastActive_none {segments : List String}
    (nothing : dropLastActive? segments = none) : names segments = [] := by
  simp only [dropLastActive?] at nothing
  split at nothing
  · rename_i allIdle
    rw [← names_dropIdleEnd, List.isEmpty_iff.mp allIdle, names_nil]
  · cases nothing

/-- Dropping the last name. -/
theorem dropLastActive_spec {segments above : List String}
    (dropped : dropLastActive? segments = some above) :
    above <+: segments ∧ names above = (names segments).dropLast := by
  simp only [dropLastActive?] at dropped
  split at dropped
  · cases dropped
  · rename_i active
    cases dropped
    have nonempty : segments.rdropWhile isIdle ≠ [] :=
      fun nothing => active (List.isEmpty_iff.mpr nothing)
    have lastActive := List.rdropWhile_last_not isIdle segments nonempty
    have kept := List.dropLast_append_getLast nonempty
    refine ⟨?_, ?_⟩
    · exact (dropIdleEnd_isPrefix _).trans ((List.dropLast_prefix _).trans (dropIdleEnd_isPrefix _))
    · rw [names_dropIdleEnd, ← names_dropIdleEnd segments]
      change names (segments.rdropWhile isIdle).dropLast =
        (names (segments.rdropWhile isIdle)).dropLast
      rw [← kept, names_append, names_cons (by simpa using lastActive), names_nil,
        List.dropLast_concat, List.dropLast_concat]

/-- Only a dot in front makes a difference to the parent. -/
theorem parent?_cases (path : Path) :
    (∃ rest, path = ⟨false, "." :: rest⟩ ∧
      path.parent? = some ⟨false, ((dropLastActive? rest).map ("." :: ·)).getD []⟩) ∨
    path.parent? =
      (dropLastActive? path.segments).map fun segments => ⟨path.absolute, segments⟩ := by
  rcases path with ⟨absolute, segments⟩
  cases absolute with
  | true => exact .inr rfl
  | false =>
      cases segments with
      | nil => exact .inr rfl
      | cons first rest =>
          by_cases isDot : first = "."
          · subst isDot
            exact .inl ⟨rest, rfl, by simp [parent?]⟩
          · exact .inr (by simp [parent?, isDot])

/-- A path without a parent has no names. -/
theorem names_of_no_parent {path : Path} (top : path.parent? = none) :
    names path.segments = [] := by
  rcases parent?_cases path with ⟨rest, -, found⟩ | dropped
  · rw [found] at top
    cases top
  · rw [dropped, Option.map_eq_none_iff] at top
    exact names_of_dropLastActive_none top

/-- A parent begins as the path does and lacks its last name, if there is one. -/
theorem parent_spec {path parent : Path} (found : path.parent? = some parent) :
    parent.absolute = path.absolute ∧ parent.segments <+: path.segments ∧
      names parent.segments = (names path.segments).dropLast := by
  rcases parent?_cases path with ⟨rest, rfl, dotted⟩ | dropped
  · rw [dotted] at found
    cases found
    rw [names_cons_of_isIdle rfl]
    cases dropped : dropLastActive? rest with
    | none => exact ⟨rfl, List.nil_prefix, by rw [names_of_dropLastActive_none dropped]; rfl⟩
    | some above =>
        rcases dropLastActive_spec dropped with ⟨isPrefix, named⟩
        refine ⟨rfl, List.cons_prefix_cons.mpr ⟨rfl, isPrefix⟩, ?_⟩
        exact (names_cons_of_isIdle rfl above).trans named
  · rw [dropped] at found
    rcases Option.map_eq_some_iff.mp found with ⟨above, droppedLast, rfl⟩
    exact ⟨rfl, dropLastActive_spec droppedLast⟩

/-! ## The chain of parents -/

/-- What holds at the top and passes from a parent to its children holds of every path. -/
theorem parentInduction {motive : Path → Prop}
    (top : ∀ path, path.parent? = none → motive path)
    (below : ∀ path parent, path.parent? = some parent → motive parent → motive path)
    (path : Path) : motive path := by
  induction size : path.segments.length using Nat.strongRecOn generalizing path with
  | ind size ih =>
      cases found : path.parent? with
      | none => exact top path found
      | some parent =>
          have shorter := length_parent found
          exact below path parent found (ih _ (size ▸ shorter) parent rfl)

theorem ancestorsWithin_of_top {path : Path} (top : path.parent? = none) (steps : Nat) :
    ancestorsWithin steps path = [path] := by
  cases steps with
  | zero => rfl
  | succ steps => rw [ancestorsWithin, top]

/-- A step for each segment is enough to get to the top. -/
theorem ancestorsWithin_of_le {path : Path} {steps : Nat} (enough : path.segments.length ≤ steps) :
    ancestorsWithin steps path = path.ancestors := by
  induction path using parentInduction generalizing steps with
  | top path top => rw [ancestors, ancestorsWithin_of_top top, ancestorsWithin_of_top top]
  | below path parent found ih =>
      have shorter := length_parent found
      obtain ⟨more, rfl⟩ : ∃ more, steps = more + 1 := ⟨steps - 1, by omega⟩
      obtain ⟨count, counted⟩ : ∃ count, path.segments.length = count + 1 :=
        ⟨path.segments.length - 1, by omega⟩
      rw [ancestors, counted, ancestorsWithin, ancestorsWithin, found]
      dsimp only
      rw [ih (by omega), ih (by omega)]

theorem ancestors_of_top {path : Path} (top : path.parent? = none) : path.ancestors = [path] :=
  ancestorsWithin_of_top top _

theorem ancestors_of_parent {path parent : Path} (found : path.parent? = some parent) :
    path.ancestors = path :: parent.ancestors := by
  rw [← ancestorsWithin_of_le (Nat.le_succ path.segments.length), ancestorsWithin, found]
  dsimp only
  rw [ancestorsWithin_of_le (length_parent found).le]

/-- The search goes from the start to its parent, and on, and ends where there is no parent. -/
theorem ancestors_complete (path : Path) :
    path.ancestors.head? = some path ∧
      path.ancestors.IsChain (fun below above => below.parent? = some above) ∧
      ∀ last, path.ancestors.getLast? = some last → last.parent? = none := by
  induction path using parentInduction with
  | top path top =>
      rw [ancestors_of_top top]
      refine ⟨rfl, .singleton path, ?_⟩
      intro last isLast
      cases isLast
      exact top
  | below path parent found ih =>
      rcases ih with ⟨first, chain, ends⟩
      rw [ancestors_of_parent found]
      refine ⟨rfl, ?_, ?_⟩
      · rw [List.isChain_cons]
        refine ⟨?_, chain⟩
        intro above isAbove
        rw [first] at isAbove
        cases isAbove
        exact found
      · intro last isLast
        rcases List.head?_eq_some_iff.mp first with ⟨rest, listed⟩
        rw [listed, List.getLast?_cons_cons, ← listed] at isLast
        exact ends last isLast

/-! ## Lengths of texts -/

theorem utf8ByteSize_intercalate_cons (first : String) (rest : List String) (name : String) :
    ("/".intercalate (first :: (rest ++ [name]))).utf8ByteSize =
      first.utf8ByteSize + 1 + ("/".intercalate (rest ++ [name])).utf8ByteSize := by
  have slash : "/".utf8ByteSize = 1 := rfl
  cases rest with
  | nil => simp [slash]
  | cons second rest =>
      simp only [List.cons_append, String.intercalate_cons_cons, String.utf8ByteSize_append, slash]

/-- A name behind fewer segments is not longer to write. -/
theorem utf8ByteSize_intercalate_le {front segments : List String} (isPrefix : front <+: segments)
    (name : String) : ("/".intercalate (front ++ [name])).utf8ByteSize ≤
      ("/".intercalate (segments ++ [name])).utf8ByteSize := by
  induction segments generalizing front with
  | nil => rw [List.prefix_nil.mp isPrefix]
  | cons first rest ih =>
      rw [List.cons_append, utf8ByteSize_intercalate_cons]
      cases front with
      | nil => exact (ih List.nil_prefix).trans (Nat.le_add_left _ _)
      | cons other front =>
          rcases List.cons_prefix_cons.mp isPrefix with ⟨rfl, restPrefix⟩
          rw [List.cons_append, utf8ByteSize_intercalate_cons]
          exact Nat.add_le_add_left (ih restPrefix) _

theorem dropOpenEnd_mono {front segments : List String} (isPrefix : front <+: segments) :
    dropOpenEnd front <+: dropOpenEnd segments := by
  have kept : segments.dropLast <+: dropOpenEnd segments := by
    simp only [dropOpenEnd]
    split
    · exact List.prefix_rfl
    · exact List.dropLast_prefix segments
  rcases List.eq_nil_or_concat' segments with rfl | ⟨above, last, rfl⟩
  · rw [List.prefix_nil.mp isPrefix]
  · rcases List.prefix_concat_iff.mp isPrefix with rfl | shorter
    · exact List.prefix_rfl
    · rw [List.dropLast_concat] at kept
      exact (dropOpenEnd_isPrefix front).trans (shorter.trans kept)

/-- A path that begins as another one does is not longer to write. -/
theorem utf8ByteSize_child_le {path shorter : Path} (sameStart : shorter.absolute = path.absolute)
    (isPrefix : shorter.segments <+: path.segments) (name : String) :
    (shorter.child name).toString.utf8ByteSize ≤ (path.child name).toString.utf8ByteSize := by
  have shorterText := utf8ByteSize_intercalate_le (dropOpenEnd_mono isPrefix) name
  simp only [child_eq, toString, sameStart, String.utf8ByteSize_append]
  exact Nat.add_le_add_left shorterText _

/-- The path can be searched from: it does not turn back, and its settings file has a path that is
not too long. -/
structure Searchable (path : Path) : Prop where
  straight : path.Straight
  short : (settingsFileIn path).toString.utf8ByteSize ≤ FileSystem.longestPath

theorem Searchable.parent {path parent : Path} (searchable : path.Searchable)
    (found : path.parent? = some parent) : parent.Searchable := by
  rcases parent_spec found with ⟨sameStart, isPrefix, -⟩
  refine ⟨fun turned => searchable.straight (isPrefix.subset turned), ?_⟩
  exact (utf8ByteSize_child_le sameStart isPrefix _).trans searchable.short

end Path

namespace FileSystem

/-! ## The nearest settings file -/

/-- The directory at the location has a settings file. -/
def HasSettings (files : FileSystem) (location : List String) : Prop :=
  (files.entryAt (location ++ [settingsFileName])).isSome = true

instance (files : FileSystem) (location : List String) : Decidable (files.HasSettings location) :=
  inferInstanceAs (Decidable (_ = true))

/-- The nearest directory, from a location up to the root, that has a settings file. -/
structure Nearest (files : FileSystem) (location directory : List String) : Prop where
  encloses : directory <+: location
  settings : files.HasSettings directory
  nearest {other : List String} (otherEncloses : other <+: location)
    (otherSettings : files.HasSettings other) : other <+: directory

theorem nearest_iff {files : FileSystem} {location directory : List String} :
    files.Nearest location directory ↔
      directory <+: location ∧ files.HasSettings directory ∧
        ∀ other ∈ location.inits, files.HasSettings other → other <+: directory := by
  simp only [List.mem_inits]
  exact ⟨fun nearest => ⟨nearest.encloses, nearest.settings, fun _ => nearest.nearest⟩,
    fun ⟨encloses, settings, nearest⟩ => ⟨encloses, settings, nearest _⟩⟩

instance (files : FileSystem) (location directory : List String) :
    Decidable (files.Nearest location directory) :=
  decidable_of_iff _ nearest_iff.symm

/-- No directory is nearer than the location itself. -/
theorem HasSettings.nearest {files : FileSystem} {location : List String}
    (settings : files.HasSettings location) : files.Nearest location location :=
  ⟨List.prefix_rfl, settings, fun otherEncloses _ => otherEncloses⟩

theorem Nearest.unique {files : FileSystem} {location directory other : List String}
    (here : files.Nearest location directory) (there : files.Nearest location other) :
    directory = other :=
  (there.nearest here.encloses here.settings).eq_of_length_le
    (here.nearest there.encloses there.settings).length_le

variable {files : FileSystem}

theorem resolve_settingsFileIn_iff (tree : files.IsTree) {path : Path}
    (searchable : path.Searchable) (location : List String) (entry : FileEntry) :
    files.resolve (settingsFileIn path) = .found location entry ↔
      location = path.locate files.workingDirectory ++ [settingsFileName] ∧
        files.entryAt location = some entry :=
  resolve_child_eq_found_iff tree searchable.straight (by decide) (by decide) searchable.short

theorem has_settingsFileIn_iff (tree : files.IsTree) {path : Path} (searchable : path.Searchable) :
    files.has (settingsFileIn path) = true ↔
      files.HasSettings (path.locate files.workingDirectory) := by
  have leads := resolve_settingsFileIn_iff tree searchable
  rw [HasSettings, Option.isSome_iff_exists, has]
  split
  · rename_i location entry found
    rcases (leads _ _).mp found with ⟨rfl, stands⟩
    exact iff_of_true rfl ⟨entry, stands⟩
  · rename_i notFound
    refine iff_of_false Bool.false_ne_true ?_
    rintro ⟨entry, stands⟩
    exact notFound _ _ ((leads _ _).mpr ⟨rfl, stands⟩)

theorem nearestProject?_eq (files : FileSystem) (path : Path) :
    files.nearestProject? path =
      if files.has (settingsFileIn path) then some path
      else path.parent?.bind files.nearestProject? := by
  cases found : path.parent? with
  | none =>
      rw [nearestProject?, Path.ancestors_of_top found, List.find?_singleton]
      rfl
  | some parent =>
      rw [nearestProject?, Path.ancestors_of_parent found, List.find?_cons]
      cases files.has (settingsFileIn path) <;> rfl

theorem base_parent {path parent : Path} (found : path.parent? = some parent)
    (workingDirectory : List String) :
    parent.base workingDirectory = path.base workingDirectory := by
  simp only [Path.base, (Path.parent_spec found).1]

/-- What encloses the location of a path is the location itself, or encloses that of the parent. -/
theorem prefix_locate_iff {path parent : Path} (straight : path.Straight)
    (found : path.parent? = some parent) (workingDirectory other : List String) :
    other <+: path.locate workingDirectory ↔
      other = path.locate workingDirectory ∨ other <+: parent.locate workingDirectory := by
  rcases Path.parent_spec found with ⟨-, isPrefix, named⟩
  have straightParent : parent.Straight := fun turned => straight (isPrefix.subset turned)
  rw [Path.locate_eq straight, Path.locate_eq straightParent, base_parent found, named]
  rcases List.eq_nil_or_concat' (Path.names path.segments) with nothing | ⟨above, name, shape⟩
  · rw [nothing, List.dropLast_nil, List.append_nil]
    exact ⟨.inr, fun cases => cases.elim (fun same => same ▸ List.prefix_rfl) id⟩
  · rw [shape, List.dropLast_concat, ← List.append_assoc, List.prefix_concat_iff]

theorem base_prefix_locate {path : Path} (straight : path.Straight)
    (workingDirectory : List String) :
    path.base workingDirectory <+: path.locate workingDirectory := by
  rw [Path.locate_eq straight]
  exact List.prefix_append _ _

/-- What the search finds is the nearest settings file, at or below where the path begins. -/
theorem nearest_of_nearestProject (tree : files.IsTree) {path root : Path}
    (searchable : path.Searchable) (found : files.nearestProject? path = some root) :
    files.Nearest (path.locate files.workingDirectory) (root.locate files.workingDirectory) ∧
      path.base files.workingDirectory <+: root.locate files.workingDirectory ∧
      root.Searchable := by
  induction path using Path.parentInduction with
  | top path top =>
      rw [nearestProject?_eq, top] at found
      split at found
      · rename_i here
        rw [has_settingsFileIn_iff tree searchable] at here
        cases found
        exact ⟨here.nearest, base_prefix_locate searchable.straight _, searchable⟩
      · cases found
  | below path parent isParent ih =>
      rw [nearestProject?_eq, isParent] at found
      split at found
      · rename_i here
        rw [has_settingsFileIn_iff tree searchable] at here
        cases found
        exact ⟨here.nearest, base_prefix_locate searchable.straight _, searchable⟩
      · rename_i notHere
        rw [has_settingsFileIn_iff tree searchable] at notHere
        have encloses := prefix_locate_iff searchable.straight isParent files.workingDirectory
        rcases ih (searchable.parent isParent) found with ⟨nearest, below, rootSearchable⟩
        rw [base_parent isParent] at below
        -- The parent's location is this one or the next above, so nothing lies between the two.
        refine ⟨⟨(encloses _).mpr (.inr nearest.encloses), nearest.settings, ?_⟩, below,
          rootSearchable⟩
        intro other otherEncloses otherSettings
        rcases (encloses other).mp otherEncloses with rfl | above
        · exact absurd otherSettings notHere
        · exact nearest.nearest above otherSettings

/-- The search finds nothing only if there is no settings file from the start up to where the path
begins. -/
theorem not_hasSettings_of_nearestProject (tree : files.IsTree) {path : Path}
    (searchable : path.Searchable) (nothing : files.nearestProject? path = none)
    {directory : List String} (below : path.base files.workingDirectory <+: directory)
    (encloses : directory <+: path.locate files.workingDirectory) :
    ¬files.HasSettings directory := by
  induction path using Path.parentInduction with
  | top path top =>
      have isBase : path.locate files.workingDirectory = path.base files.workingDirectory := by
        rw [Path.locate_eq searchable.straight, Path.names_of_no_parent top, List.append_nil]
      have isHere : directory = path.locate files.workingDirectory :=
        encloses.eq_of_length_le (isBase ▸ below.length_le)
      rw [nearestProject?_eq] at nothing
      split at nothing
      · cases nothing
      · rename_i notHere
        rwa [has_settingsFileIn_iff tree searchable, ← isHere] at notHere
  | below path parent isParent ih =>
      rw [nearestProject?_eq, isParent] at nothing
      split at nothing
      · cases nothing
      · rename_i notHere
        rw [has_settingsFileIn_iff tree searchable] at notHere
        rcases (prefix_locate_iff searchable.straight isParent _ _).mp encloses with rfl | above
        · exact notHere
        · exact ih (searchable.parent isParent) nothing (base_parent isParent _ ▸ below) above

end FileSystem

namespace Environment

variable {environment : Environment} {start root : Path}

/-! ## Loads -/

/-- The load takes the project of a root, and fails as the project's file does. -/
structure LoadsProject (environment : Environment) (start root : Path) : Prop where
  rejected {error : LoadError}
    (bad : Settings.load environment.files (settingsFileIn root) = .error error) :
    environment.loadFromDirectory start = .error error
  accepted {project : Settings}
    (good : Settings.load environment.files (settingsFileIn root) = .ok project) :
    environment.loadFromDirectory start = environment.assemble (some root) project
  isProject {loaded : LoadedSettings}
    (returned : environment.loadFromDirectory start = .ok loaded) :
    loaded.projectRoot = some root

/-- The load takes no project. -/
structure LoadsNoProject (environment : Environment) (start : Path) : Prop where
  assembled : environment.loadFromDirectory start = environment.assemble none .empty
  noProject {loaded : LoadedSettings}
    (returned : environment.loadFromDirectory start = .ok loaded) :
    loaded.isProject = false

theorem projectRoot_of_assemble {root? : Option Path} {project : Settings} {loaded : LoadedSettings}
    (assembled : environment.assemble root? project = .ok loaded) : loaded.projectRoot = root? := by
  rcases environment.assemble_eq_ok_iff.mp assembled with ⟨_, _, _, _, rfl⟩
  rfl

theorem loadsProject_of_nearestProject
    (found : environment.files.nearestProject? start = some root) :
    environment.LoadsProject start root := by
  have loads := environment.loadFromDirectory_eq start
  rw [found] at loads
  refine ⟨fun bad => ?_, fun good => ?_, fun returned => ?_⟩
  · rw [loads, loadProject, Option.map_some, projectSettings, bad]
    rfl
  · rw [loads, loadProject, Option.map_some, projectSettings, good]
    rfl
  · rw [loads] at returned
    rcases Exception.bind_eq_ok_iff.mp returned with ⟨project, -, assembled⟩
    exact projectRoot_of_assemble assembled

theorem loadsNoProject_of_nearestProject
    (nothing : environment.files.nearestProject? start = none) :
    environment.LoadsNoProject start := by
  have loads : environment.loadFromDirectory start = environment.assemble none .empty := by
    rw [loadFromDirectory_eq, nothing]
    rfl
  refine ⟨loads, fun returned => ?_⟩
  rw [LoadedSettings.isProject, projectRoot_of_assemble (loads ▸ returned)]
  rfl

/-- Which project a load from a directory takes.  The search goes up the text of the start and
ends, and takes the first project that it finds.  In a tree, and from a start that does not turn
back, this is the nearest project up to the root if the start is absolute.  If it is relative, the
nearest project is taken if it is at or below the working directory, and missed otherwise. -/
theorem nearest_project_loaded (environment : Environment) (start : Path) :
    let files := environment.files
    let location := start.locate files.workingDirectory
    let base := start.base files.workingDirectory
    (start.ancestors.head? = some start ∧
      start.ancestors.IsChain (fun below above => below.parent? = some above) ∧
      ∀ last, start.ancestors.getLast? = some last → last.parent? = none) ∧
    (∀ root, files.nearestProject? start = some root → environment.LoadsProject start root) ∧
    (files.nearestProject? start = none → environment.LoadsNoProject start) ∧
    (files.IsTree → start.Searchable →
      (∀ directory, files.Nearest location directory →
        (base <+: directory → ∃ root entry, environment.LoadsProject start root ∧
          files.resolve (settingsFileIn root) = .found (directory ++ [settingsFileName]) entry) ∧
        (¬base <+: directory → environment.LoadsNoProject start)) ∧
      ((∀ directory, directory <+: location → ¬files.HasSettings directory) →
        environment.LoadsNoProject start)) := by
  intro files location base
  refine ⟨start.ancestors_complete, fun root => loadsProject_of_nearestProject,
    loadsNoProject_of_nearestProject, ?_⟩
  intro tree searchable
  cases found : files.nearestProject? start with
  | none =>
      have noProject := loadsNoProject_of_nearestProject found
      refine ⟨fun directory nearest => ⟨fun below => ?_, fun _ => noProject⟩, fun _ => noProject⟩
      exact absurd nearest.settings (FileSystem.not_hasSettings_of_nearestProject tree searchable
        found below nearest.encloses)
  | some root =>
      rcases FileSystem.nearest_of_nearestProject tree searchable found with
        ⟨nearestRoot, belowRoot, rootSearchable⟩
      refine ⟨fun directory nearest => ?_, fun nothing => ?_⟩
      · rw [nearest.unique nearestRoot]
        refine ⟨fun _ => ?_, fun outside => absurd belowRoot outside⟩
        rcases Option.isSome_iff_exists.mp nearestRoot.settings with ⟨entry, stands⟩
        exact ⟨root, entry, loadsProject_of_nearestProject found,
          (FileSystem.resolve_settingsFileIn_iff tree rootSearchable _ _).mpr ⟨rfl, stands⟩⟩
      · exact absurd nearestRoot.settings (nothing _ nearestRoot.encloses)

/-- A settings file that is no document, nearer than a good one, to a start that does not exist. -/
theorem nearest_project_loaded_rejected :
    let files : FileSystem := ((FileSystem.empty ["work", "app"]).put ["work", "stackcall.toml"]
      (.file ⟨[]⟩)).put ["work", "app", "stackcall.toml"] (.file (.ofString "[defaults"))
    let environment : Environment := ⟨files, .empty, none, none⟩
    let start : Path := ⟨true, ["work", "app", "sounds"]⟩
    let root : Path := ⟨true, ["work", "app"]⟩
    files.IsTree ∧ start.Searchable ∧
      files.Nearest ["work", "app", "sounds"] ["work", "app"] ∧
      (∃ root entry, environment.LoadsProject start root ∧
        files.resolve (settingsFileIn root) = .found ["work", "app", "stackcall.toml"] entry) ∧
      environment.loadFromDirectory start = .error (.malformed (settingsFileIn root)) := by
  intro files environment start root
  have tree : files.IsTree := by
    have empty : (FileSystem.empty ["work", "app"]).IsTree := FileSystem.isTree_empty (by decide)
    have outer : FileSystem.Free _ ["work"] "stackcall.toml" :=
      ⟨empty.parent empty.workingDirectory, by decide, by decide⟩
    have inner : FileSystem.Free _ ["work", "app"] "stackcall.toml" :=
      ⟨(empty.put outer (.file ⟨[]⟩)).workingDirectory, by decide, by decide⟩
    exact (empty.put outer _).put inner _
  have searchable : start.Searchable := ⟨by decide, by decide +kernel⟩
  have nearest : files.Nearest ["work", "app", "sounds"] ["work", "app"] := by decide +kernel
  rcases nearest_project_loaded environment start with ⟨-, loads, -, inTree⟩
  refine ⟨tree, searchable, nearest, ?_, ?_⟩
  · exact ((inTree tree searchable).1 _ nearest).1 (by decide)
  · have found : files.nearestProject? start = some root := by decide +kernel
    have malformed : Exception.thrown? (Settings.load files (settingsFileIn root)) =
        some (.malformed (settingsFileIn root)) := by
      decide +kernel
    exact (loads root found).rejected (Exception.eq_error_of_thrown? malformed)

/-- The search strays from the directories that enclose the start: the project of a directory above
the working directory is not found from within, and two dots lead to a project on the side. -/
theorem lexical_search_strays :
    let above : FileSystem :=
      (FileSystem.empty ["work", "app"]).put ["work", "stackcall.toml"] (.file ⟨[]⟩)
    let aside : FileSystem := ((FileSystem.empty ["work"]).put ["work", "a"] .directory).put
      ["work", "a", "stackcall.toml"] (.file ⟨[]⟩)
    let load (files : FileSystem) : Path → Except LoadError LoadedSettings :=
      Environment.loadFromDirectory ⟨files, .empty, none, none⟩
    above.Nearest ((Path.ofString ".").locate above.workingDirectory) ["work"] ∧
      load above (.ofString ".") = .ok ⟨.empty, none⟩ ∧
      (∀ directory, directory <+: (Path.ofString "/work/a/..").locate aside.workingDirectory →
        ¬aside.HasSettings directory) ∧
      load aside (.ofString "/work/a/..") = .ok ⟨.empty, some (.ofString "/work/a")⟩ := by
  intro above aside load
  refine ⟨by decide +kernel, Exception.eq_ok_of_toOption (by decide +kernel), ?_,
    Exception.eq_ok_of_toOption (by decide +kernel)⟩
  simp only [← List.mem_inits]
  decide +kernel

end Environment

end ScriptBridge
