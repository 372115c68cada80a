import Mathlib.Data.List.Basic
import Mathlib.Data.List.Induction
import ScriptBridge.Config.FileSystem

/-!
# Where paths lead

A file system is a tree if everything in it stands in a directory (`FileSystem.IsTree`), as it is
in every file system that is built from paths.  A path names a location, whatever there is
(`Path.locate`).  If it leads anywhere then to this location, and in a tree it does lead there, as
long as it does not turn back.
-/

namespace ScriptBridge

namespace Path

/-! ## Locations of paths -/

/-- The location after one more segment. -/
def walk (location : List String) (segment : String) : List String :=
  if isIdle segment then location
  else if segment = ".." then location.dropLast
  else location ++ [segment]

/-- The location that a path starts from. -/
def base (workingDirectory : List String) (path : Path) : List String :=
  if path.absolute then [] else workingDirectory

/-- The location that a path names, whether there is anything or not. -/
def locate (workingDirectory : List String) (path : Path) : List String :=
  path.segments.foldl walk (path.base workingDirectory)

/-- The path never turns back. -/
def Straight (path : Path) : Prop :=
  ".." ∉ path.segments

instance (path : Path) : Decidable path.Straight :=
  inferInstanceAs (Decidable (¬_))

/-- The segments that are names, if none of them turns back. -/
def names (segments : List String) : List String :=
  segments.filter fun segment => !isIdle segment

theorem names_nil : names [] = [] :=
  rfl

theorem names_append (front back : List String) :
    names (front ++ back) = names front ++ names back :=
  List.filter_append ..

theorem names_cons_of_isIdle {segment : String} (idle : isIdle segment = true)
    (rest : List String) : names (segment :: rest) = names rest := by
  simp [names, idle]

theorem names_cons {segment : String} (isName : isIdle segment = false) (rest : List String) :
    names (segment :: rest) = segment :: names rest := by
  simp [names, isName]

theorem names_dropOpenEnd (segments : List String) :
    names (dropOpenEnd segments) = names segments := by
  simp only [dropOpenEnd]
  split
  · rename_i openEnd
    rcases List.getLast?_eq_some_iff.mp openEnd with ⟨front, rfl⟩
    rw [List.dropLast_concat, names_append, names_cons_of_isIdle rfl, names_nil, List.append_nil]
  · rfl

theorem child_eq (directory : Path) (name : String) :
    directory.child name = ⟨directory.absolute, dropOpenEnd directory.segments ++ [name]⟩ :=
  rfl

theorem dropOpenEnd_isPrefix (segments : List String) : dropOpenEnd segments <+: segments := by
  simp only [dropOpenEnd]
  split
  · exact List.dropLast_prefix segments
  · exact List.prefix_rfl

theorem foldl_walk {segments : List String} (straight : ".." ∉ segments) (location : List String) :
    segments.foldl walk location = location ++ names segments := by
  induction segments generalizing location with
  | nil => simp [names]
  | cons segment rest ih =>
      rw [List.mem_cons, not_or] at straight
      rw [List.foldl_cons, ih straight.2, walk, if_neg (Ne.symm straight.1)]
      cases idle : isIdle segment with
      | true => rw [if_pos rfl, names_cons_of_isIdle idle]
      | false => rw [if_neg Bool.false_ne_true, names_cons idle, List.append_assoc,
          List.singleton_append]

/-- A path that does not turn back names the location below its start that its names lead to. -/
theorem locate_eq {path : Path} (straight : path.Straight) (workingDirectory : List String) :
    path.locate workingDirectory = path.base workingDirectory ++ names path.segments :=
  foldl_walk straight _

theorem Straight.child {directory : Path} (straight : directory.Straight) {name : String}
    (goesOn : name ≠ "..") : (directory.child name).Straight := by
  rw [child_eq, Straight, List.mem_append, not_or, List.mem_singleton]
  exact ⟨fun turned => straight ((dropOpenEnd_isPrefix _).subset turned), Ne.symm goesOn⟩

theorem locate_child {directory : Path} (straight : directory.Straight) {name : String}
    (isName : isIdle name = false) (goesOn : name ≠ "..") (workingDirectory : List String) :
    (directory.child name).locate workingDirectory =
      directory.locate workingDirectory ++ [name] := by
  rw [locate_eq (straight.child goesOn), locate_eq straight, child_eq, names_append,
    names_dropOpenEnd, names_cons isName, names_nil, List.append_assoc]
  rfl

end Path

namespace FileSystem

/-! ## Trees -/

/-- A name that a file system can have. -/
def ProperName (name : String) : Prop :=
  name.utf8ByteSize ≤ longestName ∧ '\x00' ∉ name.toList

instance (name : String) : Decidable (ProperName name) :=
  inferInstanceAs (Decidable (_ ∧ _))

/-- Everything stands in a directory and has a proper name, and so does the working directory. -/
structure IsTree (files : FileSystem) : Prop where
  root : files.entryAt [] = some .directory
  workingDirectory : files.entryAt files.workingDirectory = some .directory
  parent {location : List String} {name : String} {entry : FileEntry}
    (stands : files.entryAt (location ++ [name]) = some entry) :
    files.entryAt location = some .directory
  proper {location : List String} {entry : FileEntry}
    (stands : files.entryAt location = some entry) :
    ∀ name ∈ location, ProperName name

theorem IsTree.dropLast {files : FileSystem} (tree : files.IsTree) {location : List String}
    (isDirectory : files.entryAt location = some .directory) :
    files.entryAt location.dropLast = some .directory := by
  rcases List.eq_nil_or_concat' location with rfl | ⟨above, name, rfl⟩
  · exact isDirectory
  · rw [List.dropLast_concat]
    exact tree.parent isDirectory

/-- Something new can stand at a location: its directory is there, and it is not a directory
itself. -/
structure Free (files : FileSystem) (directory : List String) (name : String) : Prop where
  inDirectory : files.entryAt directory = some .directory
  noDirectory : files.entryAt (directory ++ [name]) ≠ some .directory
  proper : ProperName name

theorem isTree_empty {workingDirectory : List String}
    (proper : ∀ name ∈ workingDirectory, ProperName name) : (empty workingDirectory).IsTree where
  root := by simp [empty]
  workingDirectory := by simp [empty]
  parent {location name entry} stands := by
    simp only [empty, Option.ite_none_right_eq_some, List.isPrefixOf_iff_prefix] at stands ⊢
    exact ⟨(List.prefix_append _ _).trans stands.1, trivial⟩
  proper {location entry} stands := by
    simp only [empty, Option.ite_none_right_eq_some, List.isPrefixOf_iff_prefix] at stands
    exact fun name listed => proper name (stands.1.subset listed)

variable {files : FileSystem}

/-- What is put where something new can stand leaves a tree. -/
theorem IsTree.put (tree : files.IsTree) {directory : List String} {name : String}
    (free : files.Free directory name) (entry : FileEntry) :
    (files.put (directory ++ [name]) entry).IsTree := by
  -- No directory is replaced, so whatever stood in one still does.
  have kept {location : List String} (isDirectory : files.entryAt location = some .directory) :
      (files.put (directory ++ [name]) entry).entryAt location = some .directory := by
    have other : location ≠ directory ++ [name] := fun same => free.noDirectory (same ▸ isDirectory)
    simp only [FileSystem.put, if_neg other, isDirectory]
  refine ⟨kept tree.root, kept tree.workingDirectory, ?_, ?_⟩
  · intro location last found stands
    apply kept
    simp only [FileSystem.put] at stands
    split at stands
    · rename_i same
      rw [(List.append_inj' same rfl).1]
      exact free.inDirectory
    · exact tree.parent stands
  · intro location found stands
    simp only [FileSystem.put] at stands
    split at stands
    · rename_i same
      rw [same, List.forall_mem_append]
      exact ⟨tree.proper free.inDirectory, by simpa using free.proper⟩
    · exact tree.proper stands

/-- Something new can stand where a file does. -/
theorem IsTree.exists_free_of_file (tree : files.IsTree) {location : List String}
    {content : ByteString} (stands : files.entryAt location = some (.file content)) :
    ∃ directory name, location = directory ++ [name] ∧ files.Free directory name := by
  rcases List.eq_nil_or_concat' location with rfl | ⟨directory, name, rfl⟩
  · rw [tree.root] at stands
    cases stands
  · have proper := tree.proper stands name (by simp)
    exact ⟨directory, name, rfl, tree.parent stands, by simp [stands], proper⟩

/-! ## Following paths -/

/-- The destination is what stands at a location, or that nothing does and could. -/
inductive LeadsTo (files : FileSystem) (location : List String) : Destination → Prop where
  | found {entry : FileEntry} (stands : files.entryAt location = some entry) :
      LeadsTo files location (.found location entry)
  | vacant {directory : List String} {name : String} (last : location = directory ++ [name])
      (free : files.Free directory name) (nothing : files.entryAt location = none) :
      LeadsTo files location (.vacant location)
  | missing : LeadsTo files location .missing
  | blocked : LeadsTo files location .blocked

/-- Following a segment walks to the location that it names. -/
theorem LeadsTo.follow (tree : files.IsTree) {location : List String} {destination : Destination}
    (leads : files.LeadsTo location destination) {segment : String}
    (noZero : '\x00' ∉ segment.toList) :
    files.LeadsTo (Path.walk location segment) (files.follow segment destination) := by
  cases leads with
  | @found entry stands =>
      cases entry with
      | file content => exact .blocked
      | directory =>
          simp only [FileSystem.follow, Path.walk]
          split
          · exact .found stands
          · split
            · exact .found (tree.dropLast stands)
            · split
              · exact .blocked
              · rename_i short
                split
                · rename_i entry below
                  exact .found below
                · rename_i nothing
                  exact .vacant rfl
                    ⟨stands, by simp [nothing], Nat.le_of_not_lt short, noZero⟩ nothing
  | vacant last free nothing =>
      simp only [FileSystem.follow]
      split
      · rename_i slash
        rw [slash]
        exact .vacant last free nothing
      · exact .missing
  | missing => exact .missing
  | blocked => exact .blocked

theorem LeadsTo.foldl (tree : files.IsTree) {location : List String} {destination : Destination}
    (leads : files.LeadsTo location destination) {segments : List String}
    (noZero : ∀ segment ∈ segments, '\x00' ∉ segment.toList) :
    files.LeadsTo (segments.foldl Path.walk location) (segments.foldl
      (fun destination segment => files.follow segment destination) destination) := by
  induction segments generalizing location destination with
  | nil => exact leads
  | cons segment rest ih =>
      rcases List.forall_mem_cons.mp noZero with ⟨here, later⟩
      exact ih (leads.follow tree here) later

theorem leadsTo_start (tree : files.IsTree) (path : Path) :
    files.LeadsTo (path.base files.workingDirectory) (files.start path) := by
  simp only [start, Path.base]
  split
  · exact .found tree.root
  · split
    · exact .missing
    · exact .found tree.workingDirectory

/-- Where a path leads is where its segments walk to. -/
theorem leadsTo_resolve (tree : files.IsTree) (path : Path) :
    files.LeadsTo (path.locate files.workingDirectory) (files.resolve path) := by
  rw [resolve]
  split
  · rename_i admitted
    simp only [admits, Bool.and_eq_true, List.all_eq_true, Bool.not_eq_true',
      List.contains_eq_mem, decide_eq_false_iff_not] at admitted
    exact (leadsTo_start tree path).foldl tree admitted.1
  · exact .blocked

/-- A path that leads to a location leads to the one that it names. -/
theorem eq_locate_of_resolve (tree : files.IsTree) {path : Path} {location : List String}
    {entry : FileEntry} (found : files.resolve path = .found location entry) :
    location = path.locate files.workingDirectory ∧ files.entryAt location = some entry := by
  have leads := leadsTo_resolve tree path
  rw [found] at leads
  generalize path.locate files.workingDirectory = named at leads ⊢
  cases leads with
  | found stands => exact ⟨rfl, stands⟩

/-! ## What is built from paths -/

theorem IsTree.makeDirectory (tree : files.IsTree) {path : Path} {built : FileSystem}
    (made : files.makeDirectory? path = some built) : built.IsTree := by
  have leads := leadsTo_resolve tree path
  simp only [makeDirectory?] at made
  split at made
  · cases made
    exact tree
  · rename_i location resolved
    rw [resolved] at leads
    cases made
    cases leads with
    | vacant last free => exact last ▸ tree.put free .directory
  · cases made

theorem IsTree.writeFile (tree : files.IsTree) {path : Path} {content : ByteString}
    {built : FileSystem} (written : files.writeFile? path content = some built) : built.IsTree := by
  have leads := leadsTo_resolve tree path
  simp only [writeFile?] at written
  split at written
  · rename_i location old resolved
    rw [resolved] at leads
    cases written
    cases leads with
    | found stands =>
        rcases tree.exists_free_of_file stands with ⟨directory, name, last, free⟩
        exact last ▸ tree.put free _
  · rename_i location resolved
    rw [resolved] at leads
    split at written
    · cases written
    · cases written
      cases leads with
      | vacant last free => exact last ▸ tree.put free _
  · cases written

/-- A step that keeps trees keeps them over a list. -/
theorem IsTree.foldlM {α : Type} {step : FileSystem → α → Option FileSystem}
    (keeps : ∀ {files built : FileSystem} {item : α}, files.IsTree → step files item = some built →
      built.IsTree) {items : List α} {built : FileSystem} (tree : files.IsTree)
    (made : items.foldlM step files = some built) : built.IsTree := by
  induction items generalizing files with
  | nil =>
      cases made
      exact tree
  | cons item rest ih =>
      rw [List.foldlM_cons] at made
      rcases Option.bind_eq_some_iff.mp made with ⟨next, stepped, later⟩
      exact ih (keeps tree stepped) later

theorem IsTree.makeDirectories (tree : files.IsTree) {path : Path} {built : FileSystem}
    (made : files.makeDirectories? path = some built) : built.IsTree :=
  tree.foldlM (fun tree => tree.makeDirectory) made

theorem IsTree.makeFile (tree : files.IsTree) {path : Path} {content : ByteString}
    {built : FileSystem} (made : files.makeFile? path content = some built) : built.IsTree := by
  simp only [makeFile?] at made
  split at made
  · rcases Option.bind_eq_some_iff.mp made with ⟨middle, prepared, written⟩
    exact (tree.makeDirectories prepared).writeFile written
  · exact tree.writeFile made

/-- Every file system that is built from paths is a tree. -/
theorem isTree_of_ofPaths {workingDirectory : List String}
    (proper : ∀ name ∈ workingDirectory, ProperName name) {directories : List Path}
    {contents : List (Path × ByteString)} {built : FileSystem}
    (made : ofPaths? workingDirectory directories contents = some built) : built.IsTree := by
  rcases Option.bind_eq_some_iff.mp made with ⟨middle, prepared, written⟩
  have middleTree := (isTree_empty proper).foldlM (fun tree => tree.makeDirectories) prepared
  exact middleTree.foldlM (fun tree => tree.makeFile) written

/-! ## Paths that do not turn back -/

/-- Names that lead from a directory to a directory can be followed. -/
theorem foldl_follow_of_directory (tree : files.IsTree) {segments : List String}
    (straight : ".." ∉ segments) {location : List String}
    (stands : files.entryAt (location ++ Path.names segments) = some .directory) :
    segments.foldl (fun destination segment => files.follow segment destination)
      (.found location .directory) = .found (location ++ Path.names segments) .directory := by
  -- From the end: whatever stands there has its directory above it, which the front leads to.
  induction segments using List.reverseRecOn with
  | nil => simp [Path.names]
  | append_singleton front last ih =>
      rw [List.mem_append, not_or, List.mem_singleton] at straight
      rw [Path.names_append, ← List.append_assoc] at stands ⊢
      rw [List.foldl_append, List.foldl_cons, List.foldl_nil]
      cases idle : Path.isIdle last with
      | true =>
          rw [Path.names_cons_of_isIdle idle, Path.names_nil, List.append_nil] at stands ⊢
          rw [ih straight.1 stands, follow, if_pos idle]
      | false =>
          rw [Path.names_cons idle, Path.names_nil] at stands ⊢
          have short := (tree.proper stands last (by simp)).1
          rw [ih straight.1 (tree.parent stands)]
          simp only [follow, idle, Bool.false_eq_true, if_false, Ne.symm straight.2,
            Nat.not_lt.mpr short, stands]

/-- The segments of a path are admitted if it names something that stands in a tree. -/
theorem admits_of_stands (tree : files.IsTree) {path : Path} (straight : path.Straight)
    (short : path.toString.utf8ByteSize ≤ longestPath) {entry : FileEntry}
    (stands : files.entryAt (path.locate files.workingDirectory) = some entry) :
    admits path = true := by
  rw [Path.locate_eq straight] at stands
  simp only [admits, Bool.and_eq_true, List.all_eq_true, Bool.not_eq_true',
    List.contains_eq_mem, decide_eq_false_iff_not, decide_eq_true_eq]
  refine ⟨?_, short⟩
  intro segment listed
  cases idle : Path.isIdle segment with
  | true =>
      simp only [Path.isIdle, Bool.or_eq_true, beq_iff_eq] at idle
      rcases idle with rfl | rfl <;> decide
  | false =>
      have named : segment ∈ Path.names path.segments := by simp [Path.names, listed, idle]
      exact (tree.proper stands segment (List.mem_append_right _ named)).2

/-- A short name in a directory leads to what stands there under the name, and nowhere else. -/
theorem resolve_child_eq_found_iff (tree : files.IsTree) {directory : Path} {name : String}
    (straight : directory.Straight) (isName : Path.isIdle name = false) (goesOn : name ≠ "..")
    (short : (directory.child name).toString.utf8ByteSize ≤ longestPath) {location : List String}
    {entry : FileEntry} :
    files.resolve (directory.child name) = .found location entry ↔
      location = directory.locate files.workingDirectory ++ [name] ∧
        files.entryAt location = some entry := by
  have located := Path.locate_child straight isName goesOn files.workingDirectory
  constructor
  · intro found
    rw [← located]
    exact eq_locate_of_resolve tree found
  · rintro ⟨rfl, stands⟩
    have admitted := admits_of_stands tree (straight.child goesOn) short (located ▸ stands)
    have shortName := (tree.proper stands name (by simp)).1
    have started : files.start (directory.child name) =
        .found (directory.base files.workingDirectory) .directory := by
      cases absolute : directory.absolute <;> simp [start, Path.child_eq, Path.base, absolute]
    have reached : (Path.dropOpenEnd directory.segments).foldl
        (fun destination segment => files.follow segment destination)
          (.found (directory.base files.workingDirectory) .directory) =
        .found (directory.locate files.workingDirectory) .directory := by
      have straightFront : ".." ∉ Path.dropOpenEnd directory.segments :=
        fun turned => straight ((Path.dropOpenEnd_isPrefix _).subset turned)
      have inDirectory := tree.parent stands
      rw [Path.locate_eq straight, ← Path.names_dropOpenEnd] at inDirectory ⊢
      exact foldl_follow_of_directory tree straightFront inDirectory
    rw [resolve, if_pos admitted, started, Path.child_eq, List.foldl_append, reached]
    simp only [List.foldl_cons, List.foldl_nil, follow, isName, Bool.false_eq_true, if_false,
      goesOn, Nat.not_lt.mpr shortName, stands]

end FileSystem

end ScriptBridge
