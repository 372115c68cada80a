/-!
# Paths

A path is a list of segments from the root or from the working directory.  Segments are
kept as they are written: an empty segment or a dot leads nowhere (`isIdle`), and two dots
lead to the directory above.  `Path.parent?` is a matter of the text alone, so the parent
of a path with a single segment is the empty path, which has no parent.
-/

namespace ScriptBridge

/-- A path of the file system. -/
structure Path where
  /-- Does the path start at the root? -/
  absolute : Bool
  segments : List String
deriving DecidableEq

namespace Path

/-- Does this segment lead nowhere? -/
def isIdle (segment : String) : Bool :=
  segment == "" || segment == "."

/-- The empty path. -/
def empty : Path :=
  ⟨false, []⟩

instance : Inhabited Path := ⟨empty⟩

/-- The pieces of a text between its slashes. -/
def splitSlashes : List Char → List (List Char)
  | [] => [[]]
  | '/' :: rest => [] :: splitSlashes rest
  | character :: rest =>
      match splitSlashes rest with
      | [] => [[character]]
      | piece :: pieces => (character :: piece) :: pieces

/-- Reads a path. -/
def ofString (text : String) : Path :=
  let segments (characters : List Char) : List String :=
    if characters.isEmpty then [] else (splitSlashes characters).map String.ofList
  match text.toList with
  | '/' :: rest => ⟨true, segments rest⟩
  | characters => ⟨false, segments characters⟩

/-- Writes a path. -/
def toString (path : Path) : String :=
  (if path.absolute then "/" else "") ++ "/".intercalate path.segments

/-- The segments without one that a slash at the end leaves empty. -/
def dropOpenEnd (segments : List String) : List String :=
  if segments.getLast? = some "" then segments.dropLast else segments

/-- Continues a path with another one, which stands for itself if it is absolute. -/
def join (base path : Path) : Path :=
  if path.absolute then path
  else ⟨base.absolute, dropOpenEnd base.segments ++ path.segments⟩

/-- Continues a path with a name. -/
def child (base : Path) (name : String) : Path :=
  base.join ⟨false, [name]⟩

/-- The segments without the idle ones at the end. -/
def dropIdleEnd (segments : List String) : List String :=
  (segments.reverse.dropWhile isIdle).reverse

/-- The segments without the last one that is not idle, if there is one. -/
def dropLastActive? (segments : List String) : Option (List String) :=
  let active := dropIdleEnd segments
  if active.isEmpty then none else some (dropIdleEnd active.dropLast)

/-- The path without its last segment.  A dot at the front of a relative path counts as a
segment, idle segments elsewhere do not. -/
def parent? (path : Path) : Option Path :=
  match path.absolute, path.segments with
  | false, first :: rest =>
      if first = "." then
        some ⟨false, ((dropLastActive? rest).map (first :: ·)).getD []⟩
      else (dropLastActive? (first :: rest)).map fun segments => ⟨false, segments⟩
  | absolute, segments => (dropLastActive? segments).map fun segments => ⟨absolute, segments⟩

/-- A path and the parents above it, at most `steps` of them. -/
def ancestorsWithin : Nat → Path → List Path
  | 0, path => [path]
  | steps + 1, path =>
      path ::
        match path.parent? with
        | some parent => ancestorsWithin steps parent
        | none => []

/-- A path and all parents above it, the nearest first.  Every step up drops at least one
segment. -/
def ancestors (path : Path) : List Path :=
  ancestorsWithin path.segments.length path

/-- The segments behind others that lead to a directory above. -/
def segmentsBelow? : List String → List String → Option (List String)
  | [], segments => some segments
  | name :: names, segments =>
      match segments.dropWhile isIdle with
      | [] => none
      | segment :: rest => if segment = name then segmentsBelow? names rest else none

/-- The path as seen from a directory above it. -/
def relativeTo? (path directory : Path) : Option Path :=
  if path.absolute && directory.absolute then
    (segmentsBelow? (directory.segments.filter fun name => !isIdle name) path.segments).map
      fun segments => ⟨false, dropIdleEnd (segments.dropWhile isIdle)⟩
  else none

theorem length_dropIdleEnd (segments : List String) :
    (dropIdleEnd segments).length ≤ segments.length := by
  have shorter := (List.dropWhile_sublist isIdle (l := segments.reverse)).length_le
  simpa [dropIdleEnd] using shorter

theorem length_dropLastActive {segments above : List String}
    (dropped : dropLastActive? segments = some above) : above.length < segments.length := by
  simp only [dropLastActive?] at dropped
  split at dropped
  · simp at dropped
  · rename_i active
    have nonempty : 0 < (dropIdleEnd segments).length := by
      cases found : dropIdleEnd segments with
      | nil => simp [found] at active
      | cons first rest => simp
    have below := length_dropIdleEnd segments
    have above_le := length_dropIdleEnd (dropIdleEnd segments).dropLast
    rw [List.length_dropLast] at above_le
    simp only [Option.some.injEq] at dropped
    subst dropped
    omega

/-- A parent has fewer segments. -/
theorem length_parent {path parent : Path} (found : path.parent? = some parent) :
    parent.segments.length < path.segments.length := by
  obtain ⟨absolute, segments⟩ := path
  simp only [parent?] at found
  split at found
  · rename_i first rest
    split at found
    · simp only [Option.some.injEq] at found
      subst found
      cases dropped : dropLastActive? rest with
      | none => simp
      | some above => simpa using length_dropLastActive dropped
    · obtain ⟨above, dropped, rfl⟩ := Option.map_eq_some_iff.1 found
      exact length_dropLastActive dropped
  · obtain ⟨above, dropped, rfl⟩ := Option.map_eq_some_iff.1 found
    exact length_dropLastActive dropped

end Path

end ScriptBridge
