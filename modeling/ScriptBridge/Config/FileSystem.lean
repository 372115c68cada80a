import ScriptBridge.Config.Path
import ScriptBridge.Text.ByteString

/-!
# File systems

A file system without links: what stands at a location, which is the list of names that
lead there from the root.  A path is followed segment by segment (`FileSystem.resolve`),
so everything before its last segment has to be a directory.  A file system grows by
`makeDirectories?` and `writeFile?`, which take paths too: on the way to `a/../b` the
directory `a` is made.
-/

namespace ScriptBridge

/-- What stands at a location. -/
inductive FileEntry where
  | file (content : ByteString)
  | directory
deriving DecidableEq

/-- Where a path leads. -/
inductive Destination where
  | found (location : List String) (entry : FileEntry)
  /-- The directory is there, and nothing in it has the last name. -/
  | vacant (location : List String)
  /-- A name before the last one does not exist. -/
  | missing
  /-- The path goes on behind a file, or no file system could have it. -/
  | blocked
deriving DecidableEq

/-- Why a file cannot be read as text. -/
inductive ReadError where
  | missing
  | unreadable
deriving DecidableEq

/-- Files and directories, and the directory that relative paths start from. -/
structure FileSystem where
  entryAt : List String → Option FileEntry
  workingDirectory : List String

namespace FileSystem

/-- The longest name, in bytes. -/
def longestName : Nat :=
  255

/-- The longest path, in bytes. -/
def longestPath : Nat :=
  4095

/-- The file system that has only its working directory and what is above it. -/
def empty (workingDirectory : List String) : FileSystem where
  entryAt location :=
    if location.isPrefixOf workingDirectory then some .directory else none
  workingDirectory

variable (files : FileSystem)

/-- Places an entry at a location. -/
def put (location : List String) (entry : FileEntry) : FileSystem where
  entryAt other := if other = location then some entry else files.entryAt other
  workingDirectory := files.workingDirectory

/-- Follows one segment of a path.  Only a name that is looked up has to be short enough,
and slashes at the end may stand behind a name that does not exist. -/
def follow (segment : String) : Destination → Destination
  | .found location .directory =>
      if Path.isIdle segment then .found location .directory
      else if segment = ".." then .found location.dropLast .directory
      else if segment.utf8ByteSize > longestName then .blocked
      else
        match files.entryAt (location ++ [segment]) with
        | some entry => .found (location ++ [segment]) entry
        | none => .vacant (location ++ [segment])
  | .found _ (.file _) => .blocked
  | .vacant location => if segment = "" then .vacant location else .missing
  | destination => destination

/-- Where a path starts.  The empty path starts nowhere. -/
def start (path : Path) : Destination :=
  if path.absolute then .found [] .directory
  else if path.segments.isEmpty then .missing
  else .found files.workingDirectory .directory

/-- Could a file system have this path?  No name has the character zero in it, and the text
of a path is not too long. -/
def admits (path : Path) : Bool :=
  (path.segments.all fun segment => !segment.toList.contains '\x00')
    && path.toString.utf8ByteSize ≤ longestPath

/-- Follows a path. -/
def resolve (path : Path) : Destination :=
  if admits path then
    path.segments.foldl (fun destination segment => files.follow segment destination)
      (files.start path)
  else .blocked

/-- Does a path lead somewhere? -/
def has (path : Path) : Bool :=
  match files.resolve path with
  | .found _ _ => true
  | _ => false

/-- Reads the text of a file. -/
def readText (path : Path) : Except ReadError String :=
  match files.resolve path with
  | .found _ (.file content) =>
      match content.toString? with
      | some text => .ok text
      | none => .error .unreadable
  | .vacant _ | .missing => .error .missing
  | .found _ .directory | .blocked => .error .unreadable

/-- Makes a directory in one that is there.  A directory that is there already stays. -/
def makeDirectory? (path : Path) : Option FileSystem :=
  match files.resolve path with
  | .found _ .directory => some files
  | .vacant location => some (files.put location .directory)
  | _ => none

/-- Makes a directory and all directories that a path to it leads through. -/
def makeDirectories? (path : Path) : Option FileSystem :=
  path.ancestors.reverse.foldlM makeDirectory? files

/-- Writes a file in a directory that is there; a file that is there already gets the new
content.  No file has a path that ends in a slash. -/
def writeFile? (path : Path) (content : ByteString) : Option FileSystem :=
  match files.resolve path with
  | .found location (.file _) => some (files.put location (.file content))
  | .vacant location =>
      if path.segments.getLast? = some "" then none
      else some (files.put location (.file content))
  | _ => none

/-- Writes a file and makes the directories that the path leads through. -/
def makeFile? (path : Path) (content : ByteString) : Option FileSystem := do
  let files ← match path.parent? with
    | some parent => files.makeDirectories? parent
    | none => some files
  files.writeFile? path content

/-- The file system that has what is at or above a working directory, and then directories
and files made in turn. -/
def ofPaths? (workingDirectory : List String) (directories : List Path)
    (contents : List (Path × ByteString)) : Option FileSystem := do
  let files ← directories.foldlM makeDirectories? (empty workingDirectory)
  contents.foldlM (fun files file => files.makeFile? file.1 file.2) files

end FileSystem

end ScriptBridge
