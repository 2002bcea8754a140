import FramesInFlight.Keyed
import FramesInFlight.Settings.Ron
import FramesInFlight.Settings.Toml

/-!
# Settings in files

The end of a path names the format of the text behind it.  `Settings.load` and `Settings.save` work
on a tree of folders and files: a text is written as a whole and only when all of it is ready, so a
save that fails leaves every file as it was.
-/

namespace FramesInFlight

/-! ## Formats -/

/-- Formats of settings. -/
inductive SettingsFormat where
  | toml
  | ron
  deriving DecidableEq, Repr

/-- The format that the end of a path names, if it names one. -/
def SettingsFormat.ofPath? (path : String) : Option SettingsFormat :=
  if ".toml".toList.isSuffixOf path.toList then some toml
  else if ".ron".toList.isSuffixOf path.toList then some ron
  else none

namespace Settings

/-- The settings that a text in the format of a path stands for. -/
def ofText (text path : String) : Except SettingsError Settings :=
  let outline? : SettingsFormat → Option Outline
    | .toml => outlineOfToml? text.toList
    | .ron => outlineOfRon? text.toList
  match SettingsFormat.ofPath? path with
  | none => .error (.unknownFormat path)
  | some format =>
    match outline? format with
    | none => .error .malformed
    | some outline => .ok outline.settings

/-- The text of settings in the format of a path. -/
def toText (s : Settings) (path : String) : Except SettingsError String :=
  match SettingsFormat.ofPath? path with
  | none => .error (.unknownFormat path)
  | some .toml => (Outline.ofSettings s).toToml?.map String.ofList
  | some .ron => .ok (String.ofList (Outline.ofSettings s).ronText)

end Settings

/-! ## Files -/

/-- What stands at a place. -/
inductive FileEntry where
  | folder
  | file (contents : ByteArray)

/-- Folders and files by place.  A place is the names on the way to it from the top folder, which is
always there. -/
structure FileTree where
  entries : List (List String × FileEntry) := []

namespace FileTree

/-- What stands at a place. -/
def at? (tree : FileTree) (place : List String) : Option FileEntry :=
  if place.isEmpty then some .folder else tree.entries.lookup place

/-- The place that a name leads to from a folder: the folder itself, the one it is in, or something
in it. -/
def enter (place : List String) (name : String) : List String :=
  if name = "" || name = "." then place
  else if name = ".." then place.dropLast
  else place ++ [name]

/-- The place that names lead to from a folder.  All of them but the last must lead to folders. -/
def follow? (tree : FileTree) (place : List String) : List String → Option (List String)
  | [] => some place
  | [name] => some (enter place name)
  | name :: rest =>
    match tree.at? (enter place name) with
    | some .folder => tree.follow? (enter place name) rest
    | _ => none

/-- The longest name there can be, in bytes. -/
def longestName : Nat := 255

/-- The longest path that can be followed, in bytes. -/
def longestPath : Nat := 4095

/-- Whether something can have this name. -/
def isName (name : String) : Bool :=
  decide (name.utf8ByteSize ≤ longestName) && name.toList.all (· ≠ '\x00')

/-- The names in a path, if it can be followed. -/
def names? (path : String) : Option (List String) :=
  let names := path.splitOn "/"
  if path.utf8ByteSize ≤ longestPath ∧ names.all isName then some names else none

/-- The place of a path. -/
def place? (tree : FileTree) (path : String) : Option (List String) :=
  (names? path).bind (tree.follow? [])

/-- Contents of the file at a path. -/
def read? (tree : FileTree) (path : String) : Option ByteArray :=
  match (tree.place? path).bind tree.at? with
  | some (.file contents) => some contents
  | _ => none

/-- Text of the file at a path. -/
def readText? (tree : FileTree) (path : String) : Option String :=
  (tree.read? path).bind String.fromUTF8?

/-- The tree with other contents of the file at a path, which is made if need be. -/
def write? (tree : FileTree) (path : String) (contents : ByteArray) : Option FileTree :=
  match tree.place? path with
  | none => none
  | some place =>
    match tree.at? place with
    | some .folder => none
    | _ => some ⟨Keyed.put place (.file contents) tree.entries⟩

/-- The tree with folders along names from a folder on, made where nothing stands. -/
def makeFolders? (tree : FileTree) (place : List String) : List String → Option FileTree
  | [] => some tree
  | name :: rest =>
    let next := enter place name
    match tree.at? next with
    | some .folder => tree.makeFolders? next rest
    | some (.file _) => none
    | none => (⟨Keyed.put next .folder tree.entries⟩ : FileTree).makeFolders? next rest

/-- The tree with folders along a path. -/
def makeFolder? (tree : FileTree) (path : String) : Option FileTree :=
  (names? path).bind (tree.makeFolders? [])

end FileTree

namespace Settings

/-- Load settings from a file. -/
def load (tree : FileTree) (path : String) : Except SettingsError Settings :=
  match tree.readText? path with
  | none => .error .inaccessible
  | some text => ofText text path

/-- Save settings to a file. -/
def save (s : Settings) (path : String) (tree : FileTree) :
    Except SettingsError Unit × FileTree :=
  match s.toText path with
  | .error cause => (.error cause, tree)
  | .ok text =>
    match tree.write? path text.toUTF8 with
    | none => (.error .inaccessible, tree)
    | some tree => (.ok (), tree)

end Settings

end FramesInFlight
