import FramesInFlight.Ron.Value
import FramesInFlight.Settings.Outline

/-!
# Settings in RON

The document is a record of groups, and each group is a record of settings.  The names of the
records may be left out, fields may come in any order and be missing, and fields with other names
are passed over.
-/

namespace FramesInFlight

/-! ## Reading -/

namespace Settings

/-- The name of a group's record. -/
def Group.recordName : Group → String
  | .frame => "FrameTaskConfig"
  | .light => "LightingConfig"

/-- The name of the record of all groups. -/
def recordName : String := "RendererConfig"

/-- Brackets and what is in them nest this many levels deep: a record takes one, and a field in it
another. -/
def ronLevels : Nat := 128

/-- Reads a setting. -/
def Key.ron (key : Key) : Reader (Key × UInt64) := fun text =>
  (Ron.count text).map fun (value, rest) => ((key, value), rest)

/-- Reads a group. -/
def Group.ron (bare : Bool) (group : Group) : Reader Outline.Part := fun text =>
  let expected := group.keys.map fun key => (key.name, key.ron)
  (Ron.record group.recordName expected (Ron.anyValue bare (ronLevels - 4)) text).map
    fun (entries, rest) => (⟨group, entries⟩, rest)

/-- Reads all groups. -/
def ron (bare : Bool) : Reader Outline :=
  Ron.record recordName (Group.all.map fun group => (group.name, group.ron bare))
    (Ron.anyValue bare (ronLevels - 2))

/-- What a document says about settings. -/
def outlineOfRon? (text : List Char) : Option Outline := Ron.document? ron text

end Settings

/-! ## Writing -/

namespace Outline

/-- A line with a setting, eight blanks in. -/
def ronLine (entry : Settings.Key × UInt64) : List Char :=
  List.replicate 8 ' ' ++ entry.1.name.toList ++ ": ".toList ++
    Nat.toDigits 10 entry.2.toNat ++ [',', '\n']

/-- The record of a group, four blanks in. -/
def Part.ronText (part : Part) : List Char :=
  List.replicate 4 ' ' ++ part.group.name.toList ++ ": (\n".toList ++
    part.entries.flatMap ronLine ++ "    ),\n".toList

/-- Write an outline as a record. -/
def ronText (outline : Outline) : List Char :=
  ['(', '\n'] ++ outline.flatMap Part.ronText ++ [')']

end Outline

end FramesInFlight
