import FramesInFlight.Settings.Outline
import FramesInFlight.Toml.Document

/-!
# Settings in TOML

Each group is a table, and each setting an integer in it, which bounds what can be written.  A
group may also be given as an array of its settings in order, of which the last ones may be missing;
whatever has another name is passed over.
-/

namespace FramesInFlight

/-! ## Reading -/

namespace Settings

/-- The count that a value stands for. -/
def countOfToml? : Toml.Value → Option UInt64
  | .integer n => if 0 ≤ n then some (UInt64.ofNat n.toNat) else none
  | _ => none

/-- What a value says about a group.  A moment counts as a table, all of whose keys have other
names. -/
def Group.ofToml? (group : Group) (value : Toml.Value) : Option (List (Key × UInt64)) :=
  let pairs : Option (List (Key × Toml.Value)) :=
    match value with
    | .table _ entries =>
      some (group.keys.filterMap fun key => (entries.lookup key.name).map fun v => (key, v))
    | .array items => some (group.keys.zip items)
    | .moment => some []
    | _ => none
  pairs.bind fun pairs => pairs.mapM fun (key, v) => (countOfToml? v).map fun n => (key, n)

/-- What a document says about settings, group by group. -/
def outlineOfToml? (text : List Char) : Option Outline := do
  let entries ← Toml.entries? text
  let parts := Group.all.filterMap fun group =>
    (entries.lookup group.name).map fun value => (group, value)
  parts.mapM fun (group, value) => (group.ofToml? value).map fun entries => ⟨group, entries⟩

end Settings

/-! ## Writing -/

namespace Outline

/-- A line with a setting. -/
def tomlLine (entry : Settings.Key × UInt64) : List Char :=
  entry.1.name.toList ++ " = ".toList ++ Nat.toDigits 10 entry.2.toNat ++ ['\n']

/-- A table with a group. -/
def Part.tomlText (part : Part) : List Char :=
  '[' :: part.group.name.toList ++ [']', '\n'] ++ part.entries.flatMap tomlLine

/-- Tables for all groups, an empty line between them. -/
def tomlText (outline : Outline) : List Char :=
  List.intercalate ['\n'] (outline.map Part.tomlText)

/-- Whether every value is an integer of the format. -/
def fitsToml (outline : Outline) : Bool :=
  outline.given.all fun entry => (entry.2.toNat : Int) < Toml.integerLimit

/-- Write an outline, if its values fit. -/
def toToml? (outline : Outline) : Except SettingsError (List Char) :=
  if outline.fitsToml then .ok outline.tomlText else .error .outOfRange

end Outline

end FramesInFlight
