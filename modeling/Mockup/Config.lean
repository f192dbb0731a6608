import Mockup.Component.Table
import Mockup.Json.Writer

/-!
# Configuration

What a run of the generator can be told, with the defaults of the design system.
-/

namespace Mockup

structure Config where
  components : ComponentTable := .standard
  /-- Frames with these names are left out with all below them. -/
  omittedNames : List String := ["Top App Bar", "Interaction State", "Bottom App Bar"]
  navigationShell : Bool := true
  registerFonts : Bool := true
  maxWidth : Option UInt32 := some 600

namespace Config

open Json (Value DecodeError)

def omits (c : Config) (name : String) : Bool :=
  c.omittedNames.contains name

def encode (c : Config) : Value :=
  .object [
    ("components", c.components.encode),
    ("skipped_names", .array (c.omittedNames.map .string)),
    ("navigation_shell", .bool c.navigationShell),
    ("register_fonts", .bool c.registerFonts),
    ("max_width", match c.maxWidth with
      | some width => .number (.int width.toNat)
      | none => .null)]

def toText (c : Config) : String :=
  c.encode.pretty 0

structure Slots where
  components : Option ComponentTable := none
  omittedNames : Option (List String) := none
  navigationShell : Option Bool := none
  registerFonts : Option Bool := none
  maxWidth : Option (Option UInt32) := none

def record : Json.Record Slots Config where
  start := {}
  names := ["components", "skipped_names", "navigation_shell", "register_fonts", "max_width"]
  member slots name v :=
    match name with
    | "components" =>
      some ((Json.fill name slots.components ComponentTable.record.decode v).map
        ({ slots with components := · }))
    | "skipped_names" =>
      some ((Json.fill name slots.omittedNames (Json.decodeList Json.decodeString) v).map
        ({ slots with omittedNames := · }))
    | "navigation_shell" =>
      some ((Json.fill name slots.navigationShell Json.decodeBool v).map
        ({ slots with navigationShell := · }))
    | "register_fonts" =>
      some ((Json.fill name slots.registerFonts Json.decodeBool v).map
        ({ slots with registerFonts := · }))
    | "max_width" =>
      some ((Json.fill name slots.maxWidth (Json.decodeOptional Json.decodeUInt32) v).map
        ({ slots with maxWidth := · }))
    | _ => none
  finish slots :=
    let standard : Config := {}
    .ok {
      components := slots.components.getD standard.components
      omittedNames := slots.omittedNames.getD standard.omittedNames
      navigationShell := slots.navigationShell.getD standard.navigationShell
      registerFonts := slots.registerFonts.getD standard.registerFonts
      maxWidth := slots.maxWidth.getD standard.maxWidth }

def ofText (text : String) : Except DecodeError Config :=
  Json.decodeText record.decode text

end Config
end Mockup
