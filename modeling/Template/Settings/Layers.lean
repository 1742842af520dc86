import Template.Settings.Toml.Document

/-!
Settings in layers. Later texts go over earlier ones, and overrides go over all of them.
-/

namespace Template

inductive Layer where
  | toml (text : String)
  /-- A file that does not exist. -/
  | missing (name : String) (required : Bool)
  | override (key : String) (setting : Setting)

namespace Settings

/-- Puts the settings of a text over others. A key that is no path is a name. -/
def overlayAll (added s : Settings) : Settings :=
  added.foldl
    (fun s (key, setting) =>
      match SettingKey.ofText? key with
      | some k => s.assign k setting
      | none => s.overlay key setting) s

def addFile (s : Settings) : Layer → Except SettingsError Settings
  | .toml text =>
    match Toml.read? text with
    | some added => .ok (overlayAll added s)
    | none => .error (.malformed text)
  | .missing name required => if required then .error (.missingFile name) else .ok s
  | .override .. => .ok s

def addOverride (s : Settings) : Layer → Except SettingsError Settings
  | .override key setting =>
    match SettingKey.ofText? key with
    | some k => .ok (s.assign k setting)
    | none => .error (.invalidKey key)
  | _ => .ok s

end Settings

namespace Options

/-- The options that layers over the standard ones give. -/
def ofLayers (layers : List Layer) : Except SettingsError Options := do
  let settings ← layers.foldlM Settings.addFile (Settings.ofOptions standard)
  let settings ← layers.foldlM Settings.addOverride settings
  settings.options

end Options

end Template
