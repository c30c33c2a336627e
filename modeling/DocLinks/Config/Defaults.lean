import DocLinks.Fault
import DocLinks.Project.FileIndex

/-!
# Default configuration

A configuration is a mapping of sections, and a section a mapping of settings. What a configuration
does not set is taken from the defaults.

## Contents
- `defaultConfig`.
- `mergeWithDefaults`: the defaults overlaid with a configuration, section by section. Sections and
  settings that have no default are kept as they are.
-/

namespace DocLinks.Config

/-- A mapping with textual keys. -/
def textDict (entries : List (String × Value)) : Value :=
  .dict (entries.map fun (k, v) => (.text k, v))

/-- The most bytes that a file may have unless a configuration says otherwise. -/
def defaultMaxFileSize : Nat := 10 * 1024 * 1024

/-- The settings of every section that has defaults. -/
def defaultSections : List (String × List (String × Value)) :=
  [("project",
      [("root", .text "."), ("navigation_file", .text "SUMMARY.md"),
        ("redirects_file", .text ".gitbook.yaml")]),
    ("link_checker",
      [("path", .null), ("exclude_dirs", .list (defaultExcludeDirs.map .text)),
        ("check_anchors", .bool true), ("max_file_size", .int defaultMaxFileSize)]),
    ("fixes", [("auto_fix_confidence", .text "high"), ("add_redirects", .bool true)]),
    ("logging", [("level", .text "INFO"), ("log_file", .null)])]

/-- The default configuration. -/
def defaultConfig : Dict := defaultSections.map fun (name, settings) =>
  (.text name, textDict settings)

/-- Overlays one section: settings of a mapping are set one by one, anything else replaces the
section. -/
def mergeSection (d : Dict) (name value : Value) : Dict :=
  match value.bare, (List.find? (fun e => e.1.sameKey name) d).map Prod.snd with
  | .dict settings, some (.dict defaults) => Dict.put d name (.dict (Dict.merge defaults settings))
  | _, _ => Dict.put d name value

/-- The configuration with the defaults for what it leaves out. -/
def overlay (config : Dict) : Dict :=
  config.foldl (fun d e => mergeSection d e.1 e.2) defaultConfig

/-- The configuration with the defaults for what it leaves out. Nothing at all is the empty
configuration; only a mapping can be overlaid. -/
def mergeWithDefaults (config : Value) : Except Fault Dict :=
  if config.isTruthy then
    match config.bare with
    | .dict d => .ok (overlay d)
    | _ => .error (.shape .noAttribute)
  else .ok (overlay [])

end DocLinks.Config
