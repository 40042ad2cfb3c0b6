import Formwork.Settings.Basic
import Formwork.Yaml.Reading

/-! # Reading settings

Settings are written as a mapping of sections. A section or key that is missing
has its default, keys that are not known are passed over, and a known key occurs
once and holds a value of its type: an integer is not a text and a text is not an
integer. Reading fails where the document cannot be had, where it is no such
mapping, or where `Settings.problems` finds something.
-/

namespace Formwork

/-- Why there are no settings. -/
inductive SettingsError where
  | unavailable
  | malformed
  | invalid (problems : List Settings.Problem)
deriving DecidableEq

namespace SettingsError

/-- The kind of failure in words. -/
def heading : SettingsError → String
  | unavailable => "IO error"
  | malformed => "Parse error"
  | invalid _ => "Validation failed"

/-- The problems found, if reading went as far as that. -/
def problems : SettingsError → List Settings.Problem
  | invalid problems => problems
  | _ => []

/-- The failure in words, with the problems found. -/
def message (e : SettingsError) : String :=
  e.heading ++ ": " ++ Text.join ", " (e.problems.map Settings.Problem.text)

/-- The failure comes from another one: of the file or of the document. -/
def hasCause : SettingsError → Bool
  | invalid _ => false
  | _ => true

end SettingsError

namespace Settings

/-- The known keys of a section with their values. Nothing written is a section
without keys. -/
def section? (known : List String) (y : Yaml) : Option (List (String × Yaml)) := do
  let pairs ← match y.untagged with
    | .null => some []
    | .map pairs => some pairs
    | _ => none
  let named ← pairs.mapM fun pair => pair.1.asText?.map (·, pair.2)
  let kept := named.filter fun entry => known.contains entry.1
  if (kept.map Prod.fst).Nodup then some kept else none

/-- The value of a key, or its default. -/
def entry? {α : Type} (entries : List (String × Yaml)) (key : String) (default : α)
    (read : Yaml → Option α) : Option α :=
  match entries.lookup key with
  | some value => read value
  | none => some default

/-- An integer from zero to a limit. -/
def natUpTo? (limit : Nat) (y : Yaml) : Option Nat :=
  y.asInt?.bind fun n => if 0 ≤ n ∧ n ≤ limit then some n.toNat else none

/-- Reads how a database is reached. -/
def Database.ofYaml? (y : Yaml) : Option Database := do
  let entries ← section? ["host", "user", "password", "database", "driver"] y
  let text (key : String) : Option String := entry? entries key "" Yaml.asText?
  return ⟨← text "host", ← text "user", ← text "password", ← text "database", ← text "driver"⟩

/-- Reads which files are served. -/
def StaticFiles.ofYaml? (y : Yaml) : Option StaticFiles := do
  let entries ← section? ["path", "dir"] y
  return ⟨← entry? entries "path" "" Yaml.asText?, ← entry? entries "dir" "" Yaml.asText?⟩

/-- Reads the key that signs sessions. -/
def sessionKeyOf? (y : Yaml) : Option String := do
  entry? (← section? ["sessions"] y) "sessions" "" Yaml.asText?

/-- Reads limits; they have 64 bits. -/
def Limits.ofYaml? (y : Yaml) : Option Limits := do
  let entries ← section? ["body_bytes", "request_timeout_secs"] y
  let default : Limits := {}
  let number := natUpTo? (Nat.pow 2 64 - 1)
  return ⟨← entry? entries "body_bytes" default.bodySize number,
    ← entry? entries "request_timeout_secs" default.timeout number⟩

/-- Reads what an application tells about its work. -/
def Observability.ofYaml? (y : Yaml) : Option Observability := do
  let entries ← section? ["log_level", "metrics_enabled", "metrics_address"] y
  let default : Observability := {}
  return ⟨← entry? entries "log_level" default.logLevel Yaml.asText?,
    ← entry? entries "metrics_enabled" default.metricsEnabled Yaml.asBool?,
    ← entry? entries "metrics_address" default.metricsAddress Yaml.asText?⟩

/-- Reads settings from a document, which stays with them. -/
def ofYaml? (y : Yaml) : Option Settings := do
  let entries ← section? ["port", "sql", "static", "keys", "limits", "observability"] y
  return {
    port := ← entry? entries "port" 0 (natUpTo? 65535)
    database := ← entry? entries "sql" {} Database.ofYaml?
    staticFiles := ← entry? entries "static" {} StaticFiles.ofYaml?
    sessionKey := ← entry? entries "keys" "" sessionKeyOf?
    limits := ← entry? entries "limits" {} Limits.ofYaml?
    observability := ← entry? entries "observability" {} Observability.ofYaml?
    document := y }

/-- Reads settings that have no problems. -/
def parse (s : String) : Except SettingsError Settings :=
  match (Yaml.parse? s).bind ofYaml? with
  | none => .error .malformed
  | some settings =>
    match settings.problems with
    | [] => .ok settings
    | problems => .error (.invalid problems)

/-- Reads settings from the octets of a file, if there is one. -/
def load (file : Option Bytes) : Except SettingsError Settings :=
  match file.bind Utf8.decode? with
  | some s => parse s
  | none => .error .unavailable

end Settings

end Formwork
