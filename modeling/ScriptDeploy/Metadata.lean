import ScriptDeploy.Error
import ScriptDeploy.Path
import ScriptDeploy.Text.Blank
import ScriptDeploy.Yaml.Convert
import ScriptDeploy.Yaml.Walk

/-!
# Sidecar metadata

A sidecar is a YAML mapping next to a script with an optional summary, description and JSON
schema; other keys are ignored. The text is read in two steps: first as a YAML value (so a
broken or ambiguous document fails with the reader's message and position), then that value as
the three fields (so a field of the wrong kind fails without a position). Both steps are
parameters of `Sidecar.parseWith`; `Sidecar.parse` uses the reader of `Yaml` and `ofValue`.

Missing parts get defaults: a missing, null or empty summary becomes the file name of the
script's source, or the whole source path when it has no file name; a missing or null
description becomes empty text; a missing or null schema becomes the empty object. Blank text
and a null document give all defaults.
-/

namespace ScriptDeploy

structure Metadata where
  summary : String
  description : String
  schema : Json
deriving Repr, Inhabited

/-- The fields of a sidecar as written, before defaults. -/
structure Sidecar where
  summary : Option String := none
  description : Option String := none
  schema : Option Json := none
deriving Repr, Inhabited

namespace Sidecar

def fieldNames : List String := ["summary", "description", "schema"]

/-- Sets one field from an entry of the mapping, refusing a field given twice. -/
def setField (raw : Sidecar × List String) (entry : Yaml.Value × Yaml.Value) :
    Except Yaml.Message (Sidecar × List String) := do
  let (sc, seen) := raw
  let (k, v) := entry
  let name ← k.asText "field identifier"
  if !fieldNames.contains name then return (sc, seen)
  if seen.contains name then throw (.duplicateField name)
  let seen := name :: seen
  match v with
  | .null =>
    return (sc, seen)
  | _ =>
    if name == "summary" then return ({ sc with summary := some (← v.asText "a string") }, seen)
    else if name == "description" then
      return ({ sc with description := some (← v.asText "a string") }, seen)
    else return ({ sc with schema := some (← v.toJson) }, seen)

/-- The fields of a sidecar from a YAML value: a mapping, whose keys are text, with text for
the summary and the description and any JSON value for the schema. -/
def ofValue (v : Yaml.Value) : Except Yaml.Message Sidecar := do
  let entries ← v.asRecord "RawMetadata"
  let (sc, _) ← entries.foldlM setField ({}, [])
  return sc

/-- The fields of a sidecar text, read as a YAML value and decoded from it: blank text and a
null document have none. -/
def parseWith (read : String → Except Yaml.Error Yaml.Value)
    (decode : Yaml.Value → Except Yaml.Message Sidecar) (contents : String) :
    Except Yaml.Error Sidecar :=
  if Text.isBlankText contents then .ok {}
  else do
    let v ← read contents
    match v with
    | .null => return {}
    | v => (decode v).mapError .ofMessage

def parse (contents : String) : Except Yaml.Error Sidecar :=
  parseWith (Yaml.parseWith Yaml.readValue) ofValue contents

end Sidecar

def baseName (source : String) : String := (Path.fileName? source).getD source

/-- The metadata of a script from the fields of its sidecar, with defaults for missing parts. -/
def Sidecar.withDefaults (raw : Sidecar) (source : String) : Metadata where
  summary := match raw.summary with
    | some s => if s.isEmpty then baseName source else s
    | none => baseName source
  description := raw.description.getD ""
  schema := match raw.schema with
    | some .null | none => .object []
    | some s => s

def Metadata.default (source : String) : Metadata := Sidecar.withDefaults {} source

/-- The metadata in a sidecar's text, read and decoded by the steps given; the sidecar's path
only names it in errors. -/
def Metadata.parseWith (read : String → Except Yaml.Error Yaml.Value)
    (decode : Yaml.Value → Except Yaml.Message Sidecar) (contents metadataPath source : String) :
    Except ScriptError Metadata :=
  match Sidecar.parseWith read decode contents with
  | .ok raw => .ok (raw.withDefaults source)
  | .error e => .error (.metadataParse metadataPath e)

def Metadata.parse (contents metadataPath source : String) : Except ScriptError Metadata :=
  Metadata.parseWith (Yaml.parseWith Yaml.readValue) Sidecar.ofValue contents metadataPath source

end ScriptDeploy
