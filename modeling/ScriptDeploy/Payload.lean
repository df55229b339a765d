import ScriptDeploy.Metadata

/-!
# Upload payloads

The body of both upload requests: the remote path, the source text, the language, the
metadata's summary, description and schema, and the fixed kind `script`.
-/

namespace ScriptDeploy

/-- The body of an upload request. -/
structure Payload where
  path : String
  content : String
  language : String
  summary : String
  description : String
  schema : Json
deriving Repr, Inhabited

namespace Payload

def kind : String := "script"

def build (content path : String) (m : Metadata) (language : String) : Payload :=
  { path, content, language, summary := m.summary, description := m.description,
    schema := m.schema }

def toJson (p : Payload) : Json :=
  .object [("path", .string p.path), ("content", .string p.content),
    ("language", .string p.language), ("summary", .string p.summary),
    ("description", .string p.description), ("schema", p.schema), ("kind", .string kind)]

end Payload

end ScriptDeploy
