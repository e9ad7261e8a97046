import RouteAtlas.Document.Decode
import RouteAtlas.FilePath

/-! The settings of a build, and the document that they start. -/

namespace RouteAtlas

structure Config where
  title : String
  version : String
  description : Option String
  host : Option String
  basePath : Option String
  schemes : List String
  consumes : List String
  produces : List String
  format : Format
  /-- Fail where two models fight over one name. -/
  strict : Bool
  /-- The routes to document if none are named. -/
  routes : Option String
deriving DecidableEq, Repr, Inhabited

namespace Config

open Checked Check

def decodeFormat : Value → Checked Format
  | v =>
    match text v with
    | .ok s => ((Format.ofWord? s).map Checked.ok).getD (fail "enum")
    | .bad _ => fail "enum"

/-- Settings from data; what is not given has its default. -/
def ofEntries (es : List (Value × Value)) : Checked Config :=
  Config.mk <$>
    optional es ["title"] "API" text <*>
    optional es ["version"] "1.0.0" text <*>
    optional es ["description"] none (nullable text) <*>
    optional es ["host"] none (nullable text) <*>
    optional es ["base_path"] none (nullable text) <*>
    optional es ["schemes"] [] texts <*>
    optional es ["consumes"] [] texts <*>
    optional es ["produces"] [] texts <*>
    optional es ["output_format"] .json decodeFormat <*>
    optional es ["strict_schema_names"] false bool <*>
    optional es ["routes"] none (nullable text)

def ofData : Value → Checked Config := object ofEntries

/-- All settings, also those that are not set. -/
def encode (c : Config) : Value :=
  let text? (s : Option String) : Value := (s.map Value.str).getD .null
  let texts (ss : List String) : Value := .list (ss.map .str)
  Value.object [
    ("title", .str c.title), ("version", .str c.version), ("description", text? c.description),
    ("host", text? c.host), ("base_path", text? c.basePath), ("schemes", texts c.schemes),
    ("consumes", texts c.consumes), ("produces", texts c.produces),
    ("output_format", .str c.format.word), ("strict_schema_names", .bool c.strict),
    ("routes", text? c.routes)]

def info (c : Config) : Info := ⟨c.title, c.version, c.description⟩

/-- The document without paths. -/
def document (c : Config) : Document :=
  { Document.ofInfo c.info with
    host := c.host, basePath := c.basePath, schemes := c.schemes, consumes := c.consumes
    produces := c.produces }

/-- The document with the host and the base path that are set. -/
def applyServer (c : Config) (d : Document) : Document :=
  { d with host := c.host.or d.host, basePath := c.basePath.or d.basePath }

end Config

end RouteAtlas
