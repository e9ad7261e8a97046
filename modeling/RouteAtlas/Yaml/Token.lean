import RouteAtlas.Yaml.Error

/-! The words of YAML: marks of structure, properties of nodes, and scalars. -/

namespace RouteAtlas.Yaml

inductive Directive where
  | version (major : Nat)
  /-- What stands for a handle in tags. -/
  | handle (name start : String)
  | other
deriving DecidableEq, Repr

inductive Token where
  | directive (d : Directive)
  | documentStart
  | documentEnd
  | blockSequenceStart
  | blockMappingStart
  | blockEnd
  | flowSequenceStart
  | flowSequenceEnd
  | flowMappingStart
  | flowMappingEnd
  | blockEntry
  | flowEntry
  | key
  | value
  | alias (name : String)
  | anchor (name : String)
  | tag (handle : Option String) (suffix : String)
  | scalar (text : String) (plain : Bool)
  /-- The text is no YAML from here on, which is seen when this token is asked for. -/
  | unreadable (e : Error)
deriving DecidableEq, Repr, Inhabited

end RouteAtlas.Yaml
