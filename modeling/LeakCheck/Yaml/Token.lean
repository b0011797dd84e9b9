/-!
# Tokens of YAML text
-/

namespace LeakCheck.Yaml

/-- Why a text is not YAML. The wording is left open, so one cause stands for all. -/
inductive Fault where
  /-- The text is malformed. -/
  | malformed
  deriving DecidableEq, Repr, Inhabited

/-- What a token is. -/
inductive Token where
  | streamStart
  | streamEnd
  /-- The version that a document declares. -/
  | versionDirective (major minor : Nat)
  /-- A short form of tags that a document declares. -/
  | tagDirective (handle stem : String)
  | documentStart
  | documentEnd
  | blockSequenceStart
  | blockMappingStart
  | blockEnd
  | flowSequenceStart
  | flowSequenceEnd
  | flowMappingStart
  | flowMappingEnd
  | blockEntry
  | flowEntry
  | key
  | value
  | alias (name : String)
  | anchor (name : String)
  | tag (handle suffix : String)
  /-- A scalar, and whether it was written without quotes. -/
  | scalar (text : String) (plain : Bool)
  deriving DecidableEq, Repr, Inhabited

end LeakCheck.Yaml
