import Signpost.Pattern.Basic

/-!
# Compiling patterns

`Pattern.compile` reads the text of a pattern from left to right and reports the first fault.
-/

namespace Signpost

/-- Why a text is no pattern. -/
inductive Pattern.Fault
  | noLeadingSlash
  | namelessPlaceholder
  | entryWithoutEquals
  | entryWithoutPlaceholder
  | emptyKeyOrName
deriving DecidableEq, Repr

def Pattern.Fault.message : Fault → String
  | .noLeadingSlash          => "must start with `/`"
  | .namelessPlaceholder     => "placeholder without a name"
  | .entryWithoutEquals      => "query entries must read `key=:name`"
  | .entryWithoutPlaceholder => "query values must be placeholders"
  | .emptyKeyOrName          => "empty query key or placeholder name"

/-- The text behind a leading colon. -/
def Pattern.afterColon? (s : String) : Option String :=
  match s.toList with
  | ':' :: name => some (String.ofList name)
  | _           => none

/-- Reads one stretch of the path part. -/
def Segment.compile (part : String) : Except Pattern.Fault Segment :=
  match Pattern.afterColon? part with
  | some name => if name = "" then .error .namelessPlaceholder else .ok (.placeholder name)
  | none      => .ok (.literal part)

/-- Reads one entry of the query part. -/
def QueryEntry.compile (entry : String) : Except Pattern.Fault QueryEntry :=
  match Text.cut '=' entry with
  | none              => .error .entryWithoutEquals
  | some (key, value) =>
    match Pattern.afterColon? value with
    | none      => .error .entryWithoutPlaceholder
    | some name => if key = "" ∨ name = "" then .error .emptyKeyOrName else .ok ⟨key, name⟩

namespace Pattern

/-- The path part of a pattern text and, behind the first question mark, its query part. -/
def parts (raw : String) : String × Option String :=
  match Text.cut '?' raw with
  | some (path, query) => (path, some query)
  | none               => (raw, none)

/-- Reads a pattern: the leading slash is checked first, then the segments, then the query. -/
def compile (raw : String) : Except Fault Pattern := do
  if raw.toList.head? ≠ some '/' then throw .noLeadingSlash
  let segments ← (Text.pieces '/' (parts raw).1).mapM Segment.compile
  let query ← match (parts raw).2 with
    | none       => pure []
    | some query => (Text.pieces '&' query).mapM QueryEntry.compile
  return { raw, segments, query }

end Pattern

end Signpost
