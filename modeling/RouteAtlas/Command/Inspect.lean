import RouteAtlas.Command.Course
import RouteAtlas.Document.Journal

/-! Listing the operations of a document, and the short names that its models fight over. -/

namespace RouteAtlas

/-- The text of a cell; a dash stands for nothing. -/
def cellText (s : Option String) : String := (s.filter (· ≠ "")).getD "-"

def operationRow (template : String) (o : Verb × Operation) : List String :=
  [o.1.word, template, cellText o.2.operationId, cellText o.2.summary]

namespace Document

/-- A row for each operation, in the order of the paths and, within one, of the verbs. -/
def operationRows (d : Document) : List (List String) :=
  d.paths.flatMap fun p => p.2.operations.map (operationRow p.1)

def operationTable (d : Document) : Table where
  title := some (d.info.title ++ " -- Operations (" ++ toString d.operationRows.length ++ ")")
  headers := ["Method", "Path", "Operation ID", "Summary"]
  rows := d.operationRows

end Document

def collisionWarning (claim : String × List String) : Message :=
  ⟨.warning, "Schema '" ++ claim.1 ++ "' is claimed by " ++ Text.join ", " claim.2 ++
    "; the last one wins"⟩

/-- Builds a document, though never strictly, and shows what it holds. -/
def inspectCourse (s : Surroundings) (config : Option FilePath) (target : Option String) :
    Course Unit := do
  let (c, actions) ← s.resolve config target []
  .perform ((c.document.extendLog s.classes false actions).map .log)
  let d ← .ofExcept .build (c.document.extend s.classes .standard false actions).result
  .perform ((collectActionsLog s.classes [] actions).map .log)
  let models ← .ofExcept .build (collectActions s.classes .standard actions)
  .perform (.table d.operationTable ::
    (nameCollisions (models.map (·.2))).map fun c => .say (collisionWarning c))

end RouteAtlas
