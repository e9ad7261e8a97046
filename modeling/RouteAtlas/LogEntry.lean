/-! Entries of the log. -/

namespace RouteAtlas

/-- An entry of the log: a detail, which is kept only for those who ask for it, or a warning. -/
structure LogEntry where
  isDetail : Bool
  text : String
deriving DecidableEq, Repr, Inhabited

namespace LogEntry

def warning (text : String) : LogEntry := ⟨false, text⟩

def detail (text : String) : LogEntry := ⟨true, text⟩

end LogEntry

end RouteAtlas
