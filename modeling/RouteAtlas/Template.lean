import RouteAtlas.Text.Split
import RouteAtlas.Text.Case

/-! Path templates, and the names an operation takes from its template. -/

namespace RouteAtlas.Template

/-- The pieces of a template between slashes, the empty ones left out. -/
def segments (template : String) : List String := Text.segments '/' template

/-- Does the segment stand for a captured value? -/
def isCapture (segment : String) : Bool :=
  segment.toList.head? = some '{' && segment.toList.getLast? = some '}'

/-- An operation is filed under its first segment. -/
def tags (template : String) : List String := [(segments template).head?.getD "/"]

def literals (template : String) : List String := (segments template).filter (!isCapture ·)

/-- The method in lower case, then every literal segment with its first letter in upper case. -/
def operationId (template method : String) : String :=
  Text.lower method ++ String.join ((literals template).map Text.capitalizeFirst)

end RouteAtlas.Template
