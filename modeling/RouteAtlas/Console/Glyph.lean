import RouteAtlas.Console.Markup
import RouteAtlas.Text.Width

/-! Characters with the spans around them, and stretches of them that are painted as a whole. -/

namespace RouteAtlas

/-- A character and the spans that it lies in, those on top last. A seam before it parts it from the
character there, even if both lie in the same spans. -/
structure Glyph where
  char : Char
  spans : List Span
  seam : Bool
deriving DecidableEq, Repr

/-- Text in one style. -/
structure Piece where
  look : Style
  chars : List Char
deriving DecidableEq, Repr

namespace Piece

def paint (painter : Painter) (ps : List Piece) : String :=
  String.join (ps.map fun p => painter p.look (String.ofList p.chars))

def text (ps : List Piece) : String := String.ofList (ps.flatMap Piece.chars)

def width (ps : List Piece) : Nat := ps.foldl (fun n p => n + Text.width p.chars) 0

def blanks (look : Style) (n : Nat) : Piece := ⟨look, List.replicate n ' '⟩

end Piece

namespace Text

/-- As many characters as fit, and a blank where half a wide one would. -/
def cropAt : Nat → List Cluster → List Char → List Char
  | _, [], _ => []
  | n, k :: ks, cs =>
    if n = 0 then []
    else if k.columns ≤ n then cs.take k.length ++ cropAt (n - k.columns) ks (cs.drop k.length)
    else [' ']

/-- The characters cut down to a width. -/
def crop (width : Nat) (cs : List Char) : List Char :=
  if Text.width cs ≤ width then cs else cropAt width (clusters cs) cs

/-- The characters on exactly that many columns. -/
def fit (width : Nat) (cs : List Char) : List Char :=
  crop width cs ++ List.replicate (width - Text.width cs) ' '

end Text

namespace Piece

/-- The pieces that fit, the last one cut or filled. -/
def crop (width : Nat) : List Piece → List Piece
  | [] => []
  | p :: ps =>
    let w := Text.width p.chars
    if w < width then p :: crop (width - w) ps else [⟨p.look, Text.fit width p.chars⟩]

/-- The pieces without what lies beyond the width. -/
def cropped (n : Nat) (ps : List Piece) : List Piece := if width ps ≤ n then ps else crop n ps

/-- The pieces on exactly that many columns, blanks in their style behind them. -/
def fit (look : Style) (n : Nat) (ps : List Piece) : List Piece :=
  if width ps < n then ps ++ [blanks look (n - width ps)] else cropped n ps

end Piece

/-- The glyphs of a text. -/
def Marked.glyphs (m : Marked) : List Glyph :=
  m.chars.zipIdx.map fun (c, i) =>
    ⟨c, m.spans.filter fun s => s.start ≤ i && i < s.stop,
      m.spans.any fun s => s.start = i && s.stop = i⟩

namespace Glyph

def text (gs : List Glyph) : String := String.ofList (gs.map Glyph.char)

def widthOf (gs : List Glyph) : Nat := Text.width (gs.map Glyph.char)

def isBlank (g : Glyph) : Bool := RouteAtlas.isBlank g.char

/-- A blank in no span. -/
def filler : Glyph := ⟨' ', [], false⟩

/-- The look of a glyph on a ground that has a look of its own. -/
def style (ground : Style) (g : Glyph) : Style :=
  g.spans.foldl (fun s t => s.merge (Style.named t.look)) ground

/-- The glyphs on a ground; what lies in the same spans is one piece. -/
def pieces (ground : Style) (gs : List Glyph) : List Piece :=
  (gs.splitBy fun g h => g.spans = h.spans && !h.seam).filterMap fun group =>
    group.head?.map fun g => ⟨g.style ground, group.map Glyph.char⟩

end Glyph

end RouteAtlas
