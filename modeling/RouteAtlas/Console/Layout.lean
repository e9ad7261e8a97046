import RouteAtlas.Console.Glyph

/-!
Breaking text into lines of a given width. A line breaks before a word that does not fit; a word too
long for any line is broken where it has to be, or cut.
-/

namespace RouteAtlas

namespace Glyph

/-- The line filled up to the width; a seam may part it from the blanks. -/
def fillRight (width : Nat) (seam : Bool) (gs : List Glyph) : List Glyph :=
  match width - widthOf gs with
  | 0 => gs
  | n + 1 => gs ++ { filler with seam := seam } :: List.replicate n filler

def fillLeft (count : Nat) (gs : List Glyph) : List Glyph := List.replicate count filler ++ gs

/-- The glyphs as parts of a text that was cut, where seams do not last. -/
def withoutSeams (gs : List Glyph) : List Glyph := gs.map fun g => { g with seam := false }

/-- The parts between line feeds. -/
def partsAtFeeds : List Glyph → List (List Glyph)
  | [] => [[]]
  | g :: r =>
    if g.char = '\n' then [] :: partsAtFeeds r
    else match partsAtFeeds r with
      | [] => [[g]]
      | l :: ls => (g :: l) :: ls

/-- The lines between line feeds. -/
def lines (gs : List Glyph) : List (List Glyph) :=
  match partsAtFeeds gs with
  | [l] => [l]
  | ls => ls.map withoutSeams

/-- Blanks for tabs, up to the next multiple of eight columns; `part` is what stands since the last
tab, the last character first. -/
def blanksForTabs (column : Nat) (part : List Char) : List Glyph → List Glyph
  | [] => []
  | g :: r =>
    if g.char = '\t' then
      let column := column + Text.width (' ' :: part).reverse
      let more := (8 - column % 8) % 8
      List.replicate (more + 1) { g with char := ' ' } ++ blanksForTabs (column + more) [] r
    else g :: blanksForTabs column (g.char :: part) r

/-- Parts the spans of a line at its tabs, by a span of its own below those of each part, the first
of which has the number `n`. Where text has a look of its own, all of it lies in a span. -/
def partSpans (own : Bool) (n : Nat) : List Glyph → List Glyph
  | [] => []
  | g :: r =>
    let part : List Span := if own || !g.spans.isEmpty then [⟨n, n + 1, ""⟩] else []
    { g with spans := part ++ g.spans } :: partSpans own (if g.char = '\t' then n + 1 else n) r

/-- A line without tabs. -/
def expandTabs (own : Bool) (gs : List Glyph) : List Glyph :=
  if gs.any (·.char = '\t') then blanksForTabs 0 [] (partSpans own 0 (withoutSeams gs)) else gs

/-- As many glyphs as fit, and a blank where half a wide one would. -/
def crop (width : Nat) (gs : List Glyph) : List Glyph :=
  (gs.zip (Text.crop width (gs.map Glyph.char))).map fun (g, c) => { g with char := c }

/-- Words with the blanks behind them; blanks before the first word belong to it. -/
def wordsFrom : Nat → List Glyph → List (List Glyph)
  | 0, _ => []
  | n + 1, gs =>
    let lead := gs.takeWhile isBlank
    let r := gs.dropWhile isBlank
    if r.isEmpty then []
    else
      let word := r.takeWhile (!·.isBlank)
      let r := r.dropWhile (!·.isBlank)
      (lead ++ word ++ r.takeWhile isBlank) :: wordsFrom n (r.dropWhile isBlank)

def words (gs : List Glyph) : List (List Glyph) := wordsFrom gs.length gs

/-- The lengths of the parts, each as wide as fits, that a word has to be broken into. -/
def foldLengths (width : Nat) (count used : Nat) : List Text.Cluster → List Nat
  | [] => [count]
  | k :: ks =>
    if width < used + k.columns then count :: foldLengths width k.length k.columns ks
    else foldLengths width (count + k.length) (used + k.columns) ks

/-- Puts the parts of a broken word on lines: the breaks, and how far the last line is filled. -/
def placeParts (width : Nat) (word : List Glyph) : Nat → List Nat → List Nat × Nat
  | _, [] => ([], 0)
  | start, [n] => (if start = 0 then [] else [start], widthOf (word.drop (word.length - n)))
  | start, n :: ns =>
    let (breaks, filled) := placeParts width word (start + n) ns
    ((if start = 0 then [] else [start]) ++ breaks, filled)

/-- The places before which a new line begins; `filled` columns of the line are taken. -/
def breaks (width : Nat) (fold : Bool) : Nat → Nat → List (List Glyph) → List Nat
  | _, _, [] => []
  | start, filled, word :: r =>
    let next := start + word.length
    let bare := widthOf (word.take (word.length - (word.reverse.takeWhile isBlank).length))
    let here := if start = 0 then [] else [start]
    if filled + bare ≤ width then breaks width fold next (filled + widthOf word) r
    else if width < bare then
      if fold then
        let lengths := foldLengths width 0 0 (Text.clusters (word.map Glyph.char))
        let (parts, filled) := placeParts width word start lengths
        parts ++ breaks width fold next filled r
      else here ++ breaks width fold next (widthOf word) r
    else if 0 < filled && 0 < start then start :: breaks width fold next (widthOf word) r
    else breaks width fold next filled r

/-- The parts between the places, which are counted from the same point as `start`. -/
def cutAt (start : Nat) : List Nat → List Glyph → List (List Glyph)
  | [], gs => [gs]
  | n :: ns, gs => gs.take (n - start) :: cutAt n ns (gs.drop (n - start))

/-- The line without those blanks at its end that lie beyond the width. -/
def trimBeyond (width : Nat) (gs : List Glyph) : List Glyph :=
  let blanks := (gs.reverse.takeWhile isBlank).length
  gs.take (gs.length - min blanks (gs.length - width))

/-- The line cut to the width; unless it was folded, an ellipsis shows that something is missing. -/
def fit (width : Nat) (fold : Bool) (gs : List Glyph) : List Glyph :=
  if widthOf gs ≤ width then gs
  else if fold then crop width gs
  else
    let kept := crop (width - 1) gs
    kept ++ [{ (gs[kept.length]?.getD filler) with char := '…' }]

/-- One line broken into lines of the width. -/
def wrapLine (width : Nat) (fold own : Bool) (gs : List Glyph) : List (List Glyph) :=
  let gs := expandTabs own gs
  let ls := match breaks width fold 0 0 (words gs) with
    | [] => [gs]
    | ns => cutAt 0 ns (withoutSeams gs)
  ls.map fun l => fit width fold (trimBeyond width l)

def wrap (width : Nat) (fold own : Bool) (gs : List Glyph) : List (List Glyph) :=
  (lines gs).flatMap (wrapLine width fold own)

/-- The line in the middle of the width, without the blanks at its end. -/
def centre (width : Nat) (seam : Bool) (gs : List Glyph) : List Glyph :=
  let blanks := (gs.reverse.takeWhile isBlank).length
  let gs := crop width (gs.take (gs.length - blanks))
  fillRight width (seam && blanks = 0) (fillLeft ((width - widthOf gs) / 2) gs)

end Glyph

namespace Marked

/-- The lines of a text in a width, each filled up by `fill`, which is told of a seam behind it.
There is one if an empty span ends a text that was not cut. -/
def filledLines (width : Nat) (fold own : Bool) (fill : Bool → List Glyph → List Glyph)
    (m : Marked) : List (List Glyph) :=
  let seam := m.spans.any fun s => s.start = m.chars.length && s.stop = m.chars.length
  match Glyph.wrap width fold own m.glyphs with
  | [l] => [fill (seam && l.length = m.chars.length && !m.chars.contains '\t') l]
  | ls => ls.map (fill false)

end Marked

end RouteAtlas
