import RouteAtlas.Text.Case
import RouteAtlas.Text.WidthTable

/-!
How many columns text takes on a screen. A joiner makes one picture of the characters around it, and
a selector behind a narrow character that has a picture makes it wide.
-/

namespace RouteAtlas.Text

/-- Letters of wide scripts take two columns; marks and controls take none. -/
def columns (c : Char) : Nat :=
  let n := c.toNat
  if n < 32 then 0
  else if n < 127 then 1
  else if n < 160 || inRanges WidthTable.markRanges c then 0
  else if inRanges WidthTable.wideRanges c then 2
  else 1

def joiner : Char := '\u200d'

def pictureSelector : Char := '\ufe0f'

/-- The column that a selector adds to the character before it. -/
def pictureColumns (c : Char) : Nat := if inRanges WidthTable.pictureRanges c then 1 else 0

/-- The columns of the text behind `last`; what a joiner joins to it takes none. -/
def widthFrom (last : Option Char) (joined : Bool) : List Char → Nat
  | [] => 0
  | c :: r =>
    if joined then widthFrom last false r
    else if c = joiner then widthFrom last true r
    else if c = pictureSelector then (last.map pictureColumns).getD 0 + widthFrom none false r
    else if columns c = 0 then widthFrom last false r
    else columns c + widthFrom (some c) false r

def width (cs : List Char) : Nat := widthFrom none false cs

/-- Characters that stand on the same columns. -/
structure Cluster where
  length : Nat
  columns : Nat
deriving DecidableEq, Repr, Inhabited

/-- The clusters with one more character in the last one, which is the first of the list. -/
def Cluster.grow (columns : Nat) : List Cluster → List Cluster
  | [] => [⟨1, 0⟩]
  | k :: ks => ⟨k.length + 1, k.columns + columns⟩ :: ks

/-- The clusters of a text behind those of `done`, the last one first. -/
def clustersFrom (done : List Cluster) (last : Option Char) (joined : Bool) :
    List Char → List Cluster
  | [] => done
  | c :: r =>
    if joined then clustersFrom (Cluster.grow 0 done) last false r
    else if c = joiner then clustersFrom (Cluster.grow 0 done) last (!done.isEmpty) r
    else if c = pictureSelector then
      match done.isEmpty, last with
      | false, some l =>
        if pictureColumns l = 0 then clustersFrom (Cluster.grow 0 done) last false r
        else clustersFrom (Cluster.grow 1 done) none false r
      | _, _ => clustersFrom (Cluster.grow 0 done) last false r
    else if columns c = 0 then clustersFrom (Cluster.grow 0 done) last false r
    else clustersFrom (⟨1, columns c⟩ :: done) (some c) false r

/-- A text as the characters that stand together. -/
def clusters (cs : List Char) : List Cluster := (clustersFrom [] none false cs).reverse

end RouteAtlas.Text
