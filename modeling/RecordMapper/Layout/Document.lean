/-
A document is text with gaps at which a line may end. Gaps are collected in boxes: a box that does
not fit on the line ends it at all of its own gaps, or only where it must. The hard part is what
fits means. It is decided once for a whole box, and looks beyond the box to the next gap of the box
around it, because what follows a box without such a gap stays on its last line.
-/

namespace RecordMapper.Layout

/-- The columns of a line. -/
def lineWidth : Int := 89

/-- The columns that every line has for its text, however far it is indented. -/
def leastRoom : Int := 60

/-- The step of indentation. -/
def indentStep : Int := 4

/-- More columns than any line has. -/
def endless : Nat := 0xFFFF

/-- Where a broken box ends lines. -/
inductive Breaks where
  /-- At each of its own gaps. -/
  | all
  /-- At those gaps after which the text up to the next gap does not fit. -/
  | asNeeded
  deriving DecidableEq, Repr

/-- A gap at which a line may end. -/
structure Gap where
  /-- The blanks that stand here if the line goes on. -/
  blanks : Nat := 0
  /-- How much more than the box the next line is indented. -/
  offset : Int := 0
  /-- Whether a comma is written where the line ends. -/
  comma : Bool := false
  /-- Whether the line always goes on. -/
  never : Bool := false
  /-- Whether it vanishes as the end of a box, unless only the box's limit is exceeded. -/
  optional : Bool := false
  deriving DecidableEq, Repr

/-- How the gaps of a box are used. -/
structure Box where
  breaks : Breaks
  /-- How much more a broken box is indented than the box around it. -/
  indent : Int := 0
  /-- The columns that the content may have on one line, wherever it starts. -/
  limit? : Option Nat := none
  deriving DecidableEq, Repr

/-- A document. -/
inductive Document where
  | text (t : String)
  | gap (g : Gap)
  | boxed (box : Box) (content : List Document)
  deriving Repr

namespace Document

/-! ## Widths -/

/-- The columns of a content that exceeds the limit of its box are endless. -/
def limited (box : Box) (width : Nat) : Nat :=
  match box.limit? with
  | some limit => if limit < width then width + endless else width
  | none => width

mutual

/-- The columns of a document on one line; a character counts as its bytes. -/
def width : Document → Nat
  | text t => t.utf8ByteSize
  | gap g => g.blanks
  | boxed box content => limited box (widthOf content)

/-- The columns of several documents on one line. -/
def widthOf : List Document → Nat
  | [] => 0
  | document :: rest => width document + widthOf rest

end

/-- The columns up to the first gap of several documents; `after` is what follows them. -/
def lead (after : Nat) : List Document → Nat
  | [] => after
  | gap _ :: _ => 0
  | document :: rest => width document + lead after rest

/-- The blanks of an optional gap at the end of a content. -/
def optionalBlanks? (content : List Document) : Option Nat :=
  match content.getLast? with
  | some (gap g) => if g.optional then some g.blanks else none
  | _ => none

/-! ## Drawing -/

/-- The text drawn so far, and where it stands. -/
structure Pen where
  drawn : String := ""
  /-- The blanks before the next text. -/
  pending : Nat := 0
  /-- The indentation of the current box. -/
  indent : Int := 0
  /-- The columns left on the line. -/
  room : Int := lineWidth

namespace Pen

/-- Draws a text. -/
def write (pen : Pen) (text : String) : Pen :=
  { pen with
    drawn := pen.drawn ++ String.ofList (List.replicate pen.pending ' ') ++ text
    pending := 0
    room := pen.room - text.utf8ByteSize }

/-- Leaves blanks before the next text. -/
def skip (pen : Pen) (blanks : Nat) : Pen :=
  { pen with pending := pen.pending + blanks, room := pen.room - blanks }

/-- Ends the line. Blanks at its end are not drawn. -/
def endLine (pen : Pen) (g : Gap) : Pen :=
  let pen := if g.comma then pen.write "," else pen
  let indent := pen.indent + g.offset
  { pen with
    drawn := pen.drawn ++ "\n"
    pending := indent.toNat
    room := max (lineWidth - indent) leastRoom }

end Pen

/-- How the current box is drawn. -/
structure Frame where
  /-- Where lines end, if the box is broken. -/
  broken? : Option Breaks
  /-- Whether an optional gap vanishes. -/
  dropsOptional : Bool := false

/-- Draws a gap whose blanks and what follows up to the next gap have `size` columns. -/
def Frame.drawGap (frame : Frame) (size : Nat) (g : Gap) (pen : Pen) : Pen :=
  if g.optional && frame.dropsOptional then pen
  else
    let goesOn := g.never ||
      match frame.broken? with
      | none => true
      | some .all => false
      | some .asNeeded => size ≤ pen.room
    if goesOn then pen.skip g.blanks else pen.endLine g

/-- Whether the optional gap at the end of a box's content vanishes where so much room is left: it
does unless the box is too wide for its limit and not for the line. -/
def dropsOptional (box : Box) (content : List Document) (room : Int) : Bool :=
  match optionalBlanks? content, box.limit? with
  | some blanks, some limit => room < (widthOf content - blanks : Nat) || widthOf content ≤ limit
  | some _, none => true
  | none, _ => false

/-- The columns of a box and of what follows it up to the next gap. -/
def boxSize (box : Box) (content : List Document) (drops : Bool) (follow : Nat) : Nat :=
  if drops then widthOf content - (optionalBlanks? content).getD 0 + follow
  else limited box (widthOf content) + follow

mutual

/-- Draws a document in a box that is drawn as `frame` says. Up to the next gap of that box, or of
one around it, what follows has `follow` columns. -/
def draw (frame : Frame) (follow : Nat) : Document → Pen → Pen
  | text t, pen => pen.write t
  | gap g, pen => frame.drawGap (g.blanks + follow) g pen
  | boxed box content, pen =>
    let drops := dropsOptional box content pen.room
    if pen.room < boxSize box content drops follow then
      let inner := drawAll ⟨some box.breaks, drops⟩ follow content
        { pen with indent := pen.indent + box.indent }
      { inner with indent := pen.indent }
    else drawAll ⟨none, drops⟩ follow content pen

/-- Draws several documents in a box; `after` is what follows the last. -/
def drawAll (frame : Frame) (after : Nat) : List Document → Pen → Pen
  | [], pen => pen
  | document :: rest, pen =>
    drawAll frame after rest (draw frame (lead after rest) document pen)

end

/-- The text of a document. -/
def toText (document : Document) : String :=
  (draw ⟨none, false⟩ 0 document {}).drawn

/-! ## Building -/

/-- A gap without blanks. -/
def zero : Document := .gap {}

/-- A gap with a blank. -/
def space : Document := .gap { blanks := 1 }

/-- A gap at which every line ends. -/
def hard : Document := .gap { blanks := endless }

/-- A gap that writes a comma where it ends the line. -/
def trailingComma : Document := .gap { comma := true }

/-- A gap at which the line never ends: the sizes of what is before it do not look beyond. -/
def never : Document := .gap { never := true }

/-- A box that ends lines at all of its gaps or at none. -/
def block (indent : Int) (content : List Document) : Document := .boxed { breaks := .all, indent } content

/-- A box that ends lines where it must. -/
def fill (indent : Int) (content : List Document) : Document :=
  .boxed { breaks := .asNeeded, indent } content

/-- Moves the last of several documents back by a step, if it is a gap. -/
def outdentLast : List Document → List Document
  | [] => []
  | [gap g] => [gap { g with offset := g.offset - indentStep }]
  | document :: rest => document :: outdentLast rest

/-- Items with commas between them, and what closes them after the last. The last gap is indented
less. -/
def commaItems (closing : List Document) : List (List Document) → List Document
  | [] => []
  | [item] => item ++ outdentLast closing
  | item :: rest => item ++ [text ",", space] ++ commaItems closing rest

/-- Items with commas between them in a box of their own; no items are nothing. -/
def commaBoxClosing (closing : List Document) (items : List (List Document)) : List Document :=
  if items.isEmpty then [] else [block indentStep (zero :: commaItems closing items)]

/-- Items with commas between them in a box of their own; a comma follows the last if the line ends
there. -/
def commaBox (items : List (List Document)) : List Document :=
  commaBoxClosing [trailingComma] items

/-- Documents with the same text between them. -/
def joined (separator : String) (items : List (List Document)) : List Document :=
  (items.intersperse [text separator]).flatten

end Document

end RecordMapper.Layout
