import StatusBar.Config.BarConfig
import StatusBar.Label
import StatusBar.Text.Blank

/-!
# Markup

Styled text is written with inline markup: `%{F#rrggbb}` and `%{F-}` stand around text in a
foreground colour, and so on. A `Markup` collects such text for one module. It knows how thick a
line is when nothing else is said, and how many fonts the bar has: a font that is not among them is
neither opened nor closed.

| property | opened by | closed by |
|---|---|---|
| background | `%{B#rrggbb}` | `%{B-}` |
| foreground | `%{F#rrggbb}` | `%{F-}` |
| underline | `%{u#rrggbb}%{U<size>}%{+u}` | `%{-u}` |
| overline | `%{o#rrggbb}%{U<size>}%{+o}` | `%{-o}` |
| font | `%{T<index>}` | `%{T-}` |

The size of a line is left out when it is zero.
-/

namespace StatusBar

/-- Styled text under construction. -/
structure Markup where
  output : String := ""
  /-- Thickness of a line that names none. -/
  lineSize : Nat := 0
  /-- Number of fonts, if there is a limit. -/
  fontCount : Option Nat := none
deriving Repr, DecidableEq, Inhabited

namespace Markup

/-- An empty markup for a bar with these settings. -/
def forBar (settings : BarSettings) : Markup :=
  { lineSize := settings.lineSize, fontCount := some settings.fonts.length }

def tag (body : String) : String := "%\x7b" ++ body ++ "\x7d"

/-- Adds text, which may hold markup. -/
def append (m : Markup) (text : String) : Markup := { m with output := m.output ++ text }

def isEmpty (m : Markup) : Bool := m.output.isEmpty

/-- What has been collected, and the markup without it. -/
def flush (m : Markup) : String × Markup := (m.output, { m with output := "" })

def space (m : Markup) (width : Nat) : Markup := m.append (Text.spaces width)

/-- Shifts what follows by some pixels. -/
def offset (m : Markup) (pixels : Int) : Markup :=
  if pixels = 0 then m else m.append (tag s!"O{pixels}")

/-! ### Colours -/

def foreground (m : Markup) (c : Color) : Markup := m.append (tag s!"F{c.text}")

def foregroundClose (m : Markup) : Markup := m.append (tag "F-")

def background (m : Markup) (c : Color) : Markup := m.append (tag s!"B{c.text}")

def backgroundClose (m : Markup) : Markup := m.append (tag "B-")

/-! ### Lines -/

/-- The size a line is drawn with: 0 stands for the bar's own. -/
def effectiveSize (m : Markup) (size : Nat) : Nat := if size = 0 then m.lineSize else size

/-- Opens a line of the kind `u`, under the text, or `o`, over it. -/
def line (m : Markup) (kind : String) (c : Color) (size : Nat) : Markup :=
  let size := m.effectiveSize size
  let m := m.append (tag s!"{kind}{c.text}")
  let m := if 0 < size then m.append (tag s!"U{size}") else m
  m.append (tag s!"+{kind}")

def underline (m : Markup) (c : Color) (size : Nat) : Markup := m.line "u" c size

def underlineClose (m : Markup) : Markup := m.append (tag "-u")

def overline (m : Markup) (c : Color) (size : Nat) : Markup := m.line "o" c size

def overlineClose (m : Markup) : Markup := m.append (tag "-o")

/-! ### Fonts -/

/-- Whether the bar has a font of this index. -/
def hasFont (m : Markup) (index : Nat) : Bool :=
  1 ≤ index && m.fontCount.all (index ≤ ·)

/-- Opens a font, if the bar has it. -/
def font? (m : Markup) (index : Nat) : Option Markup :=
  if m.hasFont index then some (m.append (tag s!"T{index}")) else none

def fontClose (m : Markup) : Markup := m.append (tag "T-")

/-! ### Styles -/

/-- Properties to be opened around a text and closed behind it. -/
structure Style where
  background : Option Color := none
  foreground : Option Color := none
  underline : Option Color := none
  underlineSize : Nat := 0
  overline : Option Color := none
  overlineSize : Nat := 0
  /-- Index of the font, 0 for none. -/
  font : Nat := 0
deriving Repr, DecidableEq, Inhabited

/-- Opens the font of a style, if it names one that the bar has. -/
def styleFont? (m : Markup) (s : Style) : Option Markup :=
  if s.font = 0 then none else m.font? s.font

/-- Opens the lines and colours of a style, the background outermost. -/
def openColors (m : Markup) (s : Style) : Markup :=
  let m := match s.background with | some c => m.background c | none => m
  let m := match s.foreground with | some c => m.foreground c | none => m
  let m := match s.underline with | some c => m.underline c s.underlineSize | none => m
  match s.overline with | some c => m.overline c s.overlineSize | none => m

/-- Closes what `openColors` opens, in the reverse order. -/
def closeColors (m : Markup) (s : Style) : Markup :=
  let m := if s.overline.isSome then m.overlineClose else m
  let m := if s.underline.isSome then m.underlineClose else m
  let m := if s.foreground.isSome then m.foregroundClose else m
  if s.background.isSome then m.backgroundClose else m

/-- Puts a style around what `content` adds. -/
def within (m : Markup) (s : Style) (content : Markup → Markup) : Markup :=
  let m := m.openColors s
  let m := match m.styleFont? s with
    | some m => (content m).fontClose
    | none => content m
  m.closeColors s

/-- Adds a label: nothing if it has no text, else its padded text in its style. -/
def node (m : Markup) (l : Label) : Markup :=
  if l.isEmpty then m
  else
    let style : Style := {
      background := l.background, foreground := l.foreground
      underline := l.underline, overline := l.overline, font := l.font }
    m.within style fun m => ((m.space l.padding).append l.text).space l.padding

end Markup

end StatusBar
