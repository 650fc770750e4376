import ChunkRelay.Text.Plain

/-!
# Styled text

A text in fragments, some of which stand out. A stream that knows styles gets a control sequence before
and after each of those; on any other stream every fragment is shown plainly by itself, so a control
sequence that a fragment leaves open ends with it.
-/

set_option autoImplicit false

namespace ChunkRelay.Text

inductive Style where
  | alarm
  | faulty
  | literal
deriving DecidableEq, Repr

def Style.opening : Style → String
  | .alarm => "\x1b[1m\x1b[31m"
  | .faulty => "\x1b[33m"
  | .literal => "\x1b[1m"

def Style.closing : String := "\x1b[0m"

structure Fragment where
  style : Option Style
  text : String
deriving DecidableEq, Repr

namespace Fragment

def ordinary (text : String) : Fragment :=
  { style := none, text }

def marked (style : Style) (text : String) : Fragment :=
  { style := some style, text }

/-- A fragment on a stream that knows styles, or on one that does not. -/
def render (styled : Bool) (fragment : Fragment) : String :=
  if styled then
    match fragment.style with
    | none => fragment.text
    | some style => style.opening ++ fragment.text ++ Style.closing
  else plain fragment.text

end Fragment

/-- A text on a stream that knows styles, or on one that does not. -/
def render (styled : Bool) (text : List Fragment) : String :=
  String.join (text.map (Fragment.render styled))

end ChunkRelay.Text
