/-!
# Plain text

What is left of a text on a stream that knows no styles. Control sequences and control characters are
taken out; blanks stay. A blank in the middle of a control sequence breaks it off: what follows is
shown up to the next control character, which takes the sequence up where it stood.
-/

set_option autoImplicit false

namespace ChunkRelay.Text

inductive ParameterStage where
  | entry
  | parameters
  | intermediates
  | malformed
deriving DecidableEq, Repr

def ParameterStage.next (stage : ParameterStage) (c : Char) : ParameterStage :=
  match stage with
  | .entry => if c < '0' then .intermediates else .parameters
  | .parameters =>
    if c < '0' then .intermediates else if c ≤ ';' then .parameters else .malformed
  | .intermediates => if c < '0' then .intermediates else .malformed
  | .malformed => .malformed

inductive ControlState where
  | ground
  | escape
  | escapeIntermediate
  /-- In a sequence that ends with its first letter. -/
  | sequence (stage : ParameterStage)
  /-- In the opening of a device string, which ends with its first letter. -/
  | device (stage : ParameterStage)
  | command
  | string
deriving DecidableEq, Repr

def holdsTerminator (c : Char) : Bool :=
  (String.utf8EncodeChar c).contains 0x9C

namespace ControlState

def afterEscape (c : Char) : ControlState :=
  if c < ' ' ∨ '~' < c then .escape
  else if c < '0' then .escapeIntermediate
  else if c = '[' then .sequence .entry
  else if c = 'P' then .device .entry
  else if c = ']' then .command
  else if c = 'X' ∨ c = '^' ∨ c = '_' then .string
  else .ground

/-- The state after a character. An escape starts anew wherever it stands. -/
def next (state : ControlState) (c : Char) : ControlState :=
  if c = '\x1b' then .escape
  else if c = '\x18' ∨ c = '\x1a' then .ground
  else match state with
  | .ground => .ground
  | .escape => afterEscape c
  | .escapeIntermediate => if '0' ≤ c ∧ c ≤ '~' then .ground else state
  | .sequence stage =>
    if c < ' ' ∨ '~' < c then state
    else if c ≤ '?' then .sequence (stage.next c)
    else .ground
  | .device stage =>
    if c < ' ' ∨ '~' < c then state
    else if c ≤ '?' ∧ stage.next c ≠ .malformed then .device (stage.next c)
    else .string
  | .command => if c = '\x07' then .ground else state
  | .string => if holdsTerminator c then .ground else state

/-- Whether a character stands outside the sequence: all do in none, and a blank control does
except in strings. -/
def shows (state : ControlState) (c : Char) : Bool :=
  match state with
  | .ground => true
  | .escape | .escapeIntermediate | .sequence _ => c < ' '
  | .device _ | .command | .string => false

end ControlState

/-- Whether a character can be shown: any but a control, and the controls that are blanks. -/
def isShown (c : Char) : Bool :=
  (' ' ≤ c && c ≠ '\x7f') || c = '\t' || c = '\n' || c = '\x0c' || c = '\r'

/-- What is shown of a text from a state on; `shown` tells whether the character before it was. A
character beyond the first 128 ends a sequence that was broken off. -/
def plainFrom (shown : Bool) (state : ControlState) : List Char → List Char
  | [] => []
  | c :: rest =>
    if isShown c && (shown || state.shows c) then
      c :: plainFrom true (if c.toNat < 128 then state else .ground) rest
    else plainFrom false (state.next c) rest

def plain (text : String) : String :=
  String.ofList (plainFrom false .ground text.toList)

end ChunkRelay.Text
