/-!
# Plain Text

Text that is to be read and not obeyed: the sequences and characters that control a terminal are
left out, apart from those that leave blanks.

## Conventions

* A blank inside a sequence interrupts it: what follows is shown as well, up to the next control,
  and only then does the sequence go on. A character beyond ASCII that is shown ends it for good.
-/

namespace FixtureKit

namespace Plain

/-- Where in a control sequence a text stands. -/
inductive Mode
  /-- Outside of one. -/
  | outside
  /-- Behind the character that starts one. -/
  | started
  /-- Behind the characters in between that a short sequence can have. -/
  | between
  /-- Inside a sequence with numbers. -/
  | numbers
  /-- Inside a text for the terminal that a bell can end. -/
  | title
  /-- Inside any other text for the terminal. -/
  | message
  deriving DecidableEq

/-- The character that starts a control sequence. -/
def starter : Char := '\x1b'

/-- Whether a character leaves blanks. -/
def isBlank (c : Char) : Bool :=
  c = ' ' || c = '\t' || c = '\n' || c = '\x0c' || c = '\r'

/-- Whether a character controls a terminal without leaving blanks. -/
def isControl (c : Char) : Bool :=
  (c < ' ' && !isBlank c) || c = '\x7f'

/-- The mode behind a character in a sequence that has just started. -/
def Mode.afterStart (c : Char) : Mode :=
  if c = '[' then .numbers
  else if c = ']' then .title
  else if c ∈ ['P', 'X', '^', '_'] then .message
  else if ' ' ≤ c ∧ c ≤ '/' then .between
  else if '0' ≤ c ∧ c ≤ '~' then .outside
  else .started

/-- The mode behind a character. -/
def Mode.after (mode : Mode) (c : Char) : Mode :=
  if c = starter then .started
  else if c = '\x18' ∨ c = '\x1a' then .outside
  else
    match mode with
    | .outside => .outside
    | .started => Mode.afterStart c
    | .between => if '0' ≤ c ∧ c ≤ '~' then .outside else .between
    | .numbers => if '@' ≤ c ∧ c ≤ '~' then .outside else .numbers
    | .title => if c = '\x07' then .outside else .title
    | .message => .message

/-- Whether a character is kept. Blanks are kept in short sequences too, because a terminal obeys
them at once. -/
def Mode.keeps (mode : Mode) (c : Char) : Bool :=
  match mode with
  | .outside => !isControl c
  | .started => c ≠ ' ' && isBlank c
  | .between => c ≠ ' ' && isBlank c
  | .numbers => c ≠ ' ' && isBlank c
  | .title => false
  | .message => false

/-- What is known of the text that has been read. -/
structure State where
  mode : Mode
  /-- Whether the character before has been kept, so that those that follow are shown too. -/
  showing : Bool
  deriving DecidableEq

/-- The state before the first character. -/
def State.start : State := ⟨.outside, false⟩

/-- Whether a character is kept in a state. -/
def State.keeps (state : State) (c : Char) : Bool :=
  if state.showing then !isControl c else state.mode.keeps c

/-- The state behind a character. -/
def State.after (state : State) (c : Char) : State :=
  if state.showing ∧ !isControl c then
    ⟨if c.toNat < 128 then state.mode else .outside, true⟩
  else
    ⟨state.mode.after c, state.keeps c⟩

/-- The plain text of a text in some state. -/
def plainFrom : State → List Char → List Char
  | _, [] => []
  | state, c :: rest =>
    if state.keeps c then c :: plainFrom (state.after c) rest else plainFrom (state.after c) rest

end Plain

/-- The plain text of a text. -/
def plain (text : String) : String :=
  String.ofList (Plain.plainFrom .start text.toList)

end FixtureKit
