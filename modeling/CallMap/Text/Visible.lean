/-!
# The visible part of a text

Texts from outside may hold control sequences for a terminal: colours, cursor movements, window
titles. Notes and complaints that quote such a text leave the sequences out, together with the
control characters that are no layout.

White space inside a sequence is shown. What follows it is shown too, up to the next control
character; there the sequence goes on.

* `visible` is the part of a text that is shown.
* `visible_eq_self`: a text without control characters is shown as it is.
-/

namespace CallMap.Text

/-- A part of a control sequence. -/
inductive Sequence
  /-- After the escape character. -/
  | escape
  /-- After an escape character and characters that qualify the command. -/
  | qualified
  /-- A command with parameters. -/
  | command
  /-- The start of a device control string. -/
  | device
  /-- The parameters of a device control string. -/
  | deviceParameters
  /-- The characters that qualify a device control string. -/
  | deviceQualified
  /-- The body of a device control string, or a string that no terminal looks at. -/
  | body
  /-- A string for the terminal itself, such as a title. -/
  | title
  deriving DecidableEq, Repr

/-- The character that starts a control sequence. -/
def escapeCharacter : Char := '\x1b'

/-- The two characters that end any control sequence at once. -/
def isCancel (c : Char) : Bool :=
  c == '\x18' || c == '\x1a'

/-- The control characters that are layout. -/
def isLayout (c : Char) : Bool :=
  c == '\t' || c == '\n' || c == '\x0c' || c == '\r'

/-- Whether a character is shown in ordinary text. -/
def isShown (c : Char) : Bool :=
  isLayout c || (' ' ≤ c && c ≤ '~') || '\x80' ≤ c

/-- Characters that qualify the command after them. -/
def isQualifier (c : Char) : Bool :=
  ' ' ≤ c && c ≤ '/'

/-- Characters that may end a command with parameters. -/
def isFinal (c : Char) : Bool :=
  '@' ≤ c && c ≤ '~'

/-- Whether the UTF-8 form of a character has the byte that ends a string for a device. -/
def hasTerminator (c : Char) : Bool :=
  (String.singleton c).toUTF8.toList.contains 0x9c

namespace Sequence

/-- Whether layout is shown inside the sequence. Strings have none. -/
def showsLayout : Sequence → Bool
  | escape | qualified | command => true
  | _ => false

/-- How the sequence goes on after the escape character and `c`, if it does. -/
def afterEscape (c : Char) : Option Sequence :=
  if c == '[' then some command
  else if c == ']' then some title
  else if c == 'P' then some device
  else if c == 'X' || c == '^' || c == '_' then some body
  else if isQualifier c then some qualified
  else if '0' ≤ c && c ≤ '~' then none
  else some escape

/-- How a device control string goes on after a character of its start. `parameter` tells which
characters are parameters there, and `current` is the part it is in. -/
def afterDevice (current : Sequence) (parameter : Char → Bool) (c : Char) : Sequence :=
  if isQualifier c then deviceQualified
  else if parameter c then deviceParameters
  else if '0' ≤ c && c ≤ '~' then body
  else current

/-- The part of the sequence after one more character, if the sequence goes on. -/
def next (sequence : Sequence) (c : Char) : Option Sequence :=
  match sequence with
  | escape => afterEscape c
  | qualified => if '0' ≤ c && c ≤ '~' then none else some qualified
  | command => if isFinal c then none else some command
  | device => some (afterDevice device (fun c => '0' ≤ c && c ≤ '?') c)
  | deviceParameters => some (afterDevice deviceParameters (fun c => '0' ≤ c && c ≤ ';') c)
  | deviceQualified => some (afterDevice deviceQualified (fun _ => false) c)
  | body => if hasTerminator c then none else some body
  | title => if c == '\x07' then none else some title

end Sequence

/-- Where in a text one is. -/
inductive Display
  /-- In text that is shown. A sequence it has interrupted goes on at the next control character. -/
  | shown (interrupted : Option Sequence)
  /-- In a control sequence. -/
  | hidden (sequence : Sequence)
  deriving DecidableEq, Repr

namespace Display

/-- In ordinary text, or back in a sequence. -/
def resume : Option Sequence → Display
  | some sequence => hidden sequence
  | none => shown none

/-- The place after one more character, and whether that character is shown. -/
def step (display : Display) (c : Char) : Display × Bool :=
  if c = escapeCharacter then (hidden .escape, false)
  else if isCancel c then (shown none, false)
  else match display with
    | shown interrupted =>
      if isShown c then (shown (if '\x80' ≤ c then none else interrupted), true)
      else (resume interrupted, false)
    | hidden sequence =>
      if sequence.showsLayout && isLayout c then (shown (some sequence), true)
      else (resume (sequence.next c), false)

/-- The characters that are shown from a place on. -/
def visible (display : Display) : List Char → List Char
  | [] => []
  | c :: rest =>
    if (display.step c).2 then c :: (display.step c).1.visible rest
    else (display.step c).1.visible rest

/-- In ordinary text a character that is shown leads to ordinary text. -/
theorem step_of_isShown (c : Char) (h : isShown c = true) :
    (shown none).step c = (shown none, true) := by
  have notEscape : c ≠ escapeCharacter := by
    rintro rfl
    exact absurd h (by decide)
  have notCancel : isCancel c = false := by
    rw [Bool.eq_false_iff]
    intro cancel
    have : c = '\x18' ∨ c = '\x1a' := by simpa [isCancel] using cancel
    rcases this with rfl | rfl <;> exact absurd h (by decide)
  simp [step, notEscape, notCancel, h]

end Display

/-- The part of a text that is shown. -/
def visible (text : String) : String :=
  String.ofList ((Display.shown none).visible text.toList)

/-- A text without control characters other than layout is shown as it is. -/
theorem visible_eq_self (text : String) (h : ∀ c ∈ text.toList, isShown c = true) :
    visible text = text := by
  have all (cs : List Char) (shown : ∀ c ∈ cs, isShown c = true) :
      (Display.shown none).visible cs = cs := by
    induction cs with
    | nil => rfl
    | cons c rest ih =>
      simp [Display.visible, Display.step_of_isShown c (shown c (by simp)),
        ih fun d member => shown d (by simp [member])]
  rw [visible, all text.toList h, String.ofList_toList]

end CallMap.Text
