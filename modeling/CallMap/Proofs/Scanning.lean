import CallMap.Diagram

/-!
# Scanning drawings

Both formats of a drawing are made of words, strings between double quotes, single characters and
line ends. A scanner cuts a text into these lexemes. It goes from character to character, and what
it makes of the next one depends on those before it through a mode only, so a text can be scanned
part by part.

In a string a backslash makes the next character stand for itself. A line end in a string belongs to
the string and ends no line.

* `Scanner.Scans.append`: a text is scanned part by part.
* `Scanner.scans_escape`: a label in a string is read back, whatever it holds.
* `Scanner.lines?_join`: a text that is written line by line is read line by line.
-/

namespace CallMap.Diagram

/-- A piece of the text of a drawing. -/
inductive Lexeme
  /-- A run of letters, digits and underscores. -/
  | word (text : String)
  /-- A string between double quotes, by what it stands for. -/
  | quoted (text : String)
  /-- Any other character that is no blank. -/
  | mark (character : Char)
  /-- The end of a line. -/
  | lineEnd
  deriving DecidableEq, Repr

namespace Scanner

/-- What the scanner is in the middle of, with the characters of it so far. -/
inductive Mode
  /-- Nothing. -/
  | between
  /-- A word. -/
  | word (read : List Char)
  /-- A string. -/
  | quoted (read : List Char)
  /-- A string, right after a backslash in it. -/
  | escaped (read : List Char)
  deriving DecidableEq, Repr

/-- Whether a character can stand in a word. -/
def isWordChar (c : Char) : Bool :=
  c.isAlphanum || c == '_'

/-- What a character is that no word or string goes on with: the lexeme that it is itself, if it is
one, and the mode after it. -/
def begin (c : Char) : List Lexeme × Mode :=
  if isWordChar c then ([], .word [c])
  else if c = '"' then ([], .quoted [])
  else if c = '\n' then ([.lineEnd], .between)
  else if c = ' ' ∨ c = '\t' then ([], .between)
  else ([.mark c], .between)

/-- One character: the lexemes that it completes, and the mode after it. -/
def step : Mode → Char → List Lexeme × Mode
  | .between, c => begin c
  | .word read, c =>
    if isWordChar c then ([], .word (read ++ [c]))
    else (.word (String.ofList read) :: (begin c).1, (begin c).2)
  | .quoted read, c =>
    if c = '"' then ([.quoted (String.ofList read)], .between)
    else if c = '\\' then ([], .escaped read)
    else ([], .quoted (read ++ [c]))
  | .escaped read, c => ([], .quoted (read ++ [c]))

/-- The lexemes that a text completes, and the mode after it. -/
def run (mode : Mode) : List Char → List Lexeme × Mode
  | [] => ([], mode)
  | c :: rest =>
    ((step mode c).1 ++ (run (step mode c).2 rest).1, (run (step mode c).2 rest).2)

/-- A text that is scanned in one mode completes lexemes and leads to another mode. -/
def Scans (mode : Mode) (text : String) (found : List Lexeme) (after : Mode) : Prop :=
  run mode text.toList = (found, after)

variable {mode middle after : Mode} {text rest : String} {found others : List Lexeme}

/-! ### Parts of a text -/

/-- Scanning goes on with the second text in the mode in which the first one ends. -/
theorem run_append (mode : Mode) (first second : List Char) : run mode (first ++ second) =
    ((run mode first).1 ++ (run (run mode first).2 second).1,
      (run (run mode first).2 second).2) := by
  induction first generalizing mode with
  | nil => rfl
  | cons c first ih => simp only [List.cons_append, run, ih, List.append_assoc]

/-- The second part of a text is scanned in the mode that the first part leads to. -/
theorem Scans.append (h : Scans mode text found middle) (hrest : Scans middle rest others after) :
    Scans mode (text ++ rest) (found ++ others) after := by
  unfold Scans at *
  rw [String.toList_append, run_append, h, hrest]

/-! ### Words and strings -/

/-- Letters prolong a word. -/
theorem run_word {letters : List Char} (h : letters.all isWordChar = true) (read : List Char) :
    run (.word read) letters = ([], .word (read ++ letters)) := by
  induction letters generalizing read with
  | nil => simp [run]
  | cons c letters ih =>
    obtain ⟨hc, hletters⟩ : isWordChar c = true ∧ letters.all isWordChar = true := by simpa using h
    simp [run, step, hc, ih hletters]

/-- A word goes on to its end. -/
theorem scans_word (hne : text ≠ "") (h : text.toList.all isWordChar = true) :
    Scans .between text [] (.word text.toList) := by
  unfold Scans
  cases hletters : text.toList with
  | nil => exact absurd (String.toList_eq_nil_iff.mp hletters) hne
  | cons c letters =>
    obtain ⟨hc, hrest⟩ : isWordChar c = true ∧ letters.all isWordChar = true := by
      simpa [hletters] using h
    simp [run, step, begin, hc, run_word hrest]

/-- Both replacements at once. The first one makes no quotes, and what the second one makes is not
looked at again, so each character is replaced by itself or by two. -/
theorem toList_escape (label : String) : (escape label).toList =
    label.toList.flatMap fun c => if c = '\\' ∨ c = '"' then ['\\', c] else [c] := by
  rw [escape, String.toList_ofList]
  induction label.toList with
  | nil => rfl
  | cons c rest ih =>
    rw [replace, replace, List.flatMap_cons, List.flatMap_append, List.flatMap_cons, ← ih, replace,
      replace]
    congr 1
    by_cases hbackslash : c = '\\'
    · simp [hbackslash]
    · by_cases hquote : c = '"' <;> simp [hbackslash, hquote]

/-- The characters of a label in a string complete no lexeme: each of them is taken for itself. -/
theorem run_escape (read label : List Char) :
    run (.quoted read)
        (label.flatMap fun c => if c = '\\' ∨ c = '"' then ['\\', c] else [c]) =
      ([], .quoted (read ++ label)) := by
  induction label generalizing read with
  | nil => simp [run]
  | cons c label ih =>
    rw [List.flatMap_cons]
    by_cases hspecial : c = '\\' ∨ c = '"'
    · -- The backslash before the character leads to a mode in which every character is plain.
      rw [if_pos hspecial]
      simp [run, step, ih]
    · rw [if_neg hspecial]
      obtain ⟨hbackslash, hquote⟩ := not_or.mp hspecial
      simp [run, step, hbackslash, hquote, ih]

/-- A label in a string is read back, whatever it holds. -/
theorem scans_escape (label : String) :
    Scans (.quoted []) (escape label) [] (.quoted label.toList) := by
  rw [Scans, toList_escape, run_escape, List.nil_append]

/-- No part of a label ends the string that the label stands in. -/
theorem run_of_isPrefix_escape {label : String} {part : List Char}
    (h : part <+: (escape label).toList) : (run (.quoted []) part).1 = [] := by
  obtain ⟨rest, hrest⟩ := h
  have hwhole := congrArg Prod.fst (scans_escape label)
  rw [← hrest, run_append] at hwhole
  exact (List.append_eq_nil_iff.mp hwhole).1

/-- A text without backslashes and quotes stands in a string as it is. -/
theorem escape_eq_self (h : ∀ c ∈ text.toList, c ≠ '\\' ∧ c ≠ '"') : escape text = text := by
  have hchars (chars : List Char) (hplain : ∀ c ∈ chars, c ≠ '\\' ∧ c ≠ '"') :
      (chars.flatMap fun c => if c = '\\' ∨ c = '"' then ['\\', c] else [c]) = chars := by
    induction chars with
    | nil => rfl
    | cons c chars ih =>
      obtain ⟨hc, hrest⟩ := List.forall_mem_cons.mp hplain
      rw [List.flatMap_cons, if_neg (not_or.mpr hc), ih hrest, List.singleton_append]
  rw [← String.toList_inj, toList_escape, hchars _ h]

/-! ### Lines -/

/-- The lines that lexemes form. -/
def lines : List Lexeme → List (List Lexeme)
  | [] => []
  | .lineEnd :: rest => [] :: lines rest
  | lexeme :: rest =>
    match lines rest with
    | [] => [[lexeme]]
    | line :: others => (lexeme :: line) :: others

/-- A line ends at its line end. -/
theorem lines_append {line : List Lexeme} (h : .lineEnd ∉ line) (rest : List Lexeme) :
    lines (line ++ .lineEnd :: rest) = line :: lines rest := by
  induction line with
  | nil => rfl
  | cons lexeme line ih =>
    obtain ⟨hlexeme, hline⟩ := not_or.mp (mt List.mem_cons.mpr h)
    rw [List.cons_append, lines, ih hline]
    exact fun heq => hlexeme heq.symm

/-- The lines of a text; none if it ends inside a word or a string. -/
def lines? (text : String) : Option (List (List Lexeme)) :=
  match run .between text.toList with
  | (found, .between) => some (lines found)
  | _ => none

/-- A text that ends between lexemes has the lines of its lexemes. -/
theorem lines?_of_scans (h : Scans .between text found .between) :
    lines? text = some (lines found) := by
  rw [lines?, h]

/-- A text is the line that these lexemes form; it is empty where there is no line. -/
def IsLine (text : String) : Option (List Lexeme) → Prop
  | some line => Scans .between text (line ++ [.lineEnd]) .between ∧ .lineEnd ∉ line
  | none => text = ""

variable {α : Type} {items : List α} {write : α → String} {line? : α → Option (List Lexeme)}

/-- A text that is written line by line is read line by line. -/
theorem lines?_join (h : ∀ item ∈ items, IsLine (write item) (line? item)) :
    lines? (String.join (items.map write)) = some (items.filterMap line?) := by
  -- After each line the scanner is between lexemes again, as it is at the start.
  suffices ∃ found, Scans .between (String.join (items.map write)) found .between ∧
      lines found = items.filterMap line? by
    obtain ⟨found, hscans, hlines⟩ := this
    rw [lines?_of_scans hscans, hlines]
  induction items with
  | nil => exact ⟨[], rfl, rfl⟩
  | cons item items ih =>
    obtain ⟨found, hscans, hlines⟩ := ih fun other hother => h other (List.mem_cons_of_mem _ hother)
    have hitem := h item List.mem_cons_self
    rw [List.map_cons, String.join_cons]
    cases hline : line? item with
    | none =>
      rw [hline] at hitem
      rw [List.filterMap_cons_none hline, hitem, String.empty_append]
      exact ⟨found, hscans, hlines⟩
    | some line =>
      rw [hline] at hitem
      refine ⟨line ++ [.lineEnd] ++ found, hitem.1.append hscans, ?_⟩
      rw [List.filterMap_cons_some hline, List.append_assoc, List.singleton_append,
        lines_append hitem.2, hlines]

end Scanner

end CallMap.Diagram
