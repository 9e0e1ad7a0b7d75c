import Mathlib.Data.List.Basic
import CallMap.Token.Lexer

/-!
# From pieces to tokens

A text is first cut into pieces. A loop then makes tokens of them: it remembers where illegal pieces
start, and what is between there and the next legal piece, or the end of the text, is one token. The
tokens can also be made from the end of the text to its start, with no positions at all: an illegal
piece before an illegal token becomes part of it.

* `Lexer.flatMap_scan`: the pieces of a text make up the text.
* `Lexer.Loop.flush_foldl_take`: what the loop makes of the rest of the pieces, from any state.
* `Lexer.tokenize_eq`: the tokens of a text, without positions.
-/

namespace CallMap.Lexer

variable {token : Token} {pieces : List Token} {text : List Char} {loop : Loop}

/-- Puts a token before others; two illegal ones become one. -/
def join (token : Token) : List Token → List Token
  | [] => [token]
  | next :: rest =>
    if token.kind = .illegal ∧ next.kind = .illegal then
      ⟨.illegal, token.text ++ next.text⟩ :: rest
    else token :: next :: rest

/-- A token that is not illegal stands for itself. -/
theorem join_of_ne (h : token.kind ≠ .illegal) (tokens : List Token) :
    join token tokens = token :: tokens := by
  cases tokens with
  | nil => rfl
  | cons next rest => simp [join, h]

/-- Illegal text ends before the next token that is not illegal. -/
theorem join_illegal_of_ne (h : token.kind ≠ .illegal) (text : String) (tokens : List Token) :
    join ⟨.illegal, text⟩ (token :: tokens) = ⟨.illegal, text⟩ :: token :: tokens := by
  rw [join, if_neg fun hboth => h hboth.2]

/-- Three illegal tokens become one, in whatever order they are put together. -/
theorem join_join (first second : String) (tokens : List Token) :
    join ⟨.illegal, first⟩ (join ⟨.illegal, second⟩ tokens) =
      join ⟨.illegal, first ++ second⟩ tokens := by
  cases tokens with
  | nil => simp [join]
  | cons next rest =>
    by_cases hnext : next.kind = .illegal
    · simp [join, hnext, String.append_assoc]
    · simp [join, hnext]

/-- The pieces of a text make up the text. -/
theorem flatMap_scan (left : Nat) (text : List Char) :
    (scan left text).flatMap (·.text.toList) = text.drop left := by
  induction text generalizing left with
  | nil => simp [scan]
  | cons c rest ih =>
    cases left with
    | zero => simp [scan, ih]
    | succ left => simpa [scan] using ih left

namespace Loop

/-- What the loop makes of the tokens that are yet to come: the illegal pieces that it has passed go
before them. -/
def complete (text : List Char) (loop : Loop) (others : List Token) : List Token :=
  loop.tokens.toList ++ match loop.illegalFrom with
    | some start => join ⟨.illegal, String.ofList (text.extract start loop.position)⟩ others
    | none => others

/-- The pieces are what comes after the position of the loop. -/
structure Follows (text : List Char) (loop : Loop) (pieces : List Token) : Prop where
  drop_position : text.drop loop.position = pieces.flatMap (·.text.toList)
  position_le : loop.position ≤ text.length
  start_le : ∀ start, loop.illegalFrom = some start → start ≤ loop.position

/-- A slice that is made longer by a piece. -/
theorem extract_add {start position : Nat} {word rest : List Char} (hstart : start ≤ position)
    (hdrop : text.drop position = word ++ rest) :
    text.extract start (position + word.length) = text.extract start position ++ word := by
  have hlength : position + word.length - start = (position - start) + word.length := by omega
  rw [List.extract_eq_take_drop, List.extract_eq_take_drop, hlength, List.take_add, List.drop_drop,
    Nat.add_sub_cancel' hstart, hdrop, List.take_left]

/-- Before a legal token the illegal pieces are a token of their own. -/
theorem flush_append (h : token.kind ≠ .illegal) (others : List Token) :
    (loop.flush text loop.position).tokens.toList ++ token :: others =
      loop.complete text (token :: others) := by
  rw [flush, complete]
  cases loop.illegalFrom with
  | none => rfl
  | some start => simp [join_illegal_of_ne h]

theorem illegalFrom_flush (stop : Nat) : (loop.flush text stop).illegalFrom = none := by
  rw [flush]
  cases hfrom : loop.illegalFrom with
  | none => exact hfrom
  | some start => rfl

/-- Taking a piece moves on to the next one. -/
theorem Follows.take {piece : Token} (h : loop.Follows text (piece :: pieces)) :
    (loop.take text piece).Follows text pieces := by
  have hdrop := h.drop_position
  rw [List.flatMap_cons] at hdrop
  -- Both branches move on by the length of the piece.
  have hposition : (loop.take text piece).position = loop.position + piece.text.toList.length := by
    rw [Loop.take, String.length_toList]
    split_ifs <;> rfl
  refine ⟨?_, ?_, ?_⟩
  · rw [hposition, ← List.drop_drop, hdrop, List.drop_left]
  · have hlength := congrArg List.length hdrop
    rw [List.length_drop, List.length_append] at hlength
    have hle := h.position_le
    omega
  -- Illegal text starts where it has started, or with this piece.
  · intro start hstart
    rw [hposition]
    rw [Loop.take] at hstart
    split_ifs at hstart with hillegal
    · cases hfrom : loop.illegalFrom with
      | none => simp [hfrom] at hstart; omega
      | some first =>
        have hfirst := h.start_le first hfrom
        simp [hfrom] at hstart
        omega
    · simp [illegalFrom_flush] at hstart

/-- One piece: what comes after it is completed as if the piece were put before it. -/
theorem complete_take {piece : Token} (h : loop.Follows text (piece :: pieces))
    (others : List Token) :
    (loop.take text piece).complete text others = loop.complete text (join piece others) := by
  by_cases hillegal : piece.kind = .illegal
  · obtain ⟨kind, word⟩ := piece
    obtain rfl : kind = .illegal := hillegal
    have hdrop := h.drop_position
    rw [List.flatMap_cons] at hdrop
    rw [Loop.take, if_pos rfl, complete, complete, ← String.length_toList]
    cases hfrom : loop.illegalFrom with
    | none =>
      -- The piece is the first that is illegal.
      have hword := extract_add (Nat.le_refl _) hdrop
      simp [hword]
    | some start =>
      have hword := extract_add (h.start_le start hfrom) hdrop
      simp [hword, String.ofList_append, join_join]
  · rw [join_of_ne hillegal, ← flush_append hillegal, complete, Loop.take, if_neg hillegal]
    simp [illegalFrom_flush]

/-- From any state, the loop makes the tokens that it has and those of the pieces to come. -/
theorem flush_foldl_take (h : loop.Follows text pieces) :
    (((pieces.foldl (Loop.take text) loop).flush text text.length).tokens.push
        ⟨.endOfText, ""⟩).toList =
      loop.complete text (pieces.foldr join [⟨.endOfText, ""⟩]) := by
  induction pieces generalizing loop with
  | nil =>
    -- Without pieces the loop is at the end of the text.
    have hposition : loop.position = text.length := by
      have hlength := congrArg List.length h.drop_position
      rw [List.length_drop, List.flatMap_nil, List.length_nil] at hlength
      have hle := h.position_le
      omega
    rw [List.foldl_nil, List.foldr_nil, Array.toList_push, ← hposition]
    exact flush_append (by simp) []
  | cons piece pieces ih =>
    rw [List.foldl_cons, List.foldr_cons, ih h.take, complete_take h]

end Loop

/-- The tokens of a text, made from its end to its start. -/
theorem tokenize_eq (text : String) :
    tokenize text = (scan 0 text.toList).foldr join [⟨.endOfText, ""⟩] := by
  have hfollows : ({} : Loop).Follows text.toList (scan 0 text.toList) :=
    ⟨(flatMap_scan 0 text.toList).symm, Nat.zero_le _, nofun⟩
  exact (Loop.flush_foldl_take hfollows).trans (List.nil_append _)

end CallMap.Lexer
