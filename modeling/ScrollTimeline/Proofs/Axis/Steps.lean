import Mathlib.Data.List.TakeWhile
import ScrollTimeline.Directive.Lexeme

/-!
The lexer of an axis, one step at a time.

A step skips a space or takes the token that starts at a character. A run is all steps up to the end of the
text or to the first malformation.
-/
set_option autoImplicit false

namespace ScrollTimeline.Lexeme

/-- The token at a character that is no space. -/
def takeNext (glued idNext : Bool) (c : Char) (rest : List Char) (position : Nat) :
    Except Malformation (Token × List Char) :=
  if (idNext && !endsId c) = true then .ok (takeId (c :: rest)) else takeToken glued c rest position

theorem ofTextFrom_space {position : Nat} {glued idNext : Bool} {c : Char} (rest : List Char)
    (space : isSpace c = true) :
    ofTextFrom position glued idNext (c :: rest) =
      ofTextFrom (position + c.utf8Size) false idNext rest := by
  rw [ofTextFrom, if_pos space]

theorem ofTextFrom_error {position : Nat} {glued idNext : Bool} {c : Char} {rest : List Char}
    {problem : Malformation} (solid : ¬ isSpace c = true)
    (next : takeNext glued idNext c rest position = .error problem) :
    ofTextFrom position glued idNext (c :: rest) = .error problem := by
  rw [takeNext] at next
  rw [ofTextFrom, if_neg solid]
  simp only [next]

theorem ofTextFrom_token {position : Nat} {glued idNext : Bool} {c : Char} {rest taken : List Char}
    {token : Token} (solid : ¬ isSpace c = true)
    (next : takeNext glued idNext c rest position = .ok (token, taken)) :
    ofTextFrom position glued idNext (c :: rest) =
      (ofTextFrom (position + byteLength taken) token.isOperand
        (!(idNext && !endsId c) && token.announcesId) (rest.drop (taken.length - 1))).map
        (⟨token, position, position + byteLength taken⟩ :: ·) := by
  rw [takeNext] at next
  rw [ofTextFrom, if_neg solid]
  simp only [next]
  cases ofTextFrom (position + byteLength taken) token.isOperand
    (!(idNext && !endsId c) && token.announcesId) (rest.drop (taken.length - 1)) <;> rfl

/-- The steps in which a text is cut into tokens, from a byte on. -/
inductive Run : Nat → Bool → Bool → List Char → Except Malformation (List Lexeme) → Prop
  | done (position : Nat) (glued idNext : Bool) :
      Run position glued idNext [] (.ok [⟨.eof, position, position⟩])
  | space {position : Nat} {glued idNext : Bool} {c : Char} {rest : List Char}
      {result : Except Malformation (List Lexeme)} (space : isSpace c = true)
      (later : Run (position + c.utf8Size) false idNext rest result) :
      Run position glued idNext (c :: rest) result
  | stuck {position : Nat} {glued idNext : Bool} {c : Char} {rest : List Char}
      {problem : Malformation} (solid : ¬ isSpace c = true)
      (next : takeNext glued idNext c rest position = .error problem) :
      Run position glued idNext (c :: rest) (.error problem)
  | token {position : Nat} {glued idNext : Bool} {c : Char} {rest taken : List Char} {token : Token}
      {result : Except Malformation (List Lexeme)} (solid : ¬ isSpace c = true)
      (next : takeNext glued idNext c rest position = .ok (token, taken))
      (later : Run (position + byteLength taken) token.isOperand
        (!(idNext && !endsId c) && token.announcesId) (rest.drop (taken.length - 1)) result) :
      Run position glued idNext (c :: rest)
        (result.map (⟨token, position, position + byteLength taken⟩ :: ·))

theorem run_ofTextFrom (position : Nat) (glued idNext : Bool) (text : List Char) :
    Run position glued idNext text (ofTextFrom position glued idNext text) := by
  -- A step leaves less of the text, whatever its state.
  induction size : text.length using Nat.strong_induction_on generalizing position glued idNext text with
  | _ length ih =>
    cases text with
    | nil =>
      rw [ofTextFrom]
      exact .done position glued idNext
    | cons c rest =>
      rw [List.length_cons] at size
      by_cases space : isSpace c = true
      · rw [ofTextFrom_space rest space]
        exact .space space (ih rest.length (by omega) _ _ _ _ rfl)
      cases next : takeNext glued idNext c rest position with
      | error problem =>
        rw [ofTextFrom_error space next]
        exact .stuck space next
      | ok answer =>
        obtain ⟨token, taken⟩ := answer
        have shorter : (rest.drop (taken.length - 1)).length < length := by
          rw [List.length_drop]
          omega
        rw [ofTextFrom_token space next]
        exact .token space next (ih _ shorter _ _ _ _ rfl)

theorem exists_of_map_eq_ok {result : Except Malformation (List Lexeme)} {lexeme : Lexeme}
    {lexemes : List Lexeme} (made : result.map (lexeme :: ·) = .ok lexemes) :
    ∃ later, result = .ok later ∧ lexemes = lexeme :: later := by
  cases result with
  | error problem => cases made
  | ok later =>
    cases made
    exact ⟨later, rfl, rfl⟩

theorem digits_splitNumber (text : List Char) :
    (splitNumber text).1 <+: text ∧
      ∀ c ∈ (splitNumber text).1 ++ (splitNumber text).2.1, c.isDigit = true := by
  rw [splitNumber]
  split
  · refine ⟨List.takeWhile_prefix _, ?_⟩
    intro c member
    rcases List.mem_append.mp member with whole | fraction
    · exact List.mem_takeWhile_imp whole
    · exact List.mem_takeWhile_imp fraction
  · refine ⟨List.takeWhile_prefix _, ?_⟩
    intro c member
    rw [List.append_nil] at member
    exact List.mem_takeWhile_imp member

end ScrollTimeline.Lexeme
