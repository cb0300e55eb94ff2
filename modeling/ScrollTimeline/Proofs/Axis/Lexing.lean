import Mathlib.Data.List.TakeWhile
import ScrollTimeline.Directive.Lexeme
import ScrollTimeline.Proofs.Axis.Spelling

/-!
From the spelling of an axis to its tokens.

Every form is put in front of a rest that can already be cut into tokens. What matters of the rest is
only how it starts, since that is what ends the last token of the form.
-/
set_option autoImplicit false

namespace ScrollTimeline.Spelling

open Lexeme

/-- The text has these tokens, wherever it starts. -/
def Lexes (glued idNext : Bool) (text : List Char) (tokens : List Token) : Prop :=
  ∀ position, ∃ lexemes, ofTextFrom position glued idNext text = .ok lexemes ∧
    lexemes.map Lexeme.token = tokens ++ [.eof]

theorem lexes_nil (glued idNext : Bool) : Lexes glued idNext [] [] := by
  intro position
  refine ⟨[⟨.eof, position, position⟩], ?_, rfl⟩
  rw [ofTextFrom]

theorem lexes_space {glued idNext : Bool} {rest : List Char} {tokens : List Token}
    (after : Lexes false idNext rest tokens) : Lexes glued idNext (' ' :: rest) tokens := by
  intro position
  obtain ⟨lexemes, made, same⟩ := after (position + ' '.utf8Size)
  refine ⟨lexemes, ?_, same⟩
  rw [ofTextFrom]
  exact made

/-! ### One token -/

theorem lexes_token {glued : Bool} {c : Char} {more rest : List Char} {token : Token}
    {tokens : List Token} (solid : isSpace c = false)
    (taken : ∀ position, takeToken glued c (more ++ rest) position = .ok (token, c :: more))
    (after : Lexes token.isOperand token.announcesId rest tokens) :
    Lexes glued false (c :: (more ++ rest)) (token :: tokens) := by
  intro position
  obtain ⟨lexemes, made, same⟩ := after (position + byteLength (c :: more))
  have left : (more ++ rest).drop ((c :: more).length - 1) = rest := by simp
  refine ⟨⟨token, position, position + byteLength (c :: more)⟩ :: lexemes, ?_, ?_⟩
  · rw [ofTextFrom]
    simp only [solid, Bool.false_and, Bool.false_eq_true, if_false, taken, left, Bool.not_false,
      Bool.true_and, made]
  · rw [List.map_cons, same, List.cons_append]

/-- A token of one character. -/
theorem lexes_mark {glued : Bool} {c : Char} {rest : List Char} {token : Token} {tokens : List Token}
    (solid : isSpace c = false)
    (taken : ∀ position, takeToken glued c rest position = .ok (token, [c]))
    (after : Lexes token.isOperand token.announcesId rest tokens) :
    Lexes glued false (c :: rest) (token :: tokens) := by
  have alone : Lexes glued false (c :: ([] ++ rest)) (token :: tokens) :=
    lexes_token solid taken after
  exact alone

/-- What may stand behind a number: nothing, a space, a colon or a dash. -/
def Ends (rest : List Char) : Prop := ∀ c ∈ rest.head?, c = ' ' ∨ c = ':' ∨ c = '-'

theorem Ends.takeWhile_isDigit {rest : List Char} (ends : Ends rest) :
    rest.takeWhile Char.isDigit = [] := by
  cases rest with
  | nil => rfl
  | cons c more => rcases ends c rfl with rfl | rfl | rfl <;> rfl

theorem Ends.dropWhile_isDigit {rest : List Char} (ends : Ends rest) :
    rest.dropWhile Char.isDigit = rest := by
  cases rest with
  | nil => rfl
  | cons c more => rcases ends c rfl with rfl | rfl | rfl <;> rfl

theorem Ends.startsFraction {rest : List Char} (ends : Ends rest) : startsFraction rest = false := by
  cases rest with
  | nil => rfl
  | cons c more => rcases ends c rfl with rfl | rfl | rfl <;> rfl

theorem splitNumber_text (m : Magnitude) {rest : List Char} (ends : Ends rest) :
    splitNumber (m.text ++ rest) = (m.whole, m.fraction, rest) := by
  have whole : ∀ c ∈ m.whole, c.isDigit = true := fun c there =>
    m.digits c (List.mem_append_left _ there)
  have fraction : ∀ c ∈ m.fraction, c.isDigit = true := fun c there =>
    m.digits c (List.mem_append_right _ there)
  rw [splitNumber, Magnitude.text]
  cases known : m.fraction with
  | nil =>
    simp only [if_true, List.append_nil, List.takeWhile_append_of_pos whole,
      List.dropWhile_append_of_pos whole, ends.takeWhile_isDigit, ends.dropWhile_isDigit,
      ends.startsFraction, Bool.false_eq_true, if_false]
  | cons d digits =>
    rw [known] at fraction
    have opened : startsFraction ('.' :: (d :: digits ++ rest)) = true :=
      fraction d List.mem_cons_self
    have point : ¬ ('.' : Char).isDigit = true := by decide
    simp only [List.cons_ne_nil, if_false, List.append_assoc,
      List.takeWhile_append_of_pos whole, List.dropWhile_append_of_pos whole]
    rw [List.cons_append, List.takeWhile_cons_of_neg point, List.dropWhile_cons_of_neg point, opened]
    simp only [if_true, List.drop_succ_cons, List.drop_zero, List.append_nil,
      List.takeWhile_append_of_pos fraction, List.dropWhile_append_of_pos fraction,
      ends.takeWhile_isDigit, ends.dropWhile_isDigit]

theorem takeNumber_text (m : Magnitude) (negative : Bool) {rest : List Char} (ends : Ends rest)
    (position : Nat) :
    takeNumber negative (m.text ++ rest) position =
      .ok (.number (m.numeral negative), (if negative then ['-'] else []) ++ m.text) := by
  simp only [takeNumber, splitNumber_text m ends, ends.startsFraction, Bool.false_eq_true, if_false,
    List.append_assoc]
  rfl

theorem startsNumber_text (m : Magnitude) (rest : List Char) :
    startsNumber (m.text ++ rest) = true := by
  obtain ⟨d, digits, whole⟩ := List.exists_cons_of_ne_nil m.nonempty
  have first : d.isDigit = true := m.digits d (by simp [whole])
  simp [startsNumber, Magnitude.text, whole, first]

theorem isBlank_of_isDigit {c : Char} (digit : c.isDigit = true) : Text.isBlank c = false := by
  have range : 48 ≤ c.toNat ∧ c.toNat ≤ 57 := by
    simpa [Char.isDigit, UInt32.le_iff_toNat_le] using digit
  simp only [Text.isBlank, Bool.or_eq_false_iff, Bool.and_eq_false_iff, decide_eq_false_iff_not]
  omega

theorem isSpace_of_not_isBlank {c : Char} (solid : Text.isBlank c = false) : isSpace c = false := by
  cases spaced : isSpace c with
  | false => rfl
  | true =>
    simp only [isSpace, Bool.or_eq_true, decide_eq_true_eq] at spaced
    rcases spaced with ((((rfl | rfl) | rfl) | rfl) | rfl) | rfl <;> cases solid

theorem lexes_magnitude (m : Magnitude) {glued : Bool} {rest : List Char} {tokens : List Token}
    (ends : Ends rest) (after : Lexes true false rest tokens) :
    Lexes glued false (m.text ++ rest) (.number (m.numeral false) :: tokens) := by
  have starts := startsNumber_text m rest
  have taken := fun position => takeNumber_text m false ends position
  obtain ⟨d, digits, whole⟩ := List.exists_cons_of_ne_nil m.nonempty
  have first : d.isDigit = true := m.digits d (by simp [whole])
  have shape : m.text = d :: (m.text.drop 1) := by simp [Magnitude.text, whole]
  rw [shape, List.cons_append] at starts taken ⊢
  have noDash : d ≠ '-' := by
    rintro rfl
    cases first
  refine lexes_token ?_ ?_ after
  · exact isSpace_of_not_isBlank (isBlank_of_isDigit first)
  · intro position
    simp only [takeToken, noDash, decide_false, Bool.false_and, Bool.false_eq_true, if_false, starts, if_true]
    exact taken position

theorem lexes_negative (m : Magnitude) {rest : List Char} {tokens : List Token}
    (ends : Ends rest) (after : Lexes true false rest tokens) :
    Lexes false false ('-' :: (m.text ++ rest)) (.number (m.numeral true) :: tokens) := by
  refine lexes_token rfl ?_ after
  intro position
  simp only [takeToken, startsNumber_text, decide_true, Bool.not_false, Bool.and_self, if_true]
  exact takeNumber_text m true ends position

theorem lexes_literal (l : Literal) {rest : List Char} {tokens : List Token} (ends : Ends rest)
    (after : Lexes true false rest tokens) :
    Lexes false false (l.text ++ rest) (l.token :: tokens) := by
  obtain ⟨negative, m⟩ := l
  cases negative with
  | false => exact lexes_magnitude m ends after
  | true => exact lexes_negative m ends after

/-- A word after which an id is awaited. -/
theorem lexes_edgeWord (edge : ClauseEdge) {rest : List Char} {tokens : List Token}
    (after : Lexes false true rest tokens) :
    Lexes false false ((edgeWord edge).toList ++ ' ' :: rest) (.word (edgeWord edge) :: tokens) := by
  have awaited : Lexes true true (' ' :: rest) tokens := lexes_space after
  cases edge <;> exact lexes_token rfl (fun _ => rfl) awaited

theorem Id.not_endsId (id : Id) {c : Char} (there : c ∈ id.chars) : endsId c = false := by
  obtain ⟨solid, noColon, noPipe, _⟩ := id.clean c there
  have spaced := isSpace_of_not_isBlank solid
  simp only [isSpace, Bool.or_eq_false_iff, decide_eq_false_iff_not] at spaced
  simp only [endsId, spaced, noColon, noPipe, decide_false, Bool.or_self]

theorem lexes_id (id : Id) {rest : List Char} {tokens : List Token}
    (ends : ∀ c ∈ rest.head?, endsId c = true) (after : Lexes true false rest tokens) :
    Lexes false true (id.chars ++ rest) (.word id.name :: tokens) := by
  have inside : ∀ c ∈ id.chars, (!endsId c) = true := by
    intro c there
    rw [id.not_endsId there]
    rfl
  have stops : rest.takeWhile (fun c => !endsId c) = [] := by
    cases rest with
    | nil => rfl
    | cons c more => simp [ends c rfl]
  have taken : takeId (id.chars ++ rest) = (.word id.name, id.chars) := by
    rw [takeId, List.takeWhile_append_of_pos inside, stops, List.append_nil]
    rfl
  obtain ⟨c, more, shape⟩ := List.exists_cons_of_ne_nil id.nonempty
  have first : c ∈ id.chars := shape ▸ List.mem_cons_self
  have solid := isSpace_of_not_isBlank (id.clean c first).1
  have inId := id.not_endsId first
  rw [shape, List.cons_append] at taken ⊢
  intro position
  obtain ⟨lexemes, made, same⟩ := after (position + byteLength (c :: more))
  have left : (more ++ rest).drop ((c :: more).length - 1) = rest := by simp
  refine ⟨⟨.word id.name, position, position + byteLength (c :: more)⟩ :: lexemes, ?_, ?_⟩
  · rw [ofTextFrom]
    simp only [solid, inId, Bool.false_eq_true, if_false, Bool.not_false, Bool.and_self, if_true, taken,
      left, Bool.not_true, Bool.false_and]
    simp only [Token.isOperand, made]
  · rw [List.map_cons, same, List.cons_append]

/-! ### Forms -/

/-- A rest that starts with a space or a colon, or is empty, and so may stand behind any form. -/
structure Follows (rest : List Char) (tokens : List Token) : Prop where
  lexes : ∀ glued, Lexes glued false rest tokens
  starts : ∀ c ∈ rest.head?, c = ' ' ∨ c = ':'

theorem Follows.ends {rest : List Char} {tokens : List Token} (follows : Follows rest tokens) :
    Ends rest := by
  intro c there
  rcases follows.starts c there with rfl | rfl
  · exact .inl rfl
  · exact .inr (.inl rfl)

theorem Follows.endsId {rest : List Char} {tokens : List Token} (follows : Follows rest tokens) :
    ∀ c ∈ rest.head?, Lexeme.endsId c = true := by
  intro c there
  rcases follows.starts c there with rfl | rfl <;> rfl

theorem follows_nil : Follows [] [] := ⟨fun glued => lexes_nil glued false, by simp⟩

theorem follows_space {rest : List Char} {tokens : List Token} (after : Lexes false false rest tokens) :
    Follows (' ' :: rest) tokens := ⟨fun _ => lexes_space after, by simp⟩

theorem follows_colon {rest : List Char} {tokens : List Token} (after : Lexes false false rest tokens) :
    Follows (':' :: rest) (.colon :: tokens) :=
  ⟨fun _ => lexes_mark rfl (fun _ => rfl) after, by simp⟩

variable {rest : List Char} {tokens : List Token}

theorem lexes_pipe {glued : Bool} (after : Lexes false false rest tokens) :
    Lexes glued false ('|' :: rest) (.pipe :: tokens) :=
  lexes_mark rfl (fun _ => rfl) after

theorem lexes_position (position : Position) (follows : Follows rest tokens) :
    Lexes false false (position.text ++ rest) (position.tokens ++ tokens) := by
  cases position with
  | literal l => exact lexes_literal l follows.ends (follows.lexes true)
  | like target =>
    have awaited := lexes_id target follows.endsId (follows.lexes true)
    have whole := lexes_edgeWord .like awaited
    simpa [Position.text, Position.tokens, edgeWord] using whole

theorem lexes_curve (curve : Curve) (follows : Follows rest tokens) :
    Lexes false false (curve.text ++ rest) (curve.tokens ++ tokens) := by
  -- The closing pipe is no operand, so nothing is glued to it.
  have closed : Follows (' ' :: '|' :: rest) (.pipe :: tokens) :=
    follows_space (lexes_pipe (follows.lexes false))
  have literal : ∀ (l : Literal) {rest : List Char} {tokens : List Token}, Follows rest tokens →
      Follows (' ' :: (l.text ++ rest)) (l.token :: tokens) := by
    intro l rest tokens follows
    exact follows_space (lexes_literal l follows.ends (follows.lexes true))
  cases curve with
  | given x1 y1 x2 y2 =>
    have controls := literal x1 (literal y1 (literal x2 (literal y2 closed)))
    have whole : Lexes false false _ (.pipe :: _) := lexes_pipe (controls.lexes false)
    simpa [Curve.text, Curve.tokens] using whole
  | like target =>
    have awaited := lexes_id target closed.endsId (closed.lexes true)
    have named := lexes_edgeWord .like awaited
    have whole : Lexes false false _ (.pipe :: _) := lexes_pipe (lexes_space named)
    simpa [Curve.text, Curve.tokens, edgeWord] using whole

theorem follows_optionalCurve (curve : Option Curve) (follows : Follows rest tokens) :
    Follows (Curve.optionalText curve ++ rest) (Curve.optionalTokens curve ++ tokens) := by
  cases curve with
  | none => exact follows
  | some curve => exact follows_space (lexes_curve curve follows)

theorem lexes_time (time : Time) (follows : Follows rest tokens) :
    Lexes false false (time.text ++ rest) (time.tokens ++ tokens) := by
  cases time with
  | literal l => exact lexes_literal l follows.ends (follows.lexes true)
  | after l =>
    refine lexes_mark rfl (fun _ => rfl) ?_
    exact lexes_literal l follows.ends (follows.lexes true)
  | reference edge target =>
    have awaited := lexes_id target follows.endsId (follows.lexes true)
    have whole := lexes_edgeWord edge awaited
    simpa [Time.text, Time.tokens] using whole

/-- The start of a span, in front of whatever can stand behind a space. -/
theorem lexes_start (start : Option Position) (after : Lexes false false rest tokens) :
    Lexes false false (Span.startText start ++ rest) (Span.startTokens start ++ tokens) := by
  cases start with
  | none => exact after
  | some position =>
    have whole := lexes_position position (follows_space after)
    simpa [Span.startText, Span.startTokens] using whole

theorem lexes_span (span : Span) (follows : Follows rest tokens) :
    Lexes false false (span.text ++ rest) (span.tokens ++ tokens) := by
  cases span with
  | spaced start stop =>
    have stops : Lexes false false (' ' :: (stop.text ++ rest)) (stop.tokens ++ tokens) :=
      lexes_space (lexes_position stop follows)
    have dash : Lexes false false ('-' :: ' ' :: (stop.text ++ rest))
        (.dash :: (stop.tokens ++ tokens)) :=
      lexes_mark rfl (fun _ => rfl) stops
    have whole := lexes_start start dash
    simpa [Span.text, Span.tokens] using whole
  | signed start stop =>
    have stops := lexes_negative stop follows.ends (follows.lexes true)
    have whole := lexes_start start stops
    simpa [Span.text, Span.tokens] using whole
  | glued start stop =>
    have stops : Lexes false false (stop.text ++ rest) (.number (stop.numeral false) :: tokens) :=
      lexes_magnitude stop follows.ends (follows.lexes true)
    -- Glued to the start, the dash is no sign though a digit follows it.
    have dash : Lexes true false ('-' :: (stop.text ++ rest))
        (.dash :: .number (stop.numeral false) :: tokens) :=
      lexes_mark rfl (fun _ => rfl) stops
    have behind : Ends ('-' :: (stop.text ++ rest)) := by
      intro c there
      exact .inr (.inr (Option.mem_some.mp there).symm)
    have whole := lexes_literal start behind dash
    simpa [Span.text, Span.tokens] using whole

theorem lexes_clause (clause : Clause) (follows : Follows rest tokens) :
    Lexes false false (clause.text ++ rest) (clause.tokens ++ tokens) := by
  have span := lexes_span clause.span (follows_optionalCurve clause.curve follows)
  have whole := lexes_time clause.time (follows_colon (lexes_space span))
  simpa [Clause.text, Clause.tokens] using whole

theorem follows_clauses (clauses : List Clause) :
    Follows (clauses.flatMap fun clause => ' ' :: clause.text) (clauses.flatMap Clause.tokens) := by
  induction clauses with
  | nil => exact follows_nil
  | cons clause rest ih => exact follows_space (lexes_clause clause ih)

theorem follows_positions (positions : List Position) (follows : Follows rest tokens) :
    Follows (positions.flatMap (fun position => ' ' :: position.text) ++ rest)
      (positions.flatMap Position.tokens ++ tokens) := by
  induction positions with
  | nil => exact follows
  | cons position others ih =>
    have whole := follows_space (lexes_position position ih)
    simpa using whole

theorem lexes_axis (axis : Axis) : Lexes false false axis.text axis.tokens := by
  cases axis with
  | waypoints first others curve =>
    have curved := follows_optionalCurve curve follows_nil
    rw [List.append_nil, List.append_nil] at curved
    exact lexes_position first (follows_positions others curved)
  | timeline initial first others =>
    have clauses := lexes_clause first (follows_clauses others)
    have dot : Lexes false false ('.' :: ' ' :: (first.text ++ _)) (.dot :: (first.tokens ++ _)) :=
      lexes_mark rfl (fun _ => rfl) (lexes_space clauses)
    exact lexes_position initial (follows_space dot)

theorem exists_lexemes (axis : Axis) : ∃ lexemes, Lexeme.ofText axis.text = .ok lexemes ∧
    lexemes.map Lexeme.token = axis.tokens ++ [.eof] :=
  lexes_axis axis 0

end ScrollTimeline.Spelling
