import ScrollTimeline.Directive.AxisArgument
import ScrollTimeline.Proofs.Axis.Spelling

/-!
From the tokens of an axis to its argument.

A reader takes exactly the tokens of one form. Whether a negative number belongs to a span depends on
the token behind it, so of what follows a clause it has to be known that it is no dash and no colon, and
that a number in it is the time of the next clause.
-/
set_option autoImplicit false

namespace ScrollTimeline.Spelling

open Lexeme

theorem ok_bind {ε β γ : Type} (b : β) (next : β → Except ε γ) :
    ((Except.ok b : Except ε β) >>= next) = next b := rfl

/-- The reader takes these tokens off the front of what follows them, and answers with `b`. -/
def Reads {β : Type} (reader : List Lexeme → Except Malformation (β × List Lexeme))
    (taken : List Token) (b : β) (following : List Token) : Prop :=
  ∀ lexemes : List Lexeme, lexemes.map Lexeme.token = taken ++ following →
    ∃ rest, reader lexemes = .ok (b, rest) ∧ rest.map Lexeme.token = following

theorem head_of_map {lexemes : List Lexeme} {token : Token} {following : List Token}
    (tokens : lexemes.map Lexeme.token = token :: following) : head lexemes = token := by
  cases lexemes with
  | nil => cases tokens
  | cons lexeme rest => exact (List.cons.inj tokens).1

theorem map_advance {lexemes : List Lexeme} {token : Token} {following : List Token}
    (tokens : lexemes.map Lexeme.token = token :: following) (more : following ≠ []) :
    (advance lexemes).map Lexeme.token = following := by
  match lexemes with
  | [] => cases tokens
  | [_] => exact absurd (List.cons.inj tokens).2.symm more
  | _ :: _ :: _ => exact (List.cons.inj tokens).2

theorem expect_of_map {lexemes : List Lexeme} {token : Token} {following : List Token}
    (tokens : lexemes.map Lexeme.token = token :: following) :
    expect token lexemes = .ok (advance lexemes) := by
  rw [expect, if_pos (head_of_map tokens)]

variable {following : List Token} (more : following ≠ [])

include more

theorem reads_literal (l : Literal) : Reads Numeral.take [l.token] l.numeral following := by
  intro lexemes tokens
  refine ⟨advance lexemes, ?_, map_advance tokens more⟩
  rw [Numeral.take, head_of_map tokens]
  rfl

theorem reads_id (id : Id) : Reads takeElementId [.word id.name] id.name following := by
  intro lexemes tokens
  refine ⟨advance lexemes, ?_, map_advance tokens more⟩
  rw [takeElementId, head_of_map tokens]

theorem reads_position (position : Position) :
    Reads Scalar.take position.tokens position.meaning following := by
  intro lexemes tokens
  cases position with
  | literal l =>
    refine ⟨advance lexemes, ?_, map_advance tokens more⟩
    rw [Scalar.take, head_of_map tokens]
    rfl
  | like target =>
    have named := map_advance tokens (List.cons_ne_nil _ _)
    obtain ⟨rest, read, left⟩ := reads_id more target (advance lexemes) named
    refine ⟨rest, ?_, left⟩
    rw [Scalar.take, head_of_map tokens]
    simp only [read]
    rfl

theorem reads_curve (curve : Curve) :
    Reads (fun lexemes => CurveArg.takeBody (advance lexemes)) curve.tokens curve.meaning
      following := by
  intro lexemes tokens
  cases curve with
  | given x1 y1 x2 y2 =>
    have opened := map_advance tokens (List.cons_ne_nil _ _)
    obtain ⟨first, readFirst, tokens⟩ := reads_literal (List.cons_ne_nil _ _) x1 _ opened
    obtain ⟨second, readSecond, tokens⟩ := reads_literal (List.cons_ne_nil _ _) y1 _ tokens
    obtain ⟨third, readThird, tokens⟩ := reads_literal (List.cons_ne_nil _ _) x2 _ tokens
    obtain ⟨fourth, readFourth, tokens⟩ := reads_literal (List.cons_ne_nil _ _) y2 _ tokens
    refine ⟨advance fourth, ?_, map_advance tokens more⟩
    have given : head (advance lexemes) ≠ .word "like" := by
      rw [head_of_map opened]
      simp [Literal.token]
    simp only [CurveArg.takeBody, if_neg given, readFirst, readSecond, readThird, readFourth,
      expect_of_map tokens, ok_bind]
    rfl
  | like target =>
    have opened := map_advance tokens (List.cons_ne_nil _ _)
    have named := map_advance opened (List.cons_ne_nil _ _)
    obtain ⟨rest, read, tokens⟩ := reads_id (List.cons_ne_nil _ _) target _ named
    refine ⟨advance rest, ?_, map_advance tokens more⟩
    simp only [CurveArg.takeBody, if_pos (head_of_map opened), read, expect_of_map tokens,
      ok_bind]
    rfl

theorem reads_optionalCurve (curve : Option Curve) (noPipe : following.head? ≠ some .pipe) :
    Reads CurveArg.takeOptional (Curve.optionalTokens curve) (curve.map Curve.meaning)
      following := by
  intro lexemes tokens
  cases curve with
  | none =>
    have absent : head lexemes ≠ .pipe := by
      obtain ⟨token, others, shape⟩ := List.exists_cons_of_ne_nil more
      rw [shape] at tokens noPipe
      rw [head_of_map tokens]
      simpa using noPipe
    refine ⟨lexemes, ?_, tokens⟩
    rw [CurveArg.takeOptional, if_neg absent]
    rfl
  | some curve =>
    obtain ⟨rest, read, left⟩ := reads_curve more curve lexemes tokens
    have opened : head lexemes = .pipe := by
      cases curve <;> exact head_of_map tokens
    refine ⟨rest, ?_, left⟩
    simp only [CurveArg.takeOptional, if_pos opened, read]
    rfl

theorem reads_time (time : Time) : Reads ClauseTime.take time.tokens time.meaning following := by
  intro lexemes tokens
  cases time with
  | literal l =>
    refine ⟨advance lexemes, ?_, map_advance tokens more⟩
    rw [ClauseTime.take, head_of_map tokens]
    rfl
  | after l =>
    have signed := map_advance tokens (List.cons_ne_nil _ _)
    obtain ⟨rest, read, left⟩ := reads_literal more l _ signed
    refine ⟨rest, ?_, left⟩
    simp only [ClauseTime.take, head_of_map tokens, read]
    rfl
  | reference edge target =>
    have named := map_advance tokens (List.cons_ne_nil _ _)
    obtain ⟨rest, read, left⟩ := reads_id more target _ named
    have known : ClauseEdge.ofText? (edgeWord edge) = some edge := by
      cases edge <;> rfl
    refine ⟨rest, ?_, left⟩
    simp only [ClauseTime.take, head_of_map tokens, known, read]
    rfl

omit more

/-! ### Spans -/

/-- What may stand behind a span: the end, a curve or one more clause. -/
inductive Continues : List Token → Prop where
  | eof : Continues [.eof]
  | curve (more : List Token) : Continues (.pipe :: more)
  | clause (time : Time) (more : List Token) : Continues (time.tokens ++ .colon :: more)

namespace Continues

theorem ne_nil (continues : Continues following) : following ≠ [] := by
  cases continues <;> simp

variable {lexemes : List Lexeme} (tokens : lexemes.map Lexeme.token = following)

include tokens

/-- Only a number that a colon follows can come first of all tokens that might belong to a span. -/
theorem head_cases (continues : Continues following) :
    (head lexemes = .eof ∨ head lexemes = .pipe ∨ head lexemes = .plus ∨
      ∃ word, head lexemes = .word word) ∨
    ∃ n, head lexemes = .number n ∧ head (advance lexemes) = .colon := by
  cases continues with
  | eof => exact .inl (.inl (head_of_map tokens))
  | curve more => exact .inl (.inr (.inl (head_of_map tokens)))
  | clause time more =>
    cases time with
    | literal l =>
      have colon := map_advance tokens (List.cons_ne_nil _ _)
      exact .inr ⟨l.numeral, head_of_map tokens, head_of_map colon⟩
    | after l => exact .inl (.inr (.inr (.inl (head_of_map tokens))))
    | reference edge target => exact .inl (.inr (.inr (.inr ⟨_, head_of_map tokens⟩)))

theorem head_ne (continues : Continues following) :
    head lexemes ≠ .dash ∧ head lexemes ≠ .colon := by
  rcases continues.head_cases tokens with (first | first | first | ⟨word, first⟩) | ⟨n, first, _⟩ <;>
    rw [first] <;> exact ⟨Token.noConfusion, Token.noConfusion⟩

/-- A number that follows is the time of a clause. -/
theorem takeSignedStop?_eq_none (continues : Continues following) :
    Clause.takeSignedStop? lexemes = none := by
  rcases continues.head_cases tokens with (first | first | first | ⟨word, first⟩) | ⟨n, first, colon⟩
  · rw [Clause.takeSignedStop?, first]
  · rw [Clause.takeSignedStop?, first]
  · rw [Clause.takeSignedStop?, first]
  · rw [Clause.takeSignedStop?, first]
  · rw [Clause.takeSignedStop?, first]
    simp [colon]

end Continues

theorem takeSignedStop?_of_continues (continues : Continues following) (m : Magnitude)
    {lexemes : List Lexeme}
    (tokens : lexemes.map Lexeme.token = .number (m.numeral true) :: following) :
    Clause.takeSignedStop? lexemes = some (.literal (m.numeral false), advance lexemes) := by
  have behind := continues.head_ne (map_advance tokens continues.ne_nil)
  have negative : (m.numeral true).negative = true := rfl
  simp only [Clause.takeSignedStop?, head_of_map tokens, negative, behind, ne_eq,
    not_false_eq_true, and_self, if_true, Magnitude.negate_numeral]

theorem head_ne_dash_of_position (position : Position) {lexemes : List Lexeme}
    (tokens : lexemes.map Lexeme.token = position.tokens ++ following) : head lexemes ≠ .dash := by
  cases position with
  | literal l =>
    rw [head_of_map tokens]
    exact Token.noConfusion
  | like target =>
    rw [head_of_map tokens]
    exact Token.noConfusion

theorem reads_spaced (more : following ≠ []) (start : Option Position) (stop : Position) :
    Reads Clause.takeSpan (Span.spaced start stop).tokens (start.map Position.meaning, stop.meaning)
      following := by
  intro lexemes tokens
  cases start with
  | none =>
    have ended := map_advance tokens (List.append_ne_nil_of_right_ne_nil _ more)
    obtain ⟨rest, read, left⟩ := reads_position more stop _ ended
    refine ⟨rest, ?_, left⟩
    simp only [Clause.takeSpan, if_pos (head_of_map tokens), read, ok_bind]
    rfl
  | some start =>
    have started : lexemes.map Lexeme.token =
        start.tokens ++ .dash :: (stop.tokens ++ following) := by
      simpa [Span.tokens, Span.startTokens] using tokens
    obtain ⟨rest, readStart, dashed⟩ := reads_position (List.cons_ne_nil _ _) start _ started
    have ended := map_advance dashed (List.append_ne_nil_of_right_ne_nil _ more)
    obtain ⟨rest', readStop, left⟩ := reads_position more stop _ ended
    refine ⟨rest', ?_, left⟩
    simp only [Clause.takeSpan, if_neg (head_ne_dash_of_position start started), readStart, ok_bind,
      if_pos (head_of_map dashed), readStop]
    rfl

theorem reads_signed (continues : Continues following) (start : Option Position) (stop : Magnitude) :
    Reads Clause.takeSpan (Span.signed start stop).tokens
      (start.map Position.meaning, .literal (stop.numeral false)) following := by
  intro lexemes tokens
  cases start with
  | none =>
    have behind := map_advance tokens continues.ne_nil
    refine ⟨advance lexemes, ?_, behind⟩
    have negative : (stop.numeral true).negative = true := rfl
    simp only [Clause.takeSpan, Scalar.take, head_of_map tokens, ok_bind,
      if_neg (continues.head_ne behind).1, continues.takeSignedStop?_eq_none behind, negative,
      if_true, Magnitude.negate_numeral]
    rfl
  | some start =>
    have started : lexemes.map Lexeme.token =
        start.tokens ++ .number (stop.numeral true) :: following := by
      simpa [Span.tokens, Span.startTokens] using tokens
    obtain ⟨rest, readStart, ended⟩ := reads_position (List.cons_ne_nil _ _) start _ started
    refine ⟨advance rest, ?_, map_advance ended continues.ne_nil⟩
    have noDash : head rest ≠ .dash := by
      rw [head_of_map ended]
      exact Token.noConfusion
    simp only [Clause.takeSpan, if_neg (head_ne_dash_of_position start started), readStart, ok_bind,
      if_neg noDash, takeSignedStop?_of_continues continues stop ended]
    rfl

theorem reads_span (continues : Continues following) (span : Span) :
    Reads Clause.takeSpan span.tokens (span.start, span.stop) following := by
  cases span with
  | spaced start stop => exact reads_spaced continues.ne_nil start stop
  | signed start stop => exact reads_signed continues start stop
  | glued start stop =>
    exact reads_spaced continues.ne_nil (some (.literal start)) (.literal ⟨false, stop⟩)

/-! ### Clauses and axes -/

theorem continues_optionalCurve (curve : Option Curve) (continues : Continues following) :
    Continues (Curve.optionalTokens curve ++ following) := by
  cases curve with
  | none => exact continues
  | some curve => cases curve <;> exact .curve _

theorem continues_clauses (clauses : List Clause) :
    Continues (clauses.flatMap Clause.tokens ++ [.eof]) := by
  cases clauses with
  | nil => exact .eof
  | cons clause rest =>
    rw [List.flatMap_cons, Clause.tokens, List.append_assoc, List.append_assoc]
    exact .clause _ _

theorem head?_clauses_ne_pipe (clauses : List Clause) :
    (clauses.flatMap Clause.tokens ++ [Token.eof]).head? ≠ some .pipe := by
  cases clauses with
  | nil => simp
  | cons clause rest =>
    obtain ⟨time, span, curve⟩ := clause
    cases time <;> simp [Clause.tokens, Time.tokens, Literal.token]

theorem reads_clause (continues : Continues following) (noPipe : following.head? ≠ some .pipe)
    (clause : Clause) : Reads Clause.take clause.tokens clause.meaning following := by
  intro lexemes tokens
  have timed : lexemes.map Lexeme.token = clause.time.tokens ++ .colon ::
      (clause.span.tokens ++ (Curve.optionalTokens clause.curve ++ following)) := by
    simpa [Clause.tokens] using tokens
  have spanned := continues_optionalCurve clause.curve continues
  obtain ⟨rest, readTime, colon⟩ := reads_time (List.cons_ne_nil _ _) clause.time _ timed
  have opened := map_advance colon (List.append_ne_nil_of_right_ne_nil _ spanned.ne_nil)
  obtain ⟨rest', readSpan, curved⟩ := reads_span spanned clause.span _ opened
  obtain ⟨rest'', readCurve, left⟩ :=
    reads_optionalCurve continues.ne_nil clause.curve noPipe _ curved
  refine ⟨rest'', ?_, left⟩
  simp only [Clause.take, readTime, expect_of_map colon, readSpan, readCurve, ok_bind]
  rfl

theorem head_ne_eof (clause : Clause) {lexemes : List Lexeme}
    (tokens : lexemes.map Lexeme.token = clause.tokens ++ following) : head lexemes ≠ .eof := by
  obtain ⟨time, span, curve⟩ := clause
  cases time <;> rw [head_of_map tokens] <;> exact Token.noConfusion

theorem reads_clauses (clauses : List Clause) {steps : Nat} (enough : clauses.length ≤ steps) :
    Reads (many (· ≠ .eof) Clause.take steps) (clauses.flatMap Clause.tokens)
      (clauses.map Clause.meaning) [.eof] := by
  induction clauses generalizing steps with
  | nil =>
    intro lexemes tokens
    refine ⟨lexemes, ?_, tokens⟩
    cases steps with
    | zero => rfl
    | succ steps =>
      rw [many, head_of_map tokens]
      rfl
  | cons clause rest ih =>
    intro lexemes tokens
    have first : lexemes.map Lexeme.token =
        clause.tokens ++ (rest.flatMap Clause.tokens ++ [.eof]) := by
      simpa using tokens
    obtain ⟨steps, rfl⟩ := Nat.exists_eq_add_of_le' (Nat.one_le_of_lt enough)
    obtain ⟨lexemes', read, others⟩ := reads_clause (continues_clauses rest)
      (head?_clauses_ne_pipe rest) clause lexemes first
    obtain ⟨lexemes'', readOthers, left⟩ := ih (Nat.le_of_succ_le_succ enough) lexemes' others
    refine ⟨lexemes'', ?_, left⟩
    have goesOn : decide (head lexemes ≠ .eof) = true := decide_eq_true (head_ne_eof clause first)
    simp only [many, goesOn, if_true, read, readOthers, ok_bind]
    rfl

theorem reads_positions (positions : List Position) (more : following ≠ [])
    (stops : ∀ token ∈ following.head?, Scalar.starts token = false) {steps : Nat}
    (enough : positions.length ≤ steps) :
    Reads (many Scalar.starts Scalar.take steps) (positions.flatMap Position.tokens)
      (positions.map Position.meaning) following := by
  induction positions generalizing steps with
  | nil =>
    intro lexemes tokens
    refine ⟨lexemes, ?_, tokens⟩
    cases steps with
    | zero => rfl
    | succ steps =>
      obtain ⟨token, others, shape⟩ := List.exists_cons_of_ne_nil more
      rw [many, head_of_map (tokens.trans shape), stops token (by simp [shape])]
      rfl
  | cons position rest ih =>
    intro lexemes tokens
    have first : lexemes.map Lexeme.token =
        position.tokens ++ (rest.flatMap Position.tokens ++ following) := by
      simpa using tokens
    obtain ⟨steps, rfl⟩ := Nat.exists_eq_add_of_le' (Nat.one_le_of_lt enough)
    obtain ⟨lexemes', read, others⟩ :=
      reads_position (List.append_ne_nil_of_right_ne_nil _ more) position lexemes first
    obtain ⟨lexemes'', readOthers, left⟩ := ih (Nat.le_of_succ_le_succ enough) lexemes' others
    refine ⟨lexemes'', ?_, left⟩
    have goesOn : Scalar.starts (head lexemes) = true := by
      cases position <;> rw [head_of_map first] <;> rfl
    simp only [many, goesOn, if_true, read, readOthers, ok_bind]
    rfl

theorem length_le_of_map {β : Type} {tokensOf : β → List Token} (nonempty : ∀ b, tokensOf b ≠ [])
    (items : List β) {lexemes : List Lexeme}
    (tokens : lexemes.map Lexeme.token = items.flatMap tokensOf ++ following) :
    items.length ≤ lexemes.length := by
  have count := congrArg List.length tokens
  rw [List.length_map, List.length_append] at count
  have each : items.length ≤ (items.flatMap tokensOf).length := by
    clear tokens count
    induction items with
    | nil => simp
    | cons item rest ih =>
      have one := List.length_pos_iff.mpr (nonempty item)
      simp only [List.flatMap_cons, List.length_append, List.length_cons]
      omega
  omega

theorem reads_waypoints (first : Position) (others : List Position) (curve : Option Curve) :
    Reads AxisArg.take (Axis.waypoints first others curve).tokens
      (Axis.waypoints first others curve).meaning [.eof] := by
  intro lexemes tokens
  have started : lexemes.map Lexeme.token = first.tokens ++
      (others.flatMap Position.tokens ++ (Curve.optionalTokens curve ++ [.eof])) := by
    simpa [Axis.tokens] using tokens
  have more : Curve.optionalTokens curve ++ [Token.eof] ≠ [] := by simp
  have stops : ∀ token ∈ (Curve.optionalTokens curve ++ [Token.eof]).head?,
      Scalar.starts token = false := by
    match curve with
    | none => simp [Curve.optionalTokens, Scalar.starts]
    | some (.given _ _ _ _) => simp [Curve.optionalTokens, Curve.tokens, Scalar.starts]
    | some (.like _) => simp [Curve.optionalTokens, Curve.tokens, Scalar.starts]
  obtain ⟨rest, readFirst, left⟩ :=
    reads_position (List.append_ne_nil_of_right_ne_nil _ more) first lexemes started
  have enough := length_le_of_map (fun position : Position => by cases position <;> simp [Position.tokens])
    others left
  obtain ⟨rest', readOthers, left'⟩ := reads_positions others more stops enough rest left
  obtain ⟨rest'', readCurve, left''⟩ := reads_optionalCurve (by simp) curve (by simp) rest' left'
  refine ⟨rest'', ?_, left''⟩
  have starts : Scalar.starts (head lexemes) = true := by
    cases first <;> rw [head_of_map started] <;> rfl
  have noDot : head rest ≠ .dot := by
    match others, curve with
    | .literal _ :: _, _ => rw [head_of_map left]; exact Token.noConfusion
    | .like _ :: _, _ => rw [head_of_map left]; exact Token.noConfusion
    | [], none => rw [head_of_map left]; exact Token.noConfusion
    | [], some (.given _ _ _ _) => rw [head_of_map left]; exact Token.noConfusion
    | [], some (.like _) => rw [head_of_map left]; exact Token.noConfusion
  simp only [AxisArg.take, starts, if_true, readFirst, ok_bind, if_neg noDot, readOthers, readCurve]
  rfl

theorem reads_timeline (initial : Position) (first : Clause) (others : List Clause) :
    Reads AxisArg.take (Axis.timeline initial first others).tokens
      (Axis.timeline initial first others).meaning [.eof] := by
  intro lexemes tokens
  have started : lexemes.map Lexeme.token =
      initial.tokens ++ .dot :: ((first :: others).flatMap Clause.tokens ++ [.eof]) := by
    simpa [Axis.tokens] using tokens
  obtain ⟨rest, readInitial, dotted⟩ := reads_position (List.cons_ne_nil _ _) initial lexemes started
  have opened := map_advance dotted (by simp)
  have enough := length_le_of_map (fun clause : Clause => by simp [Clause.tokens]) _ opened
  obtain ⟨rest', readClauses, left⟩ := reads_clauses (first :: others) enough _ opened
  refine ⟨rest', ?_, left⟩
  have starts : Scalar.starts (head lexemes) = true := by
    cases initial <;> rw [head_of_map started] <;> rfl
  have inhabited : (first :: others).map Clause.meaning ≠ [] := by simp
  simp only [AxisArg.take, starts, if_true, readInitial, ok_bind, if_pos (head_of_map dotted),
    AxisArg.takeTimeline, readClauses, if_neg inhabited]
  rfl

/-- Every spelling of an axis is read as what it means. -/
theorem ofLexemes_axis (axis : Axis) {lexemes : List Lexeme}
    (tokens : lexemes.map Lexeme.token = axis.tokens ++ [.eof]) :
    AxisArg.ofLexemes lexemes = .ok axis.meaning := by
  have reads : Reads AxisArg.take axis.tokens axis.meaning [.eof] := by
    cases axis with
    | waypoints first others curve => exact reads_waypoints first others curve
    | timeline initial first others => exact reads_timeline initial first others
  obtain ⟨rest, read, left⟩ := reads lexemes tokens
  rw [AxisArg.ofLexemes, read, ok_bind]
  simp only [expect_of_map left, ok_bind]
  rfl

end ScrollTimeline.Spelling
