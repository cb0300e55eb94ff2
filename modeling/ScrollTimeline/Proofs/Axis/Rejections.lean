import ScrollTimeline.Proofs.Axis.Spans

/-!
Where the rejection of an axis points.

A reader that looks at a token before it takes it reports the place of that token. One that takes the token
first reports the place behind it, where the next token starts. And of a character that starts no token the
lexer reports the right place, but only the first byte.
-/
set_option autoImplicit false

namespace ScrollTimeline

/-- What is expected is looked for in a token that has been taken already. -/
def Expectation.isTaken : Expectation → Bool
  | token _ => false
  | number => true
  | elementId => true
  | scalar => true
  | clauseTime => false

/-- The place that is reported of a token, from the tokens behind it. -/
def Expectation.place (what : Expectation) (here : Lexeme) (after : List Lexeme) : Nat :=
  if what.isTaken then (after.headD here).start else here.start

namespace Lexeme

variable {all lexemes : List Lexeme}

structure IsLeft (all lexemes : List Lexeme) : Prop where
  nonempty : lexemes ≠ []
  part : lexemes <:+ all

theorem IsLeft.exists_cons (left : IsLeft all lexemes) :
    ∃ here after, lexemes = here :: after ∧ here :: after <:+ all := by
  obtain ⟨here, after, rfl⟩ := List.exists_cons_of_ne_nil left.nonempty
  exact ⟨here, after, rfl, left.part⟩

theorem IsLeft.advance (left : IsLeft all lexemes) : IsLeft all (advance lexemes) := by
  match lexemes with
  | [] => exact left
  | [_] => exact left
  | here :: next :: rest => exact ⟨List.cons_ne_nil _ _, (List.suffix_cons here _).trans left.part⟩

/-- The error names a token that is there, and the place of that token as it is reported. -/
def IsLocated (all : List Lexeme) : Malformation → Prop
  | .expected what found position =>
    ∃ here after, here :: after <:+ all ∧ here.token = found ∧ position = what.place here after
  | _ => True

inductive Ends {β : Type} (all : List Lexeme) (Good : β → Prop) : Except Malformation β → Prop
  | ok {b : β} (good : Good b) : Ends all Good (.ok b)
  | error {problem : Malformation} (located : IsLocated all problem) : Ends all Good (.error problem)

namespace Ends

variable {β γ : Type} {Good : β → Prop} {Fine : γ → Prop}

theorem bind {first : Except Malformation β} {next : β → Except Malformation γ}
    (one : Ends all Good first) (others : ∀ b, Good b → Ends all Fine (next b)) :
    Ends all Fine (first >>= next) := by
  cases one with
  | ok good => exact others _ good
  | error located => exact .error located

theorem unexpected {what : Expectation} (left : IsLeft all lexemes) (looked : what.isTaken = false) :
    Ends all Good (unexpected what lexemes) := by
  obtain ⟨here, after, rfl, part⟩ := left.exists_cons
  refine .error ⟨here, after, part, rfl, ?_⟩
  rw [Expectation.place, looked]
  rfl

theorem unexpectedTaken {what : Expectation} (left : IsLeft all lexemes)
    (taken : what.isTaken = true) : Ends all Good (unexpectedTaken what lexemes) := by
  obtain ⟨here, after, rfl, part⟩ := left.exists_cons
  refine .error ⟨here, after, part, rfl, ?_⟩
  rw [Expectation.place, if_pos taken]
  cases after <;> rfl

theorem expect (left : IsLeft all lexemes) (token : Token) :
    Ends all (IsLeft all) (expect token lexemes) := by
  rw [Lexeme.expect]
  split
  · exact .ok left.advance
  · exact .unexpected left rfl

end Ends

def Locates {β : Type} (all : List Lexeme)
    (reader : List Lexeme → Except Malformation (β × List Lexeme)) : Prop :=
  ∀ lexemes, IsLeft all lexemes → Ends all (fun answer => IsLeft all answer.2) (reader lexemes)

theorem Locates.bind {β γ : Type} {Fine : γ → Prop}
    {reader : List Lexeme → Except Malformation (β × List Lexeme)} (locates : Locates all reader)
    {next : β × List Lexeme → Except Malformation γ} (left : IsLeft all lexemes)
    (others : ∀ b rest, IsLeft all rest → Ends all Fine (next (b, rest))) :
    Ends all Fine (reader lexemes >>= next) :=
  (locates _ left).bind fun answer more => others answer.1 answer.2 more

theorem locates_many {β : Type} {more : Token → Bool}
    {item : List Lexeme → Except Malformation (β × List Lexeme)} (locates : Locates all item)
    (steps : Nat) : Locates all (many more item steps) := by
  induction steps with
  | zero => exact fun lexemes left => .ok left
  | succ steps ih =>
    intro lexemes left
    rw [many]
    split
    · refine locates.bind left ?_
      intro b rest left
      refine Locates.bind ih left ?_
      intro bs rest left
      exact .ok left
    · exact .ok left

theorem locates_numeral : Locates all Numeral.take := by
  intro lexemes left
  rw [Numeral.take]
  split
  · exact .ok left.advance
  · exact .unexpectedTaken left rfl

theorem locates_elementId : Locates all takeElementId := by
  intro lexemes left
  rw [takeElementId]
  split
  · exact .ok left.advance
  · exact .unexpectedTaken left rfl

theorem locates_scalar : Locates all Scalar.take := by
  intro lexemes left
  rw [Scalar.take.eq_def]
  split
  · exact .ok left.advance
  · refine locates_elementId.bind left.advance ?_
    intro target rest left
    exact .ok left
  · exact .unexpectedTaken left rfl

theorem locates_curveBody : Locates all CurveArg.takeBody := by
  intro lexemes left
  rw [CurveArg.takeBody]
  split
  · refine locates_elementId.bind left.advance ?_
    intro target rest left
    refine (Ends.expect left .pipe).bind ?_
    intro rest left
    exact .ok left
  · refine locates_numeral.bind left ?_
    intro x1 rest left
    refine locates_numeral.bind left ?_
    intro y1 rest left
    refine locates_numeral.bind left ?_
    intro x2 rest left
    refine locates_numeral.bind left ?_
    intro y2 rest left
    refine (Ends.expect left .pipe).bind ?_
    intro rest left
    exact .ok left

theorem locates_optionalCurve : Locates all CurveArg.takeOptional := by
  intro lexemes left
  rw [CurveArg.takeOptional]
  split
  · refine locates_curveBody.bind left.advance ?_
    intro curve rest left
    exact .ok left
  · exact .ok left

theorem locates_time : Locates all ClauseTime.take := by
  intro lexemes left
  rw [ClauseTime.take.eq_def]
  split
  · refine locates_numeral.bind left.advance ?_
    intro n rest left
    exact .ok left
  · exact .ok left.advance
  · split
    · exact .error trivial
    · refine locates_elementId.bind left.advance ?_
      intro target rest left
      exact .ok left
  · exact .unexpected left rfl

theorem IsLeft.takeSignedStop? {stop : Scalar} {rest : List Lexeme} (left : IsLeft all lexemes)
    (signed : Clause.takeSignedStop? lexemes = some (stop, rest)) : IsLeft all rest := by
  rw [Clause.takeSignedStop?] at signed
  split at signed
  · dsimp only at signed
    split at signed
    · cases signed
      exact left.advance
    · cases signed
  · cases signed

theorem locates_span : Locates all Clause.takeSpan := by
  intro lexemes left
  rw [Clause.takeSpan]
  split
  · refine locates_scalar.bind left.advance ?_
    intro stop rest left
    exact .ok left
  refine locates_scalar.bind left ?_
  intro first rest left
  dsimp only
  split
  · refine locates_scalar.bind left.advance ?_
    intro stop rest left
    exact .ok left
  split
  · rename_i signed
    exact .ok (left.takeSignedStop? signed)
  cases first with
  | literal n =>
    dsimp only
    split
    · exact .ok left
    · exact .error trivial
  | like target => exact .error trivial

theorem locates_clause : Locates all Clause.take := by
  intro lexemes left
  refine locates_time.bind left ?_
  intro time rest left
  refine (Ends.expect left .colon).bind ?_
  intro rest left
  refine locates_span.bind left ?_
  rintro ⟨start, stop⟩ rest left
  refine locates_optionalCurve.bind left ?_
  intro curve rest left
  exact .ok left

theorem locates_timeline (initial : Scalar) : Locates all (AxisArg.takeTimeline initial) := by
  intro lexemes left
  refine (locates_many locates_clause _).bind left ?_
  intro clauses rest left
  dsimp only
  split
  · exact .error trivial
  · exact .ok left

theorem locates_axis : Locates all AxisArg.take := by
  intro lexemes left
  rw [AxisArg.take]
  split
  · refine locates_scalar.bind left ?_
    intro first rest left
    dsimp only
    split
    · exact locates_timeline first _ left.advance
    · refine (locates_many locates_scalar _).bind left ?_
      intro others rest left
      refine locates_optionalCurve.bind left ?_
      intro curve rest left
      exact .ok left
  · exact .error trivial

theorem isLocated_of_ofLexemes {problem : Malformation} (nonempty : all ≠ [])
    (rejected : AxisArg.ofLexemes all = .error problem) : IsLocated all problem := by
  have ends : Ends all (fun _ : AxisArg => True) (AxisArg.ofLexemes all) := by
    refine locates_axis.bind ⟨nonempty, List.suffix_rfl⟩ ?_
    intro arg rest left
    refine (Ends.expect left .eof).bind ?_
    intro rest _
    exact .ok trivial
  rw [rejected] at ends
  cases ends with
  | error located => exact located

/-! ### In the text -/

section

variable {text : List Char} {here : Lexeme} {after : List Lexeme} (made : ofText text = .ok lexemes)
  (part : here :: after <:+ lexemes)

include made part

/-- Where a token is at fault, the reported place is that of a token with its name if the token was only
looked at, or if no other one follows. -/
theorem isTokenAt_place_iff (what : Expectation) :
    IsTokenAt text (what.place here after) here.token ↔
      what.isTaken = false ∨ ∀ next ∈ after.head?, next.token = here.token := by
  have itself : here ∈ lexemes := part.subset List.mem_cons_self
  rw [Expectation.place]
  cases taken : what.isTaken with
  | false =>
    rw [if_neg Bool.false_ne_true, isTokenAt_start_iff made itself]
    exact iff_of_true rfl (.inl rfl)
  | true =>
    rw [if_pos rfl]
    cases after with
    | nil =>
      rw [List.headD_nil, isTokenAt_start_iff made itself]
      simp
    | cons next rest =>
      have behind : next ∈ lexemes := part.subset (List.mem_cons_of_mem here List.mem_cons_self)
      rw [List.headD_cons, isTokenAt_start_iff made behind]
      simp

theorem place_eq_of_eof (what : Expectation) (last : here.token = .eof) :
    what.place here after = byteLength text := by
  have stands := standsIn_of_ofText made
  have start : here.start = byteLength text :=
    (stands here (part.subset List.mem_cons_self)).start_eq last
  cases after with
  | nil => simp [Expectation.place, start]
  | cons next rest =>
    have ordered := (pairwise_start_of_ofText made).sublist part.sublist
    have later : here.start < next.start := (List.pairwise_cons.mp ordered).1 next List.mem_cons_self
    have inside := (stands next (part.subset (List.mem_cons_of_mem here List.mem_cons_self))).start_le
    omega

end

/-- What the lexer and the readers of an axis say of a text that they reject. A character that starts no
token is reported at its byte, but only its first byte is named. A token that is not what was expected is
one of the text; its place is reported if it was looked at, and the place of the next token if it was
taken. -/
theorem rejection_of_axis (text : List Char) :
    (∀ c position, ofText text = .error (.unexpectedCharacter c position) →
      ∃ offender, charAt? text position = some offender ∧ c = Char.ofNat (leadByte offender) ∧
        (c = offender ↔ offender.toNat < 0x80 ∨ offender = '\u00c3')) ∧
    ∀ lexemes what found position, ofText text = .ok lexemes →
      AxisArg.ofLexemes lexemes = .error (.expected what found position) →
      ∃ here after, here :: after <:+ lexemes ∧ here.token = found ∧
        IsTokenAt text here.start found ∧ position = what.place here after ∧
        (IsTokenAt text position found ↔
          what.isTaken = false ∨ ∀ next ∈ after.head?, next.token = found) ∧
        (found = .eof → position = byteLength text) := by
  constructor
  · intro c position failed
    obtain ⟨before, offender, after, rfl, rfl, rfl⟩ :=
      (scan_ofTextFrom 0 false false text).unexpectedCharacter failed
    refine ⟨offender, ?_, rfl, ofNat_leadByte_eq_iff offender⟩
    rw [Nat.zero_add]
    exact charAt?_append before offender after
  · intro lexemes what found position made rejected
    obtain ⟨here, after, part, rfl, rfl⟩ := isLocated_of_ofLexemes (ne_nil_of_ofText made) rejected
    have itself : here ∈ lexemes := part.subset List.mem_cons_self
    exact ⟨here, after, part, rfl, (isTokenAt_start_iff made itself _).mpr rfl, rfl,
      isTokenAt_place_iff made part what, place_eq_of_eof made part what⟩

def emptyCurve : List Char := "5 ||".toList

def accented : List Char := "5 \u00e9".toList

def emptyCurveLexemes : List Lexeme :=
  [⟨.number ⟨false, 5, 0⟩, 0, 1⟩, ⟨.pipe, 2, 3⟩, ⟨.pipe, 3, 4⟩, ⟨.eof, 4, 4⟩]

theorem rejection_of_axis_emptyCurve :
    ofText accented = .error (.unexpectedCharacter '\u00c3' 2) ∧
    (∃ offender, charAt? accented 2 = some offender ∧
      '\u00c3' = Char.ofNat (leadByte offender)) ∧
    ofText emptyCurve = .ok emptyCurveLexemes ∧
    AxisArg.ofLexemes emptyCurveLexemes = .error (.expected .number .pipe 4) ∧
    ∃ here after, here :: after <:+ emptyCurveLexemes ∧ IsTokenAt emptyCurve here.start .pipe ∧
      4 = Expectation.number.place here after := by
  have failed : ofText accented = .error (.unexpectedCharacter '\u00c3' 2) := by decide +kernel
  have made : ofText emptyCurve = .ok emptyCurveLexemes := by decide +kernel
  have rejected : AxisArg.ofLexemes emptyCurveLexemes = .error (.expected .number .pipe 4) := by
    decide +kernel
  obtain ⟨offender, there, first, _⟩ := (rejection_of_axis accented).1 _ _ failed
  obtain ⟨here, after, part, _, itself, place, _⟩ :=
    (rejection_of_axis emptyCurve).2 _ _ _ _ made rejected
  exact ⟨failed, ⟨offender, there, first⟩, made, rejected, here, after, part, itself, place⟩

/-- At the place that is reported of the second pipe the text ends, and of the character with an accent
another one is named. -/
theorem misplaced_emptyCurve :
    ofText emptyCurve = .ok emptyCurveLexemes ∧
    AxisArg.ofLexemes emptyCurveLexemes = .error (.expected .number .pipe 4) ∧
    ¬ IsTokenAt emptyCurve 4 .pipe ∧
    ofText accented = .error (.unexpectedCharacter '\u00c3' 2) ∧
    charAt? accented 2 = some '\u00e9' := by
  have made : ofText emptyCurve = .ok emptyCurveLexemes := by decide +kernel
  have last : (⟨.eof, 4, 4⟩ : Lexeme) ∈ emptyCurveLexemes := by decide
  have ends := isTokenAt_start_iff made last .pipe
  refine ⟨made, by decide +kernel, ?_, by decide +kernel, by decide +kernel⟩
  intro there
  cases ends.mp there

end Lexeme

end ScrollTimeline
