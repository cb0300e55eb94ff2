import ScrollTimeline.Directive.AxisArgument

/-!
An axis is read from its tokens alone.

Two texts with the same tokens have the same argument or none; the positions of the tokens are only for
errors to name.
-/
set_option autoImplicit false

namespace ScrollTimeline.Lexeme

/-- Both fail, or both answer and the answers are related. -/
inductive Corresponds {β : Type} (R : β → β → Prop) :
    Except Malformation β → Except Malformation β → Prop
  | error {problem problem' : Malformation} : Corresponds R (.error problem) (.error problem')
  | ok {b b' : β} : R b b' → Corresponds R (.ok b) (.ok b')

theorem Corresponds.bind {β γ : Type} {R : β → β → Prop} {S : γ → γ → Prop}
    {first first' : Except Malformation β} {next next' : β → Except Malformation γ}
    (one : Corresponds R first first')
    (others : ∀ b b', R b b' → Corresponds S (next b) (next' b')) :
    Corresponds S (first >>= next) (first' >>= next') := by
  cases one with
  | error => exact .error
  | ok related => exact others _ _ related

theorem Corresponds.map {β γ : Type} {R : β → β → Prop} {S : γ → γ → Prop}
    {first first' : Except Malformation β} {f f' : β → γ} (one : Corresponds R first first')
    (others : ∀ b b', R b b' → S (f b) (f' b')) : Corresponds S (first.map f) (first'.map f') := by
  cases one with
  | error => exact .error
  | ok related => exact .ok (others _ _ related)

def SameTokens (lexemes lexemes' : List Lexeme) : Prop :=
  lexemes.map Lexeme.token = lexemes'.map Lexeme.token

/-- The same answer, and the same tokens left. -/
def SameReading {β : Type} (one other : β × List Lexeme) : Prop :=
  one.1 = other.1 ∧ SameTokens one.2 other.2

def ReadsTokens {β : Type} (reader : List Lexeme → Except Malformation (β × List Lexeme)) : Prop :=
  ∀ lexemes lexemes', SameTokens lexemes lexemes' →
    Corresponds SameReading (reader lexemes) (reader lexemes')

variable {lexemes lexemes' : List Lexeme}

theorem ReadsTokens.bind {β γ : Type} {S : γ → γ → Prop}
    {reader : List Lexeme → Except Malformation (β × List Lexeme)} (reads : ReadsTokens reader)
    {next next' : β × List Lexeme → Except Malformation γ} (same : SameTokens lexemes lexemes')
    (others : ∀ b left left', SameTokens left left' →
      Corresponds S (next (b, left)) (next' (b, left'))) :
    Corresponds S (reader lexemes >>= next) (reader lexemes' >>= next') := by
  refine (reads _ _ same).bind ?_
  rintro ⟨b, left⟩ ⟨_, left'⟩ ⟨rfl, after⟩
  exact others b left left' after

namespace SameTokens

theorem length_eq (same : SameTokens lexemes lexemes') : lexemes.length = lexemes'.length := by
  simpa using congrArg List.length same

theorem head_eq (same : SameTokens lexemes lexemes') : head lexemes = head lexemes' := by
  cases lexemes with
  | nil =>
    rw [List.map_eq_nil_iff.mp same.symm]
  | cons lexeme rest =>
    cases lexemes' with
    | nil => cases same
    | cons lexeme' rest' => exact (List.cons.inj same).1

theorem advance (same : SameTokens lexemes lexemes') :
    SameTokens (advance lexemes) (advance lexemes') := by
  match lexemes, lexemes' with
  | [], [] => exact same
  | [], _ :: _ => cases same
  | _ :: _, [] => cases same
  | [_], [_] => exact same
  | [_], _ :: _ :: _ => cases (List.cons.inj same).2
  | _ :: _ :: _, [_] => cases (List.cons.inj same).2
  | _ :: _ :: _, _ :: _ :: _ => exact (List.cons.inj same).2

theorem expect (same : SameTokens lexemes lexemes') (token : Token) :
    Corresponds SameTokens (expect token lexemes) (expect token lexemes') := by
  rw [Lexeme.expect, Lexeme.expect, same.head_eq]
  split
  · exact .ok same.advance
  · exact .error

end SameTokens

theorem readsTokens_many {β : Type} {more : Token → Bool}
    {item : List Lexeme → Except Malformation (β × List Lexeme)} (reads : ReadsTokens item)
    (steps : Nat) : ReadsTokens (many more item steps) := by
  induction steps with
  | zero => exact fun lexemes lexemes' same => .ok ⟨rfl, same⟩
  | succ steps ih =>
    intro lexemes lexemes' same
    rw [many, many, same.head_eq]
    split
    · refine reads.bind same ?_
      intro b left left' same
      refine ReadsTokens.bind ih same ?_
      intro bs left left' same
      exact .ok ⟨rfl, same⟩
    · exact .ok ⟨rfl, same⟩

theorem readsTokens_numeral : ReadsTokens Numeral.take := by
  intro lexemes lexemes' same
  rw [Numeral.take, Numeral.take, same.head_eq]
  split
  · exact .ok ⟨rfl, same.advance⟩
  · exact .error

theorem readsTokens_elementId : ReadsTokens takeElementId := by
  intro lexemes lexemes' same
  rw [takeElementId, takeElementId, same.head_eq]
  split
  · exact .ok ⟨rfl, same.advance⟩
  · exact .error

theorem readsTokens_scalar : ReadsTokens Scalar.take := by
  intro lexemes lexemes' same
  rw [Scalar.take.eq_def, Scalar.take.eq_def, same.head_eq]
  split
  · exact .ok ⟨rfl, same.advance⟩
  · refine readsTokens_elementId.bind same.advance ?_
    intro target left left' same
    exact .ok ⟨rfl, same⟩
  · exact .error

theorem readsTokens_curveBody : ReadsTokens CurveArg.takeBody := by
  intro lexemes lexemes' same
  rw [CurveArg.takeBody, CurveArg.takeBody, same.head_eq]
  split
  · refine readsTokens_elementId.bind same.advance ?_
    intro target left left' same
    refine (same.expect .pipe).bind ?_
    intro left left' same
    exact .ok ⟨rfl, same⟩
  · refine readsTokens_numeral.bind same ?_
    intro x1 left left' same
    refine readsTokens_numeral.bind same ?_
    intro y1 left left' same
    refine readsTokens_numeral.bind same ?_
    intro x2 left left' same
    refine readsTokens_numeral.bind same ?_
    intro y2 left left' same
    refine (same.expect .pipe).bind ?_
    intro left left' same
    exact .ok ⟨rfl, same⟩

theorem readsTokens_optionalCurve : ReadsTokens CurveArg.takeOptional := by
  intro lexemes lexemes' same
  rw [CurveArg.takeOptional, CurveArg.takeOptional, same.head_eq]
  split
  · refine readsTokens_curveBody.bind same.advance ?_
    intro curve left left' same
    exact .ok ⟨rfl, same⟩
  · exact .ok ⟨rfl, same⟩

theorem readsTokens_time : ReadsTokens ClauseTime.take := by
  intro lexemes lexemes' same
  rw [ClauseTime.take.eq_def, ClauseTime.take.eq_def, same.head_eq]
  split
  · refine readsTokens_numeral.bind same.advance ?_
    intro n left left' same
    exact .ok ⟨rfl, same⟩
  · exact .ok ⟨rfl, same.advance⟩
  · split
    · exact .error
    · refine readsTokens_elementId.bind same.advance ?_
      intro target left left' same
      exact .ok ⟨rfl, same⟩
  · exact .error

/-- A signed end is taken by both or by none. -/
theorem SameTokens.takeSignedStop? (same : SameTokens lexemes lexemes') :
    (Clause.takeSignedStop? lexemes = none ∧ Clause.takeSignedStop? lexemes' = none) ∨
      ∃ stop left left', Clause.takeSignedStop? lexemes = some (stop, left) ∧
        Clause.takeSignedStop? lexemes' = some (stop, left') ∧ SameTokens left left' := by
  rw [Clause.takeSignedStop?, Clause.takeSignedStop?, same.head_eq, same.advance.head_eq]
  split
  · dsimp only
    split
    · exact .inr ⟨_, _, _, rfl, rfl, same.advance⟩
    · exact .inl ⟨rfl, rfl⟩
  · exact .inl ⟨rfl, rfl⟩

theorem readsTokens_span : ReadsTokens Clause.takeSpan := by
  intro lexemes lexemes' same
  rw [Clause.takeSpan, Clause.takeSpan, same.head_eq]
  split
  · refine readsTokens_scalar.bind same.advance ?_
    intro stop left left' same
    exact .ok ⟨rfl, same⟩
  refine readsTokens_scalar.bind same ?_
  intro first left left' same
  dsimp only at same ⊢
  rw [same.head_eq]
  split
  · refine readsTokens_scalar.bind same.advance ?_
    intro stop left left' same
    exact .ok ⟨rfl, same⟩
  rcases same.takeSignedStop? with ⟨none, none'⟩ | ⟨stop, rest, rest', signed, signed', after⟩
  · rw [none, none']
    cases first with
    | literal n =>
      dsimp only
      split
      · exact .ok ⟨rfl, same⟩
      · exact .error
    | like target => exact .error
  · rw [signed, signed']
    exact .ok ⟨rfl, after⟩

theorem readsTokens_clause : ReadsTokens Clause.take := by
  intro lexemes lexemes' same
  refine readsTokens_time.bind same ?_
  intro time left left' same
  refine (same.expect .colon).bind ?_
  intro left left' same
  refine readsTokens_span.bind same ?_
  rintro ⟨start, stop⟩ left left' same
  refine readsTokens_optionalCurve.bind same ?_
  intro curve left left' same
  exact .ok ⟨rfl, same⟩

theorem readsTokens_timeline (initial : Scalar) : ReadsTokens (AxisArg.takeTimeline initial) := by
  intro lexemes lexemes' same
  rw [AxisArg.takeTimeline, AxisArg.takeTimeline, same.length_eq]
  refine (readsTokens_many readsTokens_clause _).bind same ?_
  intro clauses left left' same
  dsimp only
  split
  · exact .error
  · exact .ok ⟨rfl, same⟩

theorem readsTokens_axis : ReadsTokens AxisArg.take := by
  intro lexemes lexemes' same
  rw [AxisArg.take, AxisArg.take, same.head_eq]
  split
  · refine readsTokens_scalar.bind same ?_
    intro first left left' same
    dsimp only at same ⊢
    rw [same.head_eq, same.length_eq]
    split
    · exact readsTokens_timeline first _ _ same.advance
    · refine (readsTokens_many readsTokens_scalar _).bind same ?_
      intro others left left' same
      refine readsTokens_optionalCurve.bind same ?_
      intro curve left left' same
      exact .ok ⟨rfl, same⟩
  · exact .error

theorem SameTokens.ofLexemes (same : SameTokens lexemes lexemes') :
    Corresponds Eq (AxisArg.ofLexemes lexemes) (AxisArg.ofLexemes lexemes') := by
  refine readsTokens_axis.bind same ?_
  intro arg left left' same
  refine (same.expect .eof).bind ?_
  intro left left' _
  exact .ok rfl

end ScrollTimeline.Lexeme
