import Mathlib.Data.List.Chain
import ScrollTimeline.Proofs.Axis.Lexing
import ScrollTimeline.Proofs.Axis.Steps
import ScrollTimeline.Proofs.Axis.Tokens
import ScrollTimeline.Proofs.Text.Spacing

/-!
White space in the text of an axis.

Tokens are cut from characters that are no white space, so a text has the tokens that it has with single
spaces. That takes white space that the lexer knows, and a vertical tab does not end an id.
-/
set_option autoImplicit false

namespace ScrollTimeline

namespace Lexeme

open Text Spelling

/-- White space that is a space between tokens and the end of an id. -/
structure IsPlain (text : List Char) : Prop where
  spaces : ∀ c ∈ text, isBlank c = true → isSpace c = true
  ends : text.IsChain fun c next => isBlank c = true ∨ next ≠ '\x0b'

theorem isPlain_iff {text : List Char} :
    IsPlain text ↔ (∀ c ∈ text, isBlank c = true → isSpace c = true) ∧
      text.IsChain fun c next => isBlank c = true ∨ next ≠ '\x0b' :=
  ⟨fun plain => ⟨plain.spaces, plain.ends⟩, fun ⟨spaces, ends⟩ => ⟨spaces, ends⟩⟩

instance (text : List Char) : Decidable (IsPlain text) :=
  letI : Decidable (∀ c ∈ text, isBlank c = true → isSpace c = true) := List.decidableBAll _ text
  decidable_of_iff _ isPlain_iff.symm

theorem IsPlain.suffix {text rest : List Char} (plain : IsPlain text) (part : rest <:+ text) :
    IsPlain rest where
  spaces c member := plain.spaces c (part.subset member)
  ends := plain.ends.suffix part

/-- Behind a word the first white space ends an id. -/
theorem IsPlain.endsId {c : Char} {rest : List Char} (plain : IsPlain (c :: rest))
    (solid : isBlank c = false) : ∀ d ∈ rest.find? isBlank, endsId d = true := by
  induction rest generalizing c with
  | nil => simp
  | cons next rest ih =>
    intro d found
    cases blank : isBlank next with
    | false =>
      rw [List.find?_cons_of_neg (by simp [blank])] at found
      exact ih (plain.suffix (List.suffix_cons c _)) blank d found
    | true =>
      rw [List.find?_cons_of_pos blank] at found
      cases found
      have space := plain.spaces next (by simp) blank
      have other : next ≠ '\x0b' := by
        simpa [solid] using (List.isChain_cons_cons.mp plain.ends).1
      simp only [isSpace, Bool.or_eq_true, decide_eq_true_eq, other, or_false, or_assoc] at space
      rcases space with rfl | rfl | rfl | rfl | rfl <;> rfl

theorem IsPlain.endsId_stops {c : Char} {rest : List Char} (plain : IsPlain (c :: rest))
    (solid : isBlank c = false) : ∀ d ∈ (c :: rest).find? isBlank, (!Lexeme.endsId d) = false := by
  rw [List.find?_cons_of_neg (by simp [solid])]
  intro d found
  simp [plain.endsId solid d found]

/-! ### One token -/

theorem isDigit_of_isBlank {c : Char} (blank : isBlank c = true) : c.isDigit = false := by
  cases digit : c.isDigit with
  | false => rfl
  | true =>
    rw [isBlank_of_isDigit digit] at blank
    cases blank

theorem continuesWord_of_isBlank {c : Char} (blank : isBlank c = true) :
    continuesWord c = false := by
  cases continues : continuesWord c with
  | false => rfl
  | true =>
    have range : 45 ≤ c.toNat ∧ c.toNat ≤ 122 := by
      change ((((c.isUpper || c.isLower) || c.isDigit) || c = '_') || c = '-') = true at continues
      simp only [Bool.or_eq_true, decide_eq_true_eq] at continues
      rcases continues with ((((upper | lower) | digit) | rfl) | rfl)
      · have span : 65 ≤ c.toNat ∧ c.toNat ≤ 90 := of_decide_eq_true upper
        omega
      · have span : 97 ≤ c.toNat ∧ c.toNat ≤ 122 :=
          (Bool.and_eq_true_iff.mp lower).imp of_decide_eq_true of_decide_eq_true
        omega
      · have span : 48 ≤ c.toNat ∧ c.toNat ≤ 57 :=
          (Bool.and_eq_true_iff.mp digit).imp of_decide_eq_true of_decide_eq_true
        omega
      · decide
      · decide
    simp only [isBlank, Bool.or_eq_true, Bool.and_eq_true, decide_eq_true_eq] at blank
    omega

theorem isDigit_stops {text : List Char} : ∀ c ∈ text.find? isBlank, c.isDigit = false :=
  fun _ found => isDigit_of_isBlank (List.find?_some found)

theorem continuesWord_stops {text : List Char} :
    ∀ c ∈ text.find? isBlank, continuesWord c = false :=
  fun _ found => continuesWord_of_isBlank (List.find?_some found)

theorem takeWhile_isDigit_squeeze (text : List Char) :
    (squeeze text).takeWhile Char.isDigit = text.takeWhile Char.isDigit :=
  takeWhile_squeeze (by decide) isDigit_stops

theorem dropWhile_isDigit_squeeze (text : List Char) :
    (squeeze text).dropWhile Char.isDigit = squeeze (text.dropWhile Char.isDigit) :=
  dropWhile_squeeze (by decide) isDigit_stops

theorem head?_any_isDigit_squeeze (text : List Char) :
    (squeeze text).head?.any Char.isDigit = text.head?.any Char.isDigit := by
  cases text with
  | nil => rfl
  | cons c rest =>
    cases blank : isBlank c with
    | true =>
      rw [squeeze_blank blank]
      exact (isDigit_of_isBlank blank).symm
    | false =>
      rw [squeeze_solid blank]
      rfl

theorem startsFraction_point (rest : List Char) :
    startsFraction ('.' :: rest) = rest.head?.any Char.isDigit := by
  cases rest <;> rfl

theorem startsFraction_cons_of_ne {c : Char} (other : c ≠ '.') (rest : List Char) :
    startsFraction (c :: rest) = false := by
  rw [startsFraction.eq_def]
  split
  · rename_i shape
    exact absurd (List.cons.inj shape).1 other
  · rfl

theorem exists_of_startsFraction {text : List Char} (starts : startsFraction text = true) :
    ∃ rest, text = '.' :: rest := by
  cases text with
  | nil => cases starts
  | cons c rest =>
    by_cases point : c = '.'
    · exact ⟨rest, by rw [point]⟩
    · rw [startsFraction_cons_of_ne point] at starts
      cases starts

theorem startsFraction_squeeze (text : List Char) :
    startsFraction (squeeze text) = startsFraction text := by
  cases text with
  | nil => rfl
  | cons c rest =>
    cases blank : isBlank c with
    | true =>
      have other : c ≠ '.' := by
        rintro rfl
        cases blank
      rw [squeeze_blank blank, startsFraction_cons_of_ne other, startsFraction_cons_of_ne (by decide)]
    | false =>
      rw [squeeze_solid blank]
      by_cases point : c = '.'
      · rw [point, startsFraction_point, startsFraction_point, head?_any_isDigit_squeeze]
      · rw [startsFraction_cons_of_ne point, startsFraction_cons_of_ne point]

theorem startsNumber_squeeze (text : List Char) :
    startsNumber (squeeze text) = startsNumber text := by
  rw [startsNumber, startsNumber, head?_any_isDigit_squeeze, startsFraction_squeeze]

theorem splitNumber_squeeze (text : List Char) :
    splitNumber (squeeze text) =
      ((splitNumber text).1, (splitNumber text).2.1, squeeze (splitNumber text).2.2) := by
  rw [splitNumber, splitNumber, takeWhile_isDigit_squeeze, dropWhile_isDigit_squeeze,
    startsFraction_squeeze]
  split
  · rename_i starts
    obtain ⟨rest, shape⟩ := exists_of_startsFraction starts
    rw [shape, squeeze_solid (by decide)]
    simp only [List.drop_succ_cons, List.drop_zero, takeWhile_isDigit_squeeze,
      dropWhile_isDigit_squeeze]
  · rfl

theorem takeNumber_squeeze (negative : Bool) (text : List Char) (position position' : Nat) :
    Corresponds Eq (takeNumber negative (squeeze text) position)
      (takeNumber negative text position') := by
  simp only [takeNumber, splitNumber_squeeze, startsFraction_squeeze]
  split
  · exact .error
  · exact .ok rfl

theorem takeToken_squeeze {c : Char} (solid : isBlank c = false) (glued : Bool) (rest : List Char)
    (position position' : Nat) :
    Corresponds Eq (takeToken glued c (squeeze rest) position)
      (takeToken glued c rest position') := by
  have word : (squeeze rest).takeWhile continuesWord = rest.takeWhile continuesWord :=
    takeWhile_squeeze (by decide) continuesWord_stops
  rw [takeToken, takeToken, ← squeeze_solid solid, startsNumber_squeeze, startsNumber_squeeze, word]
  split
  · exact takeNumber_squeeze true rest position position'
  split
  · exact takeNumber_squeeze false (c :: rest) position position'
  split
  · exact .ok rfl
  split
  · exact .ok rfl
  · exact .error

theorem takeNext_squeeze {c : Char} {rest : List Char} (plain : IsPlain (c :: rest))
    (solid : isBlank c = false) (glued idNext : Bool) (position position' : Nat) :
    Corresponds Eq (takeNext glued idNext c (squeeze rest) position)
      (takeNext glued idNext c rest position') := by
  rw [takeNext, takeNext]
  split
  · have id : (c :: squeeze rest).takeWhile (fun c => !endsId c) =
        (c :: rest).takeWhile fun c => !endsId c := by
      rw [← squeeze_solid solid]
      exact takeWhile_squeeze (by decide) (plain.endsId_stops solid)
    rw [takeId, takeId, id]
    exact .ok rfl
  · exact takeToken_squeeze solid glued rest position position'

/-! ### What a token is read from -/

theorem splitNumber_append (text : List Char) :
    (splitNumber text).1 ++
      (if (splitNumber text).2.1 = [] then [] else '.' :: (splitNumber text).2.1) ++
        (splitNumber text).2.2 = text := by
  rw [splitNumber]
  split
  · rename_i starts
    obtain ⟨rest, shape⟩ := exists_of_startsFraction starts
    rw [shape, startsFraction_point] at starts
    have fraction : rest.takeWhile Char.isDigit ≠ [] := by
      cases rest with
      | nil => cases starts
      | cons d more =>
        have digit : d.isDigit = true := starts
        rw [List.takeWhile_cons_of_pos digit]
        exact List.cons_ne_nil d _
    simp only [shape, List.drop_succ_cons, List.drop_zero, if_neg fraction, List.append_assoc,
      List.cons_append, List.takeWhile_append_dropWhile]
    rw [← shape, List.takeWhile_append_dropWhile]
  · simp only [if_true, List.append_nil, List.takeWhile_append_dropWhile]

/-- The characters of a token, none of them white space, at the front of its text. -/
structure IsFront (taken text : List Char) : Prop where
  front : taken <+: text
  solid : ∀ c ∈ taken, isBlank c = false

theorem isFront_of_takeNumber {negative : Bool} {text taken : List Char} {position : Nat}
    {token : Token} (made : takeNumber negative text position = .ok (token, taken)) :
    IsFront taken ((if negative then ['-'] else []) ++ text) := by
  obtain ⟨_, digits⟩ := digits_splitNumber text
  simp only [takeNumber] at made
  split at made
  · cases made
  · cases made
    constructor
    · rw [List.append_assoc, List.prefix_append_right_inj]
      exact ⟨_, splitNumber_append text⟩
    · intro c member
      simp only [List.mem_append] at member
      have digit : ∀ d, d ∈ (splitNumber text).1 ∨ d ∈ (splitNumber text).2.1 →
          isBlank d = false := fun d there =>
        isBlank_of_isDigit (digits d (List.mem_append.mpr there))
      rcases member with (sign | whole) | fraction
      · split at sign
        · rw [List.mem_singleton.mp sign]
          decide
        · cases sign
      · exact digit c (.inl whole)
      · split at fraction
        · cases fraction
        · rcases List.mem_cons.mp fraction with rfl | fraction
          · decide
          · exact digit c (.inr fraction)

theorem isFront_of_takeToken {glued : Bool} {c : Char} (solid : isBlank c = false)
    {rest taken : List Char} {position : Nat} {token : Token}
    (made : takeToken glued c rest position = .ok (token, taken)) : IsFront taken (c :: rest) := by
  rw [takeToken] at made
  split at made
  · rename_i dash
    have sign : c = '-' := by
      simp only [Bool.and_eq_true, decide_eq_true_eq] at dash
      exact dash.1.1
    rw [sign]
    exact isFront_of_takeNumber made
  split at made
  · exact isFront_of_takeNumber made
  split at made
  · cases made
    constructor
    · exact List.cons_prefix_cons.mpr ⟨rfl, List.takeWhile_prefix _⟩
    · exact List.forall_mem_cons.mpr ⟨solid, not_isBlank_of_mem_takeWhile continuesWord_stops⟩
  split at made
  · cases made
    exact ⟨List.cons_prefix_cons.mpr ⟨rfl, List.nil_prefix⟩, by simpa using solid⟩
  · cases made

theorem isFront_of_takeNext {c : Char} {rest : List Char} (plain : IsPlain (c :: rest))
    (solid : isBlank c = false) {glued idNext : Bool} {taken : List Char} {position : Nat}
    {token : Token} (made : takeNext glued idNext c rest position = .ok (token, taken)) :
    IsFront taken (c :: rest) := by
  rw [takeNext] at made
  split at made
  · cases made
    refine ⟨List.takeWhile_prefix _, not_isBlank_of_mem_takeWhile ?_⟩
    exact plain.endsId_stops solid
  · exact isFront_of_takeToken solid made

theorem IsFront.drop_squeeze {c : Char} (solid : isBlank c = false) {rest taken : List Char}
    (isFront : IsFront taken (c :: rest)) :
    (squeeze rest).drop (taken.length - 1) = squeeze (rest.drop (taken.length - 1)) := by
  obtain ⟨⟨left, shape⟩, clean⟩ := isFront
  cases taken with
  | nil => rfl
  | cons first more =>
    rw [List.cons_append] at shape
    obtain ⟨rfl, rfl⟩ := List.cons.inj shape
    rw [squeeze_solid_append fun d there => clean d (List.mem_cons_of_mem first there)]
    simp

/-! ### The whole text -/

theorem ofTextFrom_glued_space {position : Nat} {glued idNext : Bool} (rest : List Char) :
    ofTextFrom position glued idNext (' ' :: rest) =
      ofTextFrom position false idNext (' ' :: rest) := by
  rw [ofTextFrom_space rest (by decide), ofTextFrom_space rest (by decide)]

/-- The tokens are those of the text with single spaces. -/
theorem sameTokens_squeeze {text : List Char} (plain : IsPlain text)
    (position position' : Nat) (glued idNext : Bool) :
    Corresponds SameTokens (ofTextFrom position glued idNext (squeeze text))
      (ofTextFrom position' glued idNext text) := by
  -- A step leaves less of the text, whatever its state.
  induction size : text.length using Nat.strong_induction_on
    generalizing position position' glued idNext text with
  | _ length ih =>
    cases text with
    | nil =>
      rw [squeeze, ofTextFrom, ofTextFrom]
      exact .ok rfl
    | cons c rest =>
      rw [List.length_cons] at size
      have behind : IsPlain rest := plain.suffix (List.suffix_cons c rest)
      cases blank : isBlank c with
      | true =>
        have space := plain.spaces c List.mem_cons_self blank
        rw [ofTextFrom_space rest space]
        cases again : rest.head?.any isBlank with
        | true =>
          obtain ⟨more, squeezed⟩ : ∃ more, squeeze rest = ' ' :: more := by
            cases rest with
            | nil => cases again
            | cons d more => exact ⟨_, squeeze_blank again more⟩
          rw [squeeze_again blank again, squeezed, ofTextFrom_glued_space, ← squeezed]
          exact ih rest.length (by omega) behind _ _ _ _ rfl
        | false =>
          rw [squeeze_last blank again, ofTextFrom_space _ (by decide)]
          exact ih rest.length (by omega) behind _ _ _ _ rfl
      | false =>
        have visible : ¬ isSpace c = true := by simp [isSpace_of_not_isBlank blank]
        rw [squeeze_solid blank]
        have next := takeNext_squeeze plain blank glued idNext position position'
        revert next
        generalize one : takeNext glued idNext c (squeeze rest) position = first
        generalize other : takeNext glued idNext c rest position' = first'
        intro next
        cases next with
        | error =>
          rw [ofTextFrom_error visible one, ofTextFrom_error visible other]
          exact .error
        | @ok answer answer' same =>
          obtain ⟨token, taken⟩ := answer
          subst same
          rw [ofTextFrom_token visible one, ofTextFrom_token visible other,
            (isFront_of_takeNext plain blank other).drop_squeeze blank]
          have later : IsPlain (rest.drop (taken.length - 1)) := behind.suffix (List.drop_suffix _ _)
          have shorter : (rest.drop (taken.length - 1)).length < length := by
            rw [List.length_drop]
            omega
          refine (ih _ shorter later _ _ _ _ rfl).map ?_
          intro lexemes lexemes' same
          exact congrArg (token :: ·) same

end Lexeme

/-- An axis is read as it is with single spaces. -/
theorem AxisArg.ofText_squeeze {text : List Char} (plain : Lexeme.IsPlain text) :
    Lexeme.Corresponds Eq (ofText (Text.squeeze text)) (ofText text) := by
  refine (Lexeme.sameTokens_squeeze plain 0 0 false false).bind ?_
  intro lexemes lexemes' same
  exact same.ofLexemes

end ScrollTimeline
