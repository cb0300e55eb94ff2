import Mathlib.Data.List.Infix
import ScrollTimeline.Proofs.Axis.Steps
import ScrollTimeline.Proofs.Number.Bounded
import ScrollTimeline.Proofs.Script.Soundness

/-!
Where the numbers of an axis come from.

Every number in the argument of an axis is written in its text, digit by digit, up to its sign: a dash that
separates two positions may have been read as one. Readers pass on any property of the numbers in front of
them that does not depend on the sign.
-/
set_option autoImplicit false

namespace ScrollTimeline

/-! ### Numbers of an argument -/

def Scalar.numerals : Scalar → List Numeral
  | literal n => [n]
  | like _ => []

def Controls.numerals (controls : Controls) : List Numeral :=
  [controls.x1, controls.y1, controls.x2, controls.y2]

def CurveArg.numerals : CurveArg → List Numeral
  | given controls => controls.numerals
  | like _ => []

def ClauseTime.numerals : ClauseTime → List Numeral
  | literal n => [n]
  | after n => [n]
  | reference _ _ => []

def Clause.numerals (clause : Clause) : List Numeral :=
  clause.time.numerals ++ clause.start.elim [] Scalar.numerals ++ clause.stop.numerals ++
    clause.curve.elim [] CurveArg.numerals

def AxisArg.numerals : AxisArg → List Numeral
  | waypoints values curve => values.flatMap Scalar.numerals ++ curve.elim [] CurveArg.numerals
  | timeline initial clauses => initial.numerals ++ clauses.flatMap Clause.numerals

/-! ### From text to tokens -/

/-- The digits of the number stand in the text, those before its point next to each other. -/
def Numeral.IsWritten (text : List Char) (n : Numeral) : Prop :=
  ∃ negative whole fraction, n = .ofParts negative whole fraction ∧
    (∀ c ∈ whole ++ fraction, c.isDigit = true) ∧ whole <:+: text

/-- The number is written in the text, with more than 308 digits in front of its point. -/
def Numeral.IsOverlong (text : List Char) (n : Numeral) : Prop :=
  ∃ negative whole fraction, n = .ofParts negative whole fraction ∧
    (∀ c ∈ whole ++ fraction, c.isDigit = true) ∧ whole <:+: text ∧ 308 < whole.length

theorem Numeral.IsOverlong.mono {text longer : List Char} {n : Numeral} (overlong : n.IsOverlong text)
    (part : text <:+: longer) : n.IsOverlong longer := by
  obtain ⟨negative, whole, fraction, same, digits, inside, long⟩ := overlong
  exact ⟨negative, whole, fraction, same, digits, inside.trans part, long⟩

namespace Numeral.IsWritten

theorem negate {text : List Char} {n : Numeral} (written : n.IsWritten text) :
    n.negate.IsWritten text := by
  obtain ⟨negative, whole, fraction, rfl, digits, inside⟩ := written
  exact ⟨!negative, whole, fraction, rfl, digits, inside⟩

theorem mono {text longer : List Char} {n : Numeral} (written : n.IsWritten text)
    (part : text <:+: longer) : n.IsWritten longer := by
  obtain ⟨negative, whole, fraction, same, digits, inside⟩ := written
  exact ⟨negative, whole, fraction, same, digits, inside.trans part⟩

theorem isBounded_or_isOverlong {text : List Char} {n : Numeral} (written : n.IsWritten text) :
    n.isBounded = true ∨ n.IsOverlong text := by
  obtain ⟨negative, whole, fraction, rfl, digits, inside⟩ := written
  rcases le_or_gt whole.length 308 with short | long
  · exact .inl (isBounded_ofParts negative digits short)
  · exact .inr ⟨negative, whole, fraction, rfl, digits, inside, long⟩

end Numeral.IsWritten

namespace Lexeme

theorem isWritten_of_takeNumber {negative : Bool} {text taken : List Char} {position : Nat}
    {n : Numeral} (made : takeNumber negative text position = .ok (.number n, taken)) :
    n.IsWritten text := by
  obtain ⟨inside, digits⟩ := digits_splitNumber text
  simp only [takeNumber] at made
  split at made
  · cases made
  · cases made
    exact ⟨negative, _, _, rfl, digits, inside.isInfix⟩

theorem isWritten_of_takeToken {glued : Bool} {c : Char} {rest taken : List Char} {position : Nat}
    {n : Numeral} (made : takeToken glued c rest position = .ok (.number n, taken)) :
    n.IsWritten (c :: rest) := by
  rw [takeToken] at made
  split at made
  · exact (isWritten_of_takeNumber made).mono (List.suffix_cons c rest).isInfix
  split at made
  · exact isWritten_of_takeNumber made
  split at made
  · cases made
  split at made
  · rename_i token mark
    cases made
    revert mark
    rw [mark?.eq_def]
    split <;> simp
  · cases made

/-- The numbers among some tokens have a property. -/
def AllNumerals (P : Numeral → Prop) (lexemes : List Lexeme) : Prop :=
  ∀ lexeme ∈ lexemes, ∀ n, lexeme.token = .number n → P n

theorem AllNumerals.imp {P Q : Numeral → Prop} {lexemes : List Lexeme}
    (all : AllNumerals P lexemes) (weaker : ∀ n, P n → Q n) : AllNumerals Q lexemes :=
  fun lexeme member n number => weaker n (all lexeme member n number)

theorem Run.isWritten {position : Nat} {glued idNext : Bool} {text : List Char}
    {result : Except Malformation (List Lexeme)} (run : Run position glued idNext text result)
    {lexemes : List Lexeme} (made : result = .ok lexemes) :
    AllNumerals (Numeral.IsWritten text) lexemes := by
  induction run generalizing lexemes with
  | done =>
    cases made
    intro lexeme member n number
    rw [List.mem_singleton.mp member] at number
    cases number
  | @space _ _ _ c rest _ _ _ ih =>
    exact (ih made).imp fun n written => written.mono (List.suffix_cons c rest).isInfix
  | stuck => cases made
  | @token _ _ _ c rest taken token result _ next _ ih =>
    obtain ⟨later, read, rfl⟩ := exists_of_map_eq_ok made
    have others := ih read
    intro lexeme member n number
    rcases List.mem_cons.mp member with rfl | behind
    · obtain rfl : token = .number n := number
      rw [takeNext] at next
      split at next
      · cases next
      · exact isWritten_of_takeToken next
    · refine (others lexeme behind n number).mono ?_
      exact ((List.drop_suffix _ _).trans (List.suffix_cons c rest)).isInfix

/-! ### From tokens to an argument -/

variable {P : Numeral → Prop}

/-- What the reader answers holds only numbers with the property, if those in front of it have it, and so
does what it leaves. -/
def Passes {β : Type} (P : Numeral → Prop) (numerals : β → List Numeral)
    (reader : List Lexeme → Except Malformation (β × List Lexeme)) : Prop :=
  ∀ lexemes b rest, AllNumerals P lexemes → reader lexemes = .ok (b, rest) →
    (∀ n ∈ numerals b, P n) ∧ AllNumerals P rest

theorem AllNumerals.advance {lexemes : List Lexeme} (all : AllNumerals P lexemes) :
    AllNumerals P (Lexeme.advance lexemes) := by
  match lexemes with
  | [] => exact all
  | [_] => exact all
  | _ :: next :: rest => exact fun lexeme member => all lexeme (List.mem_cons_of_mem _ member)

theorem AllNumerals.head {lexemes : List Lexeme} (all : AllNumerals P lexemes) {n : Numeral}
    (first : Lexeme.head lexemes = .number n) : P n := by
  cases lexemes with
  | nil => cases first
  | cons lexeme rest => exact all lexeme List.mem_cons_self n first

theorem AllNumerals.of_expect {token : Token} {lexemes rest : List Lexeme}
    (all : AllNumerals P lexemes) (made : expect token lexemes = .ok rest) : AllNumerals P rest := by
  rw [expect] at made
  split at made
  · cases made
    exact all.advance
  · cases made

theorem passes_many {β : Type} {numerals : β → List Numeral} {more : Token → Bool}
    {item : List Lexeme → Except Malformation (β × List Lexeme)} (passes : Passes P numerals item)
    (steps : Nat) : Passes P (List.flatMap numerals) (many more item steps) := by
  induction steps with
  | zero =>
    intro lexemes bs rest all made
    cases made
    exact ⟨by simp, all⟩
  | succ steps ih =>
    intro lexemes bs rest all made
    rw [many] at made
    split at made
    · obtain ⟨⟨b, left⟩, first, made⟩ := exists_of_bind made
      obtain ⟨⟨others, left'⟩, later, made⟩ := exists_of_bind made
      cases made
      obtain ⟨one, all⟩ := passes _ _ _ all first
      obtain ⟨more, all⟩ := ih _ _ _ all later
      refine ⟨?_, all⟩
      intro n member
      rw [List.flatMap_cons] at member
      exact (List.mem_append.mp member).elim (one n) (more n)
    · cases made
      exact ⟨by simp, all⟩

theorem passes_numeral : Passes P (fun n => [n]) Numeral.take := by
  intro lexemes n rest all made
  rw [Numeral.take] at made
  split at made
  · rename_i m first
    cases made
    exact ⟨fun k member => List.mem_singleton.mp member ▸ all.head first, all.advance⟩
  · cases made

theorem AllNumerals.of_takeElementId {lexemes rest : List Lexeme} {id : String}
    (all : AllNumerals P lexemes) (made : takeElementId lexemes = .ok (id, rest)) :
    AllNumerals P rest := by
  rw [takeElementId] at made
  split at made
  · cases made
    exact all.advance
  · cases made

theorem passes_scalar : Passes P Scalar.numerals Scalar.take := by
  intro lexemes scalar rest all made
  rw [Scalar.take] at made
  split at made
  · rename_i n first
    cases made
    exact ⟨fun k member => List.mem_singleton.mp member ▸ all.head first, all.advance⟩
  · obtain ⟨⟨target, left⟩, named, made⟩ := exists_of_bind made
    cases made
    exact ⟨by simp [Scalar.numerals], all.advance.of_takeElementId named⟩
  · cases made

theorem passes_curveBody : Passes P CurveArg.numerals CurveArg.takeBody := by
  intro lexemes curve rest all made
  rw [CurveArg.takeBody] at made
  split at made
  · obtain ⟨⟨target, left⟩, named, made⟩ := exists_of_bind made
    obtain ⟨left', closed, made⟩ := exists_of_bind made
    cases made
    exact ⟨by simp [CurveArg.numerals], (all.advance.of_takeElementId named).of_expect closed⟩
  · obtain ⟨⟨x1, left⟩, first, made⟩ := exists_of_bind made
    obtain ⟨⟨y1, left⟩, second, made⟩ := exists_of_bind made
    obtain ⟨⟨x2, left⟩, third, made⟩ := exists_of_bind made
    obtain ⟨⟨y2, left⟩, fourth, made⟩ := exists_of_bind made
    obtain ⟨left, closed, made⟩ := exists_of_bind made
    cases made
    obtain ⟨hasX1, all⟩ := passes_numeral _ _ _ all first
    obtain ⟨hasY1, all⟩ := passes_numeral _ _ _ all second
    obtain ⟨hasX2, all⟩ := passes_numeral _ _ _ all third
    obtain ⟨hasY2, all⟩ := passes_numeral _ _ _ all fourth
    refine ⟨?_, all.of_expect closed⟩
    intro n member
    simp only [CurveArg.numerals, Controls.numerals, List.mem_cons, List.not_mem_nil,
      or_false] at member
    rcases member with rfl | rfl | rfl | rfl
    · exact hasX1 _ (List.mem_singleton_self _)
    · exact hasY1 _ (List.mem_singleton_self _)
    · exact hasX2 _ (List.mem_singleton_self _)
    · exact hasY2 _ (List.mem_singleton_self _)

theorem passes_optionalCurve :
    Passes P (fun curve => curve.elim [] CurveArg.numerals) CurveArg.takeOptional := by
  intro lexemes curve rest all made
  rw [CurveArg.takeOptional] at made
  split at made
  · obtain ⟨⟨given, left⟩, read, made⟩ := exists_of_bind made
    cases made
    exact passes_curveBody _ _ _ all.advance read
  · cases made
    exact ⟨by simp, all⟩

theorem passes_time : Passes P ClauseTime.numerals ClauseTime.take := by
  intro lexemes time rest all made
  rw [ClauseTime.take.eq_def] at made
  split at made
  · obtain ⟨⟨n, left⟩, read, made⟩ := exists_of_bind made
    cases made
    exact passes_numeral _ _ _ all.advance read
  · rename_i n first
    cases made
    exact ⟨fun k member => List.mem_singleton.mp member ▸ all.head first, all.advance⟩
  · split at made
    · cases made
    · obtain ⟨⟨target, left⟩, named, made⟩ := exists_of_bind made
      cases made
      exact ⟨by simp [ClauseTime.numerals], all.advance.of_takeElementId named⟩
  · cases made

/-- The property does not depend on the sign. -/
def Unsigned (P : Numeral → Prop) : Prop := ∀ n, P n → P n.negate

theorem passes_signedStop {lexemes rest : List Lexeme} {stop : Scalar} (unsigned : Unsigned P)
    (all : AllNumerals P lexemes) (made : Clause.takeSignedStop? lexemes = some (stop, rest)) :
    (∀ n ∈ stop.numerals, P n) ∧ AllNumerals P rest := by
  rw [Clause.takeSignedStop?] at made
  split at made
  · rename_i n first
    dsimp only at made
    split at made
    · cases made
      refine ⟨?_, all.advance⟩
      intro k member
      rw [List.mem_singleton.mp member]
      exact unsigned n (all.head first)
    · cases made
  · cases made

theorem passes_span (unsigned : Unsigned P) :
    Passes P (fun span : Option Scalar × Scalar =>
      span.1.elim [] Scalar.numerals ++ span.2.numerals) Clause.takeSpan := by
  intro lexemes span rest all made
  rw [Clause.takeSpan] at made
  split at made
  · obtain ⟨⟨stop, left⟩, read, made⟩ := exists_of_bind made
    cases made
    exact passes_scalar _ _ _ all.advance read
  obtain ⟨⟨first, left⟩, readFirst, made⟩ := exists_of_bind made
  obtain ⟨hasFirst, all⟩ := passes_scalar _ _ _ all readFirst
  dsimp only at made
  split at made
  · obtain ⟨⟨stop, left⟩, read, made⟩ := exists_of_bind made
    cases made
    obtain ⟨hasStop, all⟩ := passes_scalar _ _ _ all.advance read
    exact ⟨fun n member => (List.mem_append.mp member).elim (hasFirst n) (hasStop n), all⟩
  split at made
  · rename_i stop left' signed
    cases made
    obtain ⟨hasStop, all⟩ := passes_signedStop unsigned all signed
    exact ⟨fun n member => (List.mem_append.mp member).elim (hasFirst n) (hasStop n), all⟩
  split at made
  · split at made
    · cases made
      refine ⟨?_, all⟩
      intro k member
      rw [List.mem_singleton.mp member]
      exact unsigned _ (hasFirst _ (List.mem_singleton_self _))
    · cases made
  · cases made

theorem passes_clause (unsigned : Unsigned P) : Passes P Clause.numerals Clause.take := by
  intro lexemes clause rest all made
  obtain ⟨⟨time, left⟩, readTime, made⟩ := exists_of_bind made
  obtain ⟨left, colon, made⟩ := exists_of_bind made
  obtain ⟨⟨⟨start, stop⟩, left⟩, readSpan, made⟩ := exists_of_bind made
  obtain ⟨⟨curve, left⟩, readCurve, made⟩ := exists_of_bind made
  cases made
  obtain ⟨hasTime, all⟩ := passes_time _ _ _ all readTime
  obtain ⟨hasSpan, all⟩ := passes_span unsigned _ _ _ (all.of_expect colon) readSpan
  obtain ⟨hasCurve, all⟩ := passes_optionalCurve _ _ _ all readCurve
  refine ⟨?_, all⟩
  intro n member
  simp only [Clause.numerals, List.append_assoc, List.mem_append] at member hasSpan
  rcases member with inTime | inStart | inStop | inCurve
  · exact hasTime n inTime
  · exact hasSpan n (.inl inStart)
  · exact hasSpan n (.inr inStop)
  · exact hasCurve n inCurve

theorem passes_axis (unsigned : Unsigned P) : Passes P AxisArg.numerals AxisArg.take := by
  intro lexemes arg rest all made
  rw [AxisArg.take] at made
  split at made
  · obtain ⟨⟨first, left⟩, readFirst, made⟩ := exists_of_bind made
    obtain ⟨hasFirst, all⟩ := passes_scalar _ _ _ all readFirst
    dsimp only at made
    split at made
    · obtain ⟨⟨clauses, left⟩, readClauses, made⟩ := exists_of_bind made
      obtain ⟨hasClauses, all⟩ := passes_many (passes_clause unsigned) _ _ _ _ all.advance readClauses
      dsimp only at made
      split at made
      · cases made
      · cases made
        exact ⟨fun n member => (List.mem_append.mp member).elim (hasFirst n) (hasClauses n), all⟩
    · obtain ⟨⟨others, left⟩, readOthers, made⟩ := exists_of_bind made
      obtain ⟨⟨curve, left⟩, readCurve, made⟩ := exists_of_bind made
      cases made
      obtain ⟨hasOthers, all⟩ := passes_many passes_scalar _ _ _ _ all readOthers
      obtain ⟨hasCurve, all⟩ := passes_optionalCurve _ _ _ all readCurve
      refine ⟨?_, all⟩
      intro n member
      simp only [AxisArg.numerals, List.flatMap_cons, List.append_assoc, List.mem_append] at member
      rcases member with inFirst | inOthers | inCurve
      · exact hasFirst n inFirst
      · exact hasOthers n inOthers
      · exact hasCurve n inCurve
  · cases made

end Lexeme

/-- The numbers of the argument of an axis are written in its text. -/
theorem AxisArg.isWritten_of_ofText {text : List Char} {arg : AxisArg}
    (made : ofText text = .ok arg) : ∀ n ∈ arg.numerals, n.IsWritten text := by
  obtain ⟨lexemes, lexed, made⟩ := exists_of_bind made
  obtain ⟨⟨arg, left⟩, taken, made⟩ := exists_of_bind made
  obtain ⟨_, _, same⟩ := exists_of_bind made
  cases same
  have unsigned : Lexeme.Unsigned (Numeral.IsWritten text) := fun n written => written.negate
  have written := (Lexeme.run_ofTextFrom 0 false false text).isWritten lexed
  exact (Lexeme.passes_axis unsigned _ _ _ written taken).1

end ScrollTimeline
