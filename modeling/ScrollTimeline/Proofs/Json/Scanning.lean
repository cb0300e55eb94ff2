import Mathlib
import ScrollTimeline.Json.Reader

/-!
Single tokens of a JSON text, in front of what may follow a value.
-/
set_option autoImplicit false

namespace ScrollTimeline.Json

/-! ### White space -/

def IsBlank (text : List Char) : Prop := ∀ c ∈ text, isBlank c = true

theorem isBlank_nil : IsBlank [] := fun _ absent => by cases absent

theorem skipBlanks_append {blanks : List Char} (blank : IsBlank blanks) (rest : List Char) :
    skipBlanks (blanks ++ rest) = skipBlanks rest :=
  List.dropWhile_append_of_pos blank

theorem skipBlanks_cons {c : Char} (solid : isBlank c = false) (rest : List Char) :
    skipBlanks (c :: rest) = c :: rest :=
  List.dropWhile_cons_of_neg (by simp [solid])

/-! ### Numbers -/

/-- A text that may follow a value. -/
def Closes (rest : List Char) : Prop :=
  ∀ c ∈ rest.head?, isBlank c = true ∨ c = ',' ∨ c = ']' ∨ c = '\x7d'

theorem closes_nil : Closes [] := fun _ absent => by cases absent

theorem Closes.cons_iff {c : Char} {rest : List Char} :
    Closes (c :: rest) ↔ isBlank c = true ∨ c = ',' ∨ c = ']' ∨ c = '\x7d' := by
  simp [Closes]

theorem Closes.not_digit {c : Char} {rest : List Char} (closes : Closes (c :: rest)) :
    c.isDigit = false ∧ c ≠ '.' ∧ c ≠ 'e' ∧ c ≠ 'E' := by
  rw [cons_iff] at closes
  simp only [isBlank, Bool.or_eq_true, decide_eq_true_eq] at closes
  rcases closes with (((rfl | rfl) | rfl) | rfl) | rfl | rfl | rfl <;> decide

theorem Closes.headD {rest : List Char} (closes : Closes rest) : (rest.headD ' ').isDigit = false := by
  cases rest with
  | nil => rfl
  | cons c rest => exact closes.not_digit.1

/-- A reader that takes the front of a text, and takes as much when something follows. -/
structure IsScanner (read : List Char → Option (List Char × List Char)) : Prop where
  exact : ∀ {text taken left}, read text = some (taken, left) → text = taken ++ left
  steady : ∀ {text taken left rest}, read text = some (taken, left) → Closes rest →
    read (text ++ rest) = some (taken, left ++ rest)

theorem takeWhile_isDigit_append (text : List Char) {rest : List Char} (closes : Closes rest) :
    (text ++ rest).takeWhile Char.isDigit = text.takeWhile Char.isDigit ∧
      (text ++ rest).dropWhile Char.isDigit = text.dropWhile Char.isDigit ++ rest := by
  induction text with
  | nil =>
    cases rest with
    | nil => exact ⟨rfl, rfl⟩
    | cons c rest =>
      have other := closes.not_digit.1
      simp [other]
  | cons c text ih =>
    by_cases digit : c.isDigit = true
    · simp [digit, ih]
    · simp [digit]

theorem isScanner_takeDigits : IsScanner takeDigits where
  exact {text taken left} read := by
    rw [takeDigits] at read
    split at read
    · cases read
    · cases read
      exact List.takeWhile_append_dropWhile.symm
  steady {text taken left rest} read closes := by
    obtain ⟨digits, others⟩ := takeWhile_isDigit_append text closes
    rw [takeDigits] at read ⊢
    rw [digits, others]
    split at read
    · cases read
    · rename_i some
      cases read
      exact if_neg some

theorem isScanner_takeWhole : IsScanner takeWhole where
  exact {text taken left} read := by
    unfold takeWhole at read
    split at read
    · split at read
      · cases read
      · cases read
        rfl
    · exact isScanner_takeDigits.exact read
  steady {text taken left rest} read closes := by
    unfold takeWhole at read
    split at read
    · rename_i others
      split at read
      · cases read
      · rename_i alone
        cases read
        have still : ¬ ((left ++ rest).headD ' ').isDigit = true := by
          cases left with
          | nil => exact ne_true_of_eq_false closes.headD
          | cons c left => exact alone
        exact if_neg still
    · rename_i others
      have digits := isScanner_takeDigits.steady read closes
      unfold takeWhole
      split
      · rename_i tail same
        cases text with
        | nil => cases read
        | cons c text =>
          cases same
          exact absurd rfl (others text)
      · exact digits

theorem isScanner_takePoint : IsScanner takePoint where
  exact {text taken left} read := by
    unfold takePoint at read
    split at read
    · obtain ⟨⟨digits, others⟩, scanned, same⟩ := Option.map_eq_some_iff.mp read
      cases same
      rw [isScanner_takeDigits.exact scanned]
      rfl
    · cases read
      rfl
  steady {text taken left rest} read closes := by
    unfold takePoint at read
    split at read
    · obtain ⟨⟨digits, others⟩, scanned, same⟩ := Option.map_eq_some_iff.mp read
      cases same
      exact Option.map_eq_some_iff.mpr ⟨_, isScanner_takeDigits.steady scanned closes, rfl⟩
    · rename_i noPoint
      cases read
      unfold takePoint
      split
      · rename_i tail same
        cases text with
        | nil =>
          rw [List.nil_append] at same
          subst same
          exact absurd rfl closes.not_digit.2.1
        | cons c text =>
          cases same
          exact absurd rfl (noPoint text)
      · rfl

theorem takeExponentSign_append {text : List Char} (inhabited : text ≠ []) (rest : List Char) :
    takeExponentSign (text ++ rest) =
      ((takeExponentSign text).1, (takeExponentSign text).2 ++ rest) := by
  match text with
  | [] => exact absurd rfl inhabited
  | c :: text =>
    by_cases minus : c = '-'
    · subst minus
      rfl
    by_cases plus : c = '+'
    · subst plus
      rfl
    have unsigned (cs : List Char) : takeExponentSign (c :: cs) = ([], c :: cs) := by
      unfold takeExponentSign
      split <;> simp_all
    rw [List.cons_append, unsigned, unsigned]
    rfl

theorem takeExponentSign_exact (text : List Char) :
    (takeExponentSign text).1 ++ (takeExponentSign text).2 = text := by
  unfold takeExponentSign
  split <;> rfl

theorem takeExponent_of_mark {c : Char} (mark : c = 'e' ∨ c = 'E') (text : List Char) :
    takeExponent (c :: text) = (takeDigits (takeExponentSign text).2).map fun (digits, rest) =>
      (c :: (takeExponentSign text).1 ++ digits, rest) := by
  rw [takeExponent, if_pos mark]

theorem takeExponent_of_not {c : Char} (other : ¬ (c = 'e' ∨ c = 'E')) (text : List Char) :
    takeExponent (c :: text) = some ([], c :: text) := by
  rw [takeExponent, if_neg other]

theorem isScanner_takeExponent : IsScanner takeExponent where
  exact {text taken left} read := by
    cases text with
    | nil =>
      cases read
      rfl
    | cons c text =>
      by_cases mark : c = 'e' ∨ c = 'E'
      · rw [takeExponent_of_mark mark] at read
        obtain ⟨⟨digits, others⟩, scanned, same⟩ := Option.map_eq_some_iff.mp read
        obtain ⟨rfl, rfl⟩ := Prod.mk.inj same
        have whole := takeExponentSign_exact text
        rw [isScanner_takeDigits.exact scanned, ← List.append_assoc] at whole
        rw [List.cons_append, List.cons_append, whole]
      · rw [takeExponent_of_not mark] at read
        cases read
        rfl
  steady {text taken left rest} read closes := by
    cases text with
    | nil =>
      cases read
      cases rest with
      | nil => rfl
      | cons c rest =>
        obtain ⟨_, _, notLower, notUpper⟩ := closes.not_digit
        exact takeExponent_of_not (not_or.mpr ⟨notLower, notUpper⟩) rest
    | cons c text =>
      by_cases mark : c = 'e' ∨ c = 'E'
      · rw [takeExponent_of_mark mark] at read
        obtain ⟨⟨digits, others⟩, scanned, same⟩ := Option.map_eq_some_iff.mp read
        obtain ⟨rfl, rfl⟩ := Prod.mk.inj same
        have inhabited : text ≠ [] := by
          rintro rfl
          cases scanned
        rw [List.cons_append, takeExponent_of_mark mark, takeExponentSign_append inhabited]
        exact Option.map_eq_some_iff.mpr ⟨_, isScanner_takeDigits.steady scanned closes, rfl⟩
      · rw [takeExponent_of_not mark] at read
        cases read
        exact takeExponent_of_not mark _

theorem isScanner_takeUnsigned : IsScanner takeUnsigned where
  exact {text taken left} read := by
    obtain ⟨⟨whole, afterWhole⟩, first, read⟩ := Option.bind_eq_some_iff.mp read
    obtain ⟨⟨fraction, afterFraction⟩, second, read⟩ := Option.bind_eq_some_iff.mp read
    obtain ⟨⟨exponent, afterExponent⟩, third, read⟩ := Option.bind_eq_some_iff.mp read
    cases read
    rw [isScanner_takeWhole.exact first, isScanner_takePoint.exact second,
      isScanner_takeExponent.exact third]
    simp only [List.append_assoc]
  steady {text taken left rest} read closes := by
    obtain ⟨⟨whole, afterWhole⟩, first, read⟩ := Option.bind_eq_some_iff.mp read
    obtain ⟨⟨fraction, afterFraction⟩, second, read⟩ := Option.bind_eq_some_iff.mp read
    obtain ⟨⟨exponent, afterExponent⟩, third, read⟩ := Option.bind_eq_some_iff.mp read
    cases read
    exact Option.bind_eq_some_iff.mpr ⟨_, isScanner_takeWhole.steady first closes,
      Option.bind_eq_some_iff.mpr ⟨_, isScanner_takePoint.steady second closes,
        Option.bind_eq_some_iff.mpr ⟨_, isScanner_takeExponent.steady third closes, rfl⟩⟩⟩

theorem map_takeUnsigned_append (make : List Char → Json) {text rest : List Char} {json : Json}
    (read : ((takeUnsigned text).map fun (literal, left) => (make literal, left)) = some (json, []))
    (closes : Closes rest) :
    ((takeUnsigned (text ++ rest)).map fun (literal, left) => (make literal, left)) =
      some (json, rest) := by
  obtain ⟨⟨taken, left⟩, scanned, same⟩ := Option.map_eq_some_iff.mp read
  obtain ⟨rfl, rfl⟩ := Prod.mk.inj same
  exact Option.map_eq_some_iff.mpr ⟨_, isScanner_takeUnsigned.steady scanned closes, rfl⟩

/-- The whole text is one number. -/
def IsNumber (literal : String) : Prop := takeNumber literal.toList = some (.number literal, [])

theorem takeNumber_of_ne {text : List Char} (unsigned : text.head? ≠ some '-') :
    takeNumber text =
      (takeUnsigned text).map fun (literal, rest) => (.number (String.ofList literal), rest) := by
  unfold takeNumber
  split
  · exact absurd rfl unsigned
  · rfl

/-- A number is the text that it is read from. -/
theorem takeNumber_exact {text left : List Char} {json : Json}
    (read : takeNumber text = some (json, left)) :
    ∃ literal, json = .number literal ∧ text = literal.toList ++ left := by
  unfold takeNumber at read
  split at read
  · obtain ⟨⟨taken, others⟩, scanned, same⟩ := Option.map_eq_some_iff.mp read
    cases same
    refine ⟨_, rfl, ?_⟩
    rw [isScanner_takeUnsigned.exact scanned, String.toList_ofList, List.cons_append]
  · obtain ⟨⟨taken, others⟩, scanned, same⟩ := Option.map_eq_some_iff.mp read
    cases same
    refine ⟨_, rfl, ?_⟩
    rw [isScanner_takeUnsigned.exact scanned, String.toList_ofList]

theorem takeWhole_head {text taken left : List Char} (read : takeWhole text = some (taken, left)) :
    ∃ c cs, text = c :: cs ∧ c.isDigit = true := by
  unfold takeWhole at read
  split at read
  · exact ⟨'0', _, rfl, rfl⟩
  · rw [takeDigits] at read
    split at read
    · cases read
    · rename_i some
      cases text with
      | nil => exact absurd rfl some
      | cons c cs =>
        refine ⟨c, cs, rfl, ?_⟩
        by_contra other
        exact some (List.takeWhile_cons_of_neg other)

namespace IsNumber

variable {literal : String} (isNumber : IsNumber literal)

include isNumber

theorem head : ∃ c cs, literal.toList = c :: cs ∧ (c = '-' ∨ c.isDigit = true) := by
  have read := isNumber
  unfold IsNumber takeNumber at read
  split at read
  · rename_i text same
    exact ⟨'-', text, same, .inl rfl⟩
  · obtain ⟨⟨taken, others⟩, scanned, _⟩ := Option.map_eq_some_iff.mp read
    obtain ⟨⟨whole, afterWhole⟩, first, _⟩ := Option.bind_eq_some_iff.mp scanned
    obtain ⟨c, cs, same, digit⟩ := takeWhole_head first
    exact ⟨c, cs, same, .inr digit⟩

theorem takeNumber_append {rest : List Char} (closes : Closes rest) :
    takeNumber (literal.toList ++ rest) = some (.number literal, rest) := by
  have read := isNumber
  unfold IsNumber at read
  obtain ⟨c, cs, shape, _⟩ := isNumber.head
  rw [shape] at read ⊢
  by_cases minus : c = '-'
  · subst minus
    exact map_takeUnsigned_append (fun digits => .number (String.ofList ('-' :: digits))) read closes
  · have unsigned (cs : List Char) : (c :: cs).head? ≠ some '-' := by simpa using minus
    rw [takeNumber_of_ne (unsigned cs)] at read
    rw [List.cons_append, takeNumber_of_ne (unsigned (cs ++ rest))]
    exact map_takeUnsigned_append (fun digits => .number (String.ofList digits)) read closes

end IsNumber

/-! ### Strings -/

theorem hexQuad?_hexPair {n : Nat} (control : n < 0x20) :
    hexQuad? '0' '0' (Nat.digitChar (n / 16)) (Nat.digitChar (n % 16)) = some n := by
  have all : ∀ m : Fin 0x20,
      hexQuad? '0' '0' (Nat.digitChar (m / 16)) (Nat.digitChar (m % 16)) = some m.val := by
    decide
  exact all ⟨n, control⟩

theorem Gathered.pushUnit_of_control (g : Gathered) {c : Char} (control : c.toNat < 0x20) :
    g.pushUnit c.toNat = g.push c := by
  have notLow : ¬ (0xdc00 ≤ c.toNat ∧ c.toNat ≤ 0xdfff) := by omega
  have notHigh : ¬ (0xd800 ≤ c.toNat ∧ c.toNat ≤ 0xdbff) := by omega
  rw [pushUnit, if_neg notLow, if_neg notHigh, Char.ofNat_toNat]

theorem takeString_plain (g : Gathered) {c : Char} (notQuote : c ≠ '"') (notSlash : c ≠ '\\')
    (printable : ¬ c.toNat < 0x20) (rest : List Char) :
    takeString g (c :: rest) = takeString (g.push c) rest := by
  rw [takeString.eq_def]
  split <;> simp_all

/-- Each character is read back from what is written for it. -/
theorem takeString_escape (g : Gathered) (c : Char) (rest : List Char) :
    takeString g (escape c ++ rest) = takeString (g.push c) rest := by
  unfold escape
  split_ifs with quote backslash backspace formFeed newline carriage tab control
  · subst quote
    rfl
  · subst backslash
    rfl
  · subst backspace
    rfl
  · subst formFeed
    rfl
  · subst newline
    rfl
  · subst carriage
    rfl
  · subst tab
    rfl
  · rw [← Gathered.pushUnit_of_control g control]
    simp only [hexPair, List.cons_append, List.nil_append]
    rw [takeString.eq_def]
    simp only [hexQuad?_hexPair control]
  · exact takeString_plain g quote backslash control rest

theorem takeString_flatMap (g : Gathered) (text rest : List Char) :
    takeString g (text.flatMap escape ++ '"' :: rest) = some ((text.foldl Gathered.push g).text, rest) := by
  induction text generalizing g with
  | nil => rfl
  | cons c text ih =>
    rw [List.flatMap_cons, List.append_assoc, takeString_escape, ih, List.foldl_cons]

theorem Gathered.foldl_push (text : List Char) {reversed : List Char} :
    text.foldl push ⟨reversed, true, none⟩ = ⟨text.reverse ++ reversed, true, none⟩ := by
  induction text generalizing reversed with
  | nil => rfl
  | cons c text ih =>
    have pushed : push ⟨reversed, true, none⟩ c = ⟨c :: reversed, true, none⟩ := rfl
    rw [List.foldl_cons, pushed, ih]
    simp

theorem Gathered.text_foldl_push (s : String) :
    (s.toList.foldl push empty).text = some s := by
  rw [empty, foldl_push]
  simp [Gathered.text, settle]

/-- A string is read back from its JSON form, behind the opening quote. -/
theorem takeString_quoted (s : String) (rest : List Char) :
    takeString .empty (s.toList.flatMap escape ++ '"' :: rest) = some (some s, rest) := by
  rw [takeString_flatMap, Gathered.text_foldl_push]

end ScrollTimeline.Json
