import ScrollTimeline.Proofs.Axis.Scanner

/-!
The bytes of an axis have the tokens of its characters.

Between two tokens the scanner stands between two characters. From there it takes the token that the
characters have, and its last byte tells whether a dash is glued to it.
-/
set_option autoImplicit false

namespace ScrollTimeline.Lexeme

/-! ### What a number is read as -/

theorem takeSign_append (negative : Bool) {body : List Char}
    (unsigned : ∀ c ∈ body.head?, c ≠ '-' ∧ c ≠ '+') :
    Numeral.takeSign ((if negative then ['-'] else []) ++ body) = (negative, body) := by
  cases negative with
  | true => rfl
  | false =>
    cases body with
    | nil => rfl
    | cons c rest =>
      obtain ⟨noDash, noPlus⟩ := unsigned c rfl
      rw [if_neg Bool.false_ne_true, List.nil_append, Numeral.takeSign.eq_def]
      split
      · rename_i shape
        exact absurd (List.cons.inj shape).1 noDash
      · rename_i shape
        exact absurd (List.cons.inj shape).1 noPlus
      · rfl

theorem span_isDigit_append {digits back : List Char} (run : ∀ c ∈ digits, c.isDigit = true)
    (stops : ∀ c ∈ back.head?, ¬ c.isDigit = true) :
    (digits ++ back).takeWhile Char.isDigit = digits ∧
      (digits ++ back).dropWhile Char.isDigit = back := by
  rw [List.takeWhile_append_of_pos run, List.dropWhile_append_of_pos run]
  cases back with
  | nil => exact ⟨List.append_nil _, rfl⟩
  | cons c rest =>
    rw [List.takeWhile_cons_of_neg (stops c rfl), List.dropWhile_cons_of_neg (stops c rfl)]
    exact ⟨List.append_nil _, rfl⟩

theorem ofWord?_ofParts (negative : Bool) {whole fraction : List Char}
    (digits : ∀ c ∈ whole ++ fraction, c.isDigit = true) (nonempty : whole ++ fraction ≠ []) :
    Numeral.ofWord? ((if negative then ['-'] else []) ++ whole ++
      (if fraction = [] then [] else '.' :: fraction)) = some (.ofParts negative whole fraction) := by
  obtain ⟨inWhole, inFraction⟩ := List.forall_mem_append.mp digits
  generalize pointed : (if fraction = [] then [] else '.' :: fraction) = back
  have point : ∀ c ∈ back.head?, c = '.' := by
    rw [← pointed]
    split <;> simp
  have sign : Numeral.takeSign ((if negative then ['-'] else []) ++ (whole ++ back)) =
      (negative, whole ++ back) := by
    refine takeSign_append negative ?_
    intro c first
    have digit : c.isDigit = true ∨ c = '.' := by
      cases whole with
      | nil => exact .inr (point c first)
      | cons d more =>
        obtain rfl : d = c := Option.some.inj first
        exact .inl (inWhole d List.mem_cons_self)
    constructor <;> rintro rfl <;> revert digit <;> decide
  obtain ⟨front, left⟩ : (whole ++ back).takeWhile Char.isDigit = whole ∧
      (whole ++ back).dropWhile Char.isDigit = back := by
    refine span_isDigit_append inWhole ?_
    intro c first
    rw [point c first]
    decide
  have parts : Numeral.takeFraction back = (fraction, []) := by
    rw [← pointed]
    split
    · rename_i none
      rw [none]
      rfl
    · rw [Numeral.takeFraction, List.takeWhile_eq_self_iff.mpr inFraction,
        List.dropWhile_eq_nil_iff.mpr inFraction]
  have digit : ¬ (whole = [] ∧ fraction = []) := by
    rintro ⟨rfl, rfl⟩
    exact nonempty rfl
  rw [List.append_assoc, Numeral.ofWord?]
  simp only [sign, front, left, parts, if_neg digit, Numeral.exponent?, Option.map_some, Int.add_zero]

/-! ### One token -/

/-- What the characters answer, with the byte behind the token in place of its characters. -/
def spanned (position : Nat) (answer : Except Malformation (Token × List Char)) :
    Except Refusal (Token × Nat) :=
  (answer.map fun (token, taken) => (token, position + byteLength taken)).mapError .malformed

theorem cutWord_append (before : List Char) (part after : List Char) :
    cutWord (before ++ (part ++ after)) (byteLength before) (byteLength before + byteLength part) =
      some (.ok (.word (String.ofList part), byteLength before + byteLength part)) := by
  rw [cutWord, slice?_append]
  rfl

theorem lt_of_mem_number {negative : Bool} {whole fraction : List Char}
    (digits : ∀ c ∈ whole ++ fraction, c.isDigit = true) {c : Char}
    (member : c ∈ (if negative then ['-'] else []) ++ whole ++
      (if fraction = [] then [] else '.' :: fraction)) : c.toNat < 0x80 := by
  obtain ⟨inWhole, inFraction⟩ := List.forall_mem_append.mp digits
  rcases List.mem_append.mp member with front | back
  · rcases List.mem_append.mp front with sign | digit
    · split at sign
      · rw [List.mem_singleton.mp sign]
        decide
      · cases sign
    · exact lt_of_isDigit (inWhole c digit)
  · split at back
    · cases back
    · rcases List.mem_cons.mp back with rfl | digit
      · decide
      · exact lt_of_isDigit (inFraction c digit)

theorem byteLength_number (negative : Bool) {whole fraction : List Char}
    (digits : ∀ c ∈ whole ++ fraction, c.isDigit = true) :
    byteLength ((if negative then ['-'] else []) ++ whole ++
        (if fraction = [] then [] else '.' :: fraction)) =
      (if negative then 1 else 0) + whole.length + (if fraction = [] then 0 else fraction.length + 1) := by
  rw [byteLength_of_ascii fun _ => lt_of_mem_number digits, List.length_append, List.length_append]
  split <;> split <;> rfl

theorem exists_digit_of_startsFraction {text : List Char} (starts : startsFraction text = true) :
    ∃ digit rest, text = '.' :: digit :: rest ∧ digit.isDigit = true := by
  obtain ⟨rest, rfl⟩ := exists_of_startsFraction starts
  cases rest with
  | nil => cases starts
  | cons digit rest => exact ⟨digit, rest, rfl, starts⟩

theorem cutNumber_eq (front : List Char) (negative : Bool) {text : List Char}
    (starts : startsNumber text = true) :
    cutNumber (front ++ ((if negative then ['-'] else []) ++ text)) (byteLength front) negative
        (bytesOf text) =
      some (spanned (byteLength front) (takeNumber negative text (byteLength front))) := by
  obtain ⟨_, digits⟩ := digits_splitNumber text
  have nonempty := splitNumber_ne_nil starts
  have shape := splitNumber_append text
  simp only [cutNumber, takeNumber, splitNumber_bytesOf, startsFraction_bytesOf]
  generalize splitNumber text = parts at digits nonempty shape ⊢
  obtain ⟨whole, fraction, rest⟩ := parts
  dsimp only at digits nonempty shape ⊢
  have read := ofWord?_ofParts negative digits nonempty
  have whole' : (if negative then ['-'] else []) ++ text =
      (if negative then ['-'] else []) ++ whole ++ (if fraction = [] then [] else '.' :: fraction) ++
        rest := by
    rw [← shape, List.append_assoc, List.append_assoc, List.append_assoc]
  rw [← byteLength_number negative digits, whole']
  generalize (if negative then ['-'] else []) ++ whole ++
    (if fraction = [] then [] else '.' :: fraction) = taken at read ⊢
  by_cases again : startsFraction rest = true
  · obtain ⟨digit, later, rfl, isDigit⟩ := exists_digit_of_startsFraction again
    have quoted : byteLength (taken ++ ['.', digit]) = byteLength taken + 2 := by
      have ascii : ∀ c ∈ ['.', digit], c.toNat < 0x80 := by
        simp [lt_of_isDigit isDigit]
      rw [byteLength_append, byteLength_of_ascii ascii]
      rfl
    have text' : taken ++ '.' :: digit :: later = (taken ++ ['.', digit]) ++ later := by simp
    rw [if_pos again, if_pos again, Nat.add_assoc, ← quoted, text', slice?_append]
    rfl
  · rw [if_neg again, if_neg again, slice?_append, Option.map_some, read]
    rfl

theorem cutWord_eq (front : List Char) {c : Char} (rest : List Char) (starts : startsWord c = true) :
    cutWord (front ++ c :: rest) (byteLength front)
        (byteLength front + 1 + ((bytesOf rest).takeWhile continuesWord).length) =
      some (spanned (byteLength front) (.ok (.word (String.ofList (c :: rest.takeWhile continuesWord)),
        c :: rest.takeWhile continuesWord))) := by
  have width : byteLength (c :: rest.takeWhile continuesWord) =
      1 + ((bytesOf rest).takeWhile continuesWord).length := by
    rw [isCoarse_continuesWord.takeWhile_bytesOf, length_bytesOf, byteLength_cons,
      utf8Size_of_ascii (lt_of_startsWord starts)]
  have text : c :: rest = (c :: rest.takeWhile continuesWord) ++ rest.dropWhile continuesWord := by
    rw [List.cons_append, List.takeWhile_append_dropWhile]
  conv => lhs; rw [text]
  rw [Nat.add_assoc, ← width, cutWord_append]
  rfl

section

variable {c : Char} {rest later : List Char}
  (bytes : bytesOf (c :: rest) = Char.ofNat (leadByte c) :: later)

include bytes

theorem later_of_ascii (ascii : c.toNat < 0x80) : later = bytesOf rest := by
  rw [bytesOf_cons, encode_of_ascii ascii, List.singleton_append] at bytes
  exact (List.cons.inj bytes).2.symm

theorem isSigned_eq {glued glued' : Bool} (same : c = '-' → glued = glued') :
    (decide (Char.ofNat (leadByte c) = '-') && !glued && startsNumber later) =
      (decide (c = '-') && !glued' && startsNumber rest) := by
  rw [(isCoarse_eq (c := '-') (by decide)).ofNat_leadByte c]
  by_cases dash : c = '-'
  · subst dash
    rw [same rfl, later_of_ascii bytes (by decide), startsNumber_bytesOf]
  · simp [dash]

theorem cutToken_eq (front : List Char) {glued glued' : Bool} (same : c = '-' → glued = glued') :
    cutToken (front ++ c :: rest) glued (byteLength front) (Char.ofNat (leadByte c)) later =
      some (spanned (byteLength front) (takeToken glued' c rest (byteLength front))) := by
  rw [cutToken, takeToken, isSigned_eq bytes same, ← bytes, startsNumber_bytesOf,
    isCoarse_startsWord.ofNat_leadByte, mark?_ofNat_leadByte]
  split
  · rename_i signed
    obtain ⟨⟨rfl, _⟩, starts⟩ : (c = '-' ∧ glued' = false) ∧ startsNumber rest = true := by
      simpa using signed
    rw [later_of_ascii bytes (by decide)]
    exact cutNumber_eq front true starts
  split
  · rename_i starts
    exact cutNumber_eq front false starts
  split
  · rename_i word
    rw [later_of_ascii bytes (lt_of_startsWord word)]
    exact cutWord_eq front rest word
  cases mark : mark? c with
  | none => rfl
  | some token =>
    have width : byteLength [c] = 1 := byteLength_of_ascii (by simp [lt_of_mark? mark])
    simp only [spanned, Except.map, Except.mapError, width]

end

theorem cutId_eq (front text : List Char) :
    cutId (front ++ text) (byteLength front) (bytesOf text) =
      some (spanned (byteLength front) (.ok (takeId text))) := by
  have word := cutWord_append front (text.takeWhile fun b => !endsId b)
    (text.dropWhile fun b => !endsId b)
  rw [List.takeWhile_append_dropWhile] at word
  rw [cutId, isCoarse_endsId.not.takeWhile_bytesOf, length_bytesOf, word]
  rfl

/-! ### What is glued -/

theorem lt_of_mem_takeNumber {negative : Bool} {text taken : List Char} {position : Nat} {token : Token}
    (made : takeNumber negative text position = .ok (token, taken)) :
    ∀ c ∈ taken, c.toNat < 0x80 := by
  obtain ⟨_, digits⟩ := digits_splitNumber text
  simp only [takeNumber] at made
  split at made
  · cases made
  · cases made
    exact fun _ => lt_of_mem_number digits

theorem lt_of_mem_takeToken {glued : Bool} {c : Char} {rest taken : List Char} {position : Nat}
    {token : Token} (made : takeToken glued c rest position = .ok (token, taken)) :
    ∀ d ∈ taken, d.toNat < 0x80 := by
  rw [takeToken] at made
  split at made
  · exact lt_of_mem_takeNumber made
  split at made
  · exact lt_of_mem_takeNumber made
  split at made
  · rename_i word
    cases made
    refine List.forall_mem_cons.mpr ⟨lt_of_startsWord word, ?_⟩
    exact fun d member => lt_of_continuesWord (List.mem_takeWhile_imp member)
  split at made
  · rename_i token mark
    cases made
    exact List.forall_mem_singleton.mpr (lt_of_mark? mark)
  · cases made

theorem exists_getElem?_bytesOf {taken : List Char} (nonempty : taken ≠ []) (front rest : List Char) :
    ∃ b ∈ bytesOf taken,
      (bytesOf (front ++ (taken ++ rest)))[byteLength front + byteLength taken - 1]? = some b := by
  have width := byteLength_pos nonempty
  have size : byteLength taken - 1 < (bytesOf taken).length := by
    rw [length_bytesOf]
    omega
  refine ⟨(bytesOf taken)[byteLength taken - 1], List.getElem_mem _, ?_⟩
  rw [bytesOf_append, bytesOf_append, Nat.add_sub_assoc width, ← length_bytesOf front,
    List.getElem?_append_right (Nat.le_add_right _ _), Nat.add_sub_cancel_left,
    List.getElem?_append_left size, List.getElem?_eq_getElem size]

theorem isGlued_token {taken : List Char} (nonempty : taken ≠ [])
    (solid : ∀ b ∈ bytesOf taken, Text.isBlank b = false) (front rest : List Char)
    (before : List Lexeme) (token : Token) (start stop : Nat) (idNext : Bool) :
    Cursor.isGlued (front ++ (taken ++ rest))
      ⟨byteLength front + byteLength taken, before ++ [⟨token, start, stop⟩], idNext⟩ =
        token.isOperand := by
  obtain ⟨b, member, last⟩ := exists_getElem?_bytesOf nonempty front rest
  have positive : 0 < byteLength front + byteLength taken :=
    Nat.add_pos_right _ (byteLength_pos nonempty)
  simp [Cursor.isGlued, last, solid b member, positive]

/-- A dash behind a token is glued to it if the token is a number or a word. What ends an id is no dash. -/
theorem isGlued_of_takeNext {glued idNext : Bool} {c : Char} {rest taken : List Char} {position : Nat}
    {token : Token} (solid : ¬ isSpace c = true)
    (made : takeNext glued idNext c rest position = .ok (token, taken)) (front : List Char)
    (before : List Lexeme) (start stop : Nat) (idNext' : Bool) :
    ∀ d ∈ (rest.drop (taken.length - 1)).head?, d = '-' →
      Cursor.isGlued (front ++ (taken ++ rest.drop (taken.length - 1)))
        ⟨byteLength front + byteLength taken, before ++ [⟨token, start, stop⟩], idNext'⟩ =
          token.isOperand := by
  have isFront := isFrontToken_of_takeNext made
  have split := isFront.append_drop
  intro d first dash
  rw [takeNext] at made
  split at made
  · cases made
    have ends := List.head?_dropWhile_not (fun b => !endsId b) (c :: rest)
    have left : (c :: rest).dropWhile (fun b => !endsId b) =
        rest.drop (((c :: rest).takeWhile fun b => !endsId b).length - 1) := by
      refine List.append_cancel_left ((List.takeWhile_append_dropWhile).trans split)
    rw [left, Option.mem_def.mp first, dash] at ends
    cases ends
  · have ascii := lt_of_mem_takeToken made
    refine isGlued_token isFront.1.ne_nil ?_ _ _ _ _ _ _ _
    rw [bytesOf_of_ascii ascii]
    have first : c ∈ taken := by
      obtain ⟨d, more, rfl⟩ := List.exists_cons_of_ne_nil isFront.1.ne_nil
      obtain ⟨rfl, _⟩ := List.cons_prefix_cons.mp isFront.2
      exact List.mem_cons_self
    have blank : Text.isBlank c = false := by
      rw [isBlank_of_ascii (ascii c first)]
      simpa using solid
    exact (isFront_of_takeToken blank made).solid

theorem isGlued_space {c : Char} (space : isSpace c = true) (front rest : List Char)
    (before : List Lexeme) (idNext : Bool) :
    Cursor.isGlued (front ++ ([c] ++ rest)) ⟨byteLength front + byteLength [c], before, idNext⟩ =
      false := by
  obtain ⟨b, member, last⟩ := exists_getElem?_bytesOf (List.cons_ne_nil c []) front rest
  have blank : Text.isBlank b = true := by
    have ascii := lt_of_isSpace space
    rw [bytesOf_of_ascii (by simp [ascii]), List.mem_singleton] at member
    rw [member, isBlank_of_ascii ascii, space]
  rw [Cursor.isGlued, last]
  simp [blank]

/-! ### One step -/

section

variable {front : List Char} {before : List Lexeme} {idNext : Bool}

theorem step_end : step (front ++ []) ⟨byteLength front, before, idNext⟩ =
    some (.done (.ok (before ++ [⟨.eof, byteLength front, byteLength front⟩]))) := by
  rw [step, drop_bytesOf, List.append_nil]
  rfl

theorem step_space {c : Char} {rest : List Char} (space : isSpace c = true) :
    step (front ++ ([c] ++ rest)) ⟨byteLength front, before, idNext⟩ =
      some (.on ⟨byteLength front + byteLength [c], before, idNext⟩) := by
  obtain ⟨later, bytes⟩ := exists_bytesOf_cons c rest
  have width : byteLength [c] = 1 := byteLength_of_ascii (by simp [lt_of_isSpace space])
  have blank : Text.isBlank (Char.ofNat (leadByte c)) = true := by rw [isBlank_ofNat_leadByte, space]
  rw [step, drop_bytesOf, List.singleton_append, bytes]
  simp only [if_pos blank, width]

variable {glued : Bool} {c : Char} {rest : List Char} (solid : ¬ isSpace c = true)
  (same : c = '-' → Cursor.isGlued (front ++ c :: rest) ⟨byteLength front, before, idNext⟩ = glued)

include solid same

theorem step_solid : step (front ++ c :: rest) ⟨byteLength front, before, idNext⟩ =
    match takeNext glued idNext c rest (byteLength front) with
    | .error problem => some (.done (.error (.malformed problem)))
    | .ok (token, taken) =>
      some (.on ⟨byteLength front + byteLength taken,
        before ++ [⟨token, byteLength front, byteLength front + byteLength taken⟩],
        !(idNext && !endsId c) && token.announcesId⟩) := by
  obtain ⟨later, bytes⟩ := exists_bytesOf_cons c rest
  have visible : ¬ Text.isBlank (Char.ofNat (leadByte c)) = true := by rwa [isBlank_ofNat_leadByte]
  have cut : (if (idNext && !endsId c) = true then
        cutId (front ++ c :: rest) (byteLength front) (Char.ofNat (leadByte c) :: later)
      else
        cutToken (front ++ c :: rest)
          (Cursor.isGlued (front ++ c :: rest) ⟨byteLength front, before, idNext⟩) (byteLength front)
          (Char.ofNat (leadByte c)) later) =
      some (spanned (byteLength front) (takeNext glued idNext c rest (byteLength front))) := by
    rw [takeNext, ← bytes]
    split
    · exact cutId_eq front (c :: rest)
    · exact cutToken_eq bytes front same
  rw [step, drop_bytesOf, bytes]
  simp only [if_neg visible, isCoarse_endsId.ofNat_leadByte, cut]
  cases takeNext glued idNext c rest (byteLength front) <;> rfl

end

/-! ### The whole text -/

/-- From between two characters on, the bytes have the result of the characters. -/
theorem Run.scans {position : Nat} {glued idNext : Bool} {rest : List Char}
    {result : Except Malformation (List Lexeme)} (run : Run position glued idNext rest result)
    {front : List Char} (place : position = byteLength front) (before : List Lexeme)
    (same : ∀ c ∈ rest.head?, c = '-' →
      Cursor.isGlued (front ++ rest) ⟨position, before, idNext⟩ = glued) :
    Scans (front ++ rest) ⟨position, before, idNext⟩
      ((result.map (before ++ ·)).mapError .malformed) := by
  induction run generalizing front before with
  | done =>
    subst place
    exact .done step_end
  | @space _ _ idNext c rest _ space _ ih =>
    subst place
    have glue := isGlued_space space front rest before idNext
    rw [← List.append_assoc] at glue
    have later := ih (byteLength_append front [c]).symm before fun _ _ _ => glue
    rw [List.append_assoc] at later
    exact .on (step_space space) later
  | stuck solid next =>
    subst place
    have first := step_solid solid (same _ rfl)
    rw [next] at first
    exact .done first
  | @token _ _ idNext c rest taken token result solid next _ ih =>
    subst place
    have isFront := isFrontToken_of_takeNext next
    have glue := isGlued_of_takeNext solid next front before (byteLength front)
      (byteLength front + byteLength taken) (!(idNext && !endsId c) && token.announcesId)
    rw [← List.append_assoc] at glue
    have later := ih (byteLength_append front taken).symm _ glue
    rw [List.append_assoc, ← isFront.append_drop] at later
    have first := step_solid solid (same c rfl)
    rw [next] at first
    refine .on first ?_
    cases result with
    | error problem => exact later
    | ok lexemes =>
      simp only [Except.map, List.append_assoc, List.singleton_append] at later ⊢
      exact later

/-- Every text is scanned to its end or to its first malformation, and no character of it is cut. -/
theorem scans_iff (text : List Char) (result : Except Refusal (List Lexeme)) :
    Scans text .start result ↔ result = (ofText text).mapError .malformed := by
  have scans : Scans text .start ((ofText text).mapError .malformed) := by
    have start : 0 = byteLength [] := rfl
    have all := (run_ofTextFrom 0 false false text).scans start [] fun _ _ _ => rfl
    have whole : (ofText text).map ([] ++ ·) = ofText text := by
      cases ofText text <;> rfl
    change Scans text .start (((ofText text).map ([] ++ ·)).mapError .malformed) at all
    rwa [whole] at all
  constructor
  · exact fun scans' => scans'.unique scans
  · rintro rfl
    exact scans

end ScrollTimeline.Lexeme
