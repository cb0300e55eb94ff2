import Mathlib.Data.List.DropRight
import Mathlib.Data.List.TakeWhile
import ScrollTimeline.Text

/-!
Texts that differ only in their white space.

Each run of white space stands for a single space. The pieces that a text is cut into have the same words
as those of the text with single spaces, so two texts that agree but for the runs between their words are
cut alike.
-/
set_option autoImplicit false

namespace ScrollTimeline.Text

/-- White space, and some of it. -/
structure IsGap (gap : List Char) : Prop where
  nonempty : gap ≠ []
  blank : ∀ c ∈ gap, isBlank c = true

/-- The second text has other white space where the first one has white space, run by run. -/
inductive Respaced : List Char → List Char → Prop
  | nil : Respaced [] []
  | solid {c : Char} {rest rest' : List Char} :
      isBlank c = false → Respaced rest rest' → Respaced (c :: rest) (c :: rest')
  | gap {gap gap' rest rest' : List Char} {c : Char} :
      IsGap gap → IsGap gap' → isBlank c = false → Respaced rest rest' →
        Respaced (gap ++ c :: rest) (gap' ++ c :: rest')
  | last {gap gap' : List Char} : IsGap gap → IsGap gap' → Respaced gap gap'

/-- A single space for each run of white space. -/
def squeeze : List Char → List Char
  | [] => []
  | c :: rest =>
    if isBlank c then
      if rest.head?.any isBlank then squeeze rest else ' ' :: squeeze rest
    else c :: squeeze rest

theorem squeeze_solid {c : Char} (solid : isBlank c = false) (rest : List Char) :
    squeeze (c :: rest) = c :: squeeze rest := by
  rw [squeeze, if_neg (by simp [solid])]

theorem squeeze_again {c : Char} (blank : isBlank c = true) {rest : List Char}
    (again : rest.head?.any isBlank = true) : squeeze (c :: rest) = squeeze rest := by
  rw [squeeze, if_pos blank, if_pos again]

theorem squeeze_last {c : Char} (blank : isBlank c = true) {rest : List Char}
    (ends : rest.head?.any isBlank = false) : squeeze (c :: rest) = ' ' :: squeeze rest := by
  rw [squeeze, if_pos blank, if_neg (by simp [ends])]

theorem squeeze_gap_append {gap rest : List Char} (isGap : IsGap gap)
    (ends : rest.head?.any isBlank = false) : squeeze (gap ++ rest) = ' ' :: squeeze rest := by
  obtain ⟨nonempty, blank⟩ := isGap
  induction gap with
  | nil => exact absurd rfl nonempty
  | cons c more ih =>
    have first := blank c List.mem_cons_self
    cases more with
    | nil => exact squeeze_last first ends
    | cons d more =>
      have next : (d :: more ++ rest).head?.any isBlank = true :=
        blank d (List.mem_cons_of_mem c List.mem_cons_self)
      rw [List.cons_append, squeeze_again first next]
      exact ih (List.cons_ne_nil d more) fun e member => blank e (List.mem_cons_of_mem c member)

theorem squeeze_blank {c : Char} (blank : isBlank c = true) (rest : List Char) :
    squeeze (c :: rest) = ' ' :: squeeze (rest.dropWhile isBlank) := by
  induction rest generalizing c with
  | nil => exact squeeze_last blank rfl
  | cons d rest ih =>
    by_cases next : isBlank d = true
    · have again : (d :: rest).head?.any isBlank = true := next
      rw [squeeze_again blank again, ih next, List.dropWhile_cons_of_pos next]
    · have ends : (d :: rest).head?.any isBlank = false := by simpa using next
      rw [squeeze_last blank ends, List.dropWhile_cons_of_neg next]

theorem squeeze_solid_append {word : List Char} (solid : ∀ c ∈ word, isBlank c = false)
    (rest : List Char) : squeeze (word ++ rest) = word ++ squeeze rest := by
  induction word with
  | nil => rfl
  | cons c more ih =>
    obtain ⟨first, others⟩ := List.forall_mem_cons.mp solid
    rw [List.cons_append, squeeze_solid first, ih others, List.cons_append]

theorem Respaced.squeeze_eq {text text' : List Char} (respaced : Respaced text text') :
    squeeze text = squeeze text' := by
  induction respaced with
  | nil => rfl
  | solid solid _ ih => rw [squeeze_solid solid, squeeze_solid solid, ih]
  | gap isGap isGap' solid _ ih =>
    have ends : ∀ rest : List Char, (_ :: rest).head?.any isBlank = false := fun rest => solid
    rw [squeeze_gap_append isGap (ends _), squeeze_gap_append isGap' (ends _), squeeze_solid solid,
      squeeze_solid solid, ih]
  | @last gap gap' isGap isGap' =>
    rw [← List.append_nil gap, ← List.append_nil gap', squeeze_gap_append isGap rfl,
      squeeze_gap_append isGap' rfl]

theorem squeeze_eq_nil_iff {text : List Char} : squeeze text = [] ↔ text = [] := by
  constructor
  · intro nothing
    cases text with
    | nil => rfl
    | cons c rest =>
      cases blank : isBlank c with
      | true =>
        rw [squeeze_blank blank] at nothing
        cases nothing
      | false =>
        rw [squeeze_solid blank] at nothing
        cases nothing
  · rintro rfl
    rfl

/-- A text that is a single word with single spaces is that word. -/
theorem eq_of_squeeze_eq {text word : List Char} (solid : ∀ c ∈ word, isBlank c = false)
    (same : squeeze text = word) : text = word := by
  induction text generalizing word with
  | nil => exact same
  | cons c rest ih =>
    cases blank : isBlank c with
    | true =>
      rw [squeeze_blank blank] at same
      have space : isBlank ' ' = false := solid ' ' (same ▸ List.mem_cons_self)
      cases space
    | false =>
      rw [squeeze_solid blank] at same
      obtain ⟨_, others⟩ := List.forall_mem_cons.mp (same ▸ solid)
      rw [← same, ← ih others rfl]

theorem isGap_takeWhile {c : Char} (blank : isBlank c = true) (rest : List Char) :
    IsGap (c :: rest.takeWhile isBlank) where
  nonempty := List.cons_ne_nil c _
  blank := List.forall_mem_cons.mpr ⟨blank, fun _ => List.mem_takeWhile_imp⟩

theorem exists_of_squeeze_solid {c : Char} (solid : isBlank c = false) {rest text : List Char}
    (same : c :: squeeze rest = squeeze text) :
    ∃ rest', text = c :: rest' ∧ squeeze rest = squeeze rest' := by
  cases text with
  | nil => cases same
  | cons c' rest' =>
    cases blank : isBlank c' with
    | true =>
      rw [squeeze_blank blank] at same
      rw [(List.cons.inj same).1] at solid
      cases solid
    | false =>
      rw [squeeze_solid blank] at same
      obtain ⟨rfl, others⟩ := List.cons.inj same
      exact ⟨rest', rfl, others⟩

theorem exists_of_squeeze_blank {rest text : List Char} (same : ' ' :: rest = squeeze text) :
    ∃ c rest', text = c :: rest' ∧ isBlank c = true ∧
      rest = squeeze (rest'.dropWhile isBlank) := by
  cases text with
  | nil => cases same
  | cons c rest' =>
    cases blank : isBlank c with
    | true =>
      rw [squeeze_blank blank] at same
      exact ⟨c, rest', rfl, blank, (List.cons.inj same).2⟩
    | false =>
      rw [squeeze_solid blank] at same
      rw [← (List.cons.inj same).1] at blank
      cases blank

theorem respaced_of_squeeze_eq {text text' : List Char} (same : squeeze text = squeeze text') :
    Respaced text text' := by
  -- Behind a gap one more character is taken off, so that the gap is known to end there.
  induction size : text.length using Nat.strong_induction_on generalizing text text' with
  | _ length ih =>
    cases text with
    | nil =>
      rw [squeeze_eq_nil_iff.mp same.symm]
      exact .nil
    | cons c rest =>
      rw [List.length_cons] at size
      cases blank : isBlank c with
      | false =>
        rw [squeeze_solid blank] at same
        obtain ⟨rest', rfl, others⟩ := exists_of_squeeze_solid blank same
        exact .solid blank (ih rest.length (by omega) others rfl)
      | true =>
        rw [squeeze_blank blank] at same
        obtain ⟨c', rest', rfl, blank', others⟩ := exists_of_squeeze_blank same
        have one := isGap_takeWhile blank rest
        have other := isGap_takeWhile blank' rest'
        rw [← List.takeWhile_append_dropWhile (p := isBlank) (l := rest),
          ← List.takeWhile_append_dropWhile (p := isBlank) (l := rest'), ← List.cons_append,
          ← List.cons_append]
        cases behind : rest.dropWhile isBlank with
        | nil =>
          rw [behind] at others
          rw [squeeze_eq_nil_iff.mp others.symm, List.append_nil, List.append_nil]
          exact .last one other
        | cons d more =>
          have solid : isBlank d = false := by
            have stops := List.head_dropWhile_not isBlank (l := rest) (by simp [behind])
            simpa [behind] using stops
          rw [behind, squeeze_solid solid] at others
          obtain ⟨more', shape, after⟩ := exists_of_squeeze_solid solid others
          rw [shape]
          have shorter : more.length < length := by
            have part := (List.dropWhile_suffix isBlank (l := rest)).length_le
            rw [behind, List.length_cons] at part
            omega
          exact .gap one other solid (ih more.length shorter after rfl)

theorem respaced_iff {text text' : List Char} :
    Respaced text text' ↔ squeeze text = squeeze text' :=
  ⟨Respaced.squeeze_eq, respaced_of_squeeze_eq⟩

instance (text text' : List Char) : Decidable (Respaced text text') :=
  decidable_of_iff _ respaced_iff.symm

/-! ### The front of a text -/

section Front

variable {p : Char → Bool} (space : p ' ' = false)

include space

/-- A scan that stops at a space and at the first white space of the text takes the same off its front
whatever the white space. -/
theorem takeWhile_squeeze {text : List Char} (stops : ∀ c ∈ text.find? isBlank, p c = false) :
    (squeeze text).takeWhile p = text.takeWhile p := by
  induction text with
  | nil => rfl
  | cons c rest ih =>
    cases blank : isBlank c with
    | true =>
      have stop : ¬ p c = true := by simp [stops c (by simp [blank])]
      rw [squeeze_blank blank, List.takeWhile_cons_of_neg stop,
        List.takeWhile_cons_of_neg (by simp [space])]
    | false =>
      rw [List.find?_cons_of_neg (by simp [blank])] at stops
      rw [squeeze_solid blank]
      by_cases goes : p c = true
      · rw [List.takeWhile_cons_of_pos goes, List.takeWhile_cons_of_pos goes, ih stops]
      · rw [List.takeWhile_cons_of_neg goes, List.takeWhile_cons_of_neg goes]

theorem dropWhile_squeeze {text : List Char} (stops : ∀ c ∈ text.find? isBlank, p c = false) :
    (squeeze text).dropWhile p = squeeze (text.dropWhile p) := by
  induction text with
  | nil => rfl
  | cons c rest ih =>
    cases blank : isBlank c with
    | true =>
      have stop : ¬ p c = true := by simp [stops c (by simp [blank])]
      rw [List.dropWhile_cons_of_neg stop, squeeze_blank blank,
        List.dropWhile_cons_of_neg (by simp [space])]
    | false =>
      rw [List.find?_cons_of_neg (by simp [blank])] at stops
      rw [squeeze_solid blank]
      by_cases goes : p c = true
      · rw [List.dropWhile_cons_of_pos goes, List.dropWhile_cons_of_pos goes, ih stops]
      · rw [List.dropWhile_cons_of_neg goes, List.dropWhile_cons_of_neg goes, squeeze_solid blank]

end Front

theorem not_isBlank_of_mem_takeWhile {p : Char → Bool} {text : List Char}
    (stops : ∀ c ∈ text.find? isBlank, p c = false) :
    ∀ c ∈ text.takeWhile p, isBlank c = false := by
  induction text with
  | nil => simp
  | cons first rest ih =>
    by_cases goes : p first = true
    · rw [List.takeWhile_cons_of_pos goes]
      have solid : isBlank first = false := by
        cases blank : isBlank first with
        | false => rfl
        | true => simp [stops first (by simp [blank])] at goes
      rw [List.find?_cons_of_neg (by simp [solid])] at stops
      exact List.forall_mem_cons.mpr ⟨solid, ih stops⟩
    · rw [List.takeWhile_cons_of_neg goes]
      simp

/-! ### Trimming -/

theorem dropWhile_isBlank_squeeze (text : List Char) :
    (squeeze text).dropWhile isBlank = squeeze (text.dropWhile isBlank) := by
  induction text using squeeze.induct with
  | case1 => rfl
  | case2 c rest blank again ih =>
    rw [squeeze_again blank again, List.dropWhile_cons_of_pos blank, ih]
  | case3 c rest blank ends ih =>
    have space : isBlank ' ' = true := by decide
    rw [squeeze_last blank (by simpa using ends), List.dropWhile_cons_of_pos space,
      List.dropWhile_cons_of_pos blank, ih]
  | case4 c rest solid ih =>
    have first : isBlank c = false := by simpa using solid
    rw [squeeze_solid first, List.dropWhile_cons_of_neg solid, List.dropWhile_cons_of_neg solid,
      squeeze_solid first]

theorem rdropWhile_cons (c : Char) (rest : List Char) :
    (c :: rest).rdropWhile isBlank =
      if isBlank c ∧ rest.rdropWhile isBlank = [] then [] else c :: rest.rdropWhile isBlank := by
  simp only [List.rdropWhile, List.reverse_cons, List.dropWhile_append, List.reverse_eq_nil_iff]
  by_cases all : rest.reverse.dropWhile isBlank = []
  · cases blank : isBlank c <;> simp [all, blank]
  · simp [all]

theorem rdropWhile_cons_of_left {c : Char} {rest : List Char}
    (left : rest.rdropWhile isBlank ≠ []) :
    (c :: rest).rdropWhile isBlank = c :: rest.rdropWhile isBlank := by
  rw [rdropWhile_cons, if_neg fun gone => left gone.2]

theorem rdropWhile_cons_of_solid {c : Char} (solid : isBlank c = false) (rest : List Char) :
    (c :: rest).rdropWhile isBlank = c :: rest.rdropWhile isBlank := by
  rw [rdropWhile_cons, if_neg (by simp [solid])]

theorem head?_rdropWhile {text : List Char} (left : text.rdropWhile isBlank ≠ []) :
    (text.rdropWhile isBlank).head? = text.head? := by
  obtain ⟨gone, shape⟩ := List.rdropWhile_prefix isBlank text
  obtain ⟨c, rest, kept⟩ := List.exists_cons_of_ne_nil left
  rw [kept] at shape ⊢
  rw [← shape]
  rfl

theorem rdropWhile_squeeze (text : List Char) :
    (squeeze text).rdropWhile isBlank = squeeze (text.rdropWhile isBlank) := by
  induction text using squeeze.induct with
  | case1 => rfl
  | case2 c rest blank again ih =>
    rw [squeeze_again blank again, ih]
    by_cases nothing : rest.rdropWhile isBlank = []
    · rw [rdropWhile_cons, if_pos ⟨blank, nothing⟩, nothing]
    · rw [rdropWhile_cons_of_left nothing, squeeze_again blank]
      rwa [head?_rdropWhile nothing]
  | case3 c rest blank next ih =>
    have ends : rest.head?.any isBlank = false := by simpa using next
    have space : isBlank ' ' = true := by decide
    rw [squeeze_last blank ends]
    by_cases nothing : rest.rdropWhile isBlank = []
    · have left : (squeeze rest).rdropWhile isBlank = [] := by
        rw [ih, nothing]
        rfl
      rw [rdropWhile_cons, if_pos ⟨space, left⟩, rdropWhile_cons, if_pos ⟨blank, nothing⟩]
      rfl
    · have left : (squeeze rest).rdropWhile isBlank ≠ [] := by
        rwa [ih, Ne, squeeze_eq_nil_iff]
      rw [rdropWhile_cons_of_left left, ih, rdropWhile_cons_of_left nothing, squeeze_last blank]
      rwa [head?_rdropWhile nothing]
  | case4 c rest solid ih =>
    have first : isBlank c = false := by simpa using solid
    rw [squeeze_solid first, rdropWhile_cons_of_solid first, ih, rdropWhile_cons_of_solid first,
      squeeze_solid first]

theorem trim_squeeze (text : List Char) : trim (squeeze text) = squeeze (trim text) := by
  have trimmed : ∀ text, trim text = (text.dropWhile isBlank).rdropWhile isBlank := fun text => rfl
  rw [trimmed, trimmed, dropWhile_isBlank_squeeze, rdropWhile_squeeze]

/-! ### Cutting -/

theorem exists_splitWhere (isSeparator : Char → Bool) (text : List Char) :
    ∃ part parts, splitWhere isSeparator text = part :: parts :=
  List.exists_cons_of_ne_nil (splitWhere_ne_nil isSeparator text)

theorem splitWhere_cons_of_not {isSeparator : Char → Bool} {c : Char} {rest part : List Char}
    {parts : List (List Char)} (inside : isSeparator c = false)
    (cut : splitWhere isSeparator rest = part :: parts) :
    splitWhere isSeparator (c :: rest) = (c :: part) :: parts := by
  rw [splitWhere, if_neg (by simp [inside]), cut]

/-- The first part starts as the text does, unless that starts with a separator. -/
theorem head?_any_of_splitWhere {isSeparator : Char → Bool}
    (visible : ∀ c, isSeparator c = true → isBlank c = false) {text part : List Char}
    {parts : List (List Char)} (cut : splitWhere isSeparator text = part :: parts) :
    part.head?.any isBlank = text.head?.any isBlank := by
  cases text with
  | nil =>
    cases cut
    rfl
  | cons c rest =>
    cases separates : isSeparator c with
    | true =>
      rw [splitWhere, if_pos separates] at cut
      cases cut
      simp [visible c separates]
    | false =>
      obtain ⟨first, others, later⟩ := exists_splitWhere isSeparator rest
      rw [splitWhere_cons_of_not separates later] at cut
      cases cut
      rfl

/-- Where no white space separates, the parts are squeezed one by one. -/
theorem splitWhere_squeeze {isSeparator : Char → Bool}
    (visible : ∀ c, isSeparator c = true → isBlank c = false) (text : List Char) :
    splitWhere isSeparator (squeeze text) = (splitWhere isSeparator text).map squeeze := by
  have inside : ∀ {c}, isBlank c = true → isSeparator c = false := by
    intro c blank
    cases separates : isSeparator c with
    | true => rw [visible c separates] at blank; cases blank
    | false => rfl
  induction text using squeeze.induct with
  | case1 => rfl
  | case2 c rest blank again ih =>
    obtain ⟨part, parts, cut⟩ := exists_splitWhere isSeparator rest
    rw [squeeze_again blank again, ih, splitWhere_cons_of_not (inside blank) cut, cut, List.map_cons,
      List.map_cons, squeeze_again blank]
    rwa [head?_any_of_splitWhere visible cut]
  | case3 c rest blank next ih =>
    have ends : rest.head?.any isBlank = false := by simpa using next
    obtain ⟨part, parts, cut⟩ := exists_splitWhere isSeparator rest
    rw [cut, List.map_cons] at ih
    rw [squeeze_last blank ends, splitWhere_cons_of_not (inside (by decide)) ih,
      splitWhere_cons_of_not (inside blank) cut, List.map_cons, squeeze_last blank]
    rwa [head?_any_of_splitWhere visible cut]
  | case4 c rest solid ih =>
    have first : isBlank c = false := by simpa using solid
    rw [squeeze_solid first]
    cases separates : isSeparator c with
    | true =>
      rw [splitWhere, if_pos separates, ih, splitWhere, if_pos separates]
      rfl
    | false =>
      obtain ⟨part, parts, cut⟩ := exists_splitWhere isSeparator rest
      rw [cut, List.map_cons] at ih
      rw [splitWhere_cons_of_not separates ih, splitWhere_cons_of_not separates cut, List.map_cons,
        squeeze_solid first]

/-! ### Words -/

theorem words_cons_of_blank {c : Char} (blank : isBlank c = true) (rest : List Char) :
    words (c :: rest) = words rest := by
  rw [words, splitWhere, if_pos blank]
  rfl

theorem splitWhere_isBlank (text : List Char) :
    ∃ others, splitWhere isBlank text = text.takeWhile (fun c => !isBlank c) :: others ∧
      others.filter (· ≠ []) = words (text.dropWhile fun c => !isBlank c) := by
  induction text with
  | nil => exact ⟨[], rfl, rfl⟩
  | cons c rest ih =>
    obtain ⟨others, cut, left⟩ := ih
    cases blank : isBlank c with
    | true =>
      refine ⟨splitWhere isBlank rest, ?_, ?_⟩
      · simp [splitWhere, blank]
      · rw [List.dropWhile_cons_of_neg (by simp [blank]), words_cons_of_blank blank, words]
    | false =>
      refine ⟨others, ?_, ?_⟩
      · rw [splitWhere_cons_of_not blank cut, List.takeWhile_cons_of_pos (by simp [blank])]
      · rw [List.dropWhile_cons_of_pos (by simp [blank]), left]

theorem words_cons_of_solid {c : Char} (solid : isBlank c = false) (rest : List Char) :
    words (c :: rest) = (c :: rest.takeWhile fun c => !isBlank c) ::
      words (rest.dropWhile fun c => !isBlank c) := by
  obtain ⟨others, cut, left⟩ := splitWhere_isBlank rest
  rw [words, splitWhere_cons_of_not solid cut, List.filter_cons_of_pos (by simp), left]

theorem not_isBlank_stops {text : List Char} : ∀ c ∈ text.find? isBlank, (!isBlank c) = false := by
  intro c found
  simp [List.find?_some found]

theorem words_squeeze_dropWhile (text : List Char) :
    words (squeeze text) = words text ∧
      words (squeeze (text.dropWhile fun c => !isBlank c)) =
        words (text.dropWhile fun c => !isBlank c) := by
  -- Behind a word the text goes on after more than one step, so both places are kept in view.
  induction text using squeeze.induct with
  | case1 => exact ⟨rfl, rfl⟩
  | case2 c rest blank again ih =>
    have same : words (squeeze (c :: rest)) = words (c :: rest) := by
      rw [squeeze_again blank again, ih.1, words_cons_of_blank blank]
    rw [List.dropWhile_cons_of_neg (by simp [blank])]
    exact ⟨same, same⟩
  | case3 c rest blank next ih =>
    have ends : rest.head?.any isBlank = false := by simpa using next
    have same : words (squeeze (c :: rest)) = words (c :: rest) := by
      rw [squeeze_last blank ends, words_cons_of_blank (by decide), ih.1, words_cons_of_blank blank]
    rw [List.dropWhile_cons_of_neg (by simp [blank])]
    exact ⟨same, same⟩
  | case4 c rest solid ih =>
    have first : isBlank c = false := by simpa using solid
    rw [List.dropWhile_cons_of_pos (by simp [first])]
    refine ⟨?_, ih.2⟩
    rw [squeeze_solid first, words_cons_of_solid first, words_cons_of_solid first,
      takeWhile_squeeze (by decide) not_isBlank_stops,
      dropWhile_squeeze (by decide) not_isBlank_stops, ih.2]

theorem words_squeeze (text : List Char) : words (squeeze text) = words text :=
  (words_squeeze_dropWhile text).1

end ScrollTimeline.Text
