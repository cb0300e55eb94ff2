import ScrollTimeline.Proofs.Json.Scanning

/-!
Reading back what is written.

Every value is read back from its text in front of whatever may follow a value. The proof follows the
value; the list of items or fields behind the first one is a recursion of its own.
-/
set_option autoImplicit false

namespace ScrollTimeline.Json

/-- Every string has characters only, and every number is read as it is written. -/
inductive IsClean : Json → Prop where
  | null : IsClean .null
  | bool (value : Bool) : IsClean (.bool value)
  | number {literal : String} (isNumber : IsNumber literal) : IsClean (.number literal)
  | string (s : String) : IsClean (.ofString s)
  | array {items : List Json} (clean : ∀ item ∈ items, IsClean item) : IsClean (.array items)
  | object {fields : List (String × Json)} (clean : ∀ field ∈ fields, IsClean field.2) :
    IsClean (.ofFields fields)

structure Spacing.IsSpacing (spacing : Spacing) : Prop where
  before : ∀ depth, IsBlank (spacing.before depth)
  afterColon : IsBlank spacing.afterColon

theorem Spacing.isSpacing_compact : Spacing.compact.IsSpacing :=
  ⟨fun _ => isBlank_nil, isBlank_nil⟩

theorem Spacing.isSpacing_indented : Spacing.indented.IsSpacing := by
  refine ⟨fun depth => List.forall_mem_cons.mpr ⟨rfl, ?_⟩, List.forall_mem_singleton.mpr rfl⟩
  intro c member
  rw [List.eq_of_mem_replicate member]
  rfl

theorem Closes.append {blanks rest : List Char} (blank : IsBlank blanks) (closes : Closes rest) :
    Closes (blanks ++ rest) := by
  cases blanks with
  | nil => exact closes
  | cons c blanks => exact Closes.cons_iff.mpr (.inl (blank c List.mem_cons_self))

theorem takeValue_append {blanks : List Char} (blank : IsBlank blanks) (fuel : Nat)
    (rest : List Char) : takeValue fuel (blanks ++ rest) = takeValue fuel rest := by
  cases fuel with
  | zero => rfl
  | succ fuel => rw [takeValue, takeValue, skipBlanks_append blank]

/-! ### The first character of a value -/

/-- Starts a value, and ends neither an array nor an object. -/
def Opens (text : List Char) : Prop :=
  ∃ c rest, text = c :: rest ∧ isBlank c = false ∧ c ≠ ']' ∧ c ≠ '\x7d'

theorem opens_cons {c : Char} (rest : List Char) (solid : isBlank c = false) (notItem : c ≠ ']')
    (notField : c ≠ '\x7d') : Opens (c :: rest) :=
  ⟨c, rest, rfl, solid, notItem, notField⟩

theorem Opens.append {text : List Char} (opens : Opens text) (rest : List Char) :
    Opens (text ++ rest) := by
  obtain ⟨c, others, rfl, solid, notItem, notField⟩ := opens
  exact opens_cons (others ++ rest) solid notItem notField

theorem Opens.skipBlanks_eq {text : List Char} (opens : Opens text) : skipBlanks text = text := by
  obtain ⟨c, others, rfl, solid, _, _⟩ := opens
  exact skipBlanks_cons solid others

theorem opens_quoted (text : JsonText) : Opens (quoted text) :=
  opens_cons _ rfl (by decide) (by decide)

theorem IsNumber.first_ne {c : Char} (first : c = '-' ∨ c.isDigit = true) :
    isBlank c = false ∧ c ∉ ['"', '[', ']', '\x7b', '\x7d', 'n', 't', 'f'] := by
  rcases first with rfl | digit
  · decide
  · refine ⟨?_, ?_⟩
    · by_contra blank
      simp only [isBlank, Bool.not_eq_false, Bool.or_eq_true, decide_eq_true_eq] at blank
      rcases blank with ((rfl | rfl) | rfl) | rfl <;> cases digit
    · intro member
      simp only [List.mem_cons, List.not_mem_nil, or_false] at member
      rcases member with rfl | rfl | rfl | rfl | rfl | rfl | rfl | rfl <;> cases digit

theorem IsClean.opens {json : Json} (clean : json.IsClean) (spacing : Spacing) (depth : Nat) :
    Opens (json.chars spacing depth) := by
  cases clean with
  | null => exact opens_cons _ rfl (by decide) (by decide)
  | bool value => cases value <;> exact opens_cons _ rfl (by decide) (by decide)
  | number isNumber =>
    obtain ⟨c, cs, same, first⟩ := isNumber.head
    obtain ⟨solid, other⟩ := IsNumber.first_ne first
    rw [chars, same]
    refine opens_cons cs solid ?_ ?_ <;> rintro rfl <;> exact other (by decide)
  | string s => exact opens_quoted _
  | @array items _ => cases items <;> exact opens_cons _ rfl (by decide) (by decide)
  | @object fields _ => cases fields <;> exact opens_cons _ rfl (by decide) (by decide)

/-! ### One value, after its first character -/

theorem takeValue_string (fuel : Nat) (s : String) (rest : List Char) :
    takeValue (fuel + 1) (quoted (some s) ++ rest) = some (.ofString s, rest) := by
  have shape : quoted (some s) ++ rest = '"' :: (s.toList.flatMap escape ++ '"' :: rest) := by
    simp [quoted]
  rw [shape, takeValue, skipBlanks_cons rfl]
  simp only [takeString_quoted]
  rfl

theorem takeKey_quoted (key : String) (rest : List Char) :
    takeKey (quoted (some key) ++ ':' :: rest) = some (some key, rest) := by
  have shape : quoted (some key) ++ ':' :: rest =
      '"' :: (key.toList.flatMap escape ++ '"' :: ':' :: rest) := by
    simp [quoted]
  rw [shape, takeKey]
  simp only [takeString_quoted, skipBlanks_cons (c := ':') rfl]

theorem takeValue_number {literal : String} (isNumber : IsNumber literal) (fuel : Nat)
    {rest : List Char} (closes : Closes rest) :
    takeValue (fuel + 1) (literal.toList ++ rest) = some (.number literal, rest) := by
  obtain ⟨c, cs, same, first⟩ := isNumber.head
  obtain ⟨solid, other⟩ := IsNumber.first_ne first
  have read := isNumber.takeNumber_append closes
  rw [same, List.cons_append] at read ⊢
  rw [takeValue, skipBlanks_cons solid]
  simp only [List.mem_cons, List.not_mem_nil, or_false, not_or] at other
  split <;> simp_all

theorem takeValue_items {text : List Char} (opens : Opens text) (fuel : Nat)
    {blanks : List Char} (blank : IsBlank blanks) :
    takeValue (fuel + 1) ('[' :: (blanks ++ text)) =
      (takeItems fuel text).map fun (items, rest) => (.array items, rest) := by
  obtain ⟨c, cs, rfl, solid, notItem, _⟩ := opens
  rw [takeValue, skipBlanks_cons (c := '[') rfl]
  simp only [skipBlanks_append blank, skipBlanks_cons solid]
  split
  · rename_i same
    cases same
    exact absurd rfl notItem
  · rfl

theorem takeValue_fields {text : List Char} (opens : Opens text) (fuel : Nat)
    {blanks : List Char} (blank : IsBlank blanks) :
    takeValue (fuel + 1) ('\x7b' :: (blanks ++ text)) =
      (takeFields fuel text).map fun (fields, rest) => (.object fields, rest) := by
  obtain ⟨c, cs, rfl, solid, _, notField⟩ := opens
  rw [takeValue, skipBlanks_cons (c := '\x7b') rfl]
  simp only [skipBlanks_append blank, skipBlanks_cons solid]
  split
  · rename_i same
    cases same
    exact absurd rfl notField
  · rfl

/-! ### Items and fields -/

def named (field : String × Json) : JsonText × Json := (some field.1, field.2)

theorem ofFields_eq (fields : List (String × Json)) : ofFields fields = .object (fields.map named) :=
  rfl

/-- The value is read back from its text. -/
def IsReadable (spacing : Spacing) (json : Json) : Prop :=
  ∀ {depth fuel : Nat} {rest : List Char}, Closes rest →
    2 * (json.chars spacing depth).length ≤ fuel →
      takeValue fuel (json.chars spacing depth ++ rest) = some (json, rest)

variable {spacing : Spacing}

theorem takeItems_chars (isSpacing : spacing.IsSpacing) {depth : Nat} {item : Json}
    {items : List Json} (readable : ∀ x ∈ item :: items, IsReadable spacing x) {fuel : Nat}
    (enough : 2 * (item.chars spacing depth ++ charsOfItems spacing depth items).length < fuel)
    {blanks : List Char} (blank : IsBlank blanks) {ends : List Char} (ending : IsBlank ends)
    (rest : List Char) :
    takeItems fuel (blanks ++ (item.chars spacing depth ++
      (charsOfItems spacing depth items ++ (ends ++ ']' :: rest)))) = some (item :: items, rest) := by
  induction items generalizing item fuel blanks with
  | nil =>
    obtain ⟨first, _⟩ := List.forall_mem_cons.mp readable
    cases fuel with
    | zero => omega
    | succ fuel =>
      have closes : Closes (ends ++ ']' :: rest) :=
        .append ending (Closes.cons_iff.mpr (by decide))
      rw [charsOfItems, List.append_nil] at enough
      rw [takeItems, takeValue_append blank, charsOfItems, List.nil_append,
        first closes (by omega)]
      simp only [Option.bind_eq_bind, Option.bind_some, skipBlanks_append ending,
        skipBlanks_cons (c := ']') rfl]
      rfl
  | cons next items ih =>
    obtain ⟨first, others⟩ := List.forall_mem_cons.mp readable
    cases fuel with
    | zero => omega
    | succ fuel =>
      have shape : charsOfItems spacing depth (next :: items) ++ (ends ++ ']' :: rest) =
          ',' :: (spacing.before depth ++ (next.chars spacing depth ++
            (charsOfItems spacing depth items ++ (ends ++ ']' :: rest)))) := by
        simp [charsOfItems]
      have closes (text : List Char) : Closes (',' :: text) := Closes.cons_iff.mpr (by decide)
      simp only [charsOfItems, List.length_append, List.length_cons, List.length_nil] at enough
      have left : 2 * (next.chars spacing depth ++ charsOfItems spacing depth items).length < fuel := by
        rw [List.length_append]
        omega
      have later := ih others left (isSpacing.before depth)
      rw [takeItems, takeValue_append blank, shape, first (closes _) (by omega)]
      simp only [Option.bind_eq_bind, Option.bind_some, skipBlanks_cons (c := ',') rfl, later]
      rfl

theorem takeFields_chars (isSpacing : spacing.IsSpacing) {depth : Nat} {field : String × Json}
    {fields : List (String × Json)} (readable : ∀ x ∈ field :: fields, IsReadable spacing x.2)
    {fuel : Nat}
    (enough : 2 * (field.2.chars spacing depth ++ charsOfFields spacing depth
      (fields.map named)).length < fuel)
    {blanks : List Char} (blank : IsBlank blanks) {ends : List Char} (ending : IsBlank ends)
    (rest : List Char) :
    takeFields fuel (blanks ++ (quoted (some field.1) ++ ':' :: (spacing.afterColon ++
      (field.2.chars spacing depth ++ (charsOfFields spacing depth
        (fields.map named) ++ (ends ++ '\x7d' :: rest)))))) =
      some ((field :: fields).map named, rest) := by
  induction fields generalizing field fuel blanks with
  | nil =>
    obtain ⟨first, _⟩ := List.forall_mem_cons.mp readable
    cases fuel with
    | zero => omega
    | succ fuel =>
      have closes : Closes (ends ++ '\x7d' :: rest) :=
        .append ending (Closes.cons_iff.mpr (by decide))
      rw [List.map_nil, charsOfFields, List.append_nil] at enough
      rw [takeFields, skipBlanks_append blank, ((opens_quoted _).append _).skipBlanks_eq,
        takeKey_quoted]
      simp only [Option.bind_eq_bind, Option.bind_some, List.map_nil, charsOfFields, List.nil_append,
        takeValue_append isSpacing.afterColon]
      rw [first closes (by omega)]
      simp only [Option.bind_some, skipBlanks_append ending, skipBlanks_cons (c := '\x7d') rfl]
      rfl
  | cons next fields ih =>
    obtain ⟨first, others⟩ := List.forall_mem_cons.mp readable
    cases fuel with
    | zero => omega
    | succ fuel =>
      have shape : charsOfFields spacing depth
          ((next :: fields).map named) ++ (ends ++ '\x7d' :: rest) =
          ',' :: (spacing.before depth ++ (quoted (some next.1) ++ ':' :: (spacing.afterColon ++
            (next.2.chars spacing depth ++ (charsOfFields spacing depth
              (fields.map named) ++ (ends ++ '\x7d' :: rest)))))) := by
        simp [charsOfFields, named]
      have closes (text : List Char) : Closes (',' :: text) := Closes.cons_iff.mpr (by decide)
      simp only [List.map_cons, named, charsOfFields, List.length_append, List.length_cons,
        List.length_nil] at enough
      have left : 2 * (next.2.chars spacing depth ++
          charsOfFields spacing depth (fields.map named)).length < fuel := by
        rw [List.length_append]
        omega
      have later := ih others left (isSpacing.before depth)
      rw [takeFields, skipBlanks_append blank, ((opens_quoted _).append _).skipBlanks_eq,
        takeKey_quoted]
      simp only [Option.bind_eq_bind, Option.bind_some, takeValue_append isSpacing.afterColon]
      rw [shape, first (closes _) (by omega)]
      simp only [Option.bind_some, skipBlanks_cons (c := ',') rfl, later]
      rfl

/-! ### Values -/

/-- A value takes at least one character, so that there is at least one step for it. -/
theorem IsReadable.of_step {json : Json} (clean : json.IsClean)
    (read : ∀ {depth fuel : Nat} {rest : List Char}, Closes rest →
      2 * (json.chars spacing depth).length ≤ fuel + 1 →
        takeValue (fuel + 1) (json.chars spacing depth ++ rest) = some (json, rest)) :
    IsReadable spacing json := by
  intro depth fuel rest closes enough
  obtain ⟨c, others, same, _⟩ := clean.opens spacing depth
  cases fuel with
  | zero => simp [same] at enough
  | succ fuel => exact read closes enough

theorem IsClean.isReadable (isSpacing : spacing.IsSpacing) {json : Json} (clean : json.IsClean) :
    IsReadable spacing json := by
  induction clean with
  | null => exact IsReadable.of_step .null fun _ _ => rfl
  | bool value => exact IsReadable.of_step (.bool value) fun _ _ => by cases value <;> rfl
  | number isNumber =>
    refine IsReadable.of_step (.number isNumber) fun closes _ => ?_
    rw [chars]
    exact takeValue_number isNumber _ closes
  | string s => exact IsReadable.of_step (.string s) fun _ _ => takeValue_string _ s _
  | @array items clean readable =>
    refine IsReadable.of_step (.array clean) ?_
    intro depth fuel rest closes enough
    cases items with
    | nil => rfl
    | cons item items =>
      have opens := (clean item List.mem_cons_self).opens spacing (depth + 1)
      rw [chars] at enough ⊢
      simp only [List.length_append, List.length_cons, List.length_nil] at enough
      simp only [List.append_assoc, List.cons_append, List.nil_append]
      have left : 2 * (item.chars spacing (depth + 1) ++
          charsOfItems spacing (depth + 1) items).length < fuel := by
        rw [List.length_append]
        omega
      have read :=
        takeItems_chars isSpacing readable left isBlank_nil (isSpacing.before depth) rest
      rw [takeValue_items (opens.append _) fuel (isSpacing.before (depth + 1)), ← List.nil_append
        (chars spacing (depth + 1) item ++ _), read]
      rfl
  | @object fields clean readable =>
    refine IsReadable.of_step (.object clean) ?_
    intro depth fuel rest closes enough
    cases fields with
    | nil => rfl
    | cons field fields =>
      rw [ofFields_eq, List.map_cons, named, chars] at enough ⊢
      simp only [List.length_append, List.length_cons, List.length_nil] at enough
      simp only [List.append_assoc, List.cons_append, List.nil_append]
      have left : 2 * (field.2.chars spacing (depth + 1) ++
          charsOfFields spacing (depth + 1) (fields.map named)).length < fuel := by
        rw [List.length_append]
        omega
      have read :=
        takeFields_chars isSpacing readable left isBlank_nil (isSpacing.before depth) rest
      rw [takeValue_fields ((opens_quoted _).append _) fuel (isSpacing.before (depth + 1)),
        ← List.nil_append (quoted (some field.1) ++ _), read]
      rfl

/-- A text that a clean value is written to is read as that value. -/
theorem IsClean.read?_chars (isSpacing : spacing.IsSpacing) {json : Json} (clean : json.IsClean) :
    read? (String.ofList (json.chars spacing 0)) = some json := by
  have read := clean.isReadable isSpacing closes_nil
    (Nat.le_succ (2 * (json.chars spacing 0).length))
  rw [List.append_nil] at read
  simp only [read?, String.toList_ofList, read]
  rfl

theorem IsClean.read?_of_mem {json : Json} (clean : json.IsClean) :
    ∀ write ∈ [compact, indented], read? (write json) = some json := by
  simp only [List.forall_mem_cons, List.not_mem_nil, false_imp_iff, implies_true, and_true]
  exact ⟨clean.read?_chars Spacing.isSpacing_compact, clean.read?_chars Spacing.isSpacing_indented⟩

end ScrollTimeline.Json
