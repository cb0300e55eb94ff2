import ScrollTimeline.Proofs.Axis.Spans

/-!
The bytes of a text.

A character is one byte if it is ASCII; else all its bytes are above ASCII, and only the first of them is
above 0xbf. A test that answers alike above ASCII therefore sees of a text's bytes what it sees of its
characters; so do all tests that cut an axis into tokens, but that for white space.
-/
set_option autoImplicit false

namespace ScrollTimeline.Lexeme

/-! ### Bytes -/

/-- The bytes of a character, encoded in UTF-8, each read as the character of its number. -/
def encode (c : Char) : List Char := (String.utf8EncodeChar c).map fun b => Char.ofNat b.toNat

def bytesOf (text : List Char) : List Char := text.flatMap encode

theorem bytesOf_cons (c : Char) (rest : List Char) : bytesOf (c :: rest) = encode c ++ bytesOf rest :=
  List.flatMap_cons

theorem bytesOf_append (text text' : List Char) : bytesOf (text ++ text') = bytesOf text ++ bytesOf text' :=
  List.flatMap_append

theorem length_bytesOf (text : List Char) : (bytesOf text).length = byteLength text := by
  induction text with
  | nil => rfl
  | cons c rest ih =>
    rw [bytesOf_cons, List.length_append, ih, byteLength_cons, encode, List.length_map,
      String.length_utf8EncodeChar]

theorem drop_bytesOf (front rest : List Char) :
    (bytesOf (front ++ rest)).drop (byteLength front) = bytesOf rest := by
  rw [bytesOf_append, ← length_bytesOf, List.drop_left]

theorem utf8Size_of_ascii {c : Char} (ascii : c.toNat < 0x80) : c.utf8Size = 1 :=
  Char.utf8Size_eq_one_iff.mpr (Nat.le_of_lt_succ ascii)

theorem encode_of_ascii {c : Char} (ascii : c.toNat < 0x80) : encode c = [c] := by
  have small : c.val.toNat ≤ 127 := Nat.le_of_lt_succ ascii
  have same : c.val.toNat % 256 = c.toNat := Nat.mod_eq_of_lt (by omega)
  rw [encode, String.utf8EncodeChar, if_pos small, List.map_singleton, UInt8.toNat_ofNat', same,
    Char.ofNat_toNat]

/-- A byte behind the first one of a character. -/
theorem le_toNat_later (n : Nat) : 0x80 ≤ (Char.ofNat (UInt8.ofNat (n % 64 + 128)).toNat).toNat := by
  have same : (UInt8.ofNat (n % 64 + 128)).toNat = n % 64 + 128 := by
    rw [UInt8.toNat_ofNat']
    omega
  rw [same, toNat_ofNat (by omega)]
  omega

/-- All bytes of a character above ASCII are above ASCII, and the first one is no byte behind another. -/
theorem encode_of_beyond {c : Char} (beyond : 0x80 ≤ c.toNat) :
    ∃ later, encode c = Char.ofNat (leadByte c) :: later ∧
      0xc0 ≤ leadByte c ∧ leadByte c < 0x100 ∧ ∀ b ∈ later, 0x80 ≤ b.toNat := by
  have number : c.val.toNat = c.toNat := rfl
  have range : c.toNat < 0x110000 := by
    rcases c.valid with low | ⟨_, high⟩
    · exact Nat.lt_trans low (by decide)
    · exact high
  rw [encode, String.utf8EncodeChar, number]
  rw [if_neg (by omega)]
  -- The cases are those of the number of bytes.
  split
  · have lead : leadByte c = 0xc0 + c.toNat / 0x40 := by
      simp only [leadByte]
      rw [if_neg (by omega), if_pos (by omega)]
    have first : (UInt8.ofNat (c.toNat / 64 % 32 + 192)).toNat = leadByte c := by
      rw [UInt8.toNat_ofNat', lead]
      omega
    refine ⟨_, by rw [List.map_cons, first], by omega, by omega, ?_⟩
    exact List.forall_mem_singleton.mpr (le_toNat_later _)
  split
  · have lead : leadByte c = 0xe0 + c.toNat / 0x1000 := by
      simp only [leadByte]
      rw [if_neg (by omega), if_neg (by omega), if_pos (by omega)]
    have first : (UInt8.ofNat (c.toNat / 4096 % 16 + 224)).toNat = leadByte c := by
      rw [UInt8.toNat_ofNat', lead]
      omega
    refine ⟨_, by rw [List.map_cons, first], by omega, by omega, ?_⟩
    exact List.forall_mem_cons.mpr ⟨le_toNat_later _, List.forall_mem_singleton.mpr (le_toNat_later _)⟩
  · have lead : leadByte c = 0xf0 + c.toNat / 0x40000 := by
      simp only [leadByte]
      rw [if_neg (by omega), if_neg (by omega), if_neg (by omega)]
    have first : (UInt8.ofNat (c.toNat / 262144 % 8 + 240)).toNat = leadByte c := by
      rw [UInt8.toNat_ofNat', lead]
      omega
    refine ⟨_, by rw [List.map_cons, first], by omega, by omega, ?_⟩
    exact List.forall_mem_cons.mpr ⟨le_toNat_later _, List.forall_mem_cons.mpr
      ⟨le_toNat_later _, List.forall_mem_singleton.mpr (le_toNat_later _)⟩⟩

example : bytesOf ['à'] = ['\u00c3', '\u00a0'] := by decide

theorem exists_encode (c : Char) : ∃ later, encode c = Char.ofNat (leadByte c) :: later := by
  rcases Nat.lt_or_ge c.toNat 0x80 with ascii | beyond
  · have same : Char.ofNat (leadByte c) = c := (ofNat_leadByte_eq_iff c).mpr (.inl ascii)
    exact ⟨[], by rw [encode_of_ascii ascii, same]⟩
  · obtain ⟨later, bytes, _⟩ := encode_of_beyond beyond
    exact ⟨later, bytes⟩

theorem exists_bytesOf_cons (c : Char) (rest : List Char) :
    ∃ later, bytesOf (c :: rest) = Char.ofNat (leadByte c) :: later := by
  obtain ⟨later, bytes⟩ := exists_encode c
  exact ⟨later ++ bytesOf rest, by rw [bytesOf_cons, bytes, List.cons_append]⟩

theorem bytesOf_of_ascii {text : List Char} (ascii : ∀ c ∈ text, c.toNat < 0x80) :
    bytesOf text = text := by
  induction text with
  | nil => rfl
  | cons c rest ih =>
    obtain ⟨first, later⟩ := List.forall_mem_cons.mp ascii
    rw [bytesOf_cons, encode_of_ascii first, ih later, List.singleton_append]

theorem byteLength_of_ascii {text : List Char} (ascii : ∀ c ∈ text, c.toNat < 0x80) :
    byteLength text = text.length := by
  rw [← length_bytesOf, bytesOf_of_ascii ascii]

/-! ### Tests of bytes -/

/-- The test answers alike above ASCII. -/
def IsCoarse (test : Char → Bool) : Prop :=
  ∀ c d : Char, 0x80 ≤ c.toNat → 0x80 ≤ d.toNat → test c = test d

theorem isCoarse_of_ascii {test : Char → Bool} (ascii : ∀ c, test c = true → c.toNat < 0x80) :
    IsCoarse test := by
  have refused : ∀ c : Char, 0x80 ≤ c.toNat → test c = false := by
    intro c beyond
    cases passed : test c with
    | false => rfl
    | true => exact absurd (ascii c passed) (by omega)
  intro c d beyond beyond'
  rw [refused c beyond, refused d beyond']

section

variable {test : Char → Bool} (coarse : IsCoarse test)

include coarse

theorem IsCoarse.not : IsCoarse fun c => !test c :=
  fun c d beyond beyond' => congrArg (! ·) (coarse c d beyond beyond')

theorem IsCoarse.of_mem_encode {c b : Char} (member : b ∈ encode c) : test b = test c := by
  rcases Nat.lt_or_ge c.toNat 0x80 with ascii | beyond
  · rw [encode_of_ascii ascii] at member
    rw [List.mem_singleton.mp member]
  · obtain ⟨later, bytes, low, high, others⟩ := encode_of_beyond beyond
    rw [bytes] at member
    rcases List.mem_cons.mp member with rfl | behind
    · exact coarse _ _ (by rw [toNat_ofNat] <;> omega) beyond
    · exact coarse _ _ (others b behind) beyond

theorem IsCoarse.ofNat_leadByte (c : Char) : test (Char.ofNat (leadByte c)) = test c := by
  obtain ⟨later, bytes⟩ := exists_encode c
  exact coarse.of_mem_encode (bytes ▸ List.mem_cons_self)

theorem IsCoarse.head?_bytesOf (text : List Char) :
    (bytesOf text).head?.any test = text.head?.any test := by
  cases text with
  | nil => rfl
  | cons c rest =>
    obtain ⟨later, bytes⟩ := exists_bytesOf_cons c rest
    rw [bytes]
    exact coarse.ofNat_leadByte c

theorem IsCoarse.takeWhile_bytesOf (text : List Char) :
    (bytesOf text).takeWhile test = bytesOf (text.takeWhile test) := by
  induction text with
  | nil => rfl
  | cons c rest ih =>
    by_cases passed : test c = true
    · have all : ∀ b ∈ encode c, test b = true :=
        fun b member => (coarse.of_mem_encode member).trans passed
      rw [List.takeWhile_cons_of_pos passed, bytesOf_cons, bytesOf_cons,
        List.takeWhile_append_of_pos all, ih]
    · obtain ⟨later, bytes⟩ := exists_bytesOf_cons c rest
      have first : ¬ test (Char.ofNat (leadByte c)) = true := by rwa [coarse.ofNat_leadByte]
      rw [List.takeWhile_cons_of_neg passed, bytes, List.takeWhile_cons_of_neg first]
      rfl

theorem IsCoarse.dropWhile_bytesOf (text : List Char) :
    (bytesOf text).dropWhile test = bytesOf (text.dropWhile test) := by
  induction text with
  | nil => rfl
  | cons c rest ih =>
    by_cases passed : test c = true
    · have all : ∀ b ∈ encode c, test b = true :=
        fun b member => (coarse.of_mem_encode member).trans passed
      rw [List.dropWhile_cons_of_pos passed, bytesOf_cons, List.dropWhile_append_of_pos all, ih]
    · obtain ⟨later, bytes⟩ := exists_bytesOf_cons c rest
      have first : ¬ test (Char.ofNat (leadByte c)) = true := by rwa [coarse.ofNat_leadByte]
      rw [List.dropWhile_cons_of_neg passed, bytes, List.dropWhile_cons_of_neg first]

end

/-! ### Bytes that tokens are made of -/

theorem lt_of_isAlphanum {c : Char} (letter : c.isAlphanum = true) : c.toNat < 0x80 := by
  change ((c.isUpper || c.isLower) || c.isDigit) = true at letter
  simp only [Bool.or_eq_true] at letter
  rcases letter with (upper | lower) | digit
  · have span : 65 ≤ c.toNat ∧ c.toNat ≤ 90 := of_decide_eq_true upper
    omega
  · have span : 97 ≤ c.toNat ∧ c.toNat ≤ 122 :=
      (Bool.and_eq_true_iff.mp lower).imp of_decide_eq_true of_decide_eq_true
    omega
  · have span : 48 ≤ c.toNat ∧ c.toNat ≤ 57 :=
      (Bool.and_eq_true_iff.mp digit).imp of_decide_eq_true of_decide_eq_true
    omega

theorem lt_of_isDigit {c : Char} (digit : c.isDigit = true) : c.toNat < 0x80 :=
  lt_of_isAlphanum (Bool.or_eq_true_iff.mpr (.inr digit))

theorem lt_of_continuesWord {c : Char} (continues : continuesWord c = true) : c.toNat < 0x80 := by
  simp only [continuesWord, Bool.or_eq_true, decide_eq_true_eq] at continues
  rcases continues with (letter | rfl) | rfl
  · exact lt_of_isAlphanum letter
  · decide
  · decide

theorem lt_of_startsWord {c : Char} (starts : startsWord c = true) : c.toNat < 0x80 := by
  simp only [startsWord, Bool.or_eq_true, decide_eq_true_eq] at starts
  rcases starts with (letter | rfl) | rfl
  · exact lt_of_isAlphanum (Bool.or_eq_true_iff.mpr (.inl letter))
  · decide
  · decide

theorem lt_of_endsId {c : Char} (ends : endsId c = true) : c.toNat < 0x80 := by
  simp only [endsId, Bool.or_eq_true, decide_eq_true_eq] at ends
  rcases ends with (((((rfl | rfl) | rfl) | rfl) | rfl) | rfl) | rfl <;> decide

theorem lt_of_isSpace {c : Char} (space : isSpace c = true) : c.toNat < 0x80 := by
  simp only [isSpace, Bool.or_eq_true, decide_eq_true_eq] at space
  rcases space with ((((rfl | rfl) | rfl) | rfl) | rfl) | rfl <;> decide

theorem lt_of_mark? {c : Char} {token : Token} (mark : mark? c = some token) : c.toNat < 0x80 := by
  rw [mark?.eq_def] at mark
  split at mark <;> first | decide | cases mark

theorem isCoarse_isDigit : IsCoarse Char.isDigit := isCoarse_of_ascii fun _ => lt_of_isDigit

theorem isCoarse_continuesWord : IsCoarse continuesWord :=
  isCoarse_of_ascii fun _ => lt_of_continuesWord

theorem isCoarse_startsWord : IsCoarse startsWord := isCoarse_of_ascii fun _ => lt_of_startsWord

theorem isCoarse_endsId : IsCoarse endsId := isCoarse_of_ascii fun _ => lt_of_endsId

theorem isCoarse_eq {c : Char} (ascii : c.toNat < 0x80) : IsCoarse fun b => decide (b = c) := by
  refine isCoarse_of_ascii ?_
  intro b same
  rwa [of_decide_eq_true same]

theorem mark?_ofNat_leadByte (c : Char) : mark? (Char.ofNat (leadByte c)) = mark? c := by
  rcases Nat.lt_or_ge c.toNat 0x80 with ascii | beyond
  · rw [(ofNat_leadByte_eq_iff c).mpr (.inl ascii)]
  · have unmarked : ∀ d : Char, 0x80 ≤ d.toNat → mark? d = none := by
      intro d beyond
      cases mark : mark? d with
      | none => rfl
      | some token => exact absurd (lt_of_mark? mark) (by omega)
    obtain ⟨_, _, low, high, _⟩ := encode_of_beyond beyond
    rw [unmarked c beyond, unmarked _ (by rw [toNat_ofNat] <;> omega)]

theorem isBlank_of_ascii {c : Char} (ascii : c.toNat < 0x80) : Text.isBlank c = isSpace c := by
  rw [Bool.eq_iff_iff]
  simp only [Text.isBlank, isSpace, Bool.or_eq_true, Bool.and_eq_true, decide_eq_true_eq,
    ← Char.toNat_inj]
  have space : ' '.toNat = 32 := rfl
  have tab : '\t'.toNat = 9 := rfl
  have feed : '\n'.toNat = 10 := rfl
  have vertical : '\x0b'.toNat = 11 := rfl
  have page : '\x0c'.toNat = 12 := rfl
  have turn : '\r'.toNat = 13 := rfl
  omega

/-- The bytes that are white space and above ASCII stand behind another byte of their character. -/
theorem isBlank_ofNat_leadByte (c : Char) : Text.isBlank (Char.ofNat (leadByte c)) = isSpace c := by
  rcases Nat.lt_or_ge c.toNat 0x80 with ascii | beyond
  · rw [(ofNat_leadByte_eq_iff c).mpr (.inl ascii), isBlank_of_ascii ascii]
  · obtain ⟨_, _, low, high, _⟩ := encode_of_beyond beyond
    have solid : isSpace c = false := by
      cases space : isSpace c with
      | false => rfl
      | true => exact absurd (lt_of_isSpace space) (by omega)
    have number : (Char.ofNat (leadByte c)).toNat = leadByte c := toNat_ofNat (by omega)
    rw [solid]
    simp only [Text.isBlank, number, Bool.or_eq_false_iff, Bool.and_eq_false_iff, decide_eq_false_iff_not]
    omega

theorem startsFraction_bytesOf (text : List Char) :
    startsFraction (bytesOf text) = startsFraction text := by
  cases text with
  | nil => rfl
  | cons c rest =>
    by_cases point : c = '.'
    · have bytes : bytesOf (c :: rest) = '.' :: bytesOf rest := by
        rw [point, bytesOf_cons, encode_of_ascii (by decide), List.singleton_append]
      rw [bytes, point, startsFraction_point, startsFraction_point, isCoarse_isDigit.head?_bytesOf]
    · obtain ⟨later, bytes⟩ := exists_bytesOf_cons c rest
      have same := (isCoarse_eq (c := '.') (by decide)).ofNat_leadByte c
      have other : Char.ofNat (leadByte c) ≠ '.' := by simpa [point] using same
      rw [bytes, startsFraction_cons_of_ne other, startsFraction_cons_of_ne point]

theorem startsNumber_bytesOf (text : List Char) : startsNumber (bytesOf text) = startsNumber text := by
  rw [startsNumber, startsNumber, isCoarse_isDigit.head?_bytesOf, startsFraction_bytesOf]

theorem bytesOf_takeWhile_isDigit (text : List Char) :
    bytesOf (text.takeWhile Char.isDigit) = text.takeWhile Char.isDigit :=
  bytesOf_of_ascii fun _ member => lt_of_isDigit (List.mem_takeWhile_imp member)

theorem splitNumber_bytesOf (text : List Char) :
    splitNumber (bytesOf text) =
      ((splitNumber text).1, (splitNumber text).2.1, bytesOf (splitNumber text).2.2) := by
  rw [splitNumber, splitNumber, isCoarse_isDigit.takeWhile_bytesOf, bytesOf_takeWhile_isDigit,
    isCoarse_isDigit.dropWhile_bytesOf, startsFraction_bytesOf]
  split
  · rename_i starts
    obtain ⟨rest, shape⟩ := exists_of_startsFraction starts
    have bytes : bytesOf ('.' :: rest) = '.' :: bytesOf rest := by
      rw [bytesOf_cons, encode_of_ascii (by decide), List.singleton_append]
    rw [shape, bytes]
    simp only [List.drop_succ_cons, List.drop_zero, isCoarse_isDigit.takeWhile_bytesOf,
      bytesOf_takeWhile_isDigit, isCoarse_isDigit.dropWhile_bytesOf]
  · rfl

end ScrollTimeline.Lexeme
