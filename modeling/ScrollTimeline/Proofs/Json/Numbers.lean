import ScrollTimeline.Json.Number
import ScrollTimeline.Proofs.Json.RoundTrip

/-!
Doubles in JSON texts, there and back.

Reading may miss the double that was written by one place, so that a double survives is a property of that
double. One that survives on its own does so inside any value, since its text has no white space
in it and is therefore taken as a whole.
-/
set_option autoImplicit false

namespace ScrollTimeline.Json

/-- The text that the double is written to is read as the double. -/
def ReadsBack (x : Float) : Prop := (read? (ofFloat x).compact).bind float? = some x

instance (x : Float) : Decidable (ReadsBack x) := inferInstanceAs (Decidable (_ = _))

/-- The text of this double is read as its neighbour. -/
example : ¬ ReadsBack 31.245270191439438 := by decide +kernel

/-! ### Texts without white space -/

def IsSolid (text : List Char) : Prop := ∀ c ∈ text, isBlank c = false

theorem isSolid_of_isDigit {text : List Char} (digits : ∀ c ∈ text, c.isDigit = true) :
    IsSolid text :=
  fun c member => (IsNumber.first_ne (.inr (digits c member))).1

theorem isSolid_toDigits (n : Nat) : IsSolid (Nat.toDigits 10 n) :=
  isSolid_of_isDigit fun _ => Nat.isDigit_of_mem_toDigits (by decide) (by decide)

theorem IsSolid.append {text text' : List Char} (solid : IsSolid text) (solid' : IsSolid text') :
    IsSolid (text ++ text') := by
  intro c member
  rcases List.mem_append.mp member with first | second
  · exact solid c first
  · exact solid' c second

theorem IsSolid.of_subset {text text' : List Char} (solid : IsSolid text) (part : text' ⊆ text) :
    IsSolid text' :=
  fun c member => solid c (part member)

theorem IsSolid.skipBlanks_eq {text : List Char} (solid : IsSolid text) : skipBlanks text = text := by
  cases text with
  | nil => rfl
  | cons c text => exact skipBlanks_cons (solid c List.mem_cons_self) text

/-- None of the pieces has white space in it. -/
def AreSolid (pieces : List String) : Prop := ∀ piece ∈ pieces, IsSolid piece.toList

theorem AreSolid.append {pieces pieces' : List String} (solid : AreSolid pieces)
    (solid' : AreSolid pieces') : AreSolid (pieces ++ pieces') := by
  intro piece member
  rcases List.mem_append.mp member with first | second
  · exact solid piece first
  · exact solid' piece second

theorem areSolid_nil : AreSolid [] := fun _ absent => by cases absent

theorem areSolid_cons {piece : String} {pieces : List String} (solid : IsSolid piece.toList)
    (others : AreSolid pieces) : AreSolid (piece :: pieces) :=
  List.forall_mem_cons.mpr ⟨solid, others⟩

theorem areSolid_singleton {piece : String} (solid : IsSolid piece.toList) : AreSolid [piece] :=
  List.forall_mem_singleton.mpr solid

theorem areSolid_ite {condition : Prop} [Decidable condition] {pieces pieces' : List String}
    (solid : AreSolid pieces) (solid' : AreSolid pieces') :
    AreSolid (if condition then pieces else pieces') := by
  split
  · exact solid
  · exact solid'

theorem isSolid_ofList {text : List Char} (solid : IsSolid text) :
    IsSolid (String.ofList text).toList := by
  rw [String.toList_ofList]
  exact solid

theorem isSolid_of_decide {text : List Char} (all : text.all (fun c => !isBlank c) = true) :
    IsSolid text := by
  intro c member
  simpa using List.all_eq_true.mp all c member

/-! ### The text of a double -/

theorem isSolid_pushn (n : Nat) : IsSolid ("".pushn '0' n).toList := by
  induction n with
  | zero => exact fun _ absent => by cases absent
  | succ n ih =>
    have pushed : "".pushn '0' (n + 1) = ("".pushn '0' n).push '0' := rfl
    rw [pushed, String.toList_push]
    exact ih.append (List.forall_mem_singleton.mpr rfl)

theorem areSolid_zeros (n : Nat) : AreSolid (Decimal.zeros n) := by
  refine .append ?_ (areSolid_ite areSolid_nil (areSolid_singleton (isSolid_pushn _)))
  intro piece member
  rw [List.eq_of_mem_replicate member]
  exact isSolid_pushn _

theorem areSolid_positionalPieces (layout : Decimal.Layout) (digits : Decimal.Digits) :
    AreSolid (Decimal.positionalPieces layout digits) := by
  have significand := isSolid_toDigits digits.significand
  have whole := areSolid_singleton (isSolid_ofList significand)
  have front (n : Nat) := isSolid_ofList (significand.of_subset (List.take_subset n _))
  have back (n : Nat) := isSolid_ofList (significand.of_subset (List.drop_subset n _))
  have point : IsSolid ".".toList := isSolid_of_decide (by decide)
  have leading : AreSolid ["0."] := areSolid_singleton (isSolid_of_decide (by decide))
  have trailing : AreSolid [".0"] := areSolid_singleton (isSolid_of_decide (by decide))
  rw [Decimal.positionalPieces]
  refine areSolid_ite ((leading.append (areSolid_zeros _)).append whole) (areSolid_ite ?_ ?_)
  · exact areSolid_cons (front _) (areSolid_cons point (areSolid_singleton (back _)))
  · exact (whole.append (areSolid_zeros _)).append (areSolid_ite trailing areSolid_nil)

theorem areSolid_exponentPieces (layout : Decimal.Layout) (digits : Decimal.Digits) :
    AreSolid (Decimal.exponentPieces layout digits) := by
  have whole := isSolid_toDigits digits.significand
  have point : IsSolid ".".toList := isSolid_of_decide (by decide)
  rw [Decimal.exponentPieces]
  refine .append ?_ (areSolid_singleton ?_)
  · split
    · exact areSolid_singleton (isSolid_ofList whole)
    · have first := isSolid_ofList (whole.of_subset (List.take_subset 1 _))
      have others := isSolid_ofList (whole.of_subset (List.drop_subset 1 _))
      exact areSolid_cons first (areSolid_cons point (areSolid_singleton others))
  · rw [String.toList_append, String.toList_append]
    refine .append (.append (isSolid_of_decide (by decide)) ?_) ?_
    · split_ifs <;> exact isSolid_of_decide (by decide)
    · rw [Nat.toString_eq_repr, Nat.toList_repr]
      exact isSolid_toDigits _

theorem areSolid_pieces (layout : Decimal.Layout) (x : Float) : AreSolid (layout.pieces x) := by
  have single {piece : String} (solid : piece.toList.all (fun c => !isBlank c) = true) :
      AreSolid [piece] :=
    areSolid_singleton (isSolid_of_decide solid)
  rw [Decimal.Layout.pieces]
  refine areSolid_ite (single (by decide)) ?_
  have sign : AreSolid (if x.toBits.toNat < Binary.signBit then [] else ["-"]) :=
    areSolid_ite areSolid_nil (single (by decide))
  refine areSolid_ite (sign.append (single (by decide))) (areSolid_ite (sign.append ?_) (sign.append ?_))
  · split_ifs <;> exact single (by decide)
  · rw [Decimal.Layout.digitPieces]
    split
    · exact areSolid_positionalPieces layout _
    · exact areSolid_ite (areSolid_positionalPieces layout _) (areSolid_exponentPieces layout _)

theorem isSolid_text (layout : Decimal.Layout) (x : Float) : IsSolid (layout.text x).toList := by
  rw [Decimal.Layout.text, String.toList_join]
  intro c member
  obtain ⟨piece, there, inside⟩ := List.mem_flatMap.mp member
  exact areSolid_pieces layout x piece there c inside

/-! ### Doubles that survive -/

theorem takeNumber_of_takeValue {fuel : Nat} {text left : List Char} {literal : String}
    (read : takeValue fuel text = some (.number literal, left)) :
    takeNumber (skipBlanks text) = some (.number literal, left) := by
  cases fuel with
  | zero => cases read
  | succ fuel =>
    rw [takeValue] at read
    split at read
    case h_7 => exact read
    case h_2 | h_3 =>
      split at read
      · cases read
      · obtain ⟨_, _, same⟩ := Option.map_eq_some_iff.mp read
        cases same
    all_goals
      obtain ⟨_, _, same⟩ := Option.map_eq_some_iff.mp read
      cases same

/-- A text without white space that is read as a number is that number. -/
theorem isNumber_of_read? {text literal : String} (solid : IsSolid text.toList)
    (read : read? text = some (.number literal)) : literal = text ∧ IsNumber text := by
  rw [read?] at read
  split at read
  · rename_i json left taken
    split at read
    · rename_i rest
      cases read
      have number := takeNumber_of_takeValue taken
      rw [solid.skipBlanks_eq] at number
      obtain ⟨_, same, whole⟩ := takeNumber_exact number
      cases same
      have nothing : left = [] := by
        have part : left ⊆ text.toList := by
          rw [whole]
          exact List.subset_append_right _ _
        rw [← (solid.of_subset part).skipBlanks_eq]
        exact rest
      rw [nothing, List.append_nil] at whole
      have equal : literal = text := String.toList_inj.mp whole.symm
      rw [nothing, equal] at number
      exact ⟨equal, number⟩
    · cases read
  · cases read

namespace ReadsBack

variable {x : Float} (readsBack : ReadsBack x)

include readsBack

theorem isFinite : x.isFinite = true := by
  by_contra infinite
  have nothing : ofFloat x = .null := if_neg infinite
  rw [ReadsBack, nothing] at readsBack
  cases readsBack

theorem ofFloat_eq : ofFloat x = .number (Decimal.Layout.json.text x) := if_pos readsBack.isFinite

theorem clean_and_float : (ofFloat x).IsClean ∧ (ofFloat x).float? = some x := by
  have read := readsBack
  obtain ⟨json, parsed, meant⟩ := Option.bind_eq_some_iff.mp read
  rw [readsBack.ofFloat_eq] at parsed ⊢
  cases json with
  | number literal =>
    have written : (Json.number (Decimal.Layout.json.text x)).compact =
        Decimal.Layout.json.text x := String.ofList_toList
    rw [written] at parsed
    obtain ⟨rfl, isNumber⟩ := isNumber_of_read? (isSolid_text _ x) parsed
    exact ⟨.number isNumber, meant⟩
  | _ => cases meant

theorem isClean : (ofFloat x).IsClean := readsBack.clean_and_float.1

theorem float?_eq : (ofFloat x).float? = some x := readsBack.clean_and_float.2

end ReadsBack

end ScrollTimeline.Json
