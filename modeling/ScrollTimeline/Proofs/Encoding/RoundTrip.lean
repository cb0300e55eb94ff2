import ScrollTimeline.Encoding
import ScrollTimeline.Proofs.Json.Numbers

/-!
Scenes, outputs and curves in JSON texts, there and back.

The form of a value is read as the value as soon as its numbers are, and it is clean, so that its text is
read as the form.
-/
set_option autoImplicit false

namespace ScrollTimeline

open Json

/-! ### Curves -/

theorem Easing.ofJson?_toJson {curve : Easing Float} (admissible : curve.Admissible)
    (readsBack : ∀ x ∈ [curve.x1, curve.y1, curve.x2, curve.y2], ReadsBack x) :
    curve.toJson.IsClean ∧ ofJson? curve.toJson = some curve := by
  have clean : curve.toJson.IsClean := by
    refine .array fun item member => ?_
    obtain ⟨x, there, rfl⟩ : ∃ x ∈ [curve.x1, curve.y1, curve.x2, curve.y2], ofFloat x = item :=
      List.mem_map.mp member
    exact (readsBack x there).isClean
  have made : ofControls curve.x1 curve.y1 curve.x2 curve.y2 = .ok curve :=
    (ofControls_eq_ok_iff _ _ _ _ _).mpr ⟨rfl, admissible⟩
  simp only [List.forall_mem_cons, List.not_mem_nil, false_imp_iff, implies_true, and_true]
    at readsBack
  obtain ⟨first, second, third, fourth⟩ := readsBack
  refine ⟨clean, ?_⟩
  simp only [toJson, ofJson?, first.float?_eq, second.float?_eq, third.float?_eq, fourth.float?_eq,
    Option.bind_eq_bind, Option.bind_some, made]
  rfl

theorem Easing.ofControls_of_ofJson? {json : Json} {curve : Easing Float}
    (read : ofJson? json = some curve) :
    ofControls curve.x1 curve.y1 curve.x2 curve.y2 = .ok curve := by
  unfold ofJson? at read
  split at read
  · obtain ⟨x1, _, read⟩ := Option.bind_eq_some_iff.mp read
    obtain ⟨y1, _, read⟩ := Option.bind_eq_some_iff.mp read
    obtain ⟨x2, _, read⟩ := Option.bind_eq_some_iff.mp read
    obtain ⟨y2, _, read⟩ := Option.bind_eq_some_iff.mp read
    cases made : ofControls x1 y1 x2 y2 with
    | error problem =>
      rw [made] at read
      cases read
    | ok other =>
      rw [made] at read
      cases read
      obtain ⟨rfl, _⟩ := (ofControls_eq_ok_iff _ _ _ _ _).mp made
      exact made
  · cases read

/-! ### Outputs -/

theorem Output.ofJson?_ofFields (unit : String) {value : Float} (readsBack : ReadsBack value) :
    let json := ofFields [("unit", .ofString unit), ("value", .ofFloat value)]
    json.IsClean ∧ ofJson? json = ofUnit? unit (some (ofFloat value)) := by
  intro json
  constructor
  · exact .object (List.forall_mem_cons.mpr
      ⟨.string unit, List.forall_mem_singleton.mpr readsBack.isClean⟩)
  · simp [json, ofFields, ofJson?, under, ofString, unit?]

theorem Output.ofJson?_toJson {output : Output Float} (readsBack : ∀ x ∈ output.value?, ReadsBack x) :
    output.toJson.IsClean ∧ ofJson? output.toJson = some output := by
  cases output with
  | auto => exact ⟨.object (List.forall_mem_singleton.mpr (.string "auto")), rfl⟩
  | vw value =>
    have kept := readsBack value rfl
    obtain ⟨clean, read⟩ := ofJson?_ofFields "vw" kept
    exact ⟨clean, read.trans (congrArg (Option.map vw) kept.float?_eq)⟩
  | vh value =>
    have kept := readsBack value rfl
    obtain ⟨clean, read⟩ := ofJson?_ofFields "vh" kept
    exact ⟨clean, read.trans (congrArg (Option.map vh) kept.float?_eq)⟩
  | opacity value =>
    have kept := readsBack value rfl
    obtain ⟨clean, read⟩ := ofJson?_ofFields "opacity" kept
    exact ⟨clean, read.trans (congrArg (Option.map opacity) kept.float?_eq)⟩

/-! ### Scenes -/

def Scene.numbers (scene : Scene Float) : List Float :=
  scene.viewportHeight :: scene.elements.map SceneElement.height

theorem SceneElement.ofJson?_toJson {element : SceneElement Float}
    (readsBack : ReadsBack element.height) :
    element.toJson.IsClean ∧ ofJson? element.toJson = some element := by
  obtain ⟨id, directives, height⟩ := element
  have others : ∀ field ∈ [("directives", Json.ofString directives), ("height", ofFloat height)],
      IsClean field.2 :=
    List.forall_mem_cons.mpr ⟨.string directives, List.forall_mem_singleton.mpr readsBack.isClean⟩
  have known : (ofFloat height).float? = some height := readsBack.float?_eq
  cases id with
  | none =>
    refine ⟨.object others, ?_⟩
    simp [toJson, ofFields, ofJson?, single?, under, ofFields?, orDefault?, ofString, text?, known]
  | some id =>
    refine ⟨.object (List.forall_mem_cons.mpr ⟨.string id, others⟩), ?_⟩
    simp [toJson, ofFields, ofJson?, single?, under, ofFields?, orDefault?, ofString, text?,
      nullableText?, known]

theorem SceneElement.mapM_ofJson? {elements : List (SceneElement Float)}
    (readsBack : ∀ element ∈ elements, ReadsBack element.height) :
    (elements.map toJson).mapM ofJson? = some elements := by
  induction elements with
  | nil => rfl
  | cons element rest ih =>
    obtain ⟨first, others⟩ := List.forall_mem_cons.mp readsBack
    rw [List.map_cons, List.mapM_cons, (ofJson?_toJson first).2, ih others]
    rfl

theorem Scene.ofJson?_toJson {scene : Scene Float} (readsBack : ∀ x ∈ scene.numbers, ReadsBack x) :
    scene.toJson.IsClean ∧ ofJson? scene.toJson = some scene := by
  obtain ⟨viewportHeight, elements⟩ := scene
  obtain ⟨height, heights⟩ := List.forall_mem_cons.mp readsBack
  have kept : ∀ element ∈ elements, ReadsBack element.height :=
    fun element member => heights _ (List.mem_map_of_mem member)
  have known : (ofFloat viewportHeight).float? = some viewportHeight := height.float?_eq
  have items : (Json.array (elements.map SceneElement.toJson)).IsClean := by
    refine .array fun item member => ?_
    obtain ⟨element, there, rfl⟩ := List.mem_map.mp member
    exact (SceneElement.ofJson?_toJson (kept element there)).1
  constructor
  · exact .object (List.forall_mem_cons.mpr ⟨height.isClean, List.forall_mem_singleton.mpr items⟩)
  · simp [toJson, ofFields, ofJson?, under, ofFields?, known, SceneElement.mapM_ofJson? kept]

/-- Scenes, outputs and curves are read back from their JSON texts if their numbers are, and no JSON text
is read as a curve whose controls make none. -/
theorem json_roundTrip :
    (∀ scene : Scene Float, (∀ x ∈ scene.numbers, x.isFinite = true ∧ ReadsBack x) →
      ∀ write ∈ [compact, indented],
        (read? (write scene.toJson)).bind Scene.ofJson? = some scene) ∧
    (∀ output : Output Float, (∀ x ∈ output.value?, x.isFinite = true ∧ ReadsBack x) →
      ∀ write ∈ [compact, indented],
        (read? (write output.toJson)).bind Output.ofJson? = some output) ∧
    (∀ (x1 y1 x2 y2 : Float) (curve : Easing Float), Easing.ofControls x1 y1 x2 y2 = .ok curve →
      (∀ x ∈ [x1, y1, x2, y2], ReadsBack x) →
        ∀ write ∈ [compact, indented],
          (read? (write curve.toJson)).bind Easing.ofJson? = some curve) ∧
    ∀ (text : String) (curve : Easing Float), (read? text).bind Easing.ofJson? = some curve →
      Easing.ofControls curve.x1 curve.y1 curve.x2 curve.y2 = .ok curve := by
  refine ⟨?_, ?_, ?_, ?_⟩
  · intro scene readsBack write member
    obtain ⟨clean, read⟩ := Scene.ofJson?_toJson fun x there => (readsBack x there).2
    rw [clean.read?_of_mem write member, Option.bind_some, read]
  · intro output readsBack write member
    obtain ⟨clean, read⟩ := Output.ofJson?_toJson fun x there => (readsBack x there).2
    rw [clean.read?_of_mem write member, Option.bind_some, read]
  · intro x1 y1 x2 y2 curve made readsBack write member
    obtain ⟨rfl, admissible⟩ := (Easing.ofControls_eq_ok_iff _ _ _ _ _).mp made
    obtain ⟨clean, read⟩ := Easing.ofJson?_toJson admissible readsBack
    rw [clean.read?_of_mem write member, Option.bind_some, read]
  · intro text curve read
    obtain ⟨json, _, meant⟩ := Option.bind_eq_some_iff.mp read
    exact Easing.ofControls_of_ofJson? meant

/-- An element without an id, one with an empty id, and characters that are escaped or take several
bytes. -/
def awkward : Scene Float :=
  ⟨1000.5, [⟨none, "", 0.5⟩, ⟨some "", "x 0 10", 900⟩, ⟨some "é\"\\\n\x01 😀", "\ty 5; ", -1e-7⟩]⟩

theorem json_roundTrip_awkward :
    let turn : Output Float := .vh (-12.25)
    let curve : Easing Float := ⟨0.25, 0.1, 0.25, 1⟩
    let steep : Easing Float := ⟨0.5, 2, 1, -1⟩
    (∀ write ∈ [compact, indented],
      (read? (write awkward.toJson)).bind Scene.ofJson? = some awkward ∧
      (read? (write turn.toJson)).bind Output.ofJson? = some turn ∧
      (read? (write (Output.toJson .auto))).bind Output.ofJson? = some .auto ∧
      (read? (write curve.toJson)).bind Easing.ofJson? = some curve) ∧
    (read? " [0.5, 2, 1e0, -1]").bind Easing.ofJson? = some steep ∧
      Easing.ofControls steep.x1 steep.y1 steep.x2 steep.y2 = .ok steep := by
  intro turn curve steep
  obtain ⟨scenes, outputs, curves, texts⟩ := json_roundTrip
  have numbers : ∀ x ∈ awkward.numbers, x.isFinite = true ∧ ReadsBack x := by decide +kernel
  have value : ∀ x ∈ turn.value?, x.isFinite = true ∧ ReadsBack x := by
    intro x member
    cases member
    decide +kernel
  have nothing : ∀ x ∈ (Output.auto : Output Float).value?, x.isFinite = true ∧ ReadsBack x :=
    fun _ absent => by cases absent
  have made : Easing.ofControls curve.x1 curve.y1 curve.x2 curve.y2 = .ok curve := by decide +kernel
  have controls : ∀ x ∈ [curve.x1, curve.y1, curve.x2, curve.y2], ReadsBack x := by decide +kernel
  have read : (read? " [0.5, 2, 1e0, -1]").bind Easing.ofJson? = some steep := by decide +kernel
  refine ⟨?_, read, texts _ steep read⟩
  intro write member
  exact ⟨scenes awkward numbers write member, outputs turn value write member,
    outputs .auto nothing write member, curves _ _ _ _ curve made controls write member⟩

end ScrollTimeline
