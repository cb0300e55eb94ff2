import Mathlib.Data.List.Infix
import ScrollTimeline.Render

/-!
The calls of one update, made one after the other up to the first that fails.

A renderer that notes each call as it is made tells which calls these are. The notes change nothing
else, so what is said of them is said of every renderer.
-/
set_option autoImplicit false

namespace ScrollTimeline

variable {α σ ε : Type}

theorem Action.run_bind {β γ : Type} (first : Action σ ε β) (next : β → Action σ ε γ) (state : σ) :
    (first >>= next).run state =
      match first.run state with
      | (.ok b, between) => (next b).run between
      | (.error error, between) => (.error error, between) := by
  change (match (first.run state).1 with
    | .ok b => (next b).run
    | .error error => pure (.error error)) (first.run state).2 = _
  rcases first.run state with ⟨_ | _, between⟩ <;> rfl

namespace Renderer

def note (renderer : Renderer α σ ε) (call : RenderCall α) :
    Action (List (RenderCall α) × σ) ε Unit := fun (made, state) =>
  let (result, next) := (renderer.perform call).run state
  (result, made ++ [call], next)

/-- The same renderer, with a list of the calls that have been made beside its state. -/
def noting (renderer : Renderer α σ ε) : Renderer α (List (RenderCall α) × σ) ε where
  start scroll := renderer.note (.start scroll)
  draw sample := renderer.note (.draw sample)
  finish := renderer.note .finish

def performAll (renderer : Renderer α σ ε) (calls : List (RenderCall α)) : Action σ ε Unit :=
  calls.forM renderer.perform

theorem perform_noting (renderer : Renderer α σ ε) (call : RenderCall α) :
    renderer.noting.perform call = renderer.note call := by
  cases call <;> rfl

theorem performAll_cons_of_ok {renderer : Renderer α σ ε} {call : RenderCall α} {state next : σ}
    (rest : List (RenderCall α)) (works : (renderer.perform call).run state = (.ok (), next)) :
    (renderer.performAll (call :: rest)).run state = (renderer.performAll rest).run next := by
  have opened := Action.run_bind (renderer.perform call) (fun _ => renderer.performAll rest) state
  rw [works] at opened
  exact opened

theorem performAll_cons_of_error {renderer : Renderer α σ ε} {call : RenderCall α}
    {state next : σ} {error : ε} (rest : List (RenderCall α))
    (fails : (renderer.perform call).run state = (.error error, next)) :
    (renderer.performAll (call :: rest)).run state = (.error error, next) := by
  have opened := Action.run_bind (renderer.perform call) (fun _ => renderer.performAll rest) state
  rw [fails] at opened
  exact opened

/-- All of these calls succeed, one after the other, and lead from one state to another. -/
inductive Succeeds (renderer : Renderer α σ ε) : σ → List (RenderCall α) → σ → Prop where
  | nil (state : σ) : Succeeds renderer state [] state
  | cons {state next last : σ} {call : RenderCall α} {rest : List (RenderCall α)}
      (works : (renderer.perform call).run state = (.ok (), next))
      (later : Succeeds renderer next rest last) : Succeeds renderer state (call :: rest) last

/-- What has come of some calls that were to be made, of which the given ones have been made. -/
structure Went (renderer : Renderer α σ ε) (calls made : List (RenderCall α)) (state last : σ)
    (result : Except ε Unit) : Prop where
  inOrder : made <+: calls
  complete : result = .ok () → made = calls ∧ renderer.Succeeds state calls last
  succeeds : ∀ next, renderer.Succeeds state calls next → result = .ok ()
  stopped : ∀ error, result = .error error → ∃ before call between, made = before ++ [call] ∧
    renderer.Succeeds state before between ∧
      (renderer.perform call).run between = (.error error, last)

variable {renderer : Renderer α σ ε} {state last : σ}

theorem Went.nil : renderer.Went [] [] state state (.ok ()) :=
  { inOrder := List.prefix_refl []
    complete := fun _ => ⟨rfl, .nil state⟩
    succeeds := fun _ _ => rfl
    stopped := fun _ failed => by cases failed }

theorem Went.of_ok {call : RenderCall α} {rest made : List (RenderCall α)} {next : σ}
    {result : Except ε Unit} (works : (renderer.perform call).run state = (.ok (), next))
    (later : renderer.Went rest made next last result) :
    renderer.Went (call :: rest) (call :: made) state last result := by
  refine ⟨(List.prefix_cons_inj call).mpr later.inOrder, ?_, ?_, ?_⟩
  · intro completed
    obtain ⟨all, succeeded⟩ := later.complete completed
    exact ⟨all ▸ rfl, .cons works succeeded⟩
  · rintro other (_ | ⟨works', succeeded⟩)
    rw [works] at works'
    cases works'
    exact later.succeeds other succeeded
  · intro error failed
    obtain ⟨before, last', between, split, succeeded, fails⟩ := later.stopped error failed
    exact ⟨call :: before, last', between, split ▸ rfl, .cons works succeeded, fails⟩

theorem Went.of_error {call : RenderCall α} (rest : List (RenderCall α)) {error : ε}
    (fails : (renderer.perform call).run state = (.error error, last)) :
    renderer.Went (call :: rest) [call] state last (.error error) := by
  refine ⟨List.prefix_append [call] rest, ?_, ?_, ?_⟩
  · intro completed
    cases completed
  · rintro other (_ | ⟨works, _⟩)
    rw [fails] at works
    cases works
  · rintro _ ⟨⟩
    exact ⟨[], call, state, rfl, .nil state, fails⟩

theorem went_performAll (renderer : Renderer α σ ε) (calls noted : List (RenderCall α)) (state : σ) :
    ∃ made last result, (renderer.performAll calls).run state = (result, last) ∧
      (renderer.noting.performAll calls).run (noted, state) = (result, noted ++ made, last) ∧
        renderer.Went calls made state last result := by
  induction calls generalizing noted state with
  | nil => exact ⟨[], state, .ok (), rfl, by rw [List.append_nil]; rfl, .nil⟩
  | cons call rest ih =>
    have both : (renderer.noting.perform call).run (noted, state) =
        (((renderer.perform call).run state).1, noted ++ [call],
          ((renderer.perform call).run state).2) := by
      rw [perform_noting]
      rfl
    cases outcome : (renderer.perform call).run state with
    | mk result next =>
      rw [outcome] at both
      cases result with
      | error error =>
        exact ⟨[call], next, .error error, performAll_cons_of_error rest outcome,
          performAll_cons_of_error rest both, .of_error rest outcome⟩
      | ok _ =>
        obtain ⟨made, last, result, ran, ranNoting, went⟩ := ih (noted ++ [call]) next
        rw [List.append_assoc] at ranNoting
        exact ⟨call :: made, last, result, (performAll_cons_of_ok rest outcome).trans ran,
          (performAll_cons_of_ok rest both).trans ranNoting, .of_ok outcome went⟩

end Renderer

theorem Report.render_eq [Arithmetic α] (report : Report α) (scroll : α)
    (renderer : Renderer α σ ε) :
    report.render scroll renderer = renderer.performAll (report.calls scroll) := by
  simp only [render, calls, sampleAll, Renderer.performAll, List.forM_eq_forM, List.cons_append,
    List.forM_cons, List.forM_append, List.forM_map, List.forM_nil, bind_pure_unit]
  rfl

end ScrollTimeline
