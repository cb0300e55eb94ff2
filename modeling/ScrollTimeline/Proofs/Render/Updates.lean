import Mathlib.Data.List.DropRight
import ScrollTimeline.Proofs.Render.Calls

/-!
What one update after the other leaves behind.

A memory knows no more than the calls since the last start. A sink gets the lines of all updates, one
after the other, until one of its writes does not fit; from then on its text stays as it is, even when
a later update has shorter lines.
-/
set_option autoImplicit false

namespace ScrollTimeline

variable {α : Type}

namespace RenderCall

def scroll? : RenderCall α → Option α
  | start scroll => some scroll
  | _ => none

def sample? : RenderCall α → Option (Sample α)
  | draw sample => some sample
  | _ => none

end RenderCall

/-! ### Memories -/

namespace Memory

/-- What a memory is used for: a single call, or an update with some report. -/
inductive Use (α : Type) where
  | single (call : RenderCall α)
  | update (report : Report α) (scroll : α)

variable [Arithmetic α]

def Use.calls : Use α → List (RenderCall α)
  | single call => [call]
  | update report scroll => report.calls scroll

def Use.action : Use α → Action (Memory α) Empty Unit
  | single call => renderer.perform call
  | update report scroll => report.render scroll renderer

def afterAll (memory : Memory α) (uses : List (Use α)) : Memory α :=
  uses.foldl (fun memory use => memory.after use.action) memory

section

omit [Arithmetic α]

@[simp]
theorem after_start (memory : Memory α) (scroll : α) :
    memory.after (renderer.perform (.start scroll)) = ⟨some scroll, []⟩ :=
  rfl

@[simp]
theorem after_draw (memory : Memory α) (sample : Sample α) :
    memory.after (renderer.perform (.draw sample)) =
      ⟨memory.scroll, memory.samples ++ [sample]⟩ :=
  rfl

@[simp]
theorem after_finish (memory : Memory α) : memory.after (renderer.perform .finish) = memory :=
  rfl

theorem after_performAll (memory : Memory α) (calls : List (RenderCall α)) :
    memory.after (renderer.performAll calls) =
      calls.foldl (fun memory call => memory.after (renderer.perform call)) memory := by
  induction calls generalizing memory with
  | nil => rfl
  | cons call rest ih =>
    cases outcome : (renderer.perform call).run memory with
    | mk result next =>
      cases result with
      | error impossible => cases impossible
      | ok _ =>
        have first : memory.after (renderer.perform call) = next := congrArg Prod.snd outcome
        have later := congrArg Prod.snd (Renderer.performAll_cons_of_ok rest outcome)
        rw [List.foldl_cons, first, ← ih]
        exact later

/-- A memory holds the scroll position of the last start and the samples that were drawn after it. -/
theorem foldl_after_perform (calls : List (RenderCall α)) :
    calls.foldl (fun memory call => memory.after (renderer.perform call)) empty =
      ⟨(calls.filterMap RenderCall.scroll?).getLast?,
        (calls.rtakeWhile fun call => call.scroll?.isNone).filterMap RenderCall.sample?⟩ := by
  induction calls using List.reverseRecOn with
  | nil => rfl
  | append_singleton calls call ih =>
    rw [List.foldl_append, List.foldl_cons, List.foldl_nil, ih, List.filterMap_append]
    cases call with
    | start scroll =>
      rw [List.rtakeWhile_concat_neg _ _ _ (by simp [RenderCall.scroll?])]
      simp [RenderCall.scroll?]
    | draw sample =>
      rw [List.rtakeWhile_concat_pos _ _ _ rfl, List.filterMap_append]
      simp [RenderCall.scroll?, RenderCall.sample?]
    | finish =>
      rw [List.rtakeWhile_concat_pos _ _ _ rfl, List.filterMap_append]
      simp [RenderCall.scroll?, RenderCall.sample?]

end

theorem afterAll_eq (memory : Memory α) (uses : List (Use α)) :
    memory.afterAll uses = (uses.flatMap Use.calls).foldl
      (fun memory call => memory.after (renderer.perform call)) memory := by
  induction uses generalizing memory with
  | nil => rfl
  | cons use rest ih =>
    have first : memory.after use.action =
        use.calls.foldl (fun memory call => memory.after (renderer.perform call)) memory := by
      cases use with
      | single call => rfl
      | update report scroll =>
        rw [Use.action, Report.render_eq, after_performAll]
        rfl
    rw [List.flatMap_cons, List.foldl_append, ← first, ← ih]
    rfl

end Memory

/-! ### Sinks -/

def Report.text (report : Report Float) (scroll : Float) : String :=
  String.join ((report.sampleAll scroll).map fun sample => String.join sample.line)

namespace Sink

/-- A sink that has been given some text holds all of it, or as much as came before the first write that
went over the limit. -/
structure Follows (limit : Option Nat) (text : String) (sink : Sink) : Prop where
  limited : sink.limit = limit
  isPrefix : ∃ rest, sink.content ++ rest = text
  whole : sink.isFull = false → sink.content = text
  exceeded : sink.isFull = true → ∃ bytes, limit = some bytes ∧ bytes < text.utf8ByteSize
  inside : ∀ bytes, limit = some bytes → sink.content.utf8ByteSize ≤ bytes

variable {limit : Option Nat} {text : String} {sink : Sink}

theorem follows_empty (limit : Option Nat) (flushFails : Bool) :
    (empty limit flushFails).Follows limit "" :=
  { limited := rfl
    isPrefix := ⟨"", rfl⟩
    whole := fun _ => rfl
    exceeded := fun full => by cases full
    inside := fun bytes _ => Nat.zero_le bytes }

theorem Follows.of_full (follows : sink.Follows limit text) (full : sink.isFull = true)
    (more : String) : sink.Follows limit (text ++ more) := by
  refine { follows with isPrefix := ?_, whole := ?_, exceeded := ?_ }
  · obtain ⟨rest, joined⟩ := follows.isPrefix
    exact ⟨rest ++ more, by rw [← String.append_assoc, joined]⟩
  · intro free
    rw [full] at free
    cases free
  · intro _
    obtain ⟨bytes, limited, more_than⟩ := follows.exceeded full
    refine ⟨bytes, limited, ?_⟩
    rw [String.utf8ByteSize_append]
    omega

theorem Follows.fits {piece : String} (follows : sink.Follows limit text)
    (room : sink.hasRoom (sink.content.utf8ByteSize + piece.utf8ByteSize) = true) :
    Follows limit (text ++ piece) { sink with content := sink.content ++ piece } := by
  rw [hasRoom, Bool.and_eq_true, Bool.not_eq_true', follows.limited] at room
  obtain ⟨free, enough⟩ := room
  have all : sink.content ++ piece = text ++ piece := by rw [follows.whole free]
  refine ⟨follows.limited, ⟨"", (String.append_empty).trans all⟩, fun _ => all, ?_, ?_⟩
  · intro full
    exact absurd (free.symm.trans full) Bool.false_ne_true
  · rintro bytes rfl
    rw [String.utf8ByteSize_append]
    simpa using enough

theorem Follows.overflows {piece : String} (follows : sink.Follows limit text)
    (room : sink.hasRoom (sink.content.utf8ByteSize + piece.utf8ByteSize) = false) :
    Follows limit (text ++ piece) { sink with isFull := true } := by
  cases known : sink.isFull with
  | true =>
    have same : { sink with isFull := true } = sink := by rw [← known]
    rw [same]
    exact follows.of_full known piece
  | false =>
    have all := follows.whole known
    refine { follows with isPrefix := ⟨piece, by rw [all]⟩, whole := ?_, exceeded := ?_ }
    · intro free
      cases free
    · intro _
      simp only [hasRoom, known, follows.limited, Bool.not_false, Bool.true_and] at room
      cases limit with
      | none => cases room
      | some bytes =>
        refine ⟨bytes, rfl, ?_⟩
        rw [String.utf8ByteSize_append, ← all]
        simpa using room

/-- Gives some text to a sink, and fails only if the sink has become full. -/
structure Writes (action : Action Sink SinkError Unit) (text : String) : Prop where
  follows : ∀ limit before sink, sink.Follows limit before →
    (action.run sink).2.Follows limit (before ++ text)
  fails : ∀ sink error last, action.run sink = (.error error, last) → last.isFull = true

theorem writes_nothing : Writes (pure ()) "" := by
  refine ⟨?_, ?_⟩
  · intro limit before sink follows
    rw [String.append_empty]
    exact follows
  · intro sink error last failed
    cases failed

theorem Writes.bind {first second : Action Sink SinkError Unit} {text more : String}
    (one : Writes first text) (two : Writes second more) :
    Writes (first >>= fun _ => second) (text ++ more) := by
  refine ⟨?_, ?_⟩
  · intro limit before sink follows
    have between := one.follows limit before sink follows
    rw [Action.run_bind, ← String.append_assoc]
    cases outcome : first.run sink with
    | mk result next =>
      rw [outcome] at between
      cases result with
      | ok _ => exact two.follows limit _ next between
      | error error => exact between.of_full (one.fails sink error next outcome) more
  · intro sink error last failed
    rw [Action.run_bind] at failed
    cases outcome : first.run sink with
    | mk result next =>
      rw [outcome] at failed
      cases result with
      | ok _ => exact two.fails next error last failed
      | error error =>
        cases failed
        exact one.fails sink error _ outcome

theorem Writes.forM {β : Type} {write : β → Action Sink SinkError Unit} {text : β → String}
    (each : ∀ b, Writes (write b) (text b)) (bs : List β) :
    Writes (bs.forM write) (String.join (bs.map text)) := by
  induction bs with
  | nil => exact writes_nothing
  | cons b rest ih =>
    rw [List.map_cons, String.join_cons]
    exact (each b).bind ih

theorem run_write (piece : String) (sink : Sink) :
    (write piece).run sink =
      if piece = "" then (.ok (), sink)
      else if sink.hasRoom (sink.content.utf8ByteSize + piece.utf8ByteSize) then
        (.ok (), { sink with content := sink.content ++ piece })
      else (.error .full, { sink with isFull := true }) := by
  by_cases blank : piece = ""
  · simp only [write, blank, ne_eq, not_true_eq_false, if_false, if_true]
    rfl
  · have seen : (get : Action Sink SinkError Sink).run sink = (.ok sink, sink) := rfl
    simp only [write, blank, ne_eq, not_false_eq_true, if_false, if_true]
    rw [Action.run_bind, seen]
    dsimp only
    split <;> rfl

theorem writes_write (piece : String) : Writes (write piece) piece := by
  refine ⟨?_, ?_⟩
  · intro limit before sink follows
    rw [run_write]
    by_cases blank : piece = ""
    · rw [if_pos blank, blank, String.append_empty]
      exact follows
    rw [if_neg blank]
    cases room : sink.hasRoom (sink.content.utf8ByteSize + piece.utf8ByteSize) with
    | true => exact follows.fits room
    | false => exact follows.overflows room
  · intro sink error last failed
    rw [run_write] at failed
    split at failed
    · cases failed
    · split at failed
      · cases failed
      · cases failed
        rfl

theorem writes_writeAll (pieces : List String) : Writes (writeAll pieces) (String.join pieces) := by
  have each := Writes.forM writes_write pieces
  rwa [List.map_id'] at each

theorem state_flush (sink : Sink) : (flush.run sink).2 = sink := by
  have seen : (get : Action Sink SinkError Sink).run sink = (.ok sink, sink) := rfl
  rw [flush, Action.run_bind, seen]
  dsimp only
  split <;> rfl

theorem follows_render (report : Report Float) (scroll : Float)
    (follows : sink.Follows limit text) :
    ((report.render scroll renderer).run sink).2.Follows limit (text ++ report.text scroll) := by
  have drawn := Writes.forM (fun record : Record Float =>
    writes_writeAll (record.sample (report.clampScroll scroll)).line) report.records
  have whole : String.join (report.records.map fun record =>
      String.join (record.sample (report.clampScroll scroll)).line) = report.text scroll := by
    rw [Report.text, Report.sampleAll, List.map_map]
    rfl
  rw [whole] at drawn
  have given := drawn.follows limit text sink follows
  have opened : (report.render scroll renderer).run sink =
      ((report.records.forM fun record => writeAll (record.sample (report.clampScroll scroll)).line)
        >>= fun _ => flush).run sink :=
    rfl
  rw [opened, Action.run_bind]
  cases outcome : (report.records.forM fun record =>
      writeAll (record.sample (report.clampScroll scroll)).line).run sink with
  | mk result next =>
    rw [outcome] at given
    cases result with
    | error error => exact given
    | ok _ =>
      dsimp only
      rw [state_flush]
      exact given

def afterAll (sink : Sink) (updates : List (Report Float × Float)) : Sink :=
  updates.foldl (fun sink (report, scroll) => ((report.render scroll renderer).run sink).2) sink

theorem follows_afterAll (updates : List (Report Float × Float))
    (follows : sink.Follows limit text) : (sink.afterAll updates).Follows limit
      (text ++ String.join (updates.map fun (report, scroll) => report.text scroll)) := by
  induction updates generalizing sink text with
  | nil =>
    rw [List.map_nil, String.join_nil, String.append_empty]
    exact follows
  | cons update rest ih =>
    obtain ⟨report, scroll⟩ := update
    rw [List.map_cons, String.join_cons, ← String.append_assoc]
    exact ih (follows_render report scroll follows)

end Sink

/-- An update makes its calls in their order up to the first that fails, whatever the renderer. So a memory
shows what came with the last start and after it, and a sink has the lines of all updates, or as much of
them as came before its limit. -/
theorem updates_in_order :
    (∀ {α σ ε : Type} [Arithmetic α] (report : Report α) (scroll : α) (renderer : Renderer α σ ε)
      (state : σ), ∃ made last result,
        (report.render scroll renderer).run state = (result, last) ∧
          (report.render scroll renderer.noting).run ([], state) = (result, made, last) ∧
            renderer.Went (report.calls scroll) made state last result) ∧
    (∀ {α : Type} [Arithmetic α] (uses : List (Memory.Use α)),
      let calls := uses.flatMap Memory.Use.calls
      Memory.empty.afterAll uses = ⟨(calls.filterMap RenderCall.scroll?).getLast?,
        (calls.rtakeWhile fun call => call.scroll?.isNone).filterMap RenderCall.sample?⟩) ∧
    ∀ (updates : List (Report Float × Float)) (flushFails flushFails' : Bool),
      let text := String.join (updates.map fun (report, scroll) => report.text scroll)
      ((Sink.empty none flushFails).afterAll updates).content = text ∧
        ∀ limit, let sink := (Sink.empty (some limit) flushFails').afterAll updates
          (∃ rest, sink.content ++ rest = text) ∧ sink.content.utf8ByteSize ≤ limit ∧
            (text.utf8ByteSize ≤ limit → sink.content = text) := by
  refine ⟨?_, ?_, ?_⟩
  · intro α σ ε _ report scroll renderer state
    rw [report.render_eq, report.render_eq]
    exact Renderer.went_performAll renderer (report.calls scroll) [] state
  · intro α _ uses calls
    rw [Memory.afterAll_eq]
    exact Memory.foldl_after_perform calls
  · intro updates flushFails flushFails' text
    have unlimited := Sink.follows_afterAll updates (Sink.follows_empty none flushFails)
    rw [String.empty_append] at unlimited
    refine ⟨?_, ?_⟩
    · refine unlimited.whole (Bool.eq_false_iff.mpr ?_)
      intro full
      obtain ⟨bytes, absurdly, _⟩ := unlimited.exceeded full
      cases absurdly
    · intro limit sink
      have limited := Sink.follows_afterAll updates (Sink.follows_empty (some limit) flushFails')
      rw [String.empty_append] at limited
      refine ⟨limited.isPrefix, limited.inside limit rfl, ?_⟩
      intro enough
      refine limited.whole (Bool.eq_false_iff.mpr ?_)
      intro full
      obtain ⟨bytes, same, exceeded⟩ := limited.exceeded full
      cases same
      exact absurd enough (Nat.not_le_of_lt exceeded)

end ScrollTimeline
