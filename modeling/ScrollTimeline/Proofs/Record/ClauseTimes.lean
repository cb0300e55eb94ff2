import ScrollTimeline.Proofs.Pass.Outcome
import ScrollTimeline.Proofs.Record.Declared
import ScrollTimeline.Proofs.Track.Authored
import ScrollTimeline.Proofs.Track.LatestFirst

/-!
Clauses that end at an edge of another element.

The time of such a clause is counted from the entry that its directive reckons from. For a vertical track
that is the entry of the record, so the clause ends just when the other element enters or leaves. For a
horizontal one it is the entry that has been set in front of the directive, which is not the entry of the
record if another one is set behind it.
-/
set_option autoImplicit false

namespace ScrollTimeline

open Arithmetic

def ClauseEdge.timeOf {α : Type} (record : Record α) : ClauseEdge → α
  | withExit => record.leaveAt
  | withEntry => record.enterAt
  | like => record.enterAt

def Report.lookup {α : Type} (report : Report α) : Lookup α := fun id =>
  match report.record? id with
  | some record => .ok record
  | none => .error .noSuchElement

variable {α : Type} [Arithmetic α]

/-- The entry that the directives of an axis reckon from. -/
def Axis.origin (lookup : Lookup α) (written before : List Directive) : Axis → α
  | x => entryOf lookup before
  | y => entryOf lookup written

/-- The directive between two parts of a text sets the track: no later one does. -/
structure AxisArg.Sets (lookup : Lookup α) (axis : Axis) (written before after : List Directive)
    (arg : AxisArg) (track : Track α) : Prop where
  split : written = before ++ .position axis arg :: after
  resolves : arg.resolve lookup axis (axis.origin lookup written before) = .ok track
  last : ∀ middle directive, middle ++ [directive] <+: after →
    directive.track? lookup axis
      (axis.origin lookup written (before ++ .position axis arg :: middle)) = none

/-! ### The directive that sets a track -/

theorem exists_last {β : Type} {value? : List Directive → Directive → Option β}
    {last? : List Directive → Option β} (start : last? [] = none)
    (step : ∀ before directive,
      last? (before ++ [directive]) = (value? before directive).or (last? before))
    {written : List Directive} {value : β} (found : last? written = some value) :
    ∃ before directive after, written = before ++ directive :: after ∧
      value? before directive = some value ∧
      ∀ middle later, middle ++ [later] <+: after →
        value? (before ++ directive :: middle) later = none := by
  induction written using List.reverseRecOn with
  | nil =>
    rw [start] at found
    cases found
  | append_singleton earlier final ih =>
    rw [step] at found
    cases given : value? earlier final with
    | some other =>
      rw [given] at found
      obtain rfl : other = value := by simpa using found
      refine ⟨earlier, final, [], rfl, given, ?_⟩
      intro middle later initial
      simp at initial
    | none =>
      rw [given, Option.none_or] at found
      obtain ⟨before, directive, after, rfl, here, silent⟩ := ih found
      refine ⟨before, directive, after ++ [final], by simp, here, ?_⟩
      intro middle later initial
      rcases List.prefix_concat_iff.mp initial with whole | inside
      · obtain ⟨rfl, same⟩ := List.append_inj' whole rfl
        obtain rfl := List.singleton_inj.mp same
        exact given
      · exact silent middle later inside

theorem Directive.eq_position_of_track? {lookup : Lookup α} {axis : Axis} {enterAt : α}
    {directive : Directive} {track : Track α}
    (given : directive.track? lookup axis enterAt = some track) :
    ∃ arg, directive = .position axis arg ∧ arg.resolve lookup axis enterAt = .ok track := by
  cases directive with
  | position own arg =>
    rw [track?] at given
    split at given
    · rename_i same
      subst same
      cases made : arg.resolve lookup own enterAt with
      | error problem =>
        rw [made] at given
        cases given
      | ok other =>
        rw [made] at given
        cases given
        exact ⟨arg, rfl, made⟩
    · cases given
  | _ => cases given

theorem AxisArg.exists_sets_x {lookup : Lookup α} {written : List Directive} {track : Track α}
    (found : horizontalTrack? lookup written = some track) :
    ∃ before arg after, AxisArg.Sets lookup .x written before after arg track := by
  obtain ⟨before, directive, after, split, given, silent⟩ :=
    exists_last rfl (horizontalTrack?_append_singleton lookup) found
  obtain ⟨arg, rfl, resolves⟩ := Directive.eq_position_of_track? given
  exact ⟨before, arg, after, split, resolves, silent⟩

theorem AxisArg.exists_sets_y {lookup : Lookup α} {written : List Directive} {track : Track α}
    (found : lastValue (Directive.track? lookup .y (entryOf lookup written)) written = some track) :
    ∃ before arg after, AxisArg.Sets lookup .y written before after arg track := by
  have step (before : List Directive) (directive : Directive) :
      lastValue (Directive.track? lookup .y (entryOf lookup written)) (before ++ [directive]) =
        (directive.track? lookup .y (entryOf lookup written)).or
          (lastValue (Directive.track? lookup .y (entryOf lookup written)) before) := by
    rw [lastValue_append, lastValue_singleton]
  obtain ⟨before, directive, after, split, given, silent⟩ := exists_last rfl step found
  obtain ⟨arg, rfl, resolves⟩ := Directive.eq_position_of_track? given
  exact ⟨before, arg, after, split, resolves, silent⟩

theorem Element.exists_sets {lookup : Lookup α} {absolute : Bool} {offset initial : α}
    {written : List Directive} {segments : List (Segment α)} {axis : Axis} {element : Element α}
    (custom : (element.finish (Draft.declared lookup absolute offset written)).track axis =
      .custom initial segments) :
    ∃ before arg after,
      AxisArg.Sets lookup axis written before after arg (.custom initial segments) := by
  have given {track? : Option (Track α)}
      (driven : (if absolute then track?.getD .unpositioned else .unpositioned) =
        Track.custom initial segments) : track? = some (.custom initial segments) := by
    cases absolute with
    | false => cases driven
    | true =>
      cases track? with
      | none => cases driven
      | some track => exact congrArg some driven
  cases axis with
  | x => exact AxisArg.exists_sets_x (given custom)
  | y => exact AxisArg.exists_sets_y (given custom)

theorem AxisArg.Sets.origin_eq {lookup : Lookup α} {axis : Axis}
    {written before after : List Directive} {arg : AxisArg} {track : Track α}
    (sets : AxisArg.Sets lookup axis written before after arg track)
    (final : axis = .y ∨ ∀ directive ∈ after, directive.enterAt? lookup = none) :
    axis.origin lookup written before = entryOf lookup written := by
  cases axis with
  | y => rfl
  | x =>
    have silent : ∀ directive ∈ after, directive.enterAt? lookup = none := by simpa using final
    have behind : lastValue (Directive.enterAt? lookup) (.position .x arg :: after) = none :=
      lastValue_eq_none (List.forall_mem_cons.mpr ⟨rfl, silent⟩)
    rw [Axis.origin, entryOf, entryOf, sets.split, lastValue_append, behind]
    rfl

/-! ### Reports as lookups -/

theorem Report.lookup_eq_complete {entries : List Entry} {geometry : Geometry α}
    {options : CompileOptions} (report : Report α)
    (compiled : compile entries geometry options = .ok report) :
    report.lookup =
      Pass.complete (elementsOf entries geometry options.idPrefix) report.records := by
  have names := map_id_records compiled
  obtain ⟨distinct, made⟩ := compile_eq_ok compiled
  have isFixpoint := Pass.isFixpoint_of_compileElements made
  have distinctNames : (report.records.map Record.id).Nodup := by
    rwa [names, ← map_id_elementsOf entries geometry]
  funext id
  rw [lookup]
  cases place : Pass.indexOf? (elementsOf entries geometry options.idPrefix) id with
  | none =>
    have unknown : id ∉ entries.mapIdx (Entry.effectiveId options.idPrefix) := by
      rw [← map_id_elementsOf entries geometry]
      intro member
      obtain ⟨element, there, same⟩ := List.mem_map.mp member
      exact (Pass.indexOf?_eq_none_iff _ _).mp place element there same
    rw [(covers_of_compile compiled).absent id unknown, Pass.complete_of_none place]
  | some index =>
    have there := isFixpoint.fixed index
    have named : report.record? id = some _ :=
      (Report.record?_eq_some_iff distinctNames there id).mpr (Pass.id_of_indexOf? place)
    rw [named, Pass.complete_of_some place there]

/-! ### Edges that are hit -/

theorem AxisArg.eq_timeline_of_resolve {lookup : Lookup α} {axis : Axis} {enterAt initial : α}
    {arg : AxisArg} {segments : List (Segment α)}
    (made : arg.resolve lookup axis enterAt = .ok (.custom initial segments)) :
    ∃ start clauses, arg = .timeline start clauses := by
  cases arg with
  | timeline start clauses => exact ⟨start, clauses, rfl⟩
  | waypoints values curve =>
    obtain ⟨positions, _, made⟩ := exists_of_bind made
    match positions with
    | [] =>
      obtain ⟨curve, _, made⟩ := exists_of_bind made
      cases made
    | [value] => cases made
    | first :: second :: rest =>
      obtain ⟨curve, _, made⟩ := exists_of_bind made
      cases made

theorem ClauseTime.Means.eq_timeOf {lookup : Lookup α} {enterAt previous endTime : α}
    {edge : ClauseEdge} {target : String}
    (means : (ClauseTime.reference edge target).Means lookup enterAt previous endTime) :
    ∃ other, lookup target = .ok other ∧ endTime = edge.timeOf other - enterAt := by
  cases means with
  | withExit found => exact ⟨_, found, rfl⟩
  | withEntry found => exact ⟨_, found, rfl⟩
  | like found => exact ⟨_, found, rfl⟩

omit [Arithmetic α] in
theorem Report.record?_of_lookup {report : Report α} {id : String} {record : Record α}
    (found : report.lookup id = .ok record) : report.record? id = some record := by
  rw [lookup] at found
  cases known : report.record? id with
  | none =>
    rw [known] at found
    cases found
  | some other =>
    rw [known] at found
    cases found
    rfl

theorem Report.record_eq_declared {entries : List Entry} {geometry : Geometry α}
    {options : CompileOptions} (report : Report α)
    (compiled : compile entries geometry options = .ok report) {index : Nat} {entry : Entry}
    (there : entries[index]? = some entry) {record : Record α}
    (stored : report.records[index]? = some record) :
    let element := entry.prepare geometry options.idPrefix index
    record = element.finish (Draft.declared report.lookup element.script.absolute element.offset
      (Script.written entry.directives)) := by
  intro element
  have inside : index < (elementsOf entries geometry options.idPrefix).length := by
    simpa [elementsOf] using (List.getElem?_eq_some_iff.mp there).1
  have prepared : (elementsOf entries geometry options.idPrefix).get ⟨index, inside⟩ = element := by
    simp [elementsOf, element, (List.getElem?_eq_some_iff.mp there).2]
  have fixed := (Pass.isFixpoint_of_compileElements (compile_eq_ok compiled).2).fixed ⟨index, inside⟩
  rw [stored, prepared, ← report.lookup_eq_complete compiled] at fixed
  rw [Option.some.inj fixed]
  exact Element.compile_record ..

/-- A custom track has been set by one directive of the element, and its segments are the clauses of that.
One that is written to end at an edge of another element ends there, counted from the entry that the
directive reckons from; and this is the entry of the record for the vertical axis, and for the horizontal
one unless an `enter` directive behind it has a value. -/
theorem clause_times (entries : List Entry) (geometry : Geometry α) (options : CompileOptions)
    (report : Report α) (compiled : compile entries geometry options = .ok report)
    (index : Nat) (entry : Entry) (there : entries[index]? = some entry) (record : Record α)
    (stored : report.records[index]? = some record) (axis : Axis) (initial : α)
    (segments : List (Segment α)) (custom : record.track axis = .custom initial segments) :
    let written := Script.written entry.directives
    ∃ before start clauses after,
      AxisArg.Sets report.lookup axis written before after (.timeline start clauses)
        (record.track axis) ∧
      ∀ segment ∈ segments, ∃ clause, clauses[segment.clause]? = some clause ∧
        ∀ edge target, clause.time = .reference edge target →
          ∃ other, report.record? target = some other ∧
            segment.endTime = edge.timeOf other - axis.origin report.lookup written before ∧
            ((axis = .y ∨ ∀ directive ∈ after, directive.enterAt? report.lookup = none) →
              segment.endTime = edge.timeOf other - record.enterAt) := by
  intro written
  have declares : record = (entry.prepare geometry options.idPrefix index).finish
      (Draft.declared report.lookup (Script.ofText entry.directives).absolute
        (entry.prepare geometry options.idPrefix index).offset written) :=
    report.record_eq_declared compiled there stored
  have enters : record.enterAt = entryOf report.lookup written := by
    rw [declares]
    rfl
  obtain ⟨before, arg, after, sets⟩ := Element.exists_sets (declares ▸ custom)
  obtain ⟨start, clauses, rfl⟩ := AxisArg.eq_timeline_of_resolve sets.resolves
  obtain ⟨_, rows, _, authored, same⟩ := Timeline.exists_authored sets.resolves
  refine ⟨before, start, clauses, after, custom.symm ▸ sets, ?_⟩
  intro segment member
  obtain ⟨rfl, rfl⟩ := Track.custom.inj same
  have inRows := (Segment.latestFirst_perm rows).mem_iff.mp member
  obtain ⟨place, inside, rfl⟩ := List.getElem_of_mem inRows
  obtain ⟨clause, _, _, known, yields⟩ := authored.yields_getElem inside
  rw [Nat.zero_add] at yields
  refine ⟨clause, yields.number.symm ▸ known, ?_⟩
  intro edge target reference
  have means := yields.endTime
  rw [reference] at means
  obtain ⟨other, found, ends⟩ := means.eq_timeOf
  refine ⟨other, Report.record?_of_lookup found, ends, ?_⟩
  intro final
  rw [ends, enters, sets.origin_eq final]

def lateEntry : List Entry :=
  [⟨some "a", "enter 20; duration 30", 0⟩,
    ⟨some "b", "!absolute; x 0 . with-exit a: - 10; y 0 . with-exit a: - 10 like a: - 4; enter 5", 1⟩]

theorem clause_times_lateEntry :
    ∃ report record, compile lateEntry (Geometry.ofHeights (1000 : Float) []) .default = .ok report ∧
      report.records[1]? = some record ∧
      record.y = .custom 0 [⟨0, 45, 0, 10, .linear⟩, ⟨1, 15, 10, 4, .linear⟩] ∧
      ∃ before start clauses after,
        AxisArg.Sets report.lookup .y (Script.written lateEntry[1].directives) before after
          (.timeline start clauses) record.y ∧
        ∀ segment ∈ ([⟨0, 45, 0, 10, .linear⟩, ⟨1, 15, 10, 4, .linear⟩] : List (Segment Float)),
          ∃ clause, clauses[segment.clause]? = some clause ∧
            ∀ edge target, clause.time = .reference edge target →
              ∃ other, report.record? target = some other ∧
                segment.endTime = edge.timeOf other - record.enterAt := by
  have values : (compile lateEntry (Geometry.ofHeights (1000 : Float) []) .default).map
      (fun report => report.records[1]?.map Record.y) =
      .ok (some (.custom 0 [⟨0, 45, 0, 10, .linear⟩, ⟨1, 15, 10, 4, .linear⟩])) := by
    decide +kernel
  cases compiled : compile lateEntry (Geometry.ofHeights (1000 : Float) []) .default with
  | error error =>
    rw [compiled] at values
    cases values
  | ok report =>
    rw [compiled] at values
    obtain ⟨record, stored, vertical⟩ := Option.map_eq_some_iff.mp (Except.ok.inj values)
    obtain ⟨before, start, clauses, after, sets, segments⟩ :=
      clause_times lateEntry _ .default report compiled 1 _ rfl record stored .y _ _ vertical
    refine ⟨report, record, rfl, stored, vertical, before, start, clauses, after, sets, ?_⟩
    intro segment member
    obtain ⟨clause, written, ends⟩ := segments segment member
    refine ⟨clause, written, ?_⟩
    intro edge target reference
    obtain ⟨other, found, _, reached⟩ := ends edge target reference
    exact ⟨other, found, reached (.inl rfl)⟩

/-- The first element leaves at 50 and the second one enters at 5, so the clause of the horizontal axis
should end at 45 like that of the vertical one. -/
theorem late_clause_lateEntry :
    ∃ report record other,
      compile lateEntry (Geometry.ofHeights (1000 : Float) []) .default = .ok report ∧
        report.records[1]? = some record ∧ report.record? "a" = some other ∧
        (Script.written lateEntry[1].directives).head? =
          some (.position .x (.timeline (.literal ⟨false, 0, 0⟩)
            [⟨.reference .withExit "a", none, .literal ⟨false, 10, 0⟩, none⟩])) ∧
        ∃ segment, record.x = .custom 0 [segment] ∧ segment.clause = 0 ∧
          segment.endTime ≠ other.leaveAt - record.enterAt := by
  have values : (compile lateEntry (Geometry.ofHeights (1000 : Float) []) .default).map
      (fun report => (report.records[1]?.map fun record => (record.x, record.enterAt),
        (report.record? "a").map Record.leaveAt)) =
      .ok (some (.custom 0 [⟨0, 50, 0, 10, .linear⟩], 5), some 50) := by
    decide +kernel
  cases compiled : compile lateEntry (Geometry.ofHeights (1000 : Float) []) .default with
  | error error =>
    rw [compiled] at values
    cases values
  | ok report =>
    rw [compiled] at values
    obtain ⟨here, there⟩ := Prod.mk.inj (Except.ok.inj values)
    obtain ⟨record, stored, fields⟩ := Option.map_eq_some_iff.mp here
    obtain ⟨horizontal, enters⟩ := Prod.mk.inj fields
    obtain ⟨other, found, leaves⟩ := Option.map_eq_some_iff.mp there
    refine ⟨report, record, other, rfl, stored, found, by decide +kernel, _, horizontal, rfl, ?_⟩
    rw [leaves, enters]
    decide +kernel

end ScrollTimeline
