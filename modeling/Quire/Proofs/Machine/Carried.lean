import Quire.Proofs.Machine.Course
import Quire.Proofs.Machine.History

/-! What a state carries is what the accepted events brought, each part by the
one event of its kind. Events that are turned away leave no trace: the accepted
ones alone make the same machine. -/

namespace Quire

namespace RunState

/-- The data of a run: what was found valid, or in template mode what was parsed. -/
def Checked (es : List RunEvent) (config data : Cargo) : Prop :=
  ∃ mode, config.mode = .ok mode ∧
    (if mode = .templateOnly then .frontmatterParseComplete data else .validationComplete data) ∈ es

/-- The output of a run: what was rendered, or in validation mode a set phrase. -/
def Rendered (es : List RunEvent) (config output : Cargo) : Prop :=
  ∃ mode, config.mode = .ok mode ∧
    if mode = .validationOnly then output = .value (.str validationOutput)
    else .outputGenerationComplete output ∈ es

def Renders (config : Cargo) : Prop := ∃ mode, config.mode = .ok mode ∧ mode ≠ .validationOnly

/-- Each part of a state is in the event of the list that brings such a part. -/
def Carries (es : List RunEvent) : RunState → Prop
  | .idle => True
  | .initializing config => .begin config ∈ es
  | .loadingSchema config path => .begin config ∈ es ∧ .loadSchema path ∈ es
  | .schemaLoaded config schema => .begin config ∈ es ∧ .schemaLoadComplete schema ∈ es
  | .parsingFrontmatter config schema content =>
    .begin config ∈ es ∧ .schemaLoadComplete schema ∈ es ∧ .parseFrontmatter content ∈ es
  | .frontmatterParsed config schema data =>
    .begin config ∈ es ∧ .schemaLoadComplete schema ∈ es ∧ .frontmatterParseComplete data ∈ es
  | .validatingData config schema data =>
    .begin config ∈ es ∧ .schemaLoadComplete schema ∈ es ∧ .frontmatterParseComplete data ∈ es ∧
      ∃ mode, config.mode = .ok mode ∧ mode ≠ .templateOnly
  | .dataValidated config schema data =>
    .begin config ∈ es ∧ .schemaLoadComplete schema ∈ es ∧ Checked es config data
  | .loadingTemplate config schema data path =>
    .begin config ∈ es ∧ .schemaLoadComplete schema ∈ es ∧ Checked es config data ∧
      .loadTemplate path ∈ es ∧ Renders config
  | .templateLoaded config schema data template =>
    .begin config ∈ es ∧ .schemaLoadComplete schema ∈ es ∧ Checked es config data ∧
      .templateLoadComplete template ∈ es ∧ Renders config
  | .generatingOutput config schema data template =>
    .begin config ∈ es ∧ .schemaLoadComplete schema ∈ es ∧ Checked es config data ∧
      .templateLoadComplete template ∈ es ∧ Renders config
  | .outputGenerated config output => .begin config ∈ es ∧ Rendered es config output
  | .completed output _ => ∃ config, .begin config ∈ es ∧ Rendered es config output
  | .failed error previous => .fail error ∈ es ∧ Carries es previous

theorem Checked.mono {es es' : List RunEvent} (sub : es ⊆ es') {config data : Cargo}
    (h : Checked es config data) : Checked es' config data := by
  obtain ⟨mode, asked, member⟩ := h
  exact ⟨mode, asked, sub member⟩

theorem Rendered.mono {es es' : List RunEvent} (sub : es ⊆ es') {config output : Cargo}
    (h : Rendered es config output) : Rendered es' config output := by
  obtain ⟨mode, asked, made⟩ := h
  refine ⟨mode, asked, ?_⟩
  split
  · rwa [if_pos ‹_›] at made
  · rw [if_neg ‹_›] at made
    exact sub made

/-- More events take nothing from what a state carries. -/
theorem Carries.mono {es es' : List RunEvent} (sub : es ⊆ es') {s : RunState}
    (h : s.Carries es) : s.Carries es' := by
  induction s with
  | idle => trivial
  | initializing config => exact sub h
  | loadingSchema config path => exact ⟨sub h.1, sub h.2⟩
  | schemaLoaded config schema => exact ⟨sub h.1, sub h.2⟩
  | parsingFrontmatter config schema content => exact ⟨sub h.1, sub h.2.1, sub h.2.2⟩
  | frontmatterParsed config schema data => exact ⟨sub h.1, sub h.2.1, sub h.2.2⟩
  | validatingData config schema data => exact ⟨sub h.1, sub h.2.1, sub h.2.2.1, h.2.2.2⟩
  | dataValidated config schema data => exact ⟨sub h.1, sub h.2.1, h.2.2.mono sub⟩
  | loadingTemplate config schema data path =>
    exact ⟨sub h.1, sub h.2.1, h.2.2.1.mono sub, sub h.2.2.2.1, h.2.2.2.2⟩
  | templateLoaded config schema data template =>
    exact ⟨sub h.1, sub h.2.1, h.2.2.1.mono sub, sub h.2.2.2.1, h.2.2.2.2⟩
  | generatingOutput config schema data template =>
    exact ⟨sub h.1, sub h.2.1, h.2.2.1.mono sub, sub h.2.2.2.1, h.2.2.2.2⟩
  | outputGenerated config output => exact ⟨sub h.1, h.2.mono sub⟩
  | completed output figures =>
    obtain ⟨config, begun, rendered⟩ := h
    exact ⟨config, sub begun, rendered.mono sub⟩
  | failed error previous ih => exact ⟨sub h.1, ih h.2⟩

/-- A step adds what its event brings and keeps or drops the rest. -/
theorem Leads.carries {s t : RunState} {e : RunEvent} {states : Nat} {g : Gauges}
    {es : List RunEvent} (h : Leads states g s e t) (brought : e ∈ es) (before : s.Carries es) :
    t.Carries es := by
  cases h with
  | fail error going => exact ⟨brought, before⟩
  | begin config => exact brought
  | loadSchema config path => exact ⟨before, brought⟩
  | schemaLoadComplete config path schema => exact ⟨before.1, brought⟩
  | parseFrontmatter config schema content => exact ⟨before.1, before.2, brought⟩
  | frontmatterParseComplete config schema content data => exact ⟨before.1, before.2.1, brought⟩
  | passOver config schema data asked => exact ⟨before.1, before.2.1, _, asked, before.2.2⟩
  | validateData config schema data mode asked checks =>
    exact ⟨before.1, before.2.1, before.2.2, mode, asked, checks⟩
  | validationComplete config schema data checked =>
    obtain ⟨mode, asked, checks⟩ := before.2.2.2
    exact ⟨before.1, before.2.1, mode, asked, by rwa [if_neg checks]⟩
  | stopShort config schema data path asked => exact ⟨before.1, _, asked, rfl⟩
  | loadTemplate config schema data path mode asked renders =>
    exact ⟨before.1, before.2.1, before.2.2, brought, mode, asked, renders⟩
  | templateLoadComplete config schema data path template =>
    exact ⟨before.1, before.2.1, before.2.2.1, brought, before.2.2.2.2⟩
  | generateOutput config schema data template => exact before
  | outputGenerationComplete config schema data template output =>
    obtain ⟨mode, asked, renders⟩ := before.2.2.2.2
    exact ⟨before.1, mode, asked, by rwa [if_neg renders]⟩
  | complete config output mode memory asked read => exact ⟨config, before⟩

/-- Where a state stands among its kinds; every event stands between two. -/
def Kind.place (k : Kind) : Nat := Kind.all.idxOf k

end RunState

def RunEvent.Kind.place (k : Kind) : Nat := Kind.all.idxOf k

namespace RunState

theorem Leads.places {s t : RunState} {e : RunEvent} {states : Nat} {g : Gauges}
    (h : Leads states g s e t) : s.kind.place ≤ e.kind.place ∧ e.kind.place < t.kind.place := by
  cases h with
  | fail error going =>
    cases s with
    | completed output figures => cases going
    | failed error previous => cases going
    | _ => refine ⟨?_, ?_⟩ <;> simp only [kind, RunEvent.kind] <;> decide
  | _ => refine ⟨?_, ?_⟩ <;> simp only [kind, RunEvent.kind] <;> decide

end RunState

namespace Machine

theorem follow_concat {m m' m'' : Machine} {g g' g'' : Gauges} {es : List RunEvent} {e : RunEvent}
    {s : RunState} (before : m.follow g es = .ok (m', g'))
    (once : m'.transition e g' = (.ok s, m'', g'')) :
    m.follow g (es ++ [e]) = .ok (m'', g'') := by
  induction es generalizing m g with
  | nil =>
    cases before
    rw [List.nil_append, follow, once]
    rfl
  | cons e' es ih =>
    obtain ⟨t, after, step, first, tail⟩ := follow_cons.mp before
    exact follow_cons.mpr ⟨t, after, step, first, ih tail⟩

/-- A machine as the accepted events have left it: each one named in the log, no
kind twice, and all that is carried brought by them. Short of the end no gauge
has been read. -/
structure Accounted (m : Machine) (es : List RunEvent) : Prop where
  carries : ∀ s ∈ m.history, s.Carries es
  present : m.state ∈ m.history
  named : m.log.map Step.event = es.map RunEvent.kind
  ordered : (es.map RunEvent.kind).Pairwise (·.place < ·.place)
  passed : ∀ e ∈ es, e.kind.place < m.state.kind.place
  made : ∃ g after, Machine.follow {} g es = .ok (m, after)
  unread : m.state.isTerminal = false → ∀ g, Machine.follow {} g es = .ok (m, g)

theorem accounted_new : Accounted {} [] where
  carries := by simp [RunState.Carries]
  present := by simp
  named := rfl
  ordered := .nil
  passed := by simp
  made := ⟨.still, .still, rfl⟩
  unread _ _ := rfl

theorem Accounted.push {m : Machine} {es : List RunEvent} (h : m.Accounted es) {e : RunEvent}
    {s : RunState} {g after : Gauges} (step : m.state.Leads m.history.length g e s)
    (once : m.transition e g = (.ok s, m.push e s, after)) :
    (m.push e s).Accounted (es ++ [e]) where
  carries t member := by
    have sub : es ⊆ es ++ [e] := List.subset_append_left _ _
    rcases List.mem_append.mp member with earlier | here
    · exact (h.carries t earlier).mono sub
    · rw [List.mem_singleton.mp here]
      exact step.carries (List.mem_append_right _ (List.mem_singleton_self e))
        ((h.carries _ h.present).mono sub)
  present := List.mem_append_right _ (List.mem_singleton_self s)
  named := by simp [Machine.push, h.named]
  ordered := by
    rw [List.map_append, List.pairwise_append]
    refine ⟨h.ordered, List.pairwise_singleton _ _, ?_⟩
    intro k member last same
    obtain ⟨f, earlier, rfl⟩ := List.mem_map.mp member
    rw [List.mem_singleton.mp same]
    exact Nat.lt_of_lt_of_le (h.passed f earlier) step.places.1
  passed f member := by
    obtain ⟨behind, ahead⟩ := step.places
    change f.kind.place < s.kind.place
    rcases List.mem_append.mp member with earlier | here
    · have old := h.passed f earlier
      omega
    · rwa [List.mem_singleton.mp here]
  made := ⟨g, after, follow_concat (h.unread step.going g) once⟩
  -- a machine that still goes has not been closed, so its steps are the same at any gauges
  unread going g' := by
    have last : e ≠ .complete := by
      rintro rfl
      have ended := (RunState.isTerminal_iff s).mpr (.inl step.of_complete.2)
      rw [show s.isTerminal = false from going] at ended
      cases ended
    refine follow_concat (h.unread step.going g') (s := s) ?_
    have next : (m.state.next e m.history.length g').1 = .ok s := by
      rw [RunState.next_still last _ g g', RunState.next_of_leads step]
    obtain ⟨after', once'⟩ := transition_ok (RunState.leads_of_next next)
    have still := transition_still last m g'
    rw [once'] at still
    rw [once', show after' = g' from still]

end Machine

namespace Operation

theorem run_accounted (g : Gauges) (moves : List Move) :
    (run g moves).machine.Accounted (run g moves).accepted := by
  refine run_induction (P := fun o => o.machine.Accounted o.accepted)
    (fun _ => Machine.accounted_new) ?_ g moves
  intro o h move
  cases move with
  | reset => exact Machine.accounted_new
  | event e =>
    rcases o.machine.transition_cases e o.gauges with ⟨s, after, once, step⟩ | ⟨f, after, once, _⟩
    · rw [move_accepted (congrArg Prod.fst once)]
      change (o.machine.transition e o.gauges).2.1.Accounted (o.accepted ++ [e])
      rw [once]
      exact h.push step once
    · rw [move_refused (congrArg Prod.fst once)]
      change (o.machine.transition e o.gauges).2.1.Accounted o.accepted
      rwa [once]

/-- All that a machine holds was brought by events accepted since it was new or
reset, at most one of each kind, and by these alone it can be made again. -/
theorem run_carries (g : Gauges) (moves : List Move) :
    (run g moves).machine.state.Carries (run g moves).accepted ∧
    (∀ s ∈ (run g moves).machine.history, s.Carries (run g moves).accepted) ∧
    ((run g moves).accepted.map RunEvent.kind).Nodup ∧
    (run g moves).machine.log.map Step.event = (run g moves).accepted.map RunEvent.kind ∧
    ∃ before after, Machine.follow {} before (run g moves).accepted =
      .ok ((run g moves).machine, after) := by
  have h := run_accounted g moves
  refine ⟨h.carries _ h.present, h.carries, h.ordered.imp ?_, h.named, h.made⟩
  rintro k _ below rfl
  exact Nat.lt_irrefl _ below

end Operation
end Quire
