import Mathlib.Data.List.Nodup
import Quire.Proofs.Schema.Sites

/-! Loading a schema from a file, with the files that it refers to. -/

namespace Quire.Schema

open Relation

variable {t : FileTree}

/-- What stopped the resolver on the ways from a site: references that can be followed up
to one that was followed before, or a site that does not open. -/
def Blames (t : FileTree) (origin : Site) (e : ReferenceError) : Prop :=
  (∃ front reference s, e = .circular (front ++ [reference]) ∧ reference ∈ front ∧
    Site.Trail t origin (front ++ [reference]) s) ∨
  (∀ chain, e ≠ .circular chain) ∧ ∃ s, ReflTransGen (Site.Refers t) origin s ∧ ¬s.Opens t

/-- A budget that lasts for all references there are lasts until a circle is closed: what
the resolver reports of a site that the chain led to is so. -/
theorem resolveWithin_blames {origin : Site} (budget : Nat) :
    ∀ {s : Site} {c : Context} {chain : List String} {v : Value} {e : ReferenceError},
      s.Holds t c → Site.Trail t origin chain s → chain.Nodup →
      (written t).length ≤ budget + chain.length → s.value? t = some v →
      resolveWithin t budget c chain v = .error e → Blames t origin e := by
  induction budget with
  | zero =>
    intro s c chain v e _ trail nodup long at' failed
    obtain ⟨reference, there, circular⟩ := unfold_error v failed
    rw [← Site.below_of_value? at'] at there
    -- a chain without repetition and with no budget left has every reference of the tree
    have again : reference ∈ chain :=
      mem_chain_of_full nodup trail.subset (by omega) (s.below_subset there)
    exact .inl ⟨chain, reference, _, (Except.error.inj circular).symm, again,
      Site.trail_concat.mpr ⟨s, trail, there, rfl⟩⟩
  | succ budget ih =>
    intro s c chain v e holds trail nodup long at' failed
    obtain ⟨reference, there, failed⟩ := unfold_error v failed
    rw [← Site.below_of_value? at'] at there
    have further := Site.trail_concat.mpr ⟨s, trail, there, rfl⟩
    by_cases again : reference ∈ chain
    · simp only [List.contains_iff_mem, again, if_true] at failed
      exact .inl ⟨chain, reference, _, (Except.error.inj failed).symm, again, further⟩
    · simp only [List.contains_iff_mem, again, if_false] at failed
      rcases locate_cases holds reference with
        ⟨c', target, found, holds', at''⟩ | ⟨e', stuck, other, shut⟩
      · rw [found] at failed
        have nodup' : (chain ++ [reference]).Nodup := by
          rw [← List.concat_eq_append]
          exact (List.nodup_concat chain reference).mpr ⟨again, nodup⟩
        refine ih holds' further nodup' ?_ at'' failed
        rw [List.length_append, List.length_singleton]
        omega
      · rw [stuck] at failed
        cases failed
        exact .inr ⟨other, _, further.reaches, shut⟩

/-- The site of a whole file. -/
def Site.top (n : FileName) : Site := ⟨n, []⟩

theorem resolveAll_blames {n : FileName} {root : Entries} (reads : readFile t n = .ok root)
    {e : ReferenceError} (stuck : resolveAll t root (some n.parent) = .error e) :
    Blames t (.top n) e := by
  have at' : Site.value? t (.top n) = some (.map root) := Site.value?_of_reads reads
  rcases bind_eq_error.mp stuck with deep | ⟨v, shallow, stuck⟩
  · unfold bounded at deep
    simp only [Option.isSome_some, if_true] at deep
    split at deep
    · next tooDeep =>
      cases deep
      exact .inr ⟨by simp, _, .refl, Site.not_opens_of_deep at' tooDeep⟩
    · cases deep
  · obtain rfl := bounded_eq_ok shallow
    have holds : Site.Holds t (.top n) ⟨root, some n.parent⟩ := ⟨reads, rfl⟩
    have start : Site.Trail t (.top n) [] (.top n) := rfl
    exact resolveWithin_blames _ holds start List.nodup_nil (Nat.le_add_left ..) at' stuck

theorem ofEntries_error {root : Entries} {source : Option FileName} {f : Failure}
    (failed : ofEntries t root source = .error f) :
    ∃ e, resolveAll t root (source.map (·.parent)) = .error e ∧ f = e.toFailure := by
  rcases bind_eq_error.mp failed with failed | ⟨_, _, failed⟩
  · unfold lift at failed
    split at failed
    · cases failed
    · next e stuck => exact ⟨e, stuck, (Except.error.inj failed).symm⟩
  · cases failed

/-- Loading a schema fails at the file itself or on the ways from it. -/
theorem load_blames {n : FileName} {f : Failure} (failed : load t n = .error f) :
    ∃ e : ReferenceError, f = e.toFailure ∧ Blames t (.top n) e := by
  unfold load attempt at failed
  cases reads : readFile t n with
  | error e =>
    rw [reads] at failed
    cases failed
    exact ⟨.file e, rfl, .inr ⟨by simp, _, .refl, Site.not_opens_of_unread reads⟩⟩
  | ok root =>
    rw [reads] at failed
    obtain ⟨e, stuck, rfl⟩ := ofEntries_error failed
    exact ⟨e, rfl, resolveAll_blames reads stuck⟩

/-- The report of a circle names a way along references that are there, on which the last was
met before; any other failure comes of a site on some way that does not open. Where a text that
is met again on a way always means the same node, a circle is reported only if there is one, and
a schema that leads into no circle is loaded if all that it leads to opens. -/
theorem load_references (t : FileTree) (n : FileName) :
    (∀ f, load t n = .error f →
      (∃ front reference s, f = circularFailure (front ++ [reference]) ∧ reference ∈ front ∧
        Site.Trail t (.top n) (front ++ [reference]) s) ∨
      (∀ chain, f ≠ circularFailure chain) ∧
        ∃ s, ReflTransGen (Site.Refers t) (.top n) s ∧ ¬s.Opens t) ∧
    (Site.Steady t (.top n) →
      ((∃ chain, load t n = .error (circularFailure chain)) → Site.Circles t (.top n)) ∧
      (¬Site.Circles t (.top n) →
        (∀ s, ReflTransGen (Site.Refers t) (.top n) s → s.Opens t) →
        ∃ schema, load t n = .ok schema)) := by
  have reported : ∀ f, load t n = .error f →
      (∃ front reference s, f = circularFailure (front ++ [reference]) ∧ reference ∈ front ∧
        Site.Trail t (.top n) (front ++ [reference]) s) ∨
      (∀ chain, f ≠ circularFailure chain) ∧
        ∃ s, ReflTransGen (Site.Refers t) (.top n) s ∧ ¬s.Opens t := by
    intro f failed
    obtain ⟨e, rfl, ⟨front, reference, s, rfl, again, trail⟩ | ⟨other, shut⟩⟩ := load_blames failed
    · exact .inl ⟨front, reference, s, rfl, again, trail⟩
    · refine .inr ⟨fun chain same => ?_, shut⟩
      obtain ⟨chain', circular⟩ := circular_of_toFailure same
      exact other chain' circular
  refine ⟨reported, fun steady => ⟨?_, fun noCircle opens => ?_⟩⟩
  · rintro ⟨chain, failed⟩
    rcases reported _ failed with ⟨front, reference, s, _, again, trail⟩ | ⟨other, _⟩
    · exact steady.circles again trail
    · exact absurd rfl (other chain)
  · cases loaded : load t n with
    | ok schema => exact ⟨schema, rfl⟩
    | error f =>
      rcases reported f loaded with ⟨front, reference, s, _, again, trail⟩ | ⟨_, s, way, shut⟩
      · exact absurd (steady.circles again trail) noCircle
      · exact absurd (opens s way) shut

/-! ### Sets of files -/

/-- All sites that can be reached, each with the references below it. -/
structure Charted (t : FileTree) (chart : List (Site × List String)) : Prop where
  told : ∀ p ∈ chart, (p.1.value? t).map (fun v => (references v, v.isDeeper depthLimit)) =
    some (p.2, false)
  closed : ∀ p ∈ chart, ∀ reference ∈ p.2, p.1.follow t reference ∈ chart.map Prod.fst

namespace Charted

variable {chart : List (Site × List String)}

theorem opens (charted : Charted t chart) {p : Site × List String} (inside : p ∈ chart) :
    p.1.Opens t ∧ p.1.below t = p.2 := by
  obtain ⟨v, at', same⟩ := Option.map_eq_some_iff.mp (charted.told p inside)
  rw [Prod.mk.injEq] at same
  exact ⟨⟨v, at', same.2⟩, (Site.below_of_value? at').trans same.1⟩

theorem reaches (charted : Charted t chart) {a b : Site} (inside : a ∈ chart.map Prod.fst)
    (way : ReflTransGen (Site.Refers t) a b) : ∃ texts, (b, texts) ∈ chart := by
  have within : b ∈ chart.map Prod.fst := by
    induction way with
    | refl => exact inside
    | tail _ step ih =>
      obtain ⟨p, here, rfl⟩ := List.mem_map.mp ih
      obtain ⟨reference, there, rfl⟩ := step
      exact charted.closed p here reference ((charted.opens here).2 ▸ there)
  obtain ⟨p, here, rfl⟩ := List.mem_map.mp within
  exact ⟨p.2, here⟩

theorem steady (charted : Charted t chart) {s : Site} (inside : s ∈ chart.map Prod.fst)
    (agree : ∀ p ∈ chart, ∀ q ∈ chart, ∀ reference ∈ p.2, reference ∈ q.2 →
      (q.1.follow t reference).node t = (p.1.follow t reference).node t) : Site.Steady t s := by
  intro a b reference way here back there
  obtain ⟨_, first⟩ := charted.reaches inside way
  have way' := (way.tail ⟨reference, here, rfl⟩).trans back
  obtain ⟨_, last⟩ := charted.reaches inside way'
  rw [(charted.opens first).2] at here
  rw [(charted.opens last).2] at there
  exact agree _ first _ last reference here there

/-- Along references that always lead to a node of higher rank there is no circle. -/
theorem not_circles (charted : Charted t chart) {s : Site} (inside : s ∈ chart.map Prod.fst)
    (rank : FileName × List String → Nat)
    (rises : ∀ p ∈ chart, ∀ reference ∈ p.2,
      rank (p.1.node t) < rank ((p.1.follow t reference).node t)) : ¬Site.Circles t s := by
  rintro ⟨a, b, way, round, same⟩
  -- the sites of the circle need not be equal, only their nodes: the rank is one of nodes
  have higher : rank (a.node t) < rank (b.node t) := by
    clear same
    induction round with
    | single step =>
      obtain ⟨reference, there, rfl⟩ := step
      obtain ⟨_, here⟩ := charted.reaches inside way
      exact rises _ here reference ((charted.opens here).2 ▸ there)
    | tail round step ih =>
      obtain ⟨reference, there, rfl⟩ := step
      obtain ⟨_, here⟩ := charted.reaches inside (way.trans round.to_reflTransGen)
      exact ih.trans (rises _ here reference ((charted.opens here).2 ▸ there))
  rw [same] at higher
  exact absurd higher (Nat.lt_irrefl _)

end Charted

/-- A home folder with text files in it. -/
def shelf (files : List (String × String)) : FileTree :=
  ⟨["home"], (["home"], .folder) :: files.map fun f => (["home", f.1], .file f.2.toUTF8.toList)⟩

/-- A place in a file on the shelf. -/
def onShelf (name : String) (keys : List String) : Site := ⟨⟨.root, ["home", name]⟩, keys⟩

def startFile : FileName := ⟨.relative, ["s.json"]⟩

/-- Two files of which one refers to the other, and that to itself. -/
def layeredFiles : FileTree :=
  shelf [("s.json", "\x7b\"x\":\x7b\"$ref\":\"d.json#/y\"\x7d\x7d"),
    ("d.json", "\x7b\"y\":\x7b\"$ref\":\"#/z\"\x7d,\"z\":1\x7d")]

def layeredChart : List (Site × List String) :=
  [(.top startFile, ["d.json#/y"]), (onShelf "d.json" ["y"], ["#/z"]), (onShelf "d.json" ["z"], [])]

/-- Two files that refer to each other. -/
def ringFiles : FileTree :=
  shelf [("s.json", "\x7b\"x\":\x7b\"$ref\":\"d.json\"\x7d\x7d"),
    ("d.json", "\x7b\"y\":\x7b\"$ref\":\"s.json\"\x7d\x7d")]

def ringChart : List (Site × List String) :=
  [(.top startFile, ["d.json"]), (onShelf "d.json" [], ["s.json"]),
    (onShelf "s.json" [], ["d.json"])]

/-- Two files with a property of the same name, the first of which refers to the second. -/
def echoFiles : FileTree :=
  shelf [
    ("s.json", "\x7b\"x\":\x7b\"$ref\":\"#/tag\"\x7d,\"tag\":\x7b\"$ref\":\"d.json#/y\"\x7d\x7d"),
    ("d.json", "\x7b\"y\":\x7b\"$ref\":\"#/tag\"\x7d,\"tag\":1\x7d")]

def echoChart : List (Site × List String) :=
  [(.top startFile, ["#/tag", "d.json#/y"]), (⟨startFile, ["tag"]⟩, ["d.json#/y"]),
    (onShelf "d.json" ["y"], ["#/tag"]), (onShelf "d.json" ["tag"], [])]

/-- How early a node stands in a chart. -/
def rankIn (t : FileTree) (chart : List (Site × List String)) (node : FileName × List String) :
    Nat :=
  chart.findIdx fun p => p.1.node t = node

theorem layered_charted : Charted layeredFiles layeredChart :=
  ⟨by decide +kernel, by decide +kernel⟩

theorem ring_charted : Charted ringFiles ringChart :=
  ⟨by decide +kernel, by decide +kernel⟩

theorem echo_charted : Charted echoFiles echoChart :=
  ⟨by decide +kernel, by decide +kernel⟩

/-- Whether loading ends in the report of a circle. -/
def reportsCircle (chain : List String) (x : Outcome Schema) : Bool :=
  match x with
  | .error (.fault ⟨.configuration, message, none, [], []⟩) =>
    message == "circular $ref: " ++ " -> ".intercalate chain
  | _ => false

theorem exists_circular (chain : List String) {x : Outcome Schema}
    (told : reportsCircle chain x = true) : ∃ chain, x = .error (circularFailure chain) := by
  unfold reportsCircle at told
  split at told
  · next message =>
    refine ⟨chain, ?_⟩
    rw [eq_of_beq told]
    rfl
  · cases told

theorem load_references_files :
    Site.Steady layeredFiles (.top startFile) ∧ ¬Site.Circles layeredFiles (.top startFile) ∧
    (∃ schema, load layeredFiles startFile = .ok schema) ∧
    Site.Steady ringFiles (.top startFile) ∧
    (∃ chain, load ringFiles startFile = .error (circularFailure chain)) ∧
    Site.Circles ringFiles (.top startFile) := by
  have steady : Site.Steady layeredFiles (.top startFile) :=
    layered_charted.steady List.mem_cons_self (by decide +kernel)
  have noCircle : ¬Site.Circles layeredFiles (.top startFile) :=
    layered_charted.not_circles List.mem_cons_self (rankIn layeredFiles layeredChart)
      (by decide +kernel)
  have opens (s : Site) (way : ReflTransGen (Site.Refers layeredFiles) (.top startFile) s) :
      s.Opens layeredFiles := by
    obtain ⟨_, inside⟩ := layered_charted.reaches List.mem_cons_self way
    exact (layered_charted.opens inside).1
  have steady' : Site.Steady ringFiles (.top startFile) :=
    ring_charted.steady List.mem_cons_self (by decide +kernel)
  have circular : ∃ chain, load ringFiles startFile = .error (circularFailure chain) :=
    exists_circular ["d.json", "s.json", "d.json"] (by decide +kernel)
  exact ⟨steady, noCircle, ((load_references _ _).2 steady).2 noCircle opens, steady', circular,
    ((load_references _ _).2 steady').1 circular⟩

/-- A text that means something else in another file is taken for a circle. -/
theorem load_echo :
    (∃ chain, load echoFiles startFile = .error (circularFailure chain)) ∧
    ¬Site.Circles echoFiles (.top startFile) ∧
    ∀ s, ReflTransGen (Site.Refers echoFiles) (.top startFile) s → s.Opens echoFiles := by
  refine ⟨exists_circular ["#/tag", "d.json#/y", "#/tag"] (by decide +kernel),
    echo_charted.not_circles List.mem_cons_self (rankIn echoFiles echoChart) (by decide +kernel),
    fun s way => ?_⟩
  obtain ⟨_, inside⟩ := echo_charted.reaches List.mem_cons_self way
  exact (echo_charted.opens inside).1

end Quire.Schema
