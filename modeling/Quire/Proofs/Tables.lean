import Quire.Toml.Reader
import Quire.Proofs.Hereditary

/-! What the tables of a TOML text hold. They are put together from the scalars that are
written in it, in arrays and under names, and what is entered leaves the rest as it is. -/

namespace Quire.Toml

/-- What holds of a collection just when it holds of its parts, and of every scalar. -/
structure Reads (K P : Value → Prop) : Prop extends Hereditary K P where
  string : ∀ s, P (.str s)
  scalar : ∀ {cs rest : List Char} {v : Value}, readPlain cs = .ok (v, rest) → P v

variable {K P : Value → Prop}

/-! ### Tables -/

theorem Reads.within? (h : Reads K P) {through : Bool} {change : Entries → Scan Entries}
    (changed : ∀ es fs, P (.map es) → change es = .ok fs → P (.map fs)) {es fs : Entries}
    (holds : P (.map es)) {ks : List String} (whole : within? through change es ks = .ok fs) :
    P (.map fs) := by
  induction ks generalizing es fs with
  | nil => exact changed es fs holds whole
  | cons k ks ih =>
    unfold Toml.within? at whole
    split at whole
    · obtain ⟨inner, below, whole⟩ := bind_eq_ok.mp whole
      obtain rfl := Except.ok.inj whole
      exact h.putField holds k (ih h.empty below)
    · next there =>
      obtain ⟨inner, below, whole⟩ := bind_eq_ok.mp whole
      obtain rfl := Except.ok.inj whole
      exact h.putField holds k (ih (h.field? holds there) below)
    · next xs there =>
      have members := (h.list xs).mp (h.field? holds there)
      split at whole
      · next last found =>
        obtain ⟨last', below, whole⟩ := bind_eq_ok.mp whole
        obtain rfl := Except.ok.inj whole
        have newest := ih (members _ (List.mem_of_getLast? found)) below
        refine h.putField holds k ((h.list _).mpr fun x inside => ?_)
        rcases List.mem_append.mp inside with before | new
        · exact members x (List.dropLast_subset xs before)
        · exact List.mem_singleton.mp new ▸ newest
      · cases whole
    · cases whole

theorem Reads.addNew (h : Reads K P) {name : String} {v : Value} (value : P v) (es fs : Entries)
    (holds : P (.map es)) (whole : addNew name v es = .ok fs) : P (.map fs) := by
  unfold Toml.addNew at whole
  split at whole
  · cases whole
  · obtain rfl := Except.ok.inj whole
    exact h.putField holds name value

theorem Reads.addElement (h : Reads K P) (name : String) (es fs : Entries)
    (holds : P (.map es)) (whole : addElement name es = .ok fs) : P (.map fs) := by
  have one : ∀ x ∈ [Value.map []], P x := fun x new => List.mem_singleton.mp new ▸ h.empty
  unfold Toml.addElement at whole
  split at whole
  · obtain rfl := Except.ok.inj whole
    exact h.putField holds name ((h.list _).mpr one)
  · next xs there =>
    obtain rfl := Except.ok.inj whole
    have members := (h.list xs).mp (h.field? holds there)
    refine h.putField holds name ((h.list _).mpr fun x inside => ?_)
    exact (List.mem_append.mp inside).elim (members x) (one x)
  · cases whole

/-! ### Values -/

/-- What the four readers of values give in so many steps. -/
structure Reads.Within (P : Value → Prop) (steps : Nat) : Prop where
  value : ∀ {nesting cs v rest}, readValue nesting steps cs = .ok (v, rest) → P v
  items : ∀ {nesting acc cs v rest}, (∀ x ∈ acc, P x) →
    readItems nesting steps acc cs = .ok (v, rest) → P v
  pairs : ∀ {nesting es marks cs v rest}, P (.map es) →
    readPairs nesting steps es marks cs = .ok (v, rest) → P v
  pair : ∀ {nesting cs key v rest}, readPair nesting steps cs = .ok (key, v, rest) → P v

theorem Reads.within (h : Reads K P) (steps : Nat) : Reads.Within P steps := by
  induction steps with
  | zero =>
    constructor
    · simp [readValue, refuse]
    · simp [readItems, refuse]
    · simp [readPairs, refuse]
    · simp [readPair, refuse]
  | succ steps ih =>
    refine ⟨fun whole => ?_, fun holds whole => ?_, fun holds whole => ?_, fun whole => ?_⟩
    · unfold readValue at whole
      split at whole
      · obtain ⟨⟨s, rest⟩, _, whole⟩ := bind_eq_ok.mp whole
        cases whole
        exact h.string s
      · obtain ⟨⟨s, rest⟩, _, whole⟩ := bind_eq_ok.mp whole
        cases whole
        exact h.string s
      · obtain ⟨_, _, whole⟩ := bind_eq_ok.mp whole
        obtain ⟨rest, _, whole⟩ := bind_eq_ok.mp whole
        split at whole
        · cases whole
          exact (h.list []).mpr fun x inside => absurd inside List.not_mem_nil
        · exact ih.items (fun x inside => absurd inside List.not_mem_nil) whole
      · obtain ⟨_, _, whole⟩ := bind_eq_ok.mp whole
        split at whole
        · cases whole
          exact h.empty
        · exact ih.pairs h.empty whole
      · exact h.scalar whole
    · unfold readItems at whole
      obtain ⟨⟨x, rest⟩, first, whole⟩ := bind_eq_ok.mp whole
      have more : ∀ y ∈ x :: _, P y := List.forall_mem_cons.mpr ⟨ih.value first, holds⟩
      have all := (h.list _).mpr fun y inside => more y (List.mem_reverse.mp inside)
      obtain ⟨gap, _, whole⟩ := bind_eq_ok.mp whole
      split at whole
      · cases whole
        exact all
      · obtain ⟨gap, _, whole⟩ := bind_eq_ok.mp whole
        split at whole
        · cases whole
          exact all
        · exact ih.items more whole
      · cases whole
    · unfold readPairs at whole
      obtain ⟨⟨key, x, rest⟩, first, whole⟩ := bind_eq_ok.mp whole
      dsimp only at whole
      split at whole
      · cases whole
      · obtain ⟨fs, entered, whole⟩ := bind_eq_ok.mp whole
        have holds := h.within? (h.addNew (ih.pair first)) holds entered
        split at whole
        · cases whole
          exact holds
        · exact ih.pairs holds whole
        · cases whole
    · unfold readPair at whole
      obtain ⟨⟨key, rest⟩, _, whole⟩ := bind_eq_ok.mp whole
      dsimp only at whole
      split at whole
      · obtain ⟨⟨x, rest⟩, first, whole⟩ := bind_eq_ok.mp whole
        cases whole
        exact ih.value first
      · cases whole

/-! ### Documents -/

namespace Document

theorem openTable_reads (h : Reads K P) {d d' : Document} (holds : P (.map d.root))
    {cs rest : List Char} (whole : d.openTable cs = .ok (d', rest)) : P (.map d'.root) := by
  obtain ⟨⟨key, rest'⟩, _, whole⟩ := bind_eq_ok.mp whole
  dsimp only at whole
  split at whole
  · cases whole
  · obtain ⟨root, opened, whole⟩ := bind_eq_ok.mp whole
    obtain ⟨closed, _, whole⟩ := bind_eq_ok.mp whole
    cases whole
    refine h.within? (fun es fs holds same => ?_) holds opened
    obtain rfl := Except.ok.inj same
    exact holds

theorem openElement_reads (h : Reads K P) {d d' : Document} (holds : P (.map d.root))
    {cs rest : List Char} (whole : d.openElement cs = .ok (d', rest)) : P (.map d'.root) := by
  obtain ⟨⟨key, rest'⟩, _, whole⟩ := bind_eq_ok.mp whole
  dsimp only at whole
  split at whole
  · cases whole
  · obtain ⟨root, opened, whole⟩ := bind_eq_ok.mp whole
    obtain ⟨closed, _, whole⟩ := bind_eq_ok.mp whole
    cases whole
    exact h.within? (h.addElement _) holds opened

theorem assign_reads (h : Reads K P) {d d' : Document} (holds : P (.map d.root))
    {cs rest : List Char} (whole : d.assign cs = .ok (d', rest)) : P (.map d'.root) := by
  obtain ⟨⟨key, v, rest'⟩, read, whole⟩ := bind_eq_ok.mp whole
  dsimp only at whole
  split at whole
  · cases whole
  · split at whole
    · cases whole
    · obtain ⟨root, written, whole⟩ := bind_eq_ok.mp whole
      cases whole
      exact h.within? (h.addNew ((h.within _).pair read)) holds written

theorem statement_reads (h : Reads K P) {d d' : Document} (holds : P (.map d.root))
    {cs rest : List Char} (whole : d.statement cs = .ok (d', rest)) : P (.map d'.root) := by
  unfold statement at whole
  split at whole
  · exact openElement_reads h holds whole
  · exact openTable_reads h holds whole
  · split at whole
    · exact assign_reads h holds whole
    · split at whole
      · cases whole
        exact holds
      · cases whole
  · cases whole
    exact holds

theorem readLines_reads (h : Reads K P) {steps : Nat} {d : Document} (holds : P (.map d.root))
    {cs : List Char} {es : Entries} (whole : d.readLines steps cs = .ok es) : P (.map es) := by
  induction steps generalizing d cs with
  | zero => cases whole
  | succ steps ih =>
    unfold readLines at whole
    split at whole
    · obtain rfl := Except.ok.inj whole
      exact holds
    · exact ih holds whole
    · obtain ⟨⟨d', rest⟩, stated, whole⟩ := bind_eq_ok.mp whole
      have holds := statement_reads h holds stated
      obtain ⟨after, _, whole⟩ := bind_eq_ok.mp whole
      split at whole
      · obtain rfl := Except.ok.inj whole
        exact holds
      · exact ih holds whole
      · cases whole

end Document

theorem Reads.read (h : Reads K P) {s : String} {es : Entries} (whole : read s = .ok es) :
    P (.map es) := Document.readLines_reads h h.empty whole

/-! ### Keys -/

variable {p : Value → Bool} {cs rest : List Char} {v : Value}

theorem temporal?_everyKey {found : Scan (Value × List Char)} (timed : temporal? cs = some found)
    (whole : found = .ok (v, rest)) : v.everyKey p = true := by
  unfold temporal? at timed
  split at timed
  · obtain rfl := Option.some.inj timed
    split at whole
    · cases whole
    · repeat' split at whole
      all_goals
        cases whole
        rfl
  · obtain ⟨clock, _, rfl⟩ := Option.map_eq_some_iff.mp timed
    cases whole
    rfl

theorem readDecimal_everyKey (whole : readDecimal cs = .ok (v, rest)) : v.everyKey p = true := by
  unfold readDecimal at whole
  repeat' split at whole
  all_goals
    cases whole
    try rfl

theorem specialReal?_everyKey (special : specialReal? cs = some (v, rest)) :
    v.everyKey p = true := by
  unfold specialReal? at special
  repeat' split at special
  all_goals
    cases special
    try rfl

/-- A scalar has no keys. -/
theorem readPlain_everyKey (whole : readPlain cs = .ok (v, rest)) : v.everyKey p = true := by
  unfold readPlain at whole
  split at whole
  · cases whole
    rfl
  · cases whole
    rfl
  · split at whole
    · next found _ timed => exact temporal?_everyKey timed whole
    · cases whole
      rfl
    · split at whole
      · exact readDecimal_everyKey whole
      · split at whole
        · next special =>
          cases whole
          exact specialReal?_everyKey special
        · cases whole

/-- Every key of every table is a text. -/
theorem everyKey_reads (text : ∀ name : String, p (.str name) = true) :
    Reads (fun k => p k = true) (fun v => v.everyKey p = true) where
  toHereditary := Value.everyKey_hereditary text
  string _ := rfl
  scalar := readPlain_everyKey

end Quire.Toml
