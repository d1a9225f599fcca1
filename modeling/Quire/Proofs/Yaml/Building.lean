import Quire.Proofs.Entries
import Quire.Proofs.Passage
import Quire.Value.Extent
import Quire.Yaml.Reader

/-! From nodes to values. What goes wrong on the way is bad form, or that one node of the tree has
no value of its kind: a truth value, a number, a timestamp, or a key inside itself. -/

namespace Quire.Yaml

/-! ### Values that are complete at once -/

/-- How text may fall short of each kind. -/
def Kind.lapses : Kind → List Mishap.Kind
  | .bool => [.noKey]
  | .int => [.badValue, .noIndex]
  | .real => [.badValue, .noIndex, .overflow]
  | .timestamp => [.badValue, .noField, .badKind]
  | _ => []

/-- Bad form, a value inside itself, or text that falls short of the kind. -/
def Lapse (k : Kind) (t : Trouble) : Prop :=
  t = .malformed ∨ t = .endless ∨ ∃ m, t.toReadError = .mishap m ∧ m.kind ∈ k.lapses

namespace Lapse

theorem badValue {k : Kind} (lapses : .badValue ∈ k.lapses) (text : String) :
    Lapse k (.badValue text) := .inr (.inr ⟨_, rfl, lapses⟩)

end Lapse

namespace Scalar

variable {k : Kind}

theorem wholeIn_gives (lapses : .badValue ∈ k.lapses) (cs : List Char) :
    Gives (Lapse k) (fun _ => True) (wholeIn cs) := by
  unfold wholeIn
  split
  · exact .ok trivial
  · exact .error (.badValue lapses _)

theorem digitsIn_gives (lapses : .badValue ∈ k.lapses) (base : Nat) (cs : List Char) :
    Gives (Lapse k) (fun _ => True) (digitsIn base cs) := by
  have bad (text : String) : Gives (Lapse k) (fun _ => True) (.error (.badValue text) : Scan Int) :=
    .error (.badValue lapses text)
  unfold digitsIn
  dsimp only
  refine .ite (bad _) ?_
  split
  · exact .ite (.ok trivial) (bad _)
  · exact bad _

theorem sixtiesOf_gives (lapses : .badValue ∈ k.lapses) (cs : List Char) :
    Gives (Lapse k) (fun _ => True) (sixtiesOf cs) :=
  (Gives.mapM fun _ _ => wholeIn_gives lapses _).bind fun _ _ => .ok trivial

theorem readInt_gives (text : String) : Gives (Lapse .int) (fun _ => True) (readInt text) := by
  have lapses : .badValue ∈ Kind.int.lapses := by decide
  have none' : Lapse .int .noIndex := .inr (.inr ⟨_, rfl, by decide⟩)
  unfold readInt
  dsimp only
  refine .ite (.error none') ?_
  split
  · exact .ok trivial
  · exact (digitsIn_gives lapses _ _).bind fun _ _ => .ok trivial
  · exact (digitsIn_gives lapses _ _).bind fun _ _ => .ok trivial
  · exact (digitsIn_gives lapses _ _).bind fun _ _ => .ok trivial
  · exact .error none'
  · refine .ite ?_ ?_
    · exact (sixtiesOf_gives lapses _).bind fun _ _ => .ok trivial
    · exact (wholeIn_gives lapses _).bind fun _ _ => .ok trivial

theorem realIn_gives (cs : List Char) : Gives (Lapse .real) (fun _ => True) (realIn cs) := by
  unfold realIn
  split
  · exact .ok trivial
  · exact .error (.badValue (by decide) _)

theorem orOverflow_gives (x : Option Binary64) :
    Gives (Lapse .real) (fun _ => True) (orOverflow x) := by
  cases x with
  | some x => exact .ok trivial
  | none => exact .error (.inr (.inr ⟨_, rfl, by decide⟩))

theorem sixtiesReal_gives (cs : List Char) :
    Gives (Lapse .real) (fun _ => True) (sixtiesReal cs) := by
  refine (Gives.mapM fun _ _ => realIn_gives _).bind fun parts _ => ?_
  refine (Gives.foldlM (fun _ _ _ => ?_) _).bind fun _ _ => .ok trivial
  exact (orOverflow_gives _).bind fun _ _ => .ok trivial

theorem readReal_gives (text : String) : Gives (Lapse .real) (fun _ => True) (readReal text) := by
  unfold readReal
  dsimp only
  refine .ite (.error (.inr (.inr ⟨_, rfl, by decide⟩))) ?_
  refine .ite (.ok trivial) (.ite (.ok trivial) (.ite ?_ ?_))
  · exact (sixtiesReal_gives _).bind fun _ _ => .ok trivial
  · exact (realIn_gives _).bind fun _ _ => .ok trivial

theorem readBool_gives (text : String) : Gives (Lapse .bool) (fun _ => True) (readBool text) :=
  .ite (.ok trivial) (.ite (.ok trivial) (.error (.inr (.inr ⟨_, rfl, List.mem_cons_self⟩))))

theorem calendar_gives {α : Type} (r : Except CalendarError α) :
    Gives (Lapse .timestamp) (fun _ => True) (calendar r) := by
  cases r with
  | ok a => exact .ok trivial
  | error e => exact .error (.badValue (by decide) _)

theorem readBinary_gives (text : String) :
    Gives (Lapse .binary) (fun _ => True) (readBinary text) := by
  unfold readBinary
  dsimp only
  refine .ite (.error (.inl rfl)) ?_
  split
  · exact .ok trivial
  · exact .error (.inl rfl)

end Scalar

/-- Of the values that are complete at once only a whole number may be too long to write, and a
mapping is empty. -/
def AtOnce (v : Value) : Prop :=
  v = .map [] ∨ (∃ i, v = .int i) ∨ v.isWritable = true ∧ ∀ es, v ≠ .map es

theorem AtOnce.other {v : Value} (writable : v.isWritable = true) (other : ∀ es, v ≠ .map es) :
    AtOnce v := .inr (.inr ⟨writable, other⟩)

theorem Scalar.readTimestamp_gives (text : String) :
    Gives (Lapse .timestamp) AtOnce (readTimestamp text) := by
  unfold readTimestamp
  dsimp only
  split
  · exact .error (.inr (.inr ⟨_, rfl, by decide⟩))
  · exact (calendar_gives _).bind fun _ _ => .ok (.other rfl nofun)
  · next year month day clock _ =>
    have rest (offset : Option Int) : Gives (Lapse .timestamp) AtOnce (do
        let date ← calendar (Date.of? year month day)
        let time ← calendar (TimeOfDay.of? clock.hour clock.minute clock.second clock.micro)
        return .moment ⟨date, time, offset⟩) :=
      (calendar_gives _).bind fun _ _ => (calendar_gives _).bind fun _ _ => .ok (.other rfl nofun)
    split
    · exact rest none
    · next seconds _ =>
      have offset : Gives (Lapse .timestamp) (fun _ => True)
          (some <$> calendar (checkOffset seconds)) :=
        (calendar_gives _).map fun _ _ => trivial
      exact offset.bind fun offset _ => rest offset

namespace Node

mutual

theorem textOf_gives {k : Kind} : ∀ n : Node, Gives (Lapse k) (fun _ => True) n.textOf
  | .scalar _ _ => by
    rw [textOf]
    exact .ok trivial
  | .mapping _ pairs => by
    rw [textOf]
    exact textAmong_gives pairs
  | .sequence _ _ => by
    rw [textOf]
    exact .error (.inl rfl)
  | .again _ => by
    rw [textOf]
    exact .error (.inr (.inl rfl))

theorem textAmong_gives {k : Kind} : ∀ pairs : List (Node × Node),
    Gives (Lapse k) (fun _ => True) (textOf.textAmong pairs)
  | [] => by
    rw [textOf.textAmong]
    exact .error (.inl rfl)
  | (key, value) :: rest => by
    have here := textOf_gives (k := k) value
    have later := textAmong_gives (k := k) rest
    unfold textOf.textAmong
    split
    · next same => cases same
    · next same =>
      cases same
      exact here
    · next same =>
      cases same
      exact later

end

theorem timestamp_gives (n : Node) : Gives (Lapse .timestamp) AtOnce n.timestamp :=
  (textOf_gives n).bind fun _ _ =>
    .ite (Scalar.readTimestamp_gives _) (.error (.inr (.inr ⟨_, rfl, by decide⟩)))

theorem start_gives (n : Node) : Gives (Lapse n.kind) AtOnce n.start := by
  unfold start
  split
  · exact (textOf_gives n).bind fun _ _ => .ok (.other rfl nofun)
  · next same =>
    exact (textOf_gives n).bind fun _ _ => (same ▸ Scalar.readBool_gives _).bind
      fun _ _ => .ok (.other rfl nofun)
  · next same =>
    exact (textOf_gives n).bind fun _ _ => (same ▸ Scalar.readInt_gives _).bind
      fun i _ => .ok (.inr (.inl ⟨i, rfl⟩))
  · next same =>
    exact (textOf_gives n).bind fun _ _ => (same ▸ Scalar.readReal_gives _).bind
      fun _ _ => .ok (.other rfl nofun)
  · exact (textOf_gives n).bind fun _ _ => .ok (.other rfl nofun)
  · next same =>
    exact (textOf_gives n).bind fun _ _ => (same ▸ Scalar.readBinary_gives _).bind
      fun _ _ => .ok (.other rfl nofun)
  · next same => exact same ▸ timestamp_gives n
  · exact .ok (.other rfl nofun)
  · exact .ok (.other rfl nofun)
  · exact .ok (.other rfl nofun)
  · exact .ok (.inl rfl)
  · exact .ok (.other rfl nofun)
  · exact .error (.inl rfl)
  · exact .error (.inl rfl)
  · exact .error (.inl rfl)

/-! ### Trees -/

/-- The nodes of a tree. -/
inductive Within (root : Node) : Node → Prop
  | root : Within root root
  | item {kind : Kind} {items : List Node} {n : Node} (around : Within root (.sequence kind items))
      (inside : n ∈ items) : Within root n
  | key {kind : Kind} {pairs : List (Node × Node)} {pair : Node × Node}
      (around : Within root (.mapping kind pairs)) (inside : pair ∈ pairs) : Within root pair.1
  | value {kind : Kind} {pairs : List (Node × Node)} {pair : Node × Node}
      (around : Within root (.mapping kind pairs)) (inside : pair ∈ pairs) : Within root pair.2

/-- A node of the tree, or text in the place of one. -/
def Known (root n : Node) : Prop := root.Within n ∨ ∃ text, n = .scalar .str text

/-- Bad form, or the trouble of a node of the tree. -/
def Blames (root : Node) (t : Trouble) : Prop :=
  t = .malformed ∨ ∃ n, root.Within n ∧ n.start = .error t

/-- A result of some sort, or trouble that lies in the tree. -/
abbrev Yields {α : Type} (root : Node) (good : α → Prop) (x : Scan α) : Prop :=
  Gives root.Blames good x

theorem Yields.refuse {α : Type} {root : Node} {good : α → Prop} :
    root.Yields good (refuse : Scan α) := .error (.inl rfl)

/-! ### Merge keys -/

section Tree

variable {root : Node}

def KnownPairs (root : Node) (pairs : List (Node × Node)) : Prop :=
  ∀ pair ∈ pairs, root.Known pair.1 ∧ root.Known pair.2

theorem Known.items {kind : Kind} {items : List Node} (known : root.Known (.sequence kind items)) :
    ∀ n ∈ items, root.Known n := by
  rcases known with within | ⟨_, other⟩
  · exact fun n inside => .inl (within.item inside)
  · cases other

theorem Known.pairs {kind : Kind} {pairs : List (Node × Node)}
    (known : root.Known (.mapping kind pairs)) : root.KnownPairs pairs := by
  rcases known with within | ⟨_, other⟩
  · exact fun pair inside => ⟨.inl (within.key inside), .inl (within.value inside)⟩
  · cases other

theorem KnownPairs.append {pairs more : List (Node × Node)} (known : root.KnownPairs pairs)
    (further : root.KnownPairs more) : root.KnownPairs (pairs ++ more) :=
  List.forall_mem_append.mpr ⟨known, further⟩

theorem KnownPairs.flatten {lists : List (List (Node × Node))}
    (known : ∀ pairs ∈ lists, root.KnownPairs pairs) : root.KnownPairs lists.flatten := by
  intro pair inside
  obtain ⟨pairs, there, inside⟩ := List.mem_flatten.mp inside
  exact known pairs there pair inside

/-- What a mapping is put together from, the parts that its pairs come in. -/
def KnownParts (root : Node) (parts : List (Node × Node) × List (Node × Node)) : Prop :=
  root.KnownPairs parts.1 ∧ root.KnownPairs parts.2

theorem spread_of_parted {pairs : List (Node × Node)}
    (yields : root.Yields root.KnownParts (parted pairs)) :
    root.Yields root.KnownPairs (spread pairs) := by
  rw [spread]
  exact yields.bind fun _ both => .ok (both.1.append both.2)

mutual

theorem merged_yields : ∀ n : Node, root.Known n → root.Yields root.KnownPairs n.merged
  | .mapping _ pairs, known => by
    rw [merged]
    exact spread_of_parted (parted_yields pairs known.pairs)
  | .sequence _ items, known => by
    rw [merged]
    refine (mergedItems_yields items known.items).bind fun lists each => .ok ?_
    exact .flatten fun pairs inside => each pairs (List.mem_reverse.mp inside)
  | .again kind, _ => by
    by_cases mapping : kind = .mapping
    · rw [mapping, merged]
      exact .ok nofun
    · rw [merged.eq_4 kind mapping]
      exact .refuse
  | .scalar _ _, _ => by
    rw [merged]
    exact .refuse

theorem mergedItems_yields : ∀ items : List Node, (∀ n ∈ items, root.Known n) →
    root.Yields (fun lists => ∀ pairs ∈ lists, root.KnownPairs pairs) (mergedItems items)
  | [], _ => by
    rw [mergedItems]
    exact .ok nofun
  | .mapping _ pairs :: rest, known => by
    obtain ⟨first, known⟩ := List.forall_mem_cons.mp known
    rw [mergedItems]
    exact (spread_of_parted (parted_yields pairs first.pairs)).bind fun _ own =>
      (mergedItems_yields rest known).bind fun _ each => .ok (List.forall_mem_cons.mpr ⟨own, each⟩)
  | .again kind :: rest, known => by
    by_cases mapping : kind = .mapping
    · rw [mapping, mergedItems]
      exact mergedItems_yields rest (List.forall_mem_cons.mp known).2
    · rw [mergedItems.eq_4 _ _ (fun _ _ same => by cases same) fun same => mapping (again.inj same)]
      exact .refuse
  | .sequence _ _ :: rest, _ => by
    rw [mergedItems.eq_4 _ _ (fun _ _ same => by cases same) fun same => by cases same]
    exact .refuse
  | .scalar _ _ :: rest, _ => by
    rw [mergedItems.eq_4 _ _ (fun _ _ same => by cases same) fun same => by cases same]
    exact .refuse

theorem parted_yields : ∀ pairs : List (Node × Node), root.KnownPairs pairs →
    root.Yields root.KnownParts (parted pairs)
  | [], _ => by
    rw [parted]
    exact .ok ⟨nofun, nofun⟩
  | (key, value) :: rest, known => by
    obtain ⟨first, known⟩ := List.forall_mem_cons.mp known
    have here := merged_yields value first.2
    have later := parted_yields rest known
    have keeps (key : Node) (is : root.Known key) :
        root.Yields root.KnownParts (do
          let (brought, own) ← parted rest
          return (brought, (key, value) :: own)) :=
      later.bind fun _ both => .ok ⟨both.1, List.forall_mem_cons.mpr ⟨⟨is, first.2⟩, both.2⟩⟩
    have brings : root.Yields root.KnownParts (do
          let here ← value.merged
          let (brought, own) ← parted rest
          return (here ++ brought, own)) :=
      here.bind fun _ more => later.bind fun _ both => .ok ⟨more.append both.1, both.2⟩
    unfold parted
    dsimp only
    split
    · exact brings
    · exact brings
    · exact brings
    · exact keeps _ (.inr ⟨_, rfl⟩)
    · exact keeps _ first.1

end

theorem spread_yields {pairs : List (Node × Node)} (known : root.KnownPairs pairs) :
    root.Yields root.KnownPairs (spread pairs) := spread_of_parted (parted_yields pairs known)

/-! ### Values -/

variable {n : Node}

theorem start_yields (known : root.Known n) : root.Yields (fun v => n.start = .ok v) n.start where
  found _ came := came
  failed t went := by
    rcases known with within | ⟨text, rfl⟩
    · exact .inr ⟨n, within, went⟩
    · cases went

theorem pairOf_yields (known : root.Known n) :
    root.Yields (fun pair => root.Known pair.1 ∧ root.Known pair.2) n.pairOf := by
  unfold pairOf
  split
  · exact .ok (known.pairs _ List.mem_cons_self)
  · exact .refuse

/-- The value of some node, as what it is at once. -/
def Started (root : Node) (v : Value) : Prop := ∃ n, root.Known n ∧ n.start = .ok v

/-- Of a mapping each key is the value of some node. -/
def Keyed (root : Node) (v : Value) : Prop :=
  ∀ es, v = .map es → ∀ k ∈ Entries.keys es, root.Started k

theorem Keyed.of_ne {v : Value} (other : ∀ es, v ≠ .map es) : root.Keyed v :=
  fun es same => absurd same (other es)

/-- The whole value of each element of a list of pairs. -/
theorem pairs_yields {levels : Nat} {items : List Node}
    (ih : ∀ {n : Node}, root.Known n → root.Yields root.Keyed (build levels n))
    (known : ∀ n ∈ items, root.Known n) :
    root.Yields root.Keyed (do
      return .list (← items.mapM fun item => do
        let (key, value) ← pairOf item
        return .tuple [← build levels key, ← build levels value])) := by
  have pair (n : Node) (inside : n ∈ items) : root.Yields (fun _ => True) (do
      let (key, value) ← pairOf n
      return Value.tuple [← build levels key, ← build levels value]) :=
    (pairOf_yields (known n inside)).bind fun _ both =>
      (ih both.1).bind fun _ _ => (ih both.2).bind fun _ _ => .ok trivial
  exact (Gives.mapM pair).bind fun _ _ => .ok (.of_ne nofun)

theorem build_yields (levels : Nat) (known : root.Known n) :
    root.Yields root.Keyed (build levels n) := by
  induction levels generalizing n with
  | zero => exact .refuse
  | succ levels ih =>
    unfold build
    split
    · exact (Gives.mapM fun n inside => ih (known.items n inside)).bind
        fun _ _ => .ok (.of_ne nofun)
    · have entry (pair : Node × Node) (is : root.Known pair.1 ∧ root.Known pair.2) :
          root.Yields (fun e => root.Started e.1) (do
            return (← pair.1.start, ← build levels pair.2)) :=
        (start_yields is.1).bind fun k came => (ih is.2).bind fun _ _ => .ok ⟨pair.1, is.1, came⟩
      refine (spread_yields known.pairs).bind fun pairs each => ?_
      refine (Gives.mapM fun pair inside => entry pair (each pair inside)).bind
        fun entries started => .ok ?_
      rintro es same k inside
      obtain rfl := Value.map.inj same
      obtain ⟨e, there, rfl⟩ := List.mem_map.mp inside
      rcases Entries.mem_update there with none' | ⟨none' | key, _⟩
      · cases none'
      · cases none'
      · obtain ⟨e', there', same'⟩ := List.mem_map.mp key
        exact same' ▸ started e' there'
    · refine (spread_yields known.pairs).bind fun pairs each => ?_
      have key (pair : Node × Node) (inside : pair ∈ pairs) :
          root.Yields (fun _ => True) pair.1.start :=
        (start_yields (each pair inside).1).mono fun _ _ => trivial
      exact (Gives.mapM key).bind fun _ _ => .ok (.of_ne nofun)
    · exact .ok (.of_ne nofun)
    · exact .ok (.of_ne nofun)
    · exact .ok (.of_ne nofun)
    · exact .ok (.of_ne nofun)
    · exact .ok (.of_ne nofun)
    · exact pairs_yields ih known.items
    · exact pairs_yields ih known.items
    · exact .refuse
    · exact .refuse
    · exact .refuse
    · exact .refuse
    · exact .refuse
    · refine (start_yields known).mono ?_
      rintro v came es rfl k inside
      rcases (start_gives _).found _ came with same | ⟨_, other⟩ | ⟨_, other⟩
      · obtain rfl := Value.map.inj same
        cases inside
      · cases other
      · exact absurd rfl (other es)

theorem startKey_yields (known : root.Known n) : root.Yields (fun _ => True) n.startKey := by
  refine (start_yields known).bind fun v _ => ?_
  exact .ite (.ok trivial) Yields.refuse

theorem startPairs_yields {pairs : List (Node × Node)} (known : root.KnownPairs pairs) :
    root.Yields (fun nodes => ∀ n ∈ nodes, root.Known n) (startPairs pairs) := by
  refine (spread_yields known).bind fun pairs each => ?_
  refine (Gives.forM fun pair inside => ?_).bind fun _ _ => .ok ?_
  · exact (startKey_yields (each pair inside).1).bind fun _ _ =>
      (start_yields (each pair inside).2).bind fun _ _ => .ok trivial
  · intro n inside
    obtain ⟨pair, there, rfl⟩ := List.mem_map.mp inside
    exact (each pair there).2

theorem fill_yields (known : root.Known n) :
    root.Yields (fun nodes => ∀ n ∈ nodes, root.Known n) n.fill := by
  have nested {items : List Node} (each : ∀ n ∈ items, root.Known n) :
      root.Yields (fun nodes => ∀ n ∈ nodes, root.Known n) (do
        let nested ← items.mapM fun item => do
          let (key, value) ← pairOf item
          let _ ← key.start
          let _ ← value.start
          return [key, value]
        return nested.flatten) := by
    have pair (n : Node) (inside : n ∈ items) : root.Yields (fun ns => ∀ n ∈ ns, root.Known n) (do
        let (key, value) ← pairOf n
        let _ ← key.start
        let _ ← value.start
        return [key, value]) :=
      (pairOf_yields (each n inside)).bind fun p both => (start_yields both.1).bind fun _ _ =>
        (start_yields both.2).bind fun _ _ => .ok (by simp [both.1, both.2])
    refine (Gives.mapM pair).bind fun lists each => .ok fun n inside => ?_
    obtain ⟨list, there, inside⟩ := List.mem_flatten.mp inside
    exact each list there n inside
  unfold fill
  split
  · have items := known.items
    refine (Gives.forM fun n inside => ?_).bind fun _ _ => .ok items
    exact (start_yields (items n inside)).bind fun _ _ => .ok trivial
  · exact startPairs_yields known.pairs
  · exact startPairs_yields known.pairs
  · exact .ok nofun
  · exact nested known.items
  · exact nested known.items
  · exact .refuse
  · exact .refuse
  · exact .refuse
  · exact .refuse
  · exact .refuse
  · exact .ok nofun

theorem survey_yields (levels : Nat) {nodes : List Node} (known : ∀ n ∈ nodes, root.Known n) :
    root.Yields (fun _ => True) (survey levels nodes) := by
  induction levels generalizing nodes with
  | zero => exact .ok trivial
  | succ levels ih =>
    unfold survey
    split
    · exact .ok trivial
    · refine (Gives.mapM fun n inside => fill_yields (known n inside)).bind fun lists each => ?_
      refine ih fun n inside => ?_
      obtain ⟨list, there, inside⟩ := List.mem_flatten.mp inside
      exact each list there n inside

end Tree

end Node

/-! ### Documents -/

/-- A text is read unless it has no tree, or a node of its tree stands in the way. -/
theorem readDocument_error {cs : List Char} {t : Trouble} (failed : readDocument cs = .error t) :
    Node.ofText cs = .error t ∨ ∃ root, Node.ofText cs = .ok (some root) ∧ root.Blames t := by
  rcases bind_eq_error.mp failed with bad | ⟨tree, read, failed⟩
  · exact .inl bad
  · cases tree with
    | none => cases failed
    | some root =>
      have known : root.Known root := .inl .root
      have whole : root.Yields root.Keyed (do
          let _ ← root.start
          Node.survey root.height [root]
          Node.build root.height root) :=
        (Node.start_yields known).bind fun _ _ =>
          (Node.survey_yields _ (List.forall_mem_singleton.mpr known)).bind fun _ _ =>
            Node.build_yields _ known
      exact .inr ⟨root, read, whole.failed t failed⟩

theorem readDocument_map {cs : List Char} {es : Entries}
    (came : readDocument cs = .ok (.map es)) :
    ∃ root, Node.ofText cs = .ok (some root) ∧ ∀ k ∈ Entries.keys es, root.Started k := by
  obtain ⟨tree, read, came⟩ := bind_eq_ok.mp came
  cases tree with
  | none => cases came
  | some root =>
    obtain ⟨_, _, came⟩ := bind_eq_ok.mp came
    obtain ⟨_, _, came⟩ := bind_eq_ok.mp came
    exact ⟨root, read, (Node.build_yields _ (.inl .root)).found _ came es rfl⟩

end Quire.Yaml
