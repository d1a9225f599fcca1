import Quire.Proofs.Yaml.Scanning
import Quire.Yaml.Node

/-! Putting tokens together goes forward through them, and each collection it goes into it leaves
again. What goes wrong on the way is bad form, what ended the tokens early, or a collection too
deep inside others. -/

namespace Quire.Yaml

/-- Whether a collection starts here, between brackets or by indentation. -/
def Token.opens : Token → Bool
  | .flowSequenceStart | .flowMappingStart | .blockSequenceStart | .blockMappingStart => true
  | _ => false

/-- Trouble that may be met in a stream. A sequence without an indent of its own has no token that
opens it; the mapping around it has, so that each such token stands for two collections at most.
`credit` is one where such a sequence may start. -/
inductive Amiss (credit : Nat) (s : Stream) : Trouble → Prop
  | malformed : Amiss credit s .malformed
  | early {t : Trouble} (ended : s.trouble = some t) : Amiss credit s t
  | nesting (many : Stream.depthLimit ≤ s.depth + credit + 2 * s.tokens.countP Token.opens) :
      Amiss credit s .endless

/-- Later in the same collections. -/
structure Stream.Later (s t : Stream) : Prop where
  tokens : t.tokens <:+ s.tokens
  depth : t.depth = s.depth
  trouble : t.trouble = s.trouble

namespace Stream.Later

variable {s t u : Stream}

theorem refl (s : Stream) : s.Later s := ⟨List.suffix_rfl, rfl, rfl⟩

theorem trans (first : s.Later t) (second : t.Later u) : s.Later u :=
  ⟨second.tokens.trans first.tokens, second.depth.trans first.depth,
    second.trouble.trans first.trouble⟩

theorem drop (s : Stream) : s.Later s.drop := ⟨List.drop_suffix 1 s.tokens, rfl, rfl⟩

theorem anchored (s : Stream) (anchor : Option String) (node : Node) :
    s.Later (s.anchored anchor node) := by
  cases anchor <;> exact ⟨List.suffix_rfl, rfl, rfl⟩

theorem countP_le (later : s.Later t) :
    t.tokens.countP Token.opens ≤ s.tokens.countP Token.opens :=
  later.tokens.sublist.countP_le

end Stream.Later

theorem Amiss.sooner {credit : Nat} {s t : Stream} {e : Trouble} (amiss : Amiss credit t e)
    (later : s.Later t) : Amiss credit s e := by
  have fewer := later.countP_le
  cases amiss with
  | malformed => exact .malformed
  | early ended => exact .early (later.trouble ▸ ended)
  | nesting many =>
    rw [later.depth] at many
    exact .nesting (by omega)

/-- Putting together the nodes of a stream. -/
def under (credit : Nat) : Passage Stream Trouble where
  ahead := Stream.Later
  meets := Amiss credit
  refl := Stream.Later.refl
  trans := Stream.Later.trans
  sooner later amiss := amiss.sooner later

variable {α : Type} {credit : Nat} {s : Stream}

theorem under_refuse {r : α → Stream} : (under credit).Through r s (refuse : Scan α) :=
  .error .malformed

theorem peek_under : (under credit).Through (fun _ => s) s s.peek := by
  unfold Stream.peek
  split
  · exact .ok (.refl s)
  · cases ended : s.trouble with
    | none => exact .error .malformed
    | some t => exact .error (.early ended)

theorem meets_under (stops : List Token) :
    (under credit).Through (fun _ => s) s (s.meets stops) :=
  peek_under.bind fun _ _ => .ok (.refl s)

theorem resolveTag_malformed {handle : Option String} {suffix : String} {t : Trouble}
    (failed : resolveTag s handle suffix = .error t) : t = .malformed := by
  unfold resolveTag at failed
  split at failed
  · cases failed
  · split at failed
    · cases failed
    · exact (Except.error.inj failed).symm

theorem properties_under : (under credit).Through Prod.snd s (properties s) := by
  have tagged (t : Trouble) (handle : Option String) (suffix : String) (s' : Stream)
      (failed : resolveTag s' handle suffix = .error t) : Amiss credit s' t :=
    resolveTag_malformed failed ▸ .malformed
  unfold properties
  refine peek_under.bind fun first _ => ?_
  split
  · refine (peek_under.from (.drop s)).bind fun second _ => ?_
    split
    · exact .guard (fun t => tagged t _ _ _) fun _ _ => .ok (.drop s.drop)
    · exact .ok (.refl _)
  · refine .guard (fun t => tagged t _ _ _) fun _ _ => ?_
    refine (peek_under.from (.drop s)).bind fun second _ => ?_
    split
    · exact .ok (.drop s.drop)
    · exact .ok (.refl _)
  · exact .ok (.refl s)

theorem announce_under {anchor : Option String} :
    (under credit).Through id s (s.announce anchor) := by
  unfold Stream.announce
  split
  · exact .ok (.refl s)
  · split
    · exact under_refuse
    · exact .ok ⟨List.suffix_rfl, rfl, rfl⟩

theorem settle_under {anchor : Option String} {node : Node} :
    (under credit).Through Prod.snd s (.ok (s.settle anchor node)) := .ok (.anchored s anchor node)

/-- Into a collection, through it and out again. -/
theorem collection_under {inner : Nat} {t : Stream} (later : s.Later t)
    (worth : 1 + inner + 2 * t.tokens.countP Token.opens ≤
      credit + 2 * s.tokens.countP Token.opens)
    {read : Stream → Scan (α × Stream)} (reads : ∀ u, (under inner).Through Prod.snd u (read u))
    {anchor : Option String} {kind : Kind} {make : α → Node} :
    (under credit).Through Prod.snd s (do
      let (items, s) ← read (← t.enter anchor kind)
      return s.leave anchor (make items)) := by
  have entered {u : Stream} (went : t.enter anchor kind = .ok u) :
      u.tokens = t.tokens ∧ u.depth = t.depth + 1 ∧ u.trouble = t.trouble := by
    unfold Stream.enter at went
    split at went
    · cases went
    · obtain rfl := Except.ok.inj went
      have same := Stream.Later.anchored t anchor (.again kind)
      cases anchor <;> exact ⟨rfl, rfl, rfl⟩
  constructor
  · intro found came
    obtain ⟨u, went, came⟩ := bind_eq_ok.mp came
    obtain ⟨⟨items, v⟩, put, came⟩ := bind_eq_ok.mp came
    obtain rfl := Except.ok.inj came
    obtain ⟨tokens, depth, trouble⟩ := entered went
    have inside := (reads u).found _ put
    have out := Stream.Later.anchored { v with depth := v.depth - 1 } anchor (make items)
    refine ⟨out.tokens.trans (inside.tokens.trans ?_), ?_, ?_⟩
    · rw [tokens]
      exact later.tokens
    · rw [Stream.leave, Stream.settle, out.depth, ← later.depth]
      dsimp only
      rw [inside.depth, depth, Nat.add_sub_cancel]
    · rw [Stream.leave, Stream.settle, out.trouble, ← later.trouble, ← trouble]
      exact inside.trouble
  · intro e failed
    rcases bind_eq_error.mp failed with shut | ⟨u, went, failed⟩
    · unfold Stream.enter at shut
      split at shut
      · next deep =>
        obtain rfl := Except.error.inj shut
        rw [later.depth] at deep
        exact .nesting (by omega)
      · cases shut
    · rcases bind_eq_error.mp failed with failed | ⟨_, _, done⟩
      · obtain ⟨tokens, depth, trouble⟩ := entered went
        cases (reads u).failed e failed with
        | malformed => exact .malformed
        | early ended => exact .early (by rw [← later.trouble, ← trouble, ended])
        | nesting many =>
          rw [tokens, depth, later.depth] at many
          exact .nesting (by omega)
      · cases done

/-- Past the comma that stands before each item but the first. -/
theorem comma_under {first : Bool} {t : Token} {go : Stream → Scan (α × Stream)}
    (goes : ∀ u, (under credit).Through Prod.snd u (go u)) :
    (under credit).Through Prod.snd s
      (if first = true then pure s >>= go
        else if t = .flowEntry then pure s.drop >>= go
        else refuse >>= go) :=
  .ite (goes s) (.ite ((goes s.drop).from (.drop s)) under_refuse)

/-- What the readers of nodes come to in so many steps. -/
structure NodesWithin (steps : Nat) : Prop where
  node : ∀ {inBlock} (bare) {s},
    (under bare.toNat).Through Prod.snd s (readNode steps inBlock bare s)
  orAbsent : ∀ {inBlock} (bare) {stops s},
    (under bare.toNat).Through Prod.snd s (readOrAbsent steps inBlock bare stops s)
  blockItems : ∀ {acc s}, (under 0).Through Prod.snd s (blockItems steps acc s)
  bareItems : ∀ {acc s}, (under 0).Through Prod.snd s (bareItems steps acc s)
  blockPairs : ∀ {acc s}, (under 1).Through Prod.snd s (blockPairs steps acc s)
  flowValue : ∀ {stops s}, (under 0).Through Prod.snd s (flowValue steps stops s)
  flowItems : ∀ {first acc s}, (under 0).Through Prod.snd s (flowItems steps first acc s)
  flowPairs : ∀ {first acc s}, (under 0).Through Prod.snd s (flowPairs steps first acc s)

/-- Behind the token that opens it. -/
theorem opened_under {inner : Nat} (bound : inner ≤ 1) {t : Token} (first : s.peek = .ok t)
    (opens : t.opens = true) {read : Stream → Scan (α × Stream)}
    (reads : ∀ u, (under inner).Through Prod.snd u (read u)) {anchor : Option String}
    {kind : Kind} {make : α → Node} :
    (under credit).Through Prod.snd s (do
      let (items, s) ← read (← s.drop.enter anchor kind)
      return s.leave anchor (make items)) := by
  refine collection_under (.drop s) ?_ reads
  unfold Stream.peek at first
  split at first
  · next rest same =>
    obtain rfl := Except.ok.inj first
    have rest' : s.drop.tokens = rest := by simp [Stream.drop, same]
    rw [rest', same, List.countP_cons_of_pos opens]
    omega
  · cases first

/-! ### One step of each reader

The readers call one another with one step less. -/

section

variable {steps : Nat}

theorem readNode_under (ih : NodesWithin steps) {inBlock : Bool} (bare : Bool) :
    (under bare.toNat).Through Prod.snd s (readNode (steps + 1) inBlock bare s) := by
  unfold readNode
  refine peek_under.bind fun first _ => ?_
  split
  · split
    · exact .ok (.drop s)
    · exact under_refuse
  · refine properties_under.bind fun props _ => ?_
    refine announce_under.bind fun u _ => ?_
    refine peek_under.bind fun next there => ?_
    split
    · exact .ok ((Stream.Later.drop u).trans (.anchored u.drop props.1.anchor _))
    · exact opened_under (Nat.zero_le 1) there rfl fun _ => ih.flowItems
    · exact opened_under (Nat.zero_le 1) there rfl fun _ => ih.flowPairs
    · split
      · next started =>
        obtain ⟨rfl, rfl⟩ := started
        exact collection_under (.refl u) (by simp) fun _ => ih.bareItems
      · split
        · next started =>
          exact opened_under (Nat.zero_le 1) there (started.2 ▸ rfl) fun _ => ih.blockItems
        · split
          · next started =>
            exact opened_under (Nat.le_refl 1) there (started.2 ▸ rfl) fun _ => ih.blockPairs
          · split
            · exact settle_under
            · exact under_refuse

theorem readOrAbsent_under (ih : NodesWithin steps) {inBlock : Bool} (bare : Bool)
    {stops : List Token} :
    (under bare.toNat).Through Prod.snd s (readOrAbsent (steps + 1) inBlock bare stops s) := by
  unfold readOrAbsent
  refine (meets_under stops).bind fun met _ => ?_
  exact .ite (.ok (.refl s)) (ih.node bare)

theorem blockItems_under (ih : NodesWithin steps) {acc : List Node} :
    (under 0).Through Prod.snd s (blockItems (steps + 1) acc s) := by
  unfold blockItems
  refine peek_under.bind fun next _ => ?_
  split
  · exact ((ih.orAbsent false).from (.drop s)).bind fun _ _ => ih.blockItems
  · exact .ok (.drop s)
  · exact under_refuse

theorem bareItems_under (ih : NodesWithin steps) {acc : List Node} :
    (under 0).Through Prod.snd s (bareItems (steps + 1) acc s) := by
  unfold bareItems
  refine peek_under.bind fun next _ => ?_
  split
  · exact ((ih.orAbsent false).from (.drop s)).bind fun _ _ => ih.bareItems
  · exact .ok (.refl s)

theorem blockPairs_under (ih : NodesWithin steps) {acc : List (Node × Node)} :
    (under 1).Through Prod.snd s (blockPairs (steps + 1) acc s) := by
  unfold blockPairs
  refine peek_under.bind fun next _ => ?_
  split
  · refine ((ih.orAbsent true).from (.drop s)).bind fun key _ => ?_
    refine peek_under.bind fun next _ => ?_
    split
    · exact ((ih.orAbsent true).from (.drop key.2)).bind fun _ _ => ih.blockPairs
    · exact ih.blockPairs
  · exact .ok (.drop s)
  · exact under_refuse

theorem flowValue_under (ih : NodesWithin steps) {stops : List Token} :
    (under 0).Through Prod.snd s (flowValue (steps + 1) stops s) := by
  unfold flowValue
  refine peek_under.bind fun next _ => ?_
  split
  · exact (ih.orAbsent false).from (.drop s)
  · exact .ok (.refl s)

theorem flowItems_under (ih : NodesWithin steps) {first : Bool} {acc : List Node} :
    (under 0).Through Prod.snd s (flowItems (steps + 1) first acc s) := by
  unfold flowItems
  refine peek_under.bind fun next _ => ?_
  refine .ite (.ok (.drop s)) (peek_under.bind fun second _ => ?_)
  dsimp only
  refine comma_under fun u => peek_under.bind fun next _ => ?_
  split
  · exact .ok (.drop u)
  · refine ((ih.orAbsent false).from (.drop u)).bind fun _ _ => ?_
    exact ih.flowValue.bind fun _ _ => ih.flowItems
  · exact (ih.node false).bind fun _ _ => ih.flowItems

theorem flowPairs_under (ih : NodesWithin steps) {first : Bool} {acc : List (Node × Node)} :
    (under 0).Through Prod.snd s (flowPairs (steps + 1) first acc s) := by
  unfold flowPairs
  refine peek_under.bind fun next _ => ?_
  refine .ite (.ok (.drop s)) (peek_under.bind fun second _ => ?_)
  dsimp only
  refine comma_under fun u => peek_under.bind fun next _ => ?_
  split
  · exact .ok (.drop u)
  · refine ((ih.orAbsent false).from (.drop u)).bind fun _ _ => ?_
    exact ih.flowValue.bind fun _ _ => ih.flowPairs
  · exact (ih.node false).bind fun _ _ => ih.flowPairs

end

theorem nodesWithin (steps : Nat) : NodesWithin steps := by
  induction steps with
  | zero =>
    constructor <;> intros
    · simpa only [readNode] using under_refuse
    · simpa only [readOrAbsent] using under_refuse
    · simpa only [blockItems] using under_refuse
    · simpa only [bareItems] using under_refuse
    · simpa only [blockPairs] using under_refuse
    · simpa only [flowValue] using under_refuse
    · simpa only [flowItems] using under_refuse
    · simpa only [flowPairs] using under_refuse
  | succ steps ih =>
    exact ⟨fun bare => readNode_under ih bare, fun bare => readOrAbsent_under ih bare,
      blockItems_under ih, bareItems_under ih, blockPairs_under ih, flowValue_under ih,
      flowItems_under ih, flowPairs_under ih⟩

/-! ### Documents -/

theorem directives_suffix {versioned : Bool} {own : List (String × String)} {tokens : List Token}
    {found : List (String × String) × List Token}
    (read : directives versioned own tokens = .ok found) : found.2 <:+ tokens := by
  fun_induction directives versioned own tokens with
  | case1 => cases read
  | case2 versioned own major rest _ ih => exact (ih read).trans (List.suffix_cons _ rest)
  | case3 => cases read
  | case4 versioned own handle expansion rest _ ih =>
    exact (ih read).trans (List.suffix_cons _ rest)
  | case5 versioned own rest ih => exact (ih read).trans (List.suffix_cons _ rest)
  | case6 =>
    cases read
    exact List.suffix_rfl

theorem directives_malformed {versioned : Bool} {own : List (String × String)}
    {tokens : List Token} {t : Trouble} (failed : directives versioned own tokens = .error t) :
    t = .malformed := by
  fun_induction directives versioned own tokens with
  | case1 => exact (Except.error.inj failed).symm
  | case2 _ _ _ _ _ ih => exact ih failed
  | case3 => exact (Except.error.inj failed).symm
  | case4 _ _ _ _ _ _ ih => exact ih failed
  | case5 _ _ _ ih => exact ih failed
  | case6 => cases failed

theorem finish_under : (under credit).Through
    (fun _ => { s with tokens := s.tokens.dropWhile (· = .documentEnd) }) s s.finish := by
  have marks : s.Later { s with tokens := s.tokens.dropWhile (· = .documentEnd) } :=
    ⟨List.dropWhile_suffix _, rfl, rfl⟩
  exact (peek_under.from marks).bind fun _ _ => .ite (.ok (.refl _)) under_refuse

/-- The one node of a document and the end marks behind it. -/
theorem whole_error {steps : Nat} {t : Trouble} (failed : (do
    let (node, s) ← readNode steps true false s
    s.finish
    return some node : Scan (Option Node)) = .error t) : Amiss 0 s t := by
  have read : (under 0).Through Prod.snd s (readNode steps true false s) :=
    (nodesWithin steps).node false
  rcases bind_eq_error.mp failed with failed | ⟨found, came, failed⟩
  · exact read.failed t failed
  · rcases bind_eq_error.mp failed with failed | ⟨_, _, done⟩
    · exact Amiss.sooner (finish_under.failed t failed) (read.found found came)
    · cases done

/-- Behind the directives a document starts. -/
theorem started_error {steps : Nat} {t : Trouble} (failed : (do
    if (← s.peek) ≠ .documentStart then refuse
    else
      let s := s.drop
      let next ← s.peek
      if isDirective next ∨ [.documentStart, .documentEnd, .streamEnd].contains next then
        s.finish
        return some .absent
      else
        let (node, s) ← readNode steps true false s
        s.finish
        return some node : Scan (Option Node)) = .error t) : Amiss 0 s t := by
  rcases bind_eq_error.mp failed with early | ⟨_, _, failed⟩
  · exact peek_under.failed t early
  · split at failed
    · obtain rfl := Except.error.inj failed
      exact .malformed
    · refine Amiss.sooner ?_ (.drop s)
      rcases bind_eq_error.mp failed with early | ⟨_, _, failed⟩
      · exact peek_under.failed t early
      · split at failed
        · rcases bind_eq_error.mp failed with failed | ⟨_, _, done⟩
          · exact finish_under.failed t failed
          · cases done
        · exact whole_error failed

theorem ofText_amiss {cs : List Char} {tokens : Array Token} {trouble : Option Trouble}
    (scanned : Token.scan cs = (tokens, trouble)) {t : Trouble}
    (failed : Node.ofText cs = .error t) : Amiss 0 { tokens := tokens.toList, trouble } t := by
  unfold Node.ofText at failed
  rw [scanned] at failed
  dsimp only at failed
  split at failed
  · obtain rfl := Except.error.inj failed
    exact .malformed
  · rcases bind_eq_error.mp failed with early | ⟨first, there, failed⟩
    · exact peek_under.failed t early
    · split at failed
      · cases failed
      · split at failed
        · rcases bind_eq_error.mp failed with bad | ⟨⟨own, rest⟩, read, failed⟩
          · exact directives_malformed bad ▸ .malformed
          · exact (started_error failed).sooner ⟨directives_suffix read, rfl, rfl⟩
        · exact whole_error failed

/-- A text is refused for its form, for an escape, or for collections too deep in others. -/
theorem ofText_error {cs : List Char} {t : Trouble} (failed : Node.ofText cs = .error t) :
    Astray cs t ∨ t = .endless ∧
      Stream.depthLimit ≤ 2 * (Token.scan cs).1.toList.countP Token.opens := by
  rcases scanned : Token.scan cs with ⟨tokens, trouble⟩
  cases ofText_amiss scanned failed with
  | malformed => exact .inl .malformed
  | early ended => exact .inl (Token.scan_trouble (scanned ▸ ended))
  | nesting many => exact .inr ⟨rfl, by simpa only [Nat.zero_add, Nat.add_zero] using many⟩

end Quire.Yaml
