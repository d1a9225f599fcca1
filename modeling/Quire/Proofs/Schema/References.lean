import Mathlib.Data.List.Perm.Subperm
import Quire.Proofs.Schema.SelfContained
import Quire.Schema

/-! Resolving a definition comes to what its unfolding comes to. The chain of
references that led to a value is what tells an unfolding without an end: each of
them names something that comes to the value, so one that turns up again closes a
circle, and a chain without repetition is no longer than the references there are. -/

namespace Quire.Schema

open Relation

/-- What has no reference is resolved already, whatever led to it. -/
theorem resolveWithin_eq_self {v : Value} (free : hasReference v = false) (t : FileTree)
    (budget : Nat) (c : Context) (chain : List String) :
    resolveWithin t budget c chain v = .ok v := by
  cases budget with
  | zero => exact unfold_eq_self _ v free
  | succ budget => exact unfold_eq_self _ v free

/-- An outcome that tells the truth about the unfolding of a value. -/
def Tells (root : Entries) (v : Value) : Except ReferenceError Value → Prop
  | .ok r => Unfolds root v r
  | .error (.unresolvable pointer) => Meets root v pointer
  | .error (.circular _) => Endless root v
  | .error _ => False

/-- The same about what a reference names. -/
def Answers (root : Entries) (reference : String) (outcome : Except ReferenceError Value) : Prop :=
  match named root reference with
  | .ok target => Tells root target outcome
  | .error e => outcome = .error e

variable {root : Entries}

/-- Trouble further on is trouble here. -/
theorem Tells.head {v w : Value} {e : ReferenceError} (step : ComesTo root v w)
    (tells : Tells root w (.error e)) : Tells root v (.error e) := by
  cases e with
  | unresolvable => exact Meets.head step tells
  | circular => exact Endless.head step tells
  | _ => exact tells

/-- What is done for the first part and then for the rest tells the truth about both
when either does about its own. -/
theorem Tells.cons {α : Type} {v x rest : Value} {one : Except ReferenceError Value}
    {others : Except ReferenceError α} {wrap : α → Value} {cons : Value → α → α}
    (enter : ComesTo root v x) (next : ∀ {y}, Unfolds root x y → ComesTo root v rest)
    (join : ∀ {y ys}, Unfolds root x y → Unfolds root rest (wrap ys) →
      Unfolds root v (wrap (cons y ys)))
    (first : Tells root x one)
    (later : ∀ {y}, Unfolds root x y → Tells root rest (others.map wrap)) :
    Tells root v ((do return cons (← one) (← others) : Except ReferenceError α).map wrap) := by
  cases one with
  | error e => exact first.head enter
  | ok y =>
    have later := later first
    cases others with
    | error e => exact later.head (next first)
    | ok ys => exact join first later

/-- The entries that are unfolded: all of them, or those beside a reference. -/
def kept (beside : Bool) (es : Entries) : Entries :=
  if beside then Entries.erase es referenceKey else es

theorem kept_cons (beside : Bool) (k v : Value) (es : Entries) : kept beside ((k, v) :: es) =
    if beside && k.same referenceKey then kept beside es else (k, v) :: kept beside es := by
  cases beside with
  | false => rfl
  | true => cases same : k.same referenceKey <;> simp [kept, Entries.erase, same]

section Unfold

variable {follow : String → Except ReferenceError Value}

/-- Every reference that is come to from a value is answered. -/
def Answered (root : Entries) (follow : String → Except ReferenceError Value) (v : Value) : Prop :=
  ∀ es reference, ReflTransGen (ComesTo root) v (.map es) → referenceOf? es = some reference →
    Answers root reference (follow reference)

theorem Answered.step {v w : Value} (answered : Answered root follow v)
    (step : ComesTo root v w) : Answered root follow w :=
  fun es reference way refers => answered es reference (.head step way) refers

theorem overlay_of_not_map {target : Value} (noMap : target.map? = none)
    (beside : Except ReferenceError Entries) : overlay target beside = .ok target := by
  cases target <;> simp_all [overlay, Value.map?]

/-- Laying the entries beside a reference over its target tells the truth when both
parts do. -/
theorem overlay_tells {es : Entries} {reference : String} {outcome : Except ReferenceError Value}
    {beside : Except ReferenceError Entries} (whole : isSelfContained (.map root))
    (refers : referenceOf? es = some reference) (there : Answers root reference outcome)
    (rest : (∃ target ts, named root reference = .ok target ∧ Unfolds root target (.map ts)) →
      Tells root (.map (Entries.erase es referenceKey)) (beside.map .map)) :
    Tells root (.map es) (outcome.bind fun t => overlay t beside) := by
  rcases named_cases whole reference with ⟨target, names, _⟩ | ⟨pointer, nowhere⟩
  · rw [Answers, names] at there
    cases outcome with
    | error e => exact there.head (.target refers names)
    | ok t =>
      cases shape : t.map? with
      | none =>
        rw [Except.bind, overlay_of_not_map shape]
        exact .replaced refers names there shape
      | some ts =>
        obtain rfl : t = .map ts := by cases t <;> simp_all [Value.map?]
        have rest := rest ⟨target, ts, names, there⟩
        cases beside with
        | error e => exact rest.head (.beside refers names there)
        | ok fs => exact .merged refers names there rest
  · rw [Answers, nowhere] at there
    rw [there]
    exact ⟨es, reference, .refl, refers, nowhere⟩

mutual

theorem unfold_tells (whole : isSelfContained (.map root)) :
    ∀ v, Fits root v → Answered root follow v → Tells root v (unfold follow v)
  | .list xs, fits, answered => by
    have items := unfoldItems_tells whole xs fits answered
    rw [unfold]
    cases done : unfoldItems follow xs with
    | error e => exact done ▸ items
    | ok ys => exact done ▸ items
  | .map es, fits, answered => by
    rw [unfold]
    cases refers : referenceOf? es with
    | some reference =>
      refine overlay_tells whole refers (answered es reference .refl refers) ?_
      rintro ⟨target, ts, names, there⟩
      have step : ComesTo root (.map es) _ := .beside refers names there
      exact unfoldFields_tells whole true es (Entries.has_erase _ _) (fits.comesTo whole step)
        (answered.step step)
    | none =>
      have fields := unfoldFields_tells whole false es
        (has_eq_false_of_plain fits.selfContained refers) fits answered
      cases done : unfoldFields follow false es with
      | error e => exact done ▸ fields
      | ok fs => exact done ▸ fields
  | .tuple _, fits, _ | .set _, fits, _ | .cycle _, fits, _ | .missing _, fits, _ => by
    cases fits.selfContained
  | .null, _, _ | .bool _, _, _ | .int _, _, _ | .real _, _, _ | .str _, _, _ | .date _, _, _
  | .moment _, _, _ | .time _, _, _ | .bytes _, _, _ => .leaf rfl rfl

theorem unfoldItems_tells (whole : isSelfContained (.map root)) :
    ∀ xs, Fits root (.list xs) → Answered root follow (.list xs) →
      Tells root (.list xs) ((unfoldItems follow xs).map .list)
  | [], _, _ => .nil
  | x :: xs, fits, answered =>
    .cons (.item x xs) (.items xs) .cons
      (unfold_tells whole x fits.item.1 (answered.step (.item x xs)))
      fun first => unfoldItems_tells whole xs fits.item.2 (answered.step (.items xs first))

theorem unfoldFields_tells (whole : isSelfContained (.map root)) (beside : Bool) :
    ∀ es, Entries.has (kept beside es) referenceKey = false → Fits root (.map (kept beside es)) →
      Answered root follow (.map (kept beside es)) →
      Tells root (.map (kept beside es)) ((unfoldFields follow beside es).map .map)
  | [], _, _, _ => by
    cases beside <;> exact .empty
  | (k, v) :: es, free, fits, answered => by
    rw [unfoldFields]
    rw [kept_cons] at free fits answered ⊢
    split
    case isTrue left =>
      rw [if_pos left] at free fits answered
      exact unfoldFields_tells whole beside es free fits answered
    case isFalse stays =>
      rw [if_neg stays] at free fits answered
      have plain : referenceOf? ((k, v) :: kept beside es) = none := plain_of_has free
      refine .cons (.field plain) (.fields plain) (.field plain) ?_ fun first => ?_
      · exact unfold_tells whole v (fits.value List.mem_cons_self) (answered.step (.field plain))
      · have step : ComesTo root _ (.map (kept beside es)) := .fields plain first
        exact unfoldFields_tells whole beside es (Bool.or_eq_false_iff.mp free).2
          (fits.comesTo whole step) (answered.step step)

end

end Unfold

/-- References that led to a value, each once. What each of them names comes to the
value. -/
structure Led (root : Entries) (chain : List String) (v : Value) : Prop where
  nodup : chain.Nodup
  known : ∀ reference ∈ chain, reference ∈ references (.map root)
  comes : ∀ reference ∈ chain, ∃ target, named root reference = .ok target ∧
    ReflTransGen (ComesTo root) target v

theorem Led.start (v : Value) : Led root [] v := ⟨.nil, nofun, nofun⟩

/-- A reference that led to the value and turns up again has no end. -/
theorem Led.circle {chain : List String} {v : Value} (led : Led root chain v) {es : Entries}
    {reference : String} (way : ReflTransGen (ComesTo root) v (.map es))
    (refers : referenceOf? es = some reference) (again : reference ∈ chain)
    (reported : List String) :
    Answers root reference (.error (.circular reported)) := by
  obtain ⟨target, names, comes⟩ := led.comes reference again
  rw [Answers, names]
  exact Endless.of_circle (.tail' (comes.trans way) (.target refers names))

/-- One reference further on. -/
theorem Led.step {chain : List String} {v : Value} (led : Led root chain v) {es : Entries}
    {reference : String} {target : Value} (way : ReflTransGen (ComesTo root) v (.map es))
    (refers : referenceOf? es = some reference) (known : reference ∈ references (.map root))
    (names : named root reference = .ok target) (new : reference ∉ chain) :
    Led root (chain ++ [reference]) target := by
  refine ⟨List.nodup_append.mpr ⟨led.nodup, List.pairwise_singleton _ _, ?_⟩, ?_, ?_⟩
  · rintro other inside _ last rfl
    exact new (List.mem_singleton.mp last ▸ inside)
  · intro other inside
    rcases List.mem_append.mp inside with before | last
    · exact led.known other before
    · exact List.mem_singleton.mp last ▸ known
  · intro other inside
    rcases List.mem_append.mp inside with before | last
    · obtain ⟨first, names', comes⟩ := led.comes other before
      exact ⟨first, names', (comes.trans way).tail (.target refers names)⟩
    · exact ⟨target, List.mem_singleton.mp last ▸ names, .refl⟩

/-- A chain without repetition that is as long as what it is taken from has all of it. -/
theorem mem_chain_of_full {chain known : List String} (nodup : chain.Nodup)
    (within : chain ⊆ known) (long : known.length ≤ chain.length) {reference : String}
    (inside : reference ∈ known) : reference ∈ chain := by
  have within : chain.Subperm known := List.subperm_of_subset nodup within
  exact (within.perm_of_length_le long).mem_iff.mpr inside

/-- When as many references led to a value as there are, each of them did. -/
theorem Led.full {chain : List String} {v : Value} (led : Led root chain v)
    (long : (references (.map root)).length ≤ chain.length) {reference : String}
    (known : reference ∈ references (.map root)) : reference ∈ chain :=
  mem_chain_of_full led.nodup led.known long known

theorem cutReference_of_local {reference : String} (head : reference.toList.head? = some '#') :
    (cutReference reference).1 = "" := by
  unfold cutReference
  cases cs : reference.toList with
  | nil => simp [cs] at head
  | cons c rest =>
    obtain rfl : c = '#' := by simpa [cs] using head
    simp

/-- A local reference names a part of the definition, read in the same context. -/
theorem locate_of_local (t : FileTree) (whole : isSelfContained (.map root)) {reference : String}
    (head : reference.toList.head? = some '#') :
    locate t ⟨root, none⟩ reference = (named root reference).map fun v => (⟨root, none⟩, v) := by
  unfold locate
  simp only [cutReference_of_local head, if_true]
  rcases named_cases whole reference with ⟨target, names, fits⟩ | ⟨pointer, nowhere⟩
  · have ends := not_endless_selfContained target fits.selfContained
    rw [names]
    rw [named] at names
    simp only [names, bind, Except.bind, bounded, Option.isSome_none, Bool.false_eq_true, if_false,
      ends]
    rfl
  · rw [nowhere]
    rw [named] at nowhere
    simp only [nowhere]
    rfl

/-- The resolver tells the truth about every part of a definition it comes to, as long
as its budget and the chain together can hold all references. -/
theorem resolveWithin_tells (t : FileTree) (whole : isSelfContained (.map root)) (budget : Nat) :
    ∀ {chain : List String} {v : Value}, Fits root v → Led root chain v →
      (references (.map root)).length ≤ budget + chain.length →
      Tells root v (resolveWithin t budget ⟨root, none⟩ chain v) := by
  induction budget with
  | zero =>
    intro chain v fits led long
    refine unfold_tells whole v fits fun es reference way refers => ?_
    have known := (fits.way whole way).known reference (by simp [references, refers])
    exact led.circle way refers (led.full (by omega) known) _
  | succ budget ih =>
    intro chain v fits led long
    refine unfold_tells whole v fits fun es reference way refers => ?_
    have there := fits.way whole way
    have known := there.known reference (by simp [references, refers])
    have head := isLocal_of_referenceOf? there.selfContained refers
    by_cases again : reference ∈ chain
    · simp only [List.contains_iff_mem, again, if_true]
      exact led.circle way refers again _
    · simp only [List.contains_iff_mem, again, if_false]
      rw [locate_of_local t whole head]
      rcases named_cases whole reference with ⟨target, names, fits'⟩ | ⟨pointer, nowhere⟩
      · rw [Answers, names]
        refine ih fits' (led.step way refers known names again) ?_
        rw [List.length_append, List.length_singleton]
        omega
      · rw [Answers, nowhere]
        rfl

theorem resolveAll_tells (t : FileTree) (whole : isSelfContained (.map root)) :
    Tells root (.map root) (resolveAll t root none) := by
  have ends := not_endless_selfContained (.map root) whole
  simp only [resolveAll, bounded, Option.isSome_none, Bool.false_eq_true, if_false, ends]
  refine resolveWithin_tells t whole _ (.top whole) (.start _) ?_
  rw [chainLimit, List.length_nil]
  omega

section Outcome

variable {v : Value} {outcome : Except ReferenceError Value}

theorem Tells.ok_iff (tells : Tells root v outcome) (r : Value) :
    outcome = .ok r ↔ Unfolds root v r := by
  refine ⟨fun done => by rwa [done] at tells, fun u => ?_⟩
  cases outcome with
  | ok s => rw [u.unique tells]
  | error e =>
    cases e with
    | circular => exact absurd tells u.not_endless
    | unresolvable pointer => exact absurd tells (u.not_meets pointer)
    | _ => exact tells.elim

theorem Tells.unresolvable_iff (tells : Tells root v outcome) (pointer : String) :
    outcome = .error (.unresolvable pointer) ↔ Meets root v pointer := by
  refine ⟨fun done => by rwa [done] at tells, fun met => ?_⟩
  cases outcome with
  | ok r => exact absurd met (Unfolds.not_meets tells pointer)
  | error e =>
    cases e with
    | circular => exact absurd tells met.not_endless
    | unresolvable pointer' => rw [met.unique tells]
    | _ => exact tells.elim

theorem Tells.circular_iff (tells : Tells root v outcome) :
    (∃ chain, outcome = .error (.circular chain)) ↔ Endless root v := by
  refine ⟨fun ⟨chain, done⟩ => by rwa [done] at tells, fun endless => ?_⟩
  cases outcome with
  | ok r => exact absurd endless (Unfolds.not_endless tells)
  | error e =>
    cases e with
    | circular chain => exact ⟨chain, rfl⟩
    | unresolvable pointer => exact absurd endless (Meets.not_endless tells)
    | _ => exact tells.elim

/-- One of the three it is. -/
theorem Tells.cases (tells : Tells root v outcome) :
    (∃ r, outcome = .ok r) ∨ (∃ chain, outcome = .error (.circular chain)) ∨
      ∃ pointer, outcome = .error (.unresolvable pointer) := by
  cases outcome with
  | ok r => exact .inl ⟨r, rfl⟩
  | error e =>
    cases e with
    | circular chain => exact .inr (.inl ⟨chain, rfl⟩)
    | unresolvable pointer => exact .inr (.inr ⟨pointer, rfl⟩)
    | _ => exact tells.elim

end Outcome

/-- The failure of a definition that goes round in a circle. -/
def circularFailure (chain : List String) : Failure :=
  .fault (.configuration ("circular $ref: " ++ " -> ".intercalate chain) none)

/-- The failure of a definition with a pointer that leads nowhere. -/
def unresolvableFailure (pointer : String) : Failure :=
  .fault (.configuration ("unresolvable $ref pointer: #/" ++ pointer) none)

theorem unresolvableFailure_inj {p q : String} :
    unresolvableFailure p = unresolvableFailure q ↔ p = q := by
  simp [unresolvableFailure, Fault.configuration]

theorem circularFailure_ne (chain : List String) (pointer : String) :
    circularFailure chain ≠ unresolvableFailure pointer := by
  simp [circularFailure, unresolvableFailure, Fault.configuration, ← String.toList_inj]

theorem ofValue_selfContained (whole : isSelfContained (.map root)) :
    ofValue (.map root) = lift ((resolveAll noFiles root none).map fun r => ⟨r, none⟩) := by
  have same : Value.copiedEntries root = root := copiedEntries_selfContained root whole
  change (lift (resolveAll noFiles (Value.copiedEntries root) none)).map _ = _
  rw [same]
  cases resolveAll noFiles root none <;> rfl

theorem ofValue_eq_ok_iff (whole : isSelfContained (.map root)) {s : Schema} :
    ofValue (.map root) = .ok s ↔ s.source = none ∧ Unfolds root (.map root) s.definition := by
  rw [ofValue_selfContained whole, ← (resolveAll_tells noFiles whole).ok_iff]
  obtain ⟨r, source⟩ := s
  cases resolveAll noFiles root none <;> simp [lift, Except.map, eq_comm, and_comm]

theorem ofValue_eq_circular_iff (whole : isSelfContained (.map root)) :
    (∃ chain, ofValue (.map root) = .error (circularFailure chain)) ↔
      Endless root (.map root) := by
  have tells := resolveAll_tells noFiles whole
  rw [ofValue_selfContained whole, ← tells.circular_iff]
  rcases tells.cases with ⟨r, done⟩ | ⟨chain, done⟩ | ⟨pointer, done⟩
  · simp [done, lift, Except.map]
  · rw [done]
    exact ⟨fun _ => ⟨chain, rfl⟩, fun _ => ⟨chain, rfl⟩⟩
  · rw [done]
    simp only [reduceCtorEq, Except.error.injEq, exists_false, iff_false]
    rintro ⟨chain, eq⟩
    exact circularFailure_ne chain pointer (Except.error.inj eq).symm

theorem ofValue_eq_unresolvable_iff (whole : isSelfContained (.map root)) (pointer : String) :
    ofValue (.map root) = .error (unresolvableFailure pointer) ↔
      Meets root (.map root) pointer := by
  have tells := resolveAll_tells noFiles whole
  rw [ofValue_selfContained whole, ← tells.unresolvable_iff]
  rcases tells.cases with ⟨r, done⟩ | ⟨chain, done⟩ | ⟨pointer', done⟩
  · simp [done, lift, Except.map]
  · rw [done]
    simp only [reduceCtorEq, Except.error.injEq, iff_false]
    exact fun eq => circularFailure_ne chain pointer (Except.error.inj eq)
  · rw [done, Except.error.injEq, ReferenceError.unresolvable.injEq, ← unresolvableFailure_inj]
    exact ⟨Except.error.inj, congrArg Except.error⟩

/-- Reading the definition of a schema once more changes nothing. -/
theorem ofValue_again (whole : isSelfContained (.map root)) {s : Schema}
    (made : ofValue (.map root) = .ok s) {es : Entries} (shape : s.definition = .map es) :
    ofValue (.map es) = .ok s := by
  obtain ⟨source, u⟩ := (ofValue_eq_ok_iff whole).mp made
  have free := u.free whole (.top whole)
  have again := u.selfContained whole (.top whole)
  rw [shape] at free again
  have ends := not_endless_selfContained (.map es) again
  have resolved : resolveAll noFiles es none = .ok (.map es) := by
    simp only [resolveAll, bounded, Option.isSome_none, Bool.false_eq_true, if_false, ends]
    exact resolveWithin_eq_self free ..
  rw [ofValue_selfContained again, resolved, ← shape, ← source]
  rfl

/-- A schema from a definition that refers to itself only is what the definition
unfolds to, if it unfolds at all; nothing is left in it to resolve. It is refused as
circular when its unfolding has no end, and as unresolvable when the unfolding meets a
pointer that leads nowhere, and there is no other case. -/
theorem ofValue_unfolds {definition : Entries} (whole : isSelfContained (.map definition)) :
    (∀ r, ofValue (.map definition) = .ok ⟨r, none⟩ ↔
      Unfolds definition (.map definition) r) ∧
    (∀ s, ofValue (.map definition) = .ok s → s.source = none ∧
      isSelfContained s.definition ∧ hasReference s.definition = false ∧
      (∀ t budget c chain, resolveWithin t budget c chain s.definition = .ok s.definition) ∧
      ∀ es, s.definition = .map es → ofValue (.map es) = .ok s) ∧
    ((∃ chain, ofValue (.map definition) = .error (circularFailure chain)) ↔
      Endless definition (.map definition)) ∧
    (∀ pointer, ofValue (.map definition) = .error (unresolvableFailure pointer) ↔
      Meets definition (.map definition) pointer) ∧
    ((∃ s, ofValue (.map definition) = .ok s) ∨
      (∃ chain, ofValue (.map definition) = .error (circularFailure chain)) ∨
      ∃ pointer, ofValue (.map definition) = .error (unresolvableFailure pointer)) := by
  refine ⟨fun r => ?_, fun s made => ?_, ofValue_eq_circular_iff whole,
    ofValue_eq_unresolvable_iff whole, ?_⟩
  · simpa using ofValue_eq_ok_iff whole (s := ⟨r, none⟩)
  · obtain ⟨source, u⟩ := (ofValue_eq_ok_iff whole).mp made
    have again := u.selfContained whole (.top whole)
    have free := u.free whole (.top whole)
    exact ⟨source, again, free, resolveWithin_eq_self free, fun _ => ofValue_again whole made⟩
  · rw [ofValue_selfContained whole]
    rcases (resolveAll_tells noFiles whole).cases with ⟨r, done⟩ | ⟨chain, done⟩ | ⟨pointer, done⟩
    · exact .inl ⟨⟨r, none⟩, by rw [done]; rfl⟩
    · exact .inr (.inl ⟨chain, by rw [done]; rfl⟩)
    · exact .inr (.inr ⟨pointer, by rw [done]; rfl⟩)

/-- A property that refers to a further reference, with a title of its own. -/
def renamed : Entries :=
  [(.str "a", .map [(referenceKey, .str "#/b"), (.str "title", .str "own")]),
   (.str "b", .map [(referenceKey, .str "#/c")]),
   (.str "c", .map [(.str "title", .str "general"), (.str "type", .str "string")])]

/-- Two properties that refer to each other. -/
def mutualReferences : Entries :=
  [(.str "a", .map [(referenceKey, .str "#/b")]), (.str "b", .map [(referenceKey, .str "#/a")])]

theorem ofValue_unfolds_samples :
    isSelfContained (.map renamed) ∧ isSelfContained (.map mutualReferences) ∧
    Unfolds renamed (.map renamed)
      (.map [(.str "a", .map [(.str "title", .str "own"), (.str "type", .str "string")]),
        (.str "b", .map [(.str "title", .str "general"), (.str "type", .str "string")]),
        (.str "c", .map [(.str "title", .str "general"), (.str "type", .str "string")])]) ∧
    Endless mutualReferences (.map mutualReferences) := by
  have whole : isSelfContained (.map renamed) := by decide +kernel
  have whole' : isSelfContained (.map mutualReferences) := by decide +kernel
  refine ⟨whole, whole', ((ofValue_unfolds whole).1 _).mp (by with_unfolding_all rfl), ?_⟩
  exact (ofValue_unfolds whole').2.2.1.mp ⟨["#/b", "#/a", "#/b"], by with_unfolding_all rfl⟩

end Quire.Schema
