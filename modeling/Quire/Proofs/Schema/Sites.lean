import Quire.Proofs.Chain
import Quire.Proofs.Schema.References

/-! References between files. What a reference means depends on the file it is written
in: it names a site, which is a file and the keys that lead to a place in it. The
resolver knows the references on its way by their texts only. So it finds a circle that is
one, or it meets a text again that means another site this time. -/

namespace Quire.Schema

open Relation

/-- A place in a file, whether or not there is anything. -/
structure Site where
  file : FileName
  keys : List String
  deriving DecidableEq

namespace Site

variable (t : FileTree)

/-- The file by its resolved name, and the pointer. -/
def node (s : Site) : FileName × List String := (s.file.resolve t.home, s.keys)

/-- What stands there. -/
def value? (s : Site) : Option Value :=
  (readFile t s.file).toOption.bind fun root => Pointer.descend s.keys (.map root)

/-- The references below a site. -/
def below (s : Site) : List String := ((s.value? t).map references).getD []

/-- The site that a reference names where it is written in the file of another. -/
def follow (s : Site) (reference : String) : Site where
  file :=
    if (cutReference reference).1 = "" then s.file
    else (s.file.parent.join (FileName.ofString (cutReference reference).1)).resolve t.home
  keys := Pointer.keys (cutReference reference).2

/-- The file can be read, the pointer leads somewhere, and what is there is not nested
too deep to be looked through. -/
def Opens (s : Site) : Prop := ∃ v, s.value? t = some v ∧ v.isDeeper depthLimit = false

/-- One site refers to another. -/
def Refers (a b : Site) : Prop := ∃ reference ∈ a.below t, b = a.follow t reference

/-- A site from which references lead to one from which they lead back to the same node. -/
def Circles (s : Site) : Prop :=
  ∃ a b, ReflTransGen (Refers t) s a ∧ TransGen (Refers t) a b ∧ b.node t = a.node t

/-- On no way from the site does a text that is met again mean another node. -/
def Steady (s : Site) : Prop :=
  ∀ a b reference, ReflTransGen (Refers t) s a → reference ∈ a.below t →
    ReflTransGen (Refers t) (a.follow t reference) b → reference ∈ b.below t →
    (b.follow t reference).node t = (a.follow t reference).node t

/-- References that can be followed one after the other, from a site to a site. -/
def Trail : Site → List String → Site → Prop
  | a, [], b => a = b
  | a, reference :: rest, b => reference ∈ a.below t ∧ Trail (a.follow t reference) rest b

variable {t}

theorem trail_append {a b : Site} {front back : List String} :
    Trail t a (front ++ back) b ↔ ∃ c, Trail t a front c ∧ Trail t c back b := by
  induction front generalizing a with
  | nil => simp [Trail]
  | cons reference front ih => simp [Trail, ih, and_assoc]

theorem trail_concat {a b : Site} {front : List String} {reference : String} :
    Trail t a (front ++ [reference]) b ↔
      ∃ c, Trail t a front c ∧ reference ∈ c.below t ∧ c.follow t reference = b :=
  trail_append

theorem Trail.reaches {a b : Site} {texts : List String} (trail : Trail t a texts b) :
    ReflTransGen (Refers t) a b := by
  induction texts generalizing a with
  | nil => exact trail ▸ .refl
  | cons reference rest ih =>
    obtain ⟨there, trail⟩ := trail
    exact .head ⟨reference, there, rfl⟩ (ih trail)

/-- A text met again on the way closes a circle if it means the same both times. -/
theorem Steady.circles {s b : Site} (steady : Steady t s) {front : List String}
    {reference : String} (again : reference ∈ front)
    (trail : Trail t s (front ++ [reference]) b) : Circles t s := by
  obtain ⟨before, between, rfl⟩ := List.append_of_mem again
  obtain ⟨last, way, there, rfl⟩ := trail_concat.mp trail
  obtain ⟨first, toFirst, here, fromFirst⟩ := trail_append.mp way
  have back := fromFirst.reaches
  refine ⟨first.follow t reference, last.follow t reference, ?_, ?_, ?_⟩
  · exact .tail toFirst.reaches ⟨reference, here, rfl⟩
  · exact .tail' back ⟨reference, there, rfl⟩
  · exact steady first last reference toFirst.reaches here back there

end Site

/-! ### What is written where -/

theorem references_descend {keys : List String} {v w : Value}
    (leads : Pointer.descend keys v = some w) : references w ⊆ references v := by
  induction keys generalizing v with
  | nil => exact Option.some.inj leads ▸ List.Subset.refl _
  | cons k keys ih =>
    cases v with
    | map es =>
      obtain ⟨u, found, leads⟩ := Option.bind_eq_some_iff.mp leads
      obtain ⟨k', inside, _⟩ := Entries.mem_of_get? found
      refine fun reference there => List.mem_append_right _ ?_
      exact mem_referencesOfFields.mpr ⟨(k', u), inside, ih leads there⟩
    | _ => simp [Pointer.descend] at leads

/-- Where a walk ends is called what its last part calls it, unless that is no name. -/
theorem walk_last {t : FileTree} {parts : List String} {start place : Place}
    (walked : t.walk start parts = .ok place) :
    place.getLast?.getD "" = parts.getLast?.getD "" ∨
      parts.getLast?.getD "" ∈ ["", ".", ".."] := by
  induction parts generalizing start with
  | nil => exact .inr List.mem_cons_self
  | cons part rest ih =>
    unfold FileTree.walk at walked
    cases rest with
    | nil =>
      simp only [FileTree.walk] at walked
      grind
    | cons next rest =>
      rw [List.getLast?_cons_cons]
      grind

/-- How a file is read is a matter of where it stands. -/
theorem formatOf_locate {t : FileTree} {n : FileName} {place : Place}
    (located : t.locate n = .ok place) : formatOf n ∈ [formatOf ⟨.root, place⟩, .json] := by
  unfold FileTree.locate at located
  split at located
  · cases located
  · rcases walk_last located with same | noName
    · have last : n.last = FileName.last ⟨.root, place⟩ := same.symm
      simp [formatOf, FileName.suffix, last]
    -- a name that ends in `..` ends in no file name, and asks for JSON whatever it leads to
    · have json : formatOf n = .json := by
        simp only [List.mem_cons, List.not_mem_nil, or_false] at noName
        rcases noName with last | last | last <;>
        · replace last : n.last = _ := last
          simp only [formatOf, FileName.suffix, last]
          decide +kernel
      simp [json]

/-- Text that is read is that of a file of the tree. -/
theorem readText_eq_ok {t : FileTree} {n : FileName} {s : String} (reads : t.readText n = .ok s) :
    ∃ place bytes s', t.locate n = .ok place ∧ (place, .file bytes) ∈ t.nodes ∧
      Encoding.decode .utf8 bytes = .ok s' ∧ s = String.ofList (plainBreaks s'.toList) := by
  unfold FileTree.readText at reads
  obtain ⟨_, _, reads⟩ := bind_eq_ok.mp reads
  split at reads
  · cases reads
  next bytes content =>
  split at reads
  · cases reads
  next s' decoded =>
  obtain ⟨place, located, content⟩ := bind_eq_ok.mp content
  split at content
  · next bytes' at' =>
    obtain rfl := Except.ok.inj content
    unfold FileTree.node? at at'
    split at at'
    · cases at'
    · obtain ⟨before, after, nodes, _⟩ := List.lookup_eq_some_iff.mp at'
      exact ⟨place, _, s', located, by simp [nodes], decoded, (Except.ok.inj reads).symm⟩
  · cases content
  · cases content

/-- Whatever is read as a schema has its references among those of the tree. -/
theorem references_readFile {t : FileTree} {n : FileName} {root : Entries}
    (reads : readFile t n = .ok root) : references (.map root) ⊆ written t := by
  unfold readFile at reads
  split at reads
  · cases reads
  next s text =>
  obtain ⟨place, bytes, s', located, inside, decoded, rfl⟩ := readText_eq_ok text
  intro reference there
  refine List.mem_flatMap.mpr ⟨_, inside, ?_⟩
  simp only [referencesAt, decoded]
  refine List.mem_flatMap.mpr ⟨_, formatOf_locate located, ?_⟩
  unfold referencesIn
  split at reads <;> simp_all

theorem Site.below_of_value? {t : FileTree} {s : Site} {v : Value} (at' : s.value? t = some v) :
    s.below t = references v := by
  rw [below, at']
  rfl

theorem Site.below_subset {t : FileTree} (s : Site) : s.below t ⊆ written t := by
  intro reference there
  cases at' : s.value? t with
  | none => simp [below, at'] at there
  | some v =>
    rw [below_of_value? at'] at there
    obtain ⟨root, reads, leads⟩ := Option.bind_eq_some_iff.mp at'
    have reads : readFile t s.file = .ok root := by
      cases content : readFile t s.file <;> simp_all [Except.toOption]
    exact references_readFile reads (references_descend leads there)

theorem Site.Trail.subset {t : FileTree} {a b : Site} {texts : List String}
    (trail : Trail t a texts b) : texts ⊆ written t := by
  induction texts generalizing a with
  | nil => exact List.nil_subset _
  | cons reference rest ih =>
    exact List.cons_subset.mpr ⟨a.below_subset trail.1, ih trail.2⟩

/-! ### What goes wrong -/

mutual

/-- What goes wrong in a value goes wrong at one of its references. -/
theorem unfold_error {follow : String → Except ReferenceError Value} {e : ReferenceError} :
    ∀ v, unfold follow v = .error e → ∃ reference ∈ references v, follow reference = .error e
  | .list xs, failed => by
    rw [unfold] at failed
    rcases bind_eq_error.mp failed with failed | ⟨_, _, failed⟩
    · exact unfoldItems_error xs failed
    · cases failed
  | .map es, failed => by
    rw [unfold] at failed
    cases refers : referenceOf? es with
    | some reference =>
      rw [refers] at failed
      rcases bind_eq_error.mp failed with failed | ⟨target, _, failed⟩
      · exact ⟨reference, by simp [references, refers], failed⟩
      · cases target with
        | map ts =>
          rcases bind_eq_error.mp failed with failed | ⟨_, _, failed⟩
          · obtain ⟨r, there, failed⟩ := unfoldFields_error true es failed
            exact ⟨r, List.mem_append_right _ there, failed⟩
          · cases failed
        | _ => cases failed
    | none =>
      rw [refers] at failed
      rcases bind_eq_error.mp failed with failed | ⟨_, _, failed⟩
      · obtain ⟨r, there, failed⟩ := unfoldFields_error false es failed
        exact ⟨r, List.mem_append_right _ there, failed⟩
      · cases failed
  | .tuple _, failed | .set _, failed | .cycle _, failed | .missing _, failed | .null, failed
  | .bool _, failed | .int _, failed | .real _, failed | .str _, failed | .date _, failed
  | .moment _, failed | .time _, failed | .bytes _, failed => by
    rw [unfold] at failed
    · cases failed
    all_goals exact nofun

theorem unfoldItems_error {follow : String → Except ReferenceError Value} {e : ReferenceError} :
    ∀ xs, unfoldItems follow xs = .error e →
      ∃ reference ∈ referencesOfItems xs, follow reference = .error e
  | [], failed => by cases failed
  | x :: xs, failed => by
    rw [unfoldItems] at failed
    rcases bind_eq_error.mp failed with failed | ⟨_, _, failed⟩
    · obtain ⟨r, there, failed⟩ := unfold_error x failed
      exact ⟨r, List.mem_append_left _ there, failed⟩
    · rcases bind_eq_error.mp failed with failed | ⟨_, _, failed⟩
      · obtain ⟨r, there, failed⟩ := unfoldItems_error xs failed
        exact ⟨r, List.mem_append_right _ there, failed⟩
      · cases failed

theorem unfoldFields_error {follow : String → Except ReferenceError Value} {e : ReferenceError}
    (beside : Bool) : ∀ es, unfoldFields follow beside es = .error e →
      ∃ reference ∈ referencesOfFields es, follow reference = .error e
  | [], failed => by cases failed
  | (k, v) :: es, failed => by
    rw [unfoldFields] at failed
    split at failed
    · obtain ⟨r, there, failed⟩ := unfoldFields_error beside es failed
      exact ⟨r, List.mem_append_right _ there, failed⟩
    · rcases bind_eq_error.mp failed with failed | ⟨_, _, failed⟩
      · obtain ⟨r, there, failed⟩ := unfold_error v failed
        exact ⟨r, List.mem_append_left _ there, failed⟩
      · rcases bind_eq_error.mp failed with failed | ⟨_, _, failed⟩
        · obtain ⟨r, there, failed⟩ := unfoldFields_error beside es failed
          exact ⟨r, List.mem_append_right _ there, failed⟩
        · cases failed

end

/-- The failure of a circle is told apart by its text. -/
theorem circular_of_toFailure {e : ReferenceError} {chain : List String}
    (same : e.toFailure = circularFailure chain) : ∃ chain', e = .circular chain' := by
  cases e with
  | circular chain' => exact ⟨chain', rfl⟩
  | unresolvable pointer => exact absurd same.symm (circularFailure_ne chain pointer)
  | needsFile reference =>
    simp [ReferenceError.toFailure, circularFailure, Fault.configuration,
      ← String.toList_inj] at same
  | file e =>
    cases e <;>
      simp [ReferenceError.toFailure, FileError.toFailure, circularFailure,
        Fault.configuration] at same
  | tooDeep => cases same

/-- The file of a site has been read, and references are looked up in it. -/
def Site.Holds (t : FileTree) (s : Site) (c : Context) : Prop :=
  readFile t s.file = .ok c.root ∧ c.folder = some s.file.parent

theorem Site.value?_of_reads {t : FileTree} {s : Site} {root : Entries}
    (reads : readFile t s.file = .ok root) :
    s.value? t = Pointer.descend s.keys (.map root) := by
  rw [value?, reads]
  rfl

theorem Site.not_opens_of_unread {t : FileTree} {s : Site} {e : FileError}
    (reads : readFile t s.file = .error e) : ¬s.Opens t := by
  rintro ⟨v, at', _⟩
  rw [value?, reads] at at'
  cases at'

theorem Site.not_opens_of_deep {t : FileTree} {s : Site} {v : Value} (at' : s.value? t = some v)
    (deep : v.isDeeper depthLimit = true) : ¬s.Opens t := by
  rintro ⟨w, at'', shallow⟩
  obtain rfl := Option.some.inj (at'.symm.trans at'')
  rw [deep] at shallow
  cases shallow

theorem bounded_eq_ok {folder : Option FileName} {v w : Value} (passed : bounded folder v = .ok w) :
    w = v := by
  grind [bounded]

/-- In a file that has been read, the pointer of a site leads to what stands there, unless
the site does not open. -/
theorem bounded_cases {t : FileTree} {s : Site} {root : Entries} {pointer : List Char}
    (reads : readFile t s.file = .ok root) (keys : s.keys = Pointer.keys pointer) :
    (∃ target, (Pointer.resolve root pointer >>= bounded (some s.file.parent)) = .ok target ∧
      s.value? t = some target) ∨
    ∃ e, (Pointer.resolve root pointer >>= bounded (some s.file.parent)) = .error e ∧
      (∀ chain, e ≠ .circular chain) ∧ ¬s.Opens t := by
  have at' := Site.value?_of_reads reads
  rw [keys] at at'
  unfold Pointer.resolve
  cases leads : Pointer.descend (Pointer.keys pointer) (.map root) with
  | none =>
    refine .inr ⟨_, rfl, by simp, ?_⟩
    rintro ⟨v, some', _⟩
    rw [at', leads] at some'
    cases some'
  | some target =>
    rw [leads] at at'
    cases deep : target.isDeeper depthLimit with
    | false => exact .inl ⟨target, by simp [bind, Except.bind, bounded, deep], at'⟩
    | true =>
      exact .inr ⟨.tooDeep, by simp [bind, Except.bind, bounded, deep], by simp,
        Site.not_opens_of_deep at' deep⟩

/-- A reference leads to the site that it names, or to none that opens. -/
theorem locate_cases {t : FileTree} {s : Site} {c : Context} (holds : s.Holds t c)
    (reference : String) :
    (∃ there target, locate t c reference = .ok (there, target) ∧
      (s.follow t reference).Holds t there ∧ (s.follow t reference).value? t = some target) ∨
    ∃ e, locate t c reference = .error e ∧ (∀ chain, e ≠ .circular chain) ∧
      ¬(s.follow t reference).Opens t := by
  obtain ⟨root, folder⟩ := c
  obtain ⟨reads, rfl⟩ := holds
  by_cases home : (cutReference reference).1 = ""
  · have file : (s.follow t reference).file = s.file := if_pos home
    rw [← file] at reads ⊢
    simp only [locate, home, if_true, ← bind_assoc]
    rcases bounded_cases reads rfl with ⟨target, found, at'⟩ | ⟨e, failed, other, shut⟩
    · exact .inl ⟨_, target, by rw [found]; rfl, ⟨reads, rfl⟩, at'⟩
    · exact .inr ⟨e, by rw [failed]; rfl, other, shut⟩
  · have file : (s.follow t reference).file = (s.file.parent.join
      (FileName.ofString (cutReference reference).1)).resolve t.home := if_neg home
    simp only [locate, home, if_false, ← file, ← bind_assoc]
    cases reads' : readFile t (s.follow t reference).file with
    | error e => exact .inr ⟨.file e, rfl, by simp, Site.not_opens_of_unread reads'⟩
    | ok root' =>
      rcases bounded_cases reads' rfl with ⟨target, found, at'⟩ | ⟨e, failed, other, shut⟩
      · refine .inl ⟨⟨root', some (s.follow t reference).file.parent⟩, target, ?_, ⟨reads', rfl⟩,
          at'⟩
        dsimp only
        rw [found]
        rfl
      · refine .inr ⟨e, ?_, other, shut⟩
        dsimp only
        rw [failed]
        rfl

end Quire.Schema
