import Quire.Proofs.Files.Grounded

/-! What writing a file does to a tree. Folders are made on the way and stay, whatever comes
of it; no bytes change but those of the one file, and the name then leads to it. -/

namespace Quire.FileTree

variable {t u : FileTree} {place : Place} {n : FileName} {bytes : List UInt8}

theorem makeFolder_ok (grounded : t.Grounded) (made : t.makeFolder n = .ok u) :
    ∃ place, t.Entered u n place .folder ∧ t.node? place = none := by
  unfold makeFolder at made
  split at made
  · cases made
  · next missing =>
    obtain ⟨place, free, made⟩ := bind_eq_ok.mp made
    obtain rfl := Except.ok.inj made
    exact ⟨place, grounded.entered missing free .folder⟩
  · cases made

/-- A file that is written over, or a new one. -/
theorem write_ok (grounded : t.Grounded) (wrote : t.write n bytes = .ok u) :
    ∃ place, t.Entered u n place (.file bytes) ∧
      (t.locate n = .ok place ∨ t.node? place = none) := by
  unfold write at wrote
  split at wrote
  · next place led =>
    split at wrote
    · cases wrote
    · next file =>
      obtain rfl := Except.ok.inj wrote
      have vacant : t.node? place ≠ some .folder := by simpa [isFolder] using file
      have below : place ≠ [] := fun root => vacant (root ▸ t.node?_root)
      rcases List.eq_nil_or_concat place with rfl | ⟨front, part, rfl⟩
      · exact absurd rfl below
      · rw [List.concat_eq_append] at *
        have folder := grounded.above front part (grounded.locate_there led)
        have more := extends_put (.file bytes) below vacant
        exact ⟨_, ⟨rfl, below, locate_extends more led, vacant, more, grounded.put folder vacant⟩,
          .inl led⟩
  · next missing =>
    obtain ⟨place, free, made⟩ := bind_eq_ok.mp wrote
    obtain rfl := Except.ok.inj made
    obtain ⟨entered, none'⟩ := grounded.entered missing free (.file bytes)
    exact ⟨place, entered, .inr none'⟩
  · cases wrote

/-! ### Folders on the way -/

/-- What comes of making a folder and those above it. -/
structure Lays (t : FileTree) (n : FileName) (l : Laid) : Prop where
  more : t.Extends l.1
  grounded : l.1.Grounded
  bytes : ∀ q, l.1.bytesAt q = t.bytesAt q
  leads : l.2 = .ok () → ∃ place, l.1.locate n = .ok place ∧ l.1.node? place = some .folder

theorem lays_makeOne (grounded : t.Grounded) (n : FileName) : t.Lays n (t.makeOne n) := by
  unfold makeOne
  split
  · next u made =>
    obtain ⟨place, entered, free⟩ := makeFolder_ok grounded made
    obtain ⟨rfl, below, leads, _, more, grounded'⟩ := entered
    have here : (t.put place .folder).node? place = some .folder := by
      rw [node?_put t place place .folder below, if_pos rfl]
    refine ⟨more, grounded', fun q => ?_, fun _ => ⟨place, leads, here⟩⟩
    rw [bytesAt_put below]
    split
    · next same =>
      rw [same]
      simp only [bytesAt, free]
    · rfl
  · split
    · next known =>
      refine ⟨.refl t, grounded, fun _ => rfl, fun _ => ?_⟩
      cases led : t.locate n with
      | error e =>
        rw [led] at known
        exact absurd known.2 (by simp [Except.toOption])
      | ok place =>
        rw [led] at known
        exact ⟨place, rfl, by simpa [Except.toOption, isFolder] using known.2⟩
    · exact ⟨.refl t, grounded, fun _ => rfl, nofun⟩

theorem lays_layUpTo (grounded : t.Grounded) (n : FileName) (count : Nat) :
    t.Lays n (t.layUpTo n count) := by
  induction count generalizing n with
  | zero => exact lays_makeOne grounded n
  | succ count ih =>
    unfold layUpTo
    split
    · have above := ih n.parent
      rcases laid : t.layUpTo n.parent count with ⟨u, e | ⟨⟩⟩
      · rw [laid] at above
        exact ⟨above.more, above.grounded, above.bytes, nofun⟩
      · rw [laid] at above
        have last := lays_makeOne above.grounded n
        exact ⟨above.more.trans last.more, last.grounded,
          fun q => (last.bytes q).trans (above.bytes q), last.leads⟩
    · exact lays_makeOne grounded n

theorem lays_lay (grounded : t.Grounded) (n : FileName) : t.Lays n (t.lay n) :=
  lays_layUpTo grounded n n.parts.length

/-- Where the folder is there already nothing is made. -/
theorem lay_of_folder (led : t.locate n = .ok place) (folder : t.node? place = some .folder) :
    t.lay n = (t, .ok ()) := by
  have there : t.makeFolder n = .error .exists := by
    unfold makeFolder
    rw [led]
    rfl
  have one : t.makeOne n = (t, .ok ()) := by
    unfold makeOne
    rw [there, led]
    simp [Except.toOption, isFolder, folder]
  unfold lay
  cases n.parts.length with
  | zero => exact one
  | succ count =>
    unfold layUpTo
    rw [there]
    exact one

/-! ### The whole -/

/-- How writing a text can end: with its bytes in the file; over a text that has no bytes, which
leaves the file empty; or with no file touched. -/
inductive Writes (t : FileTree) (n : FileName) (text : String) : Change → Prop
  | done {u : FileTree} {place : Place} {bytes : List UInt8} (leads : u.locate n = .ok place)
      (told : Text.utf8Bytes text = .ok bytes) (here : u.bytesAt place = some bytes)
      (beside : ∀ q, q ≠ place → u.bytesAt q = t.bytesAt q) : Writes t n text (u, .ok ())
  | emptied {u : FileTree} {place : Place} (leads : u.locate n = .ok place) {e : String}
      (untold : Text.utf8Bytes text = .error e)
      (beside : ∀ q, q ≠ place → u.bytesAt q = t.bytesAt q) (m : Mishap) :
      Writes t n text (u, .error m)
  | failed {u : FileTree} (same : ∀ q, u.bytesAt q = t.bytesAt q) (m : Mishap) :
      Writes t n text (u, .error m)

theorem writes_replaceText (grounded : t.Grounded) (n : FileName) (text : String) :
    Writes t n text (t.replaceText n text) := by
  unfold replaceText
  split
  · exact .failed (fun _ => rfl) _
  · dsimp only
    cases told : Text.utf8Bytes text with
    | error e =>
      split
      · exact .failed (fun _ => rfl) _
      · next u wrote =>
        obtain ⟨place, ⟨rfl, below, leads, _⟩, _⟩ := write_ok grounded wrote
        exact .emptied leads told (fun q other => by rw [bytesAt_put below, if_neg other]) _
    | ok bytes =>
      split
      · exact .failed (fun _ => rfl) _
      · next u wrote =>
        obtain ⟨place, ⟨rfl, below, leads, _⟩, _⟩ := write_ok grounded wrote
        exact .done leads told (by rw [bytesAt_put below, if_pos rfl]; rfl)
          fun q other => by rw [bytesAt_put below, if_neg other]

theorem Writes.after_lay {text : String} {r : Change} (same : ∀ q, u.bytesAt q = t.bytesAt q)
    (writes : Writes u n text r) : Writes t n text r := by
  cases writes with
  | done leads told here beside =>
    exact .done leads told here fun q other => (beside q other).trans (same q)
  | emptied leads untold beside m =>
    exact .emptied leads untold (fun q other => (beside q other).trans (same q)) m
  | failed kept m => exact .failed (fun q => (kept q).trans (same q)) m

/-- Writing a text changes no bytes but those of its file. -/
theorem writes_writeText (grounded : t.Grounded) (n : FileName) (text : String) :
    Writes t n text (t.writeText n text) := by
  have lays := lays_lay grounded n.parent
  unfold writeText
  split
  · exact .failed (fun _ => rfl) _
  · rcases laid : t.lay n.parent with ⟨u, ⟨e, at'⟩ | ⟨⟩⟩
    · rw [laid] at lays
      exact .failed lays.bytes _
    · rw [laid] at lays
      exact (writes_replaceText lays.grounded n text).after_lay lays.bytes

/-- The bytes that change are those that the name leads to afterwards. -/
theorem Writes.leads {text : String} {r : Change} (writes : Writes t n text r)
    (changed : r.1.bytesAt place ≠ t.bytesAt place) : r.1.locate n = .ok place := by
  cases writes with
  | @done _ q _ leads _ _ beside =>
    by_cases here : place = q
    · rw [here]
      exact leads
    · exact absurd (beside place here) changed
  | @emptied _ q leads _ _ beside =>
    by_cases here : place = q
    · rw [here]
      exact leads
    · exact absurd (beside place here) changed
  | failed same => exact absurd (same place) changed

/-- Only a text that has no bytes can harm a file where writing fails. -/
theorem Writes.unharmed {text : String} {m : Mishap} (writes : Writes t n text (u, .error m))
    (told : (Text.utf8Bytes text).isOk = true) (q : Place) : u.bytesAt q = t.bytesAt q := by
  cases writes with
  | emptied _ untold =>
    rw [untold] at told
    cases told
  | failed same => exact same q

theorem read_of_bytesAt (leads : t.locate n = .ok place) (here : t.bytesAt place = some bytes) :
    t.read n = .ok bytes := by
  refine bind_eq_ok.mpr ⟨place, leads, ?_⟩
  unfold bytesAt at here
  split at here
  · next found =>
    rw [found, Option.some.inj here]
    rfl
  · cases here

/-- What was written can be read. -/
theorem Writes.read {text : String} (writes : Writes t n text (u, .ok ())) :
    ∃ bytes, Text.utf8Bytes text = .ok bytes ∧ u.read n = .ok bytes := by
  cases writes with
  | done leads told here _ => exact ⟨_, told, read_of_bytesAt leads here⟩

/-! ### Elsewhere -/

theorem node?_of_bytesAt (here : t.bytesAt place = some bytes) :
    t.node? place = some (.file bytes) := by
  unfold bytesAt at here
  split at here
  · next found => rw [found, Option.some.inj here]
  · cases here

/-- What is there is the same once folders were made. -/
theorem Lays.same {l : Laid} (lays : t.Lays n l) (there : (t.node? place).isSome = true) :
    l.1.node? place = t.node? place := by
  cases found : t.node? place with
  | none =>
    rw [found] at there
    cases there
  | some node =>
    cases node with
    | folder => exact lays.more.folder place found
    | file bytes =>
      have here : t.bytesAt place = some bytes := by rw [bytesAt, found]
      exact node?_of_bytesAt ((lays.bytes place).trans here)

theorem write_elsewhere (grounded : t.Grounded) (wrote : t.write n bytes = .ok u)
    (there : (t.node? place).isSome = true) (elsewhere : t.locate n ≠ .ok place) :
    u.node? place = t.node? place := by
  obtain ⟨q, ⟨rfl, below, _⟩, old | new⟩ := write_ok grounded wrote
  · have other : place ≠ q := by
      rintro rfl
      exact elsewhere old
    rw [node?_put t q place _ below, if_neg other]
  · have other : place ≠ q := by
      rintro rfl
      rw [new] at there
      cases there
    rw [node?_put t q place _ below, if_neg other]

theorem replaceText_elsewhere (grounded : t.Grounded) (there : (t.node? place).isSome = true)
    (elsewhere : t.locate n ≠ .ok place) (text : String) :
    (t.replaceText n text).1.node? place = t.node? place := by
  unfold replaceText
  split
  · rfl
  · dsimp only
    split
    · rfl
    · next u wrote => exact write_elsewhere grounded wrote there elsewhere

/-- A place that is none of those where a name leads once its folders were made. -/
def Spares (t : FileTree) (n : FileName) (place : Place) : Prop :=
  (t.lay n.parent).1.locate n ≠ .ok place

/-- What is there, and spared, stays as it is when a text is written. -/
theorem writeText_elsewhere (grounded : t.Grounded) (there : (t.node? place).isSome = true)
    (spares : t.Spares n place) (text : String) :
    (t.writeText n text).1.node? place = t.node? place := by
  have lays := lays_lay grounded n.parent
  unfold Spares at spares
  unfold writeText
  split
  · rfl
  · rcases laid : t.lay n.parent with ⟨u, e | ⟨⟩⟩ <;> rw [laid] at lays spares
    · exact lays.same there
    · have kept := lays.same there
      exact (replaceText_elsewhere lays.grounded (kept.symm ▸ there) spares text).trans kept

/-! ### Writing again -/

theorem putIn_putIn (place : Place) (node : Node) (nodes : List (Place × Node)) :
    putIn place node (putIn place node nodes) = putIn place node nodes := by
  induction nodes with
  | nil => simp [putIn]
  | cons entry rest ih =>
    obtain ⟨p, old⟩ := entry
    by_cases here : place = p
    · simp [putIn, here]
    · simp [putIn, here, ih]

theorem put_put (t : FileTree) (place : Place) (node : Node) :
    (t.put place node).put place node = t.put place node := by
  simp only [put, putIn_putIn]

/-- A file that was written can be written again, and stays as it is. -/
theorem write_again (grounded : t.Grounded) (wrote : t.write n bytes = .ok u) :
    u.write n bytes = .ok u := by
  obtain ⟨place, ⟨rfl, below, leads, _⟩, _⟩ := write_ok grounded wrote
  have file : (t.put place (.file bytes)).isFolder place = false := by
    simp [isFolder, node?_put t place place _ below]
  unfold write
  rw [leads]
  simp only [file, Bool.false_eq_true, if_false, put_put]
  rfl

theorem replaceText_again (grounded : t.Grounded) (n : FileName) (text : String) :
    (t.replaceText n text).1.replaceText n text = t.replaceText n text := by
  unfold replaceText
  cases refused : refuseName n.text with
  | error m => rfl
  | ok =>
    dsimp only
    generalize (Text.utf8Bytes text).mapError (Mishap.mk .unencodable) = bytes
    cases wrote : t.write n (bytes.toOption.getD []) with
    | error e =>
      dsimp only
      rw [wrote]
    | ok u =>
      dsimp only
      rw [write_again grounded wrote]

theorem extends_replaceText (grounded : t.Grounded) (n : FileName) (text : String) :
    t.Extends (t.replaceText n text).1 := by
  unfold replaceText
  split
  · exact .refl t
  · dsimp only
    split
    · exact .refl t
    · next u wrote =>
      obtain ⟨place, entered, _⟩ := write_ok grounded wrote
      exact entered.extends'

theorem extends_writeText (grounded : t.Grounded) (n : FileName) (text : String) :
    t.Extends (t.writeText n text).1 := by
  have lays := lays_lay grounded n.parent
  unfold writeText
  split
  · exact .refl t
  · rcases laid : t.lay n.parent with ⟨u, e | ⟨⟩⟩ <;> rw [laid] at lays
    · exact lays.more
    · exact lays.more.trans (extends_replaceText lays.grounded n text)

/-- A file that is spared reads the same. -/
theorem read_writeText (grounded : t.Grounded) {m : FileName} (led : t.locate m = .ok place)
    (spares : t.Spares n place) (text : String) :
    (t.writeText n text).1.read m = t.read m ∧ (t.writeText n text).1.size m = t.size m := by
  have led' := locate_extends (extends_writeText grounded n text) led
  have same := writeText_elsewhere grounded (grounded.locate_there led) spares text
  unfold read size
  rw [led, led']
  simp only [bind, Except.bind, same]
  exact ⟨trivial, trivial⟩

/-- Folders for a file that can all be made, or of which none is made. -/
def Settles (t : FileTree) (n : FileName) : Prop :=
  (t.lay n).2 = .ok () ∨ (t.lay n).1 = t

/-- A text that was written, or could not be written, comes to the same a second time. -/
theorem writeText_again (grounded : t.Grounded) (settles : t.Settles n.parent) (text : String) :
    (t.writeText n text).1.writeText n text = t.writeText n text := by
  have lays := lays_lay grounded n.parent
  unfold Settles at settles
  unfold writeText
  cases refused : refuseName n.text with
  | error m => rfl
  | ok =>
    dsimp only
    rcases laid : t.lay n.parent with ⟨u, ⟨e, at'⟩ | ⟨⟩⟩
    · rw [laid] at settles
      obtain rfl : u = t := settles.resolve_left nofun
      dsimp only
      rw [laid]
    · rw [laid] at lays
      obtain ⟨place, led, folder⟩ := lays.leads rfl
      have more := extends_replaceText lays.grounded n text
      dsimp only
      rw [lay_of_folder (locate_extends more led) (more.folder place folder)]
      exact replaceText_again lays.grounded n text

end Quire.FileTree
