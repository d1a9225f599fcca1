import Quire.Proofs.Segments

/-! Keys as they are written in pointers. Tildes and slashes of a key are escaped, so that the
pieces between the slashes of a pointer are the keys again, and the pointer leads where its keys
lead. They lead through mappings as trees: none leads on from where a mapping would start over
inside itself. -/

namespace Quire.Schema.Pointer

/-! ### Escaped keys -/

/-- Text with every occurrence of a character replaced. -/
def replaced (c : Char) (replacement cs : List Char) : List Char :=
  cs.flatMap fun d => if d = c then replacement else [d]

/-- Tildes are replaced before slashes are, so that those which come with slashes stay. -/
theorem escape_eq_replaced (cs : List Char) :
    escape cs = replaced '/' ['~', '1'] (replaced '~' ['~', '0'] cs) := by
  rw [replaced, replaced, List.flatMap_assoc, escape]
  congr 1
  funext c
  by_cases tilde : c = '~'
  · simp [tilde, escapeChar]
  · by_cases slash : c = '/' <;> simp [tilde, slash, escapeChar]

theorem escape_cons (c : Char) (cs : List Char) : escape (c :: cs) = escapeChar c ++ escape cs :=
  rfl

theorem replaced_cons (c d : Char) (replacement cs : List Char) :
    replaced c replacement (d :: cs) =
      (if d = c then replacement else [d]) ++ replaced c replacement cs := rfl

theorem unescapeSlash_cons {c : Char} (other : c ≠ '~') (cs : List Char) :
    unescapeSlash (c :: cs) = c :: unescapeSlash cs := by
  rw [unescapeSlash]
  exact fun _ same => absurd same other

theorem unescapeTilde_cons {c : Char} (other : c ≠ '~') (cs : List Char) :
    unescapeTilde (c :: cs) = c :: unescapeTilde cs := by
  rw [unescapeTilde]
  exact fun _ same => absurd same other

/-- Every tilde of an escaped text is marked. The mark of a tilde is not that of a slash, so the
slashes come back and the tildes stay marked. -/
theorem unescapeSlash_escape (cs : List Char) :
    unescapeSlash (escape cs) = replaced '~' ['~', '0'] cs := by
  induction cs with
  | nil => rfl
  | cons c cs ih =>
    rw [escape_cons, replaced_cons, ← ih]
    by_cases tilde : c = '~'
    · subst tilde
      have zero : unescapeSlash ('0' :: escape cs) = '0' :: unescapeSlash (escape cs) :=
        unescapeSlash_cons (by decide) _
      simp [escapeChar, unescapeSlash, zero]
    · by_cases slash : c = '/'
      · subst slash
        simp [escapeChar, unescapeSlash]
      · simp [escapeChar, tilde, unescapeSlash_cons]

theorem unescapeTilde_replaced (cs : List Char) :
    unescapeTilde (replaced '~' ['~', '0'] cs) = cs := by
  induction cs with
  | nil => rfl
  | cons c cs ih =>
    rw [replaced_cons]
    by_cases tilde : c = '~'
    · subst tilde
      simp [unescapeTilde, ih]
    · simp [tilde, unescapeTilde_cons, ih]

theorem unescape_escape (cs : List Char) : unescape (escape cs) = cs := by
  rw [unescape, unescapeSlash_escape, unescapeTilde_replaced]

theorem slash_notMem_escape (cs : List Char) : '/' ∉ escape cs := by
  rw [escape, List.mem_flatMap]
  rintro ⟨c, _, inside⟩
  by_cases tilde : c = '~'
  · simp [tilde, escapeChar] at inside
  · by_cases slash : c = '/'
    · simp [slash, escapeChar] at inside
    · simp [escapeChar, slash, eq_comm] at inside

theorem escape_eq_nil_iff {cs : List Char} : escape cs = [] ↔ cs = [] := by
  constructor
  · intro none
    rw [← unescape_escape cs, none]
    rfl
  · rintro rfl
    rfl

theorem escape_ne_nil {k : String} (nonempty : k ≠ "") : escape k.toList ≠ [] := by
  rw [Ne, escape_eq_nil_iff, String.toList_eq_nil_iff]
  exact nonempty

/-! ### Written pointers -/

/-- The pointer with these keys: each is escaped, first its tildes and then its slashes, and
there is a slash in front of the first and between any two. -/
def spelled (ks : List String) : List Char :=
  '/' :: ['/'].intercalate
    (ks.map fun k => replaced '/' ['~', '1'] (replaced '~' ['~', '0'] k.toList))

theorem spelled_eq (ks : List String) :
    spelled ks = '/' :: ['/'].intercalate (ks.map fun k => escape k.toList) := by
  simp only [spelled, escape_eq_replaced]

/-- A slash ends one key and begins another. -/
theorem keys_append_slash (cs ds : List Char) : keys (cs ++ '/' :: ds) = keys cs ++ keys ds := by
  rw [keys, splitChars_append_cons, List.filter_append, List.map_append]
  rfl

theorem keys_escape {k : String} (nonempty : k ≠ "") : keys (escape k.toList) = [k] := by
  rw [keys, splitChars_of_notMem (slash_notMem_escape k.toList)]
  simp [escape_ne_nil nonempty, unescape_escape]

/-- The keys of a written pointer are those it was written for. -/
theorem keys_spelled {ks : List String} (nonempty : ∀ k ∈ ks, k ≠ "") :
    keys (spelled ks) = ks := by
  rw [spelled_eq, ← List.nil_append ('/' :: _), keys_append_slash]
  change keys (['/'].intercalate (ks.map fun k => escape k.toList)) = ks
  induction ks with
  | nil => rfl
  | cons k ks ih =>
    obtain ⟨first, others⟩ := List.forall_mem_cons.mp nonempty
    cases ks with
    | nil => simpa using keys_escape first
    | cons k' ks =>
      have apart : ['/'].intercalate ((k :: k' :: ks).map fun k => escape k.toList) =
          escape k.toList ++ '/' :: ['/'].intercalate ((k' :: ks).map fun k => escape k.toList) := by
        simp [List.intercalate_cons_cons]
      rw [apart, keys_append_slash, keys_escape first, ih others]
      rfl

/-- With keys that are not empty only the first slash stands in front. -/
theorem withoutSlashes_spelled {k : String} (nonempty : k ≠ "") (ks : List String) :
    withoutSlashes (spelled (k :: ks)) = String.ofList (spelled (k :: ks)).tail := by
  rw [spelled_eq, withoutSlashes, List.tail_cons]
  obtain ⟨c, cs, first⟩ := List.exists_cons_of_ne_nil (escape_ne_nil nonempty)
  have other : c ≠ '/' := by
    rintro rfl
    exact slash_notMem_escape k.toList (first ▸ List.mem_cons_self)
  cases ks <;> simp [first, other]

/-- A reference is cut at the first sign of a pointer, also if there are more in its keys. -/
theorem cutReference_spelled {file : String} (unsigned : '#' ∉ file.toList) (ks : List String) :
    cutReference (file ++ "#" ++ String.ofList (spelled ks)) = (file, spelled ks) := by
  have front : ∀ c ∈ file.toList, (decide (c ≠ '#')) = true := by
    intro c inside
    simpa using ne_of_mem_of_not_mem inside unsigned
  have text : (file ++ "#" ++ String.ofList (spelled ks)).toList =
      file.toList ++ '#' :: spelled ks := by simp
  rw [cutReference, text, List.takeWhile_append_of_pos front, List.dropWhile_append_of_pos front]
  simp

/-! ### The way that keys lead -/

/-- Keys lead down from a value to another, from mapping to mapping. -/
inductive Leads : Value → List String → Value → Prop
  | here (v : Value) : Leads v [] v
  | under {es : Entries} {k : String} {v w : Value} {ks : List String} :
      Entries.field? es k = some v → Leads v ks w → Leads (.map es) (k :: ks) w

/-- Some of the keys lead to a mapping in which the next key is missing, or to what is no
mapping. -/
def Strays (v : Value) (ks : List String) : Prop :=
  ∃ before k after w, ks = before ++ k :: after ∧ Leads v before w ∧
    ∀ es, w = .map es → Entries.field? es k = none

theorem descend_eq_some_iff {ks : List String} {v w : Value} :
    descend ks v = some w ↔ Leads v ks w := by
  constructor
  · intro found
    induction ks generalizing v with
    | nil => exact Option.some.inj found ▸ .here v
    | cons k ks ih =>
      cases v with
      | map es =>
        obtain ⟨u, there, found⟩ := Option.bind_eq_some_iff.mp found
        exact .under there (ih found)
      | _ => cases found
  · intro leads
    induction leads with
    | here v => rfl
    | under there _ ih => rw [descend, there, Option.bind_some, ih]

theorem Strays.under {es : Entries} {k : String} {v : Value} {ks : List String}
    (there : Entries.field? es k = some v) (strays : Strays v ks) :
    Strays (.map es) (k :: ks) := by
  obtain ⟨before, k', after, w, rfl, leads, lost⟩ := strays
  exact ⟨k :: before, k', after, w, rfl, .under there leads, lost⟩

/-- Keys that lead nowhere do so because there is a first one under which nothing is found. -/
theorem descend_eq_none_iff {ks : List String} {v : Value} :
    descend ks v = none ↔ Strays v ks := by
  constructor
  · intro lost
    induction ks generalizing v with
    | nil => cases lost
    | cons k ks ih =>
      cases v with
      | map es =>
        cases there : Entries.field? es k with
        | none =>
          refine ⟨[], k, ks, .map es, rfl, .here _, fun fs same => ?_⟩
          exact Value.map.inj same ▸ there
        | some u =>
          rw [descend, there, Option.bind_some] at lost
          exact (ih lost).under there
      | _ => exact ⟨[], k, ks, _, rfl, .here _, fun es same => by cases same⟩
  · rintro ⟨before, k, after, w, rfl, leads, lost⟩
    induction leads with
    | here v =>
      cases v with
      | map es =>
        rw [List.nil_append, descend, lost es rfl]
        rfl
      | _ => rfl
    | under there _ ih => rw [List.cons_append, descend, there, Option.bind_some, ih lost]

theorem Strays.ne_nil {v : Value} {ks : List String} (strays : Strays v ks) : ks ≠ [] := by
  obtain ⟨before, k, after, w, rfl, _⟩ := strays
  simp

theorem resolve_of_leads {root : Entries} {ks : List String} (nonempty : ∀ k ∈ ks, k ≠ "")
    {v : Value} (leads : Leads (.map root) ks v) : resolve root (spelled ks) = .ok v := by
  rw [resolve, keys_spelled nonempty, descend_eq_some_iff.mpr leads]

/-- An error tells the pointer as it is written. -/
theorem resolve_of_strays {root : Entries} {ks : List String} (nonempty : ∀ k ∈ ks, k ≠ "")
    (strays : Strays (.map root) ks) : ∃ e, resolve root (spelled ks) = .error e ∧
      e.toFailure = .fault (.configuration
        ("unresolvable $ref pointer: #" ++ String.ofList (spelled ks)) none) := by
  refine ⟨.unresolvable (withoutSlashes (spelled ks)), ?_, ?_⟩
  · rw [resolve, keys_spelled nonempty, descend_eq_none_iff.mpr strays]
  · obtain ⟨k, ks, rfl⟩ := List.exists_cons_of_ne_nil strays.ne_nil
    have told : "unresolvable $ref pointer: #/" ++ String.ofList (spelled (k :: ks)).tail =
        "unresolvable $ref pointer: #" ++ String.ofList (spelled (k :: ks)) := by
      rw [← String.toList_inj]
      simp [spelled]
    rw [ReferenceError.toFailure, withoutSlashes_spelled (nonempty k List.mem_cons_self), told]

theorem leads_or_strays (v : Value) (ks : List String) : (∃ w, Leads v ks w) ∨ Strays v ks := by
  cases found : descend ks v with
  | some w => exact .inl ⟨w, descend_eq_some_iff.mp found⟩
  | none => exact .inr (descend_eq_none_iff.mp found)

/-- A pointer that is written for keys leads to what the keys lead to from the root, and is not
resolved just when the keys lead nowhere. Then the error is one of the configuration that tells
the pointer. Whatever is in the keys, a reference is taken apart into its file and the pointer. -/
theorem resolve_spelled (root : Entries) {ks : List String} (nonempty : ∀ k ∈ ks, k ≠ "") :
    (∀ v, resolve root (spelled ks) = .ok v ↔ Leads (.map root) ks v) ∧
    ((∃ e, resolve root (spelled ks) = .error e) ↔ Strays (.map root) ks) ∧
    (∀ e, resolve root (spelled ks) = .error e → e.toFailure = .fault (.configuration
      ("unresolvable $ref pointer: #" ++ String.ofList (spelled ks)) none)) ∧
    ∀ file : String, '#' ∉ file.toList →
      cutReference (file ++ "#" ++ String.ofList (spelled ks)) = (file, spelled ks) := by
  refine ⟨fun v => ⟨fun found => ?_, resolve_of_leads nonempty⟩, ⟨fun ⟨e, failed⟩ => ?_, ?_⟩,
    fun e failed => ?_, fun file unsigned => cutReference_spelled unsigned ks⟩
  · rcases leads_or_strays (.map root) ks with ⟨w, leads⟩ | strays
    · have resolved := resolve_of_leads nonempty leads
      rw [found] at resolved
      exact Except.ok.inj resolved ▸ leads
    · obtain ⟨e, failed, _⟩ := resolve_of_strays nonempty strays
      rw [found] at failed
      cases failed
  · refine (leads_or_strays (.map root) ks).resolve_left fun ⟨w, leads⟩ => ?_
    rw [resolve_of_leads nonempty leads] at failed
    cases failed
  · intro strays
    obtain ⟨e, failed, _⟩ := resolve_of_strays nonempty strays
    exact ⟨e, failed⟩
  · rcases leads_or_strays (.map root) ks with ⟨w, leads⟩ | strays
    · rw [resolve_of_leads nonempty leads] at failed
      cases failed
    · obtain ⟨e', failed', told⟩ := resolve_of_strays nonempty strays
      rw [failed] at failed'
      exact Except.error.inj failed' ▸ told

/-- Measures under keys with the signs that a pointer or a reference gives a meaning to. -/
def measures : Entries :=
  [(.str "a/b", .record [("~1", .record [("#", .str "metres")]), ("/", .null)])]

theorem resolve_spelled_measures :
    (∀ k ∈ ["a/b", "~1", "#"], k ≠ "") ∧
    String.ofList (spelled ["a/b", "~1", "#"]) = "/a~1b/~01/#" ∧
    resolve measures (spelled ["a/b", "~1", "#"]) = .ok (.str "metres") ∧
    Strays (.map measures) ["a/b", "/", "#"] ∧
    (∃ e, resolve measures (spelled ["a/b", "/", "#"]) = .error e ∧
      e.toFailure = .fault (.configuration "unresolvable $ref pointer: #/a~1b/~1/#" none)) ∧
    cutReference "units.json#/a~1b/~01/#" = ("units.json", spelled ["a/b", "~1", "#"]) := by
  have nonempty : ∀ k ∈ ["a/b", "~1", "#"], k ≠ "" := by decide
  have nonempty' : ∀ k ∈ ["a/b", "/", "#"], k ≠ "" := by decide
  have written : String.ofList (spelled ["a/b", "~1", "#"]) = "/a~1b/~01/#" := by decide
  obtain ⟨found, _, _, cut⟩ := resolve_spelled measures nonempty
  obtain ⟨_, stray, told, _⟩ := resolve_spelled measures nonempty'
  have strays : Strays (.map measures) ["a/b", "/", "#"] :=
    descend_eq_none_iff.mp (by with_unfolding_all rfl)
  obtain ⟨e, failed⟩ := stray.mpr strays
  have cut' := cut "units.json" (by decide)
  rw [written] at cut'
  exact ⟨nonempty, written, (found _).mpr (descend_eq_some_iff.mp (by with_unfolding_all rfl)),
    strays, ⟨e, failed, told e failed⟩, cut'⟩

end Quire.Schema.Pointer
