import Quire.Json.Reader
import Quire.Proofs.Tables

/-! Mappings that are read from text have text for keys, in either notation: nothing but a
text is ever written as a key, and what overwrites an entry leaves its key. -/

namespace Quire

namespace Entries

/-- Every key is a text. -/
def Named (es : Entries) : Prop := ∀ k ∈ keys es, ∃ name : String, k = .str name

theorem named_nil : Named [] := fun _ inside => nomatch inside

theorem Named.cons {es : Entries} (named : Named es) (name : String) (v : Value) :
    Named ((.str name, v) :: es) := by
  intro k inside
  rcases List.mem_cons.mp inside with rfl | later
  · exact ⟨name, rfl⟩
  · exact named k later

theorem Named.putField {es : Entries} (named : Named es) (name : String) (v : Value) :
    Named (putField es name v) := by
  intro k inside
  obtain ⟨e, there, rfl⟩ := List.mem_map.mp inside
  rcases mem_put there with before | ⟨_, same | before⟩
  · exact named _ (List.mem_map_of_mem before)
  · exact ⟨name, same⟩
  · exact named _ before

theorem Named.ofList {fs : Entries} (named : Named fs) : Named (ofList fs) := by
  intro k inside
  obtain ⟨e, there, rfl⟩ := List.mem_map.mp inside
  rcases mem_update there with none' | ⟨none' | key, _⟩
  · cases none'
  · cases none'
  · exact named _ key

theorem Named.reverse {fs : Entries} (named : Named fs) : Named (List.reverse fs) := by
  intro k inside
  refine named k ?_
  rwa [keys, List.map_reverse, List.mem_reverse] at inside

end Entries

open Entries

namespace Json

theorem word?_not_map {cs rest : List Char} {es : Entries} : word? cs ≠ some (.map es, rest) := by
  unfold word?
  split <;> exact nofun

theorem readNumber_not_map {cs rest : List Char} {es : Entries} :
    readNumber cs ≠ .ok (.map es, rest) := by
  unfold readNumber
  repeat' split
  all_goals exact nofun

theorem readItems_not_map {depth steps : Nat} {acc : List Value} {cs rest : List Char}
    {es : Entries} : readItems depth steps acc cs ≠ .ok (.map es, rest) := by
  induction steps generalizing acc cs with
  | zero => exact nofun
  | succ steps ih =>
    intro whole
    unfold readItems at whole
    obtain ⟨⟨v, rest'⟩, _, whole⟩ := bind_eq_ok.mp whole
    dsimp only at whole
    split at whole
    · exact ih whole
    · cases whole
    · cases whole

theorem readFields_named {depth steps : Nat} {acc : Entries} (named : Named acc)
    {cs rest : List Char} {es : Entries}
    (whole : readFields depth steps acc cs = .ok (.map es, rest)) : Named es := by
  induction steps generalizing acc cs with
  | zero => cases whole
  | succ steps ih =>
    unfold readFields at whole
    split at whole
    · split at whole
      · cases whole
      · next key _ _ =>
        split at whole
        · obtain ⟨⟨v, rest'⟩, _, whole⟩ := bind_eq_ok.mp whole
          dsimp only at whole
          split at whole
          · exact ih (named.cons _ v) whole
          · cases whole
            exact (named.cons _ v).reverse.ofList
          · cases whole
        · cases whole
    · cases whole

theorem readValue_named {depth steps : Nat} {cs rest : List Char} {es : Entries}
    (whole : readValue depth steps cs = .ok (.map es, rest)) : Named es := by
  cases steps with
  | zero => cases whole
  | succ steps =>
    unfold readValue at whole
    split at whole
    · split at whole <;> cases whole
    · split at whole
      · cases whole
      · split at whole
        · cases whole
        · exact absurd whole readItems_not_map
    · split at whole
      · cases whole
      · split at whole
        · cases whole
          exact named_nil
        · exact readFields_named named_nil whole
    · split at whole
      · next found word =>
        obtain rfl := Except.ok.inj whole
        exact absurd word word?_not_map
      · exact absurd whole readNumber_not_map

theorem read_named {s : String} {es : Entries} (whole : read s = .ok (.map es)) : Named es := by
  obtain ⟨⟨v, rest⟩, found, whole⟩ := bind_eq_ok.mp whole
  dsimp only at whole
  split at whole
  · obtain rfl := Except.ok.inj whole
    exact readValue_named found
  · cases whole

end Json

namespace Toml

theorem read_named {s : String} {es : Entries} (whole : read s = .ok es) : Named es := by
  have texts := (everyKey_reads (p := fun k => k.str?.isSome) fun _ => rfl).read whole
  intro k inside
  obtain ⟨e, there, rfl⟩ := List.mem_map.mp inside
  have text := (Value.everyKeyOfFields_iff.mp texts e there).1
  cases key : e.1 with
  | str name => exact ⟨name, rfl⟩
  | _ => simp [key, Value.str?] at text

end Toml
end Quire
