import Quire.Proofs.Entries
import Quire.Proofs.Path

/-! The rules of a schema are a flat list of dot paths, each below its parent. Going
through them finds what going through the schema and the data side by side finds. -/

namespace Quire

open FieldRule (Violation)

namespace Schema

/-- Required names are texts, where they are listed. -/
def requiresNames : Value → Bool
  | .list xs => xs.all fun x => x.str?.isSome
  | _ => true

mutual

/-- Whether all names of properties, here and further in, can be spelled in dot paths,
and those that are required are names. -/
def isSpelled : Value → Bool
  | .map es => fieldsSpelled es
  | _ => true

def fieldsSpelled : List (Value × Value) → Bool
  | [] => true
  | (k, v) :: es =>
    (if isField k "properties" then propertiesSpelled v
      else if isField k "required" then requiresNames v
      else !isField k "items" || isSpelled v) && fieldsSpelled es

def propertiesSpelled : Value → Bool
  | .map props => eachSpelled props
  | _ => true

def eachSpelled : List (Value × Value) → Bool
  | [] => true
  | (k, v) :: props =>
    (k.str?.any fun name => PlainName name) && isSpelled v && eachSpelled props

end

/-- The names that an object schema requires. -/
def requiredOf (es : Entries) : List Value :=
  ((Entries.field? es "required").bind Value.list?).getD []

mutual

/-- What is wrong with a mapping, by an object schema: for each property that is not a
result the value under its name is checked, and where that is a mapping, what is below. -/
def reading (path : List String) (data : Entries) : Value → List Violation
  | .map es => readingFrom path (requiredOf es) data es
  | _ => []
termination_by structural node => node

def readingFrom (path : List String) (required : List Value) (data : Entries) :
    List (Value × Value) → List Violation
  | [] => []
  | (k, v) :: es =>
    if isField k "properties" then readingUnder path required data v
    else readingFrom path required data es
termination_by structural es => es

def readingUnder (path : List String) (required : List Value) (data : Entries) :
    Value → List Violation
  | .map props => readingFor path required data props
  | _ => []
termination_by structural node => node

def readingFor (path : List String) (required : List Value) (data : Entries) :
    List (Value × Value) → List Violation
  | [] => []
  | (k, .map prop) :: props =>
    if isResult prop then readingFor path required data props
    else
      ((ruleOf (path ++ [k.plain]) (k.among required) prop).checkFound
          (Value.present (Entries.get? data k))).toList ++
        (match Entries.get? data k with
          | some (.map inner) => reading (path ++ [k.plain]) inner (.map prop)
          | _ => []) ++
        readingFor path required data props
  | _ :: props => readingFor path required data props
termination_by structural props => props

end

end Schema

namespace RuleSet

variable {r : FieldRule} {rules others : List FieldRule} {scope : String} {metadata : Value}

theorem violations_eq_ok {found : List Violation} :
    violations ⟨rules, scope⟩ metadata = .ok found ↔
      ∃ each, (rules.mapM fun r => r.violation metadata) = .ok each ∧
        each.filterMap id = found := by
  refine bind_eq_ok.trans ?_
  simp only [pure, Except.pure, Except.ok.injEq]

theorem violations_cons {found : Option Violation} {rest : List Violation}
    (first : r.violation metadata = .ok found)
    (others : violations ⟨rules, scope⟩ metadata = .ok rest) :
    violations ⟨r :: rules, scope⟩ metadata = .ok (found.toList ++ rest) := by
  obtain ⟨each, ran, rfl⟩ := violations_eq_ok.mp others
  refine violations_eq_ok.mpr ⟨found :: each, ?_, ?_⟩
  · exact mapM_cons_eq_ok.mpr ⟨found, each, first, ran, rfl⟩
  · cases found <;> rfl

theorem violations_append {first rest : List Violation}
    (these : violations ⟨rules, scope⟩ metadata = .ok first)
    (those : violations ⟨others, scope⟩ metadata = .ok rest) :
    violations ⟨rules ++ others, scope⟩ metadata = .ok (first ++ rest) := by
  obtain ⟨each, ran, rfl⟩ := violations_eq_ok.mp these
  obtain ⟨each', ran', rfl⟩ := violations_eq_ok.mp those
  refine violations_eq_ok.mpr ⟨each ++ each', ?_, List.filterMap_append⟩
  rw [List.mapM_append, ran, ran']
  rfl

/-- Metadata passes when nothing is found, and else the fault tells what is. -/
theorem validate_map {s : RuleSet} {data : Entries} {found : List Violation}
    (finds : s.violations (.map data) = .ok found) (path : Option String) :
    s.validate (.map data) path =
      if found = [] then .ok () else .error (.fault (faultOf found path)) := by
  simp only [validate, finds]
  cases found <;> rfl

end RuleSet

namespace Schema

open Pointer (descend)

/-- What is found in the mapping at a place, if there is one. -/
def below (finding : Entries → List Violation) : Option Value → List Violation
  | some (.map data) => finding data
  | _ => []

/-- Rules with paths below a place, and what they find. -/
def Reads (path : List String) (rules : Except Mishap (List FieldRule))
    (finding : Entries → List Violation) : Prop :=
  ∃ rs, rules = .ok rs ∧ ∀ (scope : String) (top : Value), (path = [] → top.map?.isSome) →
    RuleSet.violations ⟨rs, scope⟩ top = .ok (below finding (descend path top))

/-- The rule of a property looks at the value under its name in the mapping above it,
and at nothing where there is no mapping. -/
theorem violation_ruleOf {path : List String} {name : String} (plain : ∀ n ∈ path, PlainName n)
    (plain' : PlainName name) (required : Bool) (prop : Entries) {top : Value}
    (object : path = [] → top.map?.isSome) :
    (ruleOf (path ++ [name]) required prop).violation top = .ok (match descend path top with
      | some (.map data) => (ruleOf (path ++ [name]) required prop).checkFound
          (Value.present (Entries.field? data name))
      | _ => none) := by
  have all : ∀ n ∈ path ++ [name], PlainName n := by
    simpa [or_imp, forall_and] using ⟨plain, plain'⟩
  have parent : (ruleOf (path ++ [name]) required prop).parent = dotted path :=
    FieldRule.parent_eq_dotted plain' rfl
  have check : (ruleOf (path ++ [name]) required prop).check top =
      .ok ((ruleOf (path ++ [name]) required prop).checkFound
        (Value.present (descend (path ++ [name]) top))) := by
    have found : Path.find top (ruleOf (path ++ [name]) required prop).path = _ :=
      find_dotted all (by simp) top
    rw [FieldRule.check, found]
    rfl
  have applies : (ruleOf (path ++ [name]) required prop).applies top =
      .ok (match descend path top with
        | some (.map _) => true
        | _ => false) := by
    unfold FieldRule.applies
    rw [parent]
    cases path with
    | nil =>
      obtain ⟨data, shape⟩ := Option.isSome_iff_exists.mp (object rfl)
      obtain rfl : top = .map data := by cases top <;> simp_all [Value.map?]
      rfl
    | cons first path =>
      rw [if_neg (dotted_ne_empty plain (List.cons_ne_nil _ _)),
        get_dotted plain (List.cons_ne_nil _ _)]
      cases descend (first :: path) top with
      | none => rfl
      | some v => cases v <;> rfl
  have last : descend (path ++ [name]) top = (descend path top).bind (descend [name]) :=
    descend_concat path name top
  rw [FieldRule.violation, applies]
  cases there : descend path top with
  | none => rfl
  | some v =>
    cases v with
    | map data =>
      rw [there] at last
      have value : descend (path ++ [name]) top = Entries.field? data name := by
        rw [last]
        exact Option.bind_fun_some _
      rw [value] at check
      exact check
    | _ => rfl

theorem Reads.nothing {path : List String} : Reads path (.ok []) fun _ => [] := by
  refine ⟨[], rfl, fun scope top _ => ?_⟩
  change Except.ok [] = _
  cases descend path top with
  | none => rfl
  | some v => cases v <;> rfl

/-- The rules of one property, of what is below it, and of the others. -/
theorem Reads.property {path : List String} {name : String} (plain : ∀ n ∈ path, PlainName n)
    (plain' : PlainName name) (required : Bool) (prop : Entries)
    {inner others : Except Mishap (List FieldRule)} {finding finding' : Entries → List Violation}
    (belowIt : Reads (path ++ [name]) inner finding) (beside : Reads path others finding') :
    Reads path (do return ruleOf (path ++ [name]) required prop :: (← inner) ++ (← others))
      fun data => ((ruleOf (path ++ [name]) required prop).checkFound
        (Value.present (Entries.field? data name))).toList ++
          below finding (Entries.field? data name) ++ finding' data := by
  obtain ⟨rs, rfl, finds⟩ := belowIt
  obtain ⟨rs', rfl, finds'⟩ := beside
  refine ⟨_, rfl, fun scope top object => ?_⟩
  have rest := RuleSet.violations_append (finds scope top (by simp)) (finds' scope top object)
  have all := RuleSet.violations_cons (violation_ruleOf plain plain' required prop object) rest
  rw [List.cons_append, all, descend_concat]
  cases descend path top with
  | none => rfl
  | some v =>
    cases v with
    | map data =>
      have value : descend [name] (.map data) = Entries.field? data name := Option.bind_fun_some _
      simp only [Option.bind_some, value, below, List.append_assoc]
    | _ => rfl

/-- What is spelled about a definition holds for what stands under each of its fields. -/
theorem fieldsSpelled_field? {es : Entries} (spelled : fieldsSpelled es) {name : String} {v : Value}
    (found : Entries.field? es name = some v) :
    (name = "properties" → propertiesSpelled v) ∧ (name = "required" → requiresNames v) ∧
      (name = "items" → isSpelled v) := by
  induction es with
  | nil => cases found
  | cons e es ih =>
    obtain ⟨k, w⟩ := e
    simp only [fieldsSpelled, Bool.and_eq_true] at spelled
    rw [Entries.field?, Entries.get?_cons] at found
    by_cases here : k.same (.str name)
    · rw [if_pos here] at found
      obtain rfl := Option.some.inj found
      obtain rfl := (Value.same_str k name).mp here
      have spelled := spelled.1
      refine ⟨?_, ?_, ?_⟩ <;> rintro rfl <;> simpa [isField, Value.same] using spelled
    · rw [if_neg here] at found
      exact ih spelled.2 found

/-- Names that can serve as keys are taken as they are listed. -/
theorem requiredNames_keyed {es : Entries}
    (keys : ∀ name ∈ requiredOf es, name.isFixed = true) :
    requiredNames es = .ok (requiredOf es) := by
  unfold requiredNames
  unfold requiredOf at keys ⊢
  cases found : Entries.field? es "required" with
  | none => rfl
  | some v =>
    cases v with
    | list xs =>
      have fixed : (xs.find? fun x => !x.isFixed) = none := by
        refine List.find?_eq_none.mpr fun x inside => ?_
        rw [found] at keys
        simp [keys x inside]
      simp only [fixed]
      rfl
    | _ => rfl

theorem requiredNames_spelled {es : Entries} (spelled : fieldsSpelled es) :
    requiredNames es = .ok (requiredOf es) := by
  refine requiredNames_keyed fun name inside => ?_
  unfold requiredOf at inside
  cases found : Entries.field? es "required" with
  | none =>
    rw [found] at inside
    cases inside
  | some v =>
    rw [found] at inside
    have names := (fieldsSpelled_field? spelled found).2.1 rfl
    cases v with
    | list xs =>
      have text := List.all_eq_true.mp names name inside
      cases name <;> simp_all [Value.str?, Value.isFixed]
    | _ => cases inside

mutual

theorem rulesOf_reads : ∀ (node : Value), node.map?.isSome → isSpelled node →
    ∀ {path : List String}, (∀ n ∈ path, PlainName n) →
      Reads path (rulesOf path node) fun data => reading path data node
  | .map es, _, spelled, path, plain => by
    have named := requiredNames_spelled spelled
    simp only [rulesOf, reading, named]
    exact rulesFrom_reads es spelled (requiredOf es) plain

theorem rulesFrom_reads : ∀ (es : List (Value × Value)), fieldsSpelled es →
    ∀ (required : List Value) {path : List String}, (∀ n ∈ path, PlainName n) →
      Reads path (rulesFrom path (.ok required) es) fun data => readingFrom path required data es
  | [], _, _, _, _ => .nothing
  | (k, v) :: es, spelled, required, path, plain => by
    simp only [fieldsSpelled, Bool.and_eq_true] at spelled
    simp only [rulesFrom, readingFrom]
    cases here : isField k "properties" with
    | true =>
      rw [here] at spelled
      exact rulesUnder_reads v spelled.1 required plain
    | false => exact rulesFrom_reads es spelled.2 required plain

theorem rulesUnder_reads : ∀ (v : Value), propertiesSpelled v →
    ∀ (required : List Value) {path : List String}, (∀ n ∈ path, PlainName n) →
      Reads path (rulesUnder path (.ok required) v) fun data => readingUnder path required data v
  | .map props, spelled, required, _, plain => rulesFor_reads props spelled required plain
  | .list _, _, _, _, _ | .tuple _, _, _, _, _ | .set _, _, _, _, _ | .cycle _, _, _, _, _
  | .missing _, _, _, _, _ | .null, _, _, _, _ | .bool _, _, _, _, _ | .int _, _, _, _, _
  | .real _, _, _, _, _ | .str _, _, _, _, _ | .date _, _, _, _, _ | .moment _, _, _, _, _
  | .time _, _, _, _, _ | .bytes _, _, _, _, _ => .nothing

theorem rulesFor_reads : ∀ (props : List (Value × Value)), eachSpelled props →
    ∀ (required : List Value) {path : List String}, (∀ n ∈ path, PlainName n) →
      Reads path (rulesFor path required props) fun data => readingFor path required data props
  | [], _, _, _, _ => .nothing
  | (k, v) :: props, spelled, required, path, plain => by
    simp only [eachSpelled, Bool.and_eq_true, Option.any_eq_true] at spelled
    obtain ⟨⟨⟨name, text, plain'⟩, spelled⟩, others⟩ := spelled
    obtain rfl : k = .str name := by cases k <;> simp_all [Value.str?]
    have beside := rulesFor_reads props others required plain
    cases v with
    | map prop =>
      simp only [rulesFor, readingFor]
      cases isResult prop with
      | true => exact beside
      | false =>
        have all : ∀ n ∈ path ++ [name], PlainName n := by
          simpa [or_imp, forall_and] using ⟨plain, of_decide_eq_true plain'⟩
        have belowIt := rulesOf_reads (.map prop) rfl spelled all
        exact Reads.property plain (of_decide_eq_true plain') _ prop belowIt beside
    | _ => exact beside

end

/-- The schema that documents have to meet: that of the elements of the collection, or
the whole definition where there is no collection. -/
def documentSchema (s : Schema) : Value :=
  match s.itemSchema with
  | .ok (some items) => .map items
  | _ => s.definition

mutual

/-- The properties of a spelled definition have paths of names. -/
theorem properties_plain : ∀ (node : Value), isSpelled node → ∀ {path : List String},
    (∀ n ∈ path, PlainName n) → ∀ p ∈ properties path node,
      p.1 ≠ [] ∧ ∀ n ∈ p.1, PlainName n
  | .map es, spelled, _, plain => propertiesFrom_plain es spelled plain
  | .list _, _, _, _ | .tuple _, _, _, _ | .set _, _, _, _ | .cycle _, _, _, _
  | .missing _, _, _, _ | .null, _, _, _ | .bool _, _, _, _ | .int _, _, _, _
  | .real _, _, _, _ | .str _, _, _, _ | .date _, _, _, _ | .moment _, _, _, _
  | .time _, _, _, _ | .bytes _, _, _, _ => nofun

theorem propertiesFrom_plain : ∀ (es : List (Value × Value)), fieldsSpelled es →
    ∀ {path : List String}, (∀ n ∈ path, PlainName n) → ∀ p ∈ propertiesFrom path es,
      p.1 ≠ [] ∧ ∀ n ∈ p.1, PlainName n
  | [], _, _, _ => nofun
  | (k, v) :: es, spelled, _, plain => by
    simp only [fieldsSpelled, Bool.and_eq_true] at spelled
    rw [propertiesFrom]
    cases here : isField k "properties" with
    | true =>
      rw [here] at spelled
      exact declared_plain v spelled.1 plain
    | false => exact propertiesFrom_plain es spelled.2 plain

theorem declared_plain : ∀ (v : Value), propertiesSpelled v → ∀ {path : List String},
    (∀ n ∈ path, PlainName n) → ∀ p ∈ declared path v, p.1 ≠ [] ∧ ∀ n ∈ p.1, PlainName n
  | .map props, spelled, _, plain => declaredFrom_plain props spelled plain
  | .list _, _, _, _ | .tuple _, _, _, _ | .set _, _, _, _ | .cycle _, _, _, _
  | .missing _, _, _, _ | .null, _, _, _ | .bool _, _, _, _ | .int _, _, _, _
  | .real _, _, _, _ | .str _, _, _, _ | .date _, _, _, _ | .moment _, _, _, _
  | .time _, _, _, _ | .bytes _, _, _, _ => nofun

theorem declaredFrom_plain : ∀ (props : List (Value × Value)), eachSpelled props →
    ∀ {path : List String}, (∀ n ∈ path, PlainName n) → ∀ p ∈ declaredFrom path props,
      p.1 ≠ [] ∧ ∀ n ∈ p.1, PlainName n
  | [], _, _, _ => nofun
  | (k, v) :: props, spelled, path, plain => by
    simp only [eachSpelled, Bool.and_eq_true, Option.any_eq_true] at spelled
    obtain ⟨⟨⟨name, text, plain'⟩, spelled⟩, others⟩ := spelled
    obtain rfl : k = .str name := by cases k <;> simp_all [Value.str?]
    have all : ∀ n ∈ path ++ [name], PlainName n := by
      simpa [or_imp, forall_and] using ⟨plain, of_decide_eq_true plain'⟩
    rw [declaredFrom]
    intro p inside
    rcases List.mem_append.mp inside with inside | later
    · rcases List.mem_append.mp inside with here | below
      · obtain ⟨prop, _, rfl⟩ := Option.mem_toList.mp here |> Option.map_eq_some_iff.mp
        exact ⟨by simp, all⟩
      · exact properties_plain v spelled all p below
    · exact declaredFrom_plain props others plain p later

end

end Schema
end Quire
