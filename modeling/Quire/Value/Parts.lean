import Quire.Failure

/-! Mappings as parts that are given by name: which names may be there, and which
ones must. -/

namespace Quire.Entries

/-- The entry of a name, which must be there. -/
def need (es : Entries) (name : String) : Except Mishap Value :=
  match field? es name with
  | some v => .ok v
  | none => .error (.noKey name)

/-- Every name must be known. -/
def refuseUnknown (what : String) (known : List String) (es : Entries) : Except Mishap Unit :=
  match (keys es).find? fun k => !known.any fun name => k.same (.str name) with
  | none => .ok ()
  | some (.str name) =>
    .error (.badKind (what ++ " got an unexpected keyword argument '" ++ name ++ "'"))
  | some _ => .error (.badKind "keywords must be strings")

def refuseMissing (what : String) (needed : List String) (es : Entries) : Except Mishap Unit :=
  match needed.find? fun name => !has es (.str name) with
  | none => .ok ()
  | some name => .error (.badKind (what ++ " missing a required argument: '" ++ name ++ "'"))

/-- All of the needed parts must be there, and none but those and the optional ones. -/
def checkParts (what : String) (needed optional : List String) (es : Entries) :
    Except Mishap Unit := do
  refuseUnknown what (needed ++ optional) es
  refuseMissing what needed es

theorem need_eq_ok_iff (es : Entries) (name : String) (v : Value) :
    need es name = .ok v ↔ field? es name = some v := by
  unfold need
  cases field? es name <;> simp

end Quire.Entries
