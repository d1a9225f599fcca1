import Quire.Pipeline

/-! Work in a session, step by step: what a step comes to goes on to the next,
and so does the session as it was left. -/

namespace Quire

theorem Outcome.ok_bind {α β : Type} (a : α) (f : α → Outcome β) :
    ((.ok a : Outcome α) >>= f) = f a := rfl

namespace Work

variable {α β : Type} (f : α → Work β) (s : Session)

theorem run_bind (x : Work α) : ((x >>= f).run s).1 =
    (x.run s).1 >>= fun a => ((f a).run (x.run s).2).1 := by
  change (ExceptT.bindCont f (x.run s).1 (x.run s).2).1 = _
  rcases x.run s with ⟨_ | a, t⟩ <;> rfl

theorem get_bind (f : Session → Work β) : ((get >>= f).run s).1 = ((f s).run s).1 := by
  rw [run_bind]
  rfl

theorem ofOutcome_bind (r : Outcome α) :
    ((ofOutcome r >>= f).run s).1 = r >>= fun a => ((f a).run s).1 := by
  rw [run_bind]
  rfl

theorem say_bind (c : Channel) (severity : Severity) (text : String) (f : Unit → Work β) :
    ((say c severity text >>= f).run s).1 =
      ((f ()).run { s with journal := s.journal ++ [⟨c, severity, text⟩] }).1 := by
  rw [run_bind]
  rfl

theorem tryOut_bind (c : Channel) (a : Attempt α) : ((tryOut c a >>= f).run s).1 =
    a.result >>= fun x => ((f x).run { s with journal := s.journal ++ c.entries a.notes }).1 := by
  rw [run_bind]
  rfl

theorem gauged_bind (use : Gauges → Outcome α × Gauges) : ((gauged use >>= f).run s).1 =
    (use s.gauges).1 >>= fun a => ((f a).run { s with gauges := (use s.gauges).2 }).1 := by
  rw [run_bind]
  rfl

end Work
end Quire
