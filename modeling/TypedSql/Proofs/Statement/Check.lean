import TypedSql.Proofs.Fallible
import TypedSql.Statement.Check

/-!
# What the rules for parameters ask for

A statement passes when no expression shows a fault. Every fault is one of the statement itself, never one
of its text.
-/

namespace TypedSql

namespace Expr

theorem isInconsistency_of_callFault? {e : Expr} {fault : Error} (h : e.callFault? = some fault) :
    fault.isInconsistency = false := by
  cases e with
  | call c args =>
    rw [callFault?] at h
    split at h
    · cases h
      unfold callFault
      split <;> rfl
    · cases h
  | _ => cases h

theorem isInconsistency_of_sliceFault? {e : Expr} {fault : Error} (h : e.sliceFault? = some fault) :
    fault.isInconsistency = false := by
  cases e with
  | inList e items negated =>
    unfold sliceFault? at h
    dsimp only at h
    split at h
    · cases h
    · obtain ⟨name, -, rfl⟩ := Option.map_eq_some_iff.mp h
      rfl
  | _ => cases h

end Expr

namespace Statement

theorem checkEach_eq_ok {s : Statement} {fault? : Expr → Option Error} :
    s.checkEach fault? = .ok () ↔ ∀ e ∈ s.exprs, fault? e = none := by
  rw [checkEach, ← List.findSome?_eq_none_iff]
  cases s.exprs.findSome? fault? <;> simp

theorem consistent_checkEach (s : Statement) {fault? : Expr → Option Error}
    (h : ∀ e fault, fault? e = some fault → fault.isInconsistency = false) :
    Consistent (s.checkEach fault?) := by
  unfold checkEach
  split
  · rename_i fault hfault
    obtain ⟨e, -, he⟩ := List.exists_of_findSome?_eq_some hfault
    exact consistent_error (h e fault he)
  · exact consistent_ok ()

theorem consistent_check (s : Statement) : Consistent s.check := by
  have hstyle : Consistent s.checkStyle := by
    unfold checkStyle
    split
    · exact consistent_error rfl
    · exact consistent_ok ()
  refine hstyle.bind fun _ _ => ?_
  refine (s.consistent_checkEach fun _ _ => Expr.isInconsistency_of_callFault?).bind fun _ _ => ?_
  exact s.consistent_checkEach fun _ _ => Expr.isInconsistency_of_sliceFault?

end Statement

end TypedSql
