import Codebook.Template.Store

/-!
# Steps of an evaluation

An evaluation goes on behind a step with the result and the store of that step, and stops at the
first step that fails.
-/

namespace Codebook.Template

namespace Eval

variable {α β : Type} {x : Eval α} {f : α → Eval β} {a : α} {store store' : Store}
  {error : TemplateError}

theorem bind_of_ok (h : x store = .ok (a, store')) : (x >>= f) store = f a store' := by
  show (x store >>= fun result => f result.1 result.2) = _
  rw [h]
  rfl

theorem bind_of_error (h : x store = .error error) : (x >>= f) store = .error error := by
  show (x store >>= fun result => f result.1 result.2) = _
  rw [h]
  rfl

end Eval

theorem onLine_of_ok {α : Type} {result : Except Problem α} {a : α} (h : result = .ok a)
    (line : Nat) (store : Store) : onLine line result store = .ok (a, store) := by
  rw [h]
  rfl

theorem onLine_of_error {α : Type} {result : Except Problem α} {problem : Problem}
    (h : result = .error problem) (line : Nat) (store : Store) :
    onLine line result store = .error (.failed problem line) := by
  rw [h]
  rfl

end Codebook.Template
