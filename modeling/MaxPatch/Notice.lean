/-! # Notices: what the library reports along the way

Some operations succeed and still have something to say. `Noted α` is a value together with the
notices that came up while it was made, in order; it is a monad, so operations that report can be
composed like any others. -/

namespace MaxPatch

/-- How much a notice matters. -/
inductive Severity where
  | info
  | warning
  deriving DecidableEq, Repr

/-- The word for a severity. -/
def Severity.name : Severity → String
  | info => "INFO"
  | warning => "WARN"

/-- Something worth reporting. -/
structure Notice where
  severity : Severity
  text : String
  deriving DecidableEq, Repr

/-- A value and the notices that came up while it was made. -/
@[ext] structure Noted (α : Type) where
  value : α
  notices : List Notice := []

namespace Noted

instance : Monad Noted where
  pure a := ⟨a, []⟩
  bind x f := ⟨(f x.value).value, x.notices ++ (f x.value).notices⟩

/-- Reports a notice. -/
def report (n : Notice) : Noted Unit := ⟨(), [n]⟩

@[simp] theorem value_pure {α : Type} (a : α) : (pure a : Noted α).value = a := rfl

@[simp] theorem value_bind {α β : Type} (x : Noted α) (f : α → Noted β) :
    (x >>= f).value = (f x.value).value := rfl

@[simp] theorem notices_pure {α : Type} (a : α) : (pure a : Noted α).notices = [] := rfl

@[simp] theorem notices_bind {α β : Type} (x : Noted α) (f : α → Noted β) :
    (x >>= f).notices = x.notices ++ (f x.value).notices := rfl

instance : LawfulMonad Noted :=
  LawfulMonad.mk' Noted
    (fun x => Noted.ext rfl (List.append_nil x.notices))
    (fun _ _ => rfl)
    (fun x f g => Noted.ext rfl (List.append_assoc _ _ _))

end Noted

end MaxPatch
