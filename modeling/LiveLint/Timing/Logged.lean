/-! Values with the events published on the way to them. Machines are functions from a
state to a logged state, so that everything they show to the outside is in their result. -/

namespace LiveLint

@[ext] structure Logged (ε α : Type) where
  value : α
  events : List ε

namespace Logged

instance {ε : Type} : Monad (Logged ε) where
  pure a := ⟨a, []⟩
  bind x f :=
    let y := f x.value
    ⟨y.value, x.events ++ y.events⟩

instance {ε : Type} : LawfulMonad (Logged ε) :=
  LawfulMonad.mk' (Logged ε) (fun x => by simp [Functor.map]) (fun _ _ => rfl)
    (fun x f g => by simp [bind])

/-- The same value after one more event. -/
def publish {ε : Type} (e : ε) : Logged ε Unit := ⟨(), [e]⟩

@[simp] theorem pure_value {ε α : Type} (a : α) : (pure a : Logged ε α).value = a := rfl

@[simp] theorem pure_events {ε α : Type} (a : α) : (pure a : Logged ε α).events = [] := rfl

@[simp] theorem bind_value {ε α β : Type} (x : Logged ε α) (f : α → Logged ε β) :
    (x >>= f).value = (f x.value).value := rfl

@[simp] theorem bind_events {ε α β : Type} (x : Logged ε α) (f : α → Logged ε β) :
    (x >>= f).events = x.events ++ (f x.value).events := rfl

/-- What follows a value depends on that value only. -/
theorem bind_congr {ε α β : Type} {x : Logged ε α} {f g : α → Logged ε β}
    (h : f x.value = g x.value) : x >>= f = x >>= g := by
  simp only [bind, h]

@[simp] theorem publish_events {ε : Type} (e : ε) : (publish e).events = [e] := rfl

end Logged
end LiveLint
