import ChannelGateway.Document.Issue
/-!
# Reading with issues

A reader that finds something wrong notes an issue and goes on with a default.
-/

namespace ChannelGateway

structure Checked (α : Type) where
  value : α
  issues : List Issue

namespace Checked

instance : Monad Checked where
  pure value := ⟨value, []⟩
  bind x f := ⟨(f x.value).value, x.issues ++ (f x.value).issues⟩

@[simp] theorem value_pure {α : Type} (a : α) : (pure a : Checked α).value = a := rfl

@[simp] theorem issues_pure {α : Type} (a : α) : (pure a : Checked α).issues = [] := rfl

@[simp] theorem value_bind {α β : Type} (x : Checked α) (f : α → Checked β) :
    (x >>= f).value = (f x.value).value := rfl

@[simp] theorem issues_bind {α β : Type} (x : Checked α) (f : α → Checked β) :
    (x >>= f).issues = x.issues ++ (f x.value).issues := rfl

def wrong {α : Type} (location : Location) (cause : IssueCause) (value : α) : Checked α :=
  ⟨value, [⟨location, cause⟩]⟩

def forList {α β : Type} (read : α → Checked β) : List α → Checked (List β)
  | [] => pure []
  | a :: rest => do
    let b ← read a
    let bs ← forList read rest
    pure (b :: bs)

end Checked

end ChannelGateway
