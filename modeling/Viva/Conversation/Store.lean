import Viva.Conversation.Action

/-! # The conversation a session keeps

Actions are applied one at a time. Subscribers are told of a change only when the conversation is
another one afterwards; the store counts these changes.
-/

namespace Viva

structure Store where
  conversation : Conversation := {}
  /-- How often the conversation has changed. -/
  changes : Nat := 0
  deriving Repr, DecidableEq, Inhabited

namespace Store

/-- The action makes another conversation of the one that is kept. -/
def accepts (store : Store) (action : Action) : Bool :=
  store.conversation.reduce action != store.conversation

/-- The store after an action. -/
def dispatch (store : Store) (action : Action) : Store :=
  if store.accepts action then
    ⟨store.conversation.reduce action, store.changes + 1⟩
  else store

end Store

end Viva
