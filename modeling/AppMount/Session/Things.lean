import AppMount.Session.Reply

/-!
# Steps on all things

The steps that compare and describe things, whatever they are, and that try to change their members
from outside.

* `ThingStep`: the steps; `Session.performOnThing`: what they do.
-/

namespace AppMount

/-! ## 1. The steps -/

/-- **The steps on all things.** -/
inductive ThingStep where
  | equal (a b : Mention)
  | same (a b : Mention)
  | distinct (targets : List Mention)
  | describe (target : Mention)
  | assign (target : Mention) (member : String) (value : Datum)
  | delete (target : Mention) (member : String)
  deriving Repr

/-! ## 2. What they do -/

namespace Session

/-- **What a step on any thing does.** -/
def performOnThing : ThingStep → Action Reply
  | .equal a b => do
    let a ← lookUp a
    let b ← lookUp b
    return .truth (← Action.areEqual dispatch a b)
  | .same a b => do
    let a ← lookUp a
    let b ← lookUp b
    return .truth (a = b)
  | .distinct targets => do
    let rs ← lookUpAll targets
    return .count (← Action.setOf dispatch rs).1.length
  | .describe target => do
    let r ← lookUp target
    return .text (← Action.describe dispatch r)
  | .assign target member value => do
    setMember (← lookUp target) member value
    return .done
  | .delete target member => do
    deleteMember (← lookUp target) member
    return .done

end Session

end AppMount
