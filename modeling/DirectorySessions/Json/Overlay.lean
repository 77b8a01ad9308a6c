/-
# Laying one JSON value over another

Objects are merged key by key, at every depth; a null in the upper value
leaves what is below; anything else replaces what is below.
-/
import DirectorySessions.Json.Value

namespace DirectorySessions.Json

mutual

/-- Lay the second value over the first. -/
def Value.overlay (below : Value) : Value → Value
  | .object above => match below with
    | .object ms => .object (Value.overlayMembers ms above)
    | _ => .object above
  | above => above

/-- Lay members, one after the other, over those of an object. -/
def Value.overlayMembers (ms : Members) : List (String × Value) → Members
  | [] => ms
  | (key, v) :: above =>
    if v.isNull then Value.overlayMembers ms above
    else
      let merged := match ms.get? key with
        | some below => Value.overlay below v
        | none => v
      Value.overlayMembers (ms.insert key merged) above

end

end DirectorySessions.Json
