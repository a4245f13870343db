/-!
# Own targets

A record is filed under a target, a path of names joined by a double colon. The extension's own
records are those filed under one of its targets or below one.

Whether a target lies below another is found by a scan from the end: two neighbouring colons end a
candidate, and a colon is never used twice. So in a run of colons they are paired from the right,
and a candidate keeps the leftmost colon of a run of odd length.
-/

namespace EngineExtension.Log

/-- The targets that the extension's own records are filed under. -/
def ownTargets : List String := ["gdscaffold", "gdscaffold_core", "gdscaffold_sys"]

/-- Whether a text is one of the own targets. -/
def isOwnTarget (cs : List Char) : Bool := ownTargets.any fun t => t.toList == cs

/-- Scans a target from its end, given in reverse, for two neighbouring colons with an own target
in front of them. The flag says whether the character just passed is an unpaired colon. -/
def scanBelow : (pending : Bool) → (reversed : List Char) → Bool
  | _, [] => false
  | true, c :: cs => (c == ':' && isOwnTarget cs.reverse) || scanBelow false cs
  | false, c :: cs => scanBelow (c == ':') cs

/-- Whether a record with this target is one of the extension's own. -/
def isOwn (target : String) : Bool :=
  isOwnTarget target.toList || scanBelow false target.toList.reverse

end EngineExtension.Log
