import CloudReconciler.Json.Basic

/-! # Merge patches — RFC 7386

    An object patch names the members to change: a null removes a member,
    anything else is merged into it.  A patch that is not an object
    replaces the whole document. -/

namespace CloudReconciler.Json

/-- The members of an object, and none of anything else. -/
def membersOrNone : Json → List (String × Json)
  | .object members => members
  | _ => []

mutual

/-- The document after the patch. -/
def mergePatch (target : Json) : Json → Json
  | .object changes => .object (mergeMembers (membersOrNone target) changes)
  | replacement => replacement

/-- The members after the changes, in turn. -/
def mergeMembers (members : List (String × Json)) : List (String × Json) → List (String × Json)
  | [] => members
  | (name, .null) :: rest => mergeMembers (erase name members) rest
  | (name, change) :: rest =>
      mergeMembers (put name (mergePatch ((lookup name members).getD .null) change) members) rest

end

end CloudReconciler.Json
