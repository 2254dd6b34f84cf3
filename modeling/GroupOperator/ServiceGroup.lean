import GroupOperator.Failure
import GroupOperator.Schema

/-!
# Service groups

A service group is a read-only view of an object of the watched resource.  Its fields are kept as
they were found: what is missing gets a default, what counts as absent in the metadata becomes the
empty text, and nothing else is judged here.

An event says what happened to a group, and for a modification also what the group was before.
-/

namespace GroupOperator

/-- What an object of the cluster is known by. -/
structure Identity where
  /-- The object's name. -/
  name : Value
  /-- The namespace it lies in. -/
  namespaceName : Value
  /-- The cluster's own identifier of the object. -/
  uid : Value
  deriving DecidableEq, Repr, Inhabited

/-- A service group as it was found. -/
structure ServiceGroup where
  /-- What the group is known by. -/
  identity : Identity
  /-- The number of members asked for. -/
  count : Value
  /-- The image that the members run. -/
  image : Value
  /-- The path the cluster gives for the object, if it gives one. -/
  selfLink : Value
  deriving DecidableEq, Repr, Inhabited

namespace ServiceGroup

/-- The group's name. -/
def name (g : ServiceGroup) : Value := g.identity.name

/-- The group's namespace. -/
def namespaceName (g : ServiceGroup) : Value := g.identity.namespaceName

/-- The path of a group in the cluster: the one it carries, or else the one it must have. -/
def link (g : ServiceGroup) : Value :=
  g.selfLink.orElse (.str ("/apis/" ++ Schema.apiVersion ++ "/namespaces/" ++
    g.namespaceName.text ++ "/" ++ Schema.plural ++ "/" ++ g.name.text))

/-! ## Reading an object -/

/-- Why an object is no service group. -/
inductive Refusal where
  /-- It has no members; the name of its type is given. -/
  | notAnObject (typeName : String)
  /-- It states another kind. -/
  | otherKind (kind : Value)
  /-- Its metadata or its specification has no members. -/
  | malformed
  deriving DecidableEq, Repr

/-- The text of a refusal. -/
def Refusal.message (r : Refusal) : String :=
  "unknown event type: " ++
    match r with
    | .notAnObject typeName => typeName
    | .otherKind kind => kind.text
    | .malformed => "malformed body"

/-- A refusal as a failure. -/
def Refusal.failure (r : Refusal) : Failure :=
  .unknownObject r.message

/-- The members of a part of an object; a part that counts as absent has none. -/
def part? (name : String) (body : List (String × Value)) : Option (List (String × Value)) :=
  match Value.member? name body with
  | none => some []
  | some (.object members) => some members
  | some v => if v.isPresent then none else some []

/-- The member of that name if it counts as present, and otherwise the empty text. -/
def textOf (name : String) (metadata : List (String × Value)) : Value :=
  (Value.ofOption (Value.member? name metadata)).orElse (.str "")

/-- The group that metadata and specification describe. -/
def ofParts (metadata spec : List (String × Value)) : ServiceGroup where
  identity := ⟨textOf "name" metadata, textOf "namespace" metadata, textOf "uid" metadata⟩
  count := (Value.member? "count" spec).getD (.int 0)
  image := (Value.member? "image" spec).getD (.str "")
  selfLink := textOf "selfLink" metadata

/-- Whether the kind an object states, if it states one, is that of service groups. -/
def isKind (kind : Value) : Bool :=
  kind = .null || kind = .str Schema.kind

/-- The service group that an object is. -/
def ofBody? : Value → Except Refusal ServiceGroup
  | .object body =>
    let kind := Value.ofOption (Value.member? "kind" body)
    if isKind kind then
      match part? "metadata" body, part? "spec" body with
      | some metadata, some spec => .ok (ofParts metadata spec)
      | _, _ => .error .malformed
    else .error (.otherKind kind)
  | v => .error (.notAnObject v.typeName)

end ServiceGroup

/-! ## Events -/

/-- What happened to a group. -/
inductive EventKind where
  /-- It is there, and was not known or is delivered anew. -/
  | added
  /-- It was known and may have changed. -/
  | modified
  /-- It is gone. -/
  | deleted
  deriving DecidableEq, Repr

/-- The name of an event's kind. -/
def EventKind.name : EventKind → String
  | .added => "ADDED"
  | .modified => "MODIFIED"
  | .deleted => "DELETED"

/-- The kind of that name. -/
def EventKind.ofName? (name : String) : Option EventKind :=
  [EventKind.added, .modified, .deleted].find? (·.name = name)

/-- Something that happened to a service group. -/
structure Event where
  /-- What happened. -/
  kind : EventKind
  /-- The group, as it is now or last was. -/
  group : ServiceGroup
  /-- What the group was before, if it was modified. -/
  old : Option ServiceGroup
  deriving DecidableEq, Repr

end GroupOperator
