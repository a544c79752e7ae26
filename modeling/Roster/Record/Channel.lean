import Roster.Json.Parser
import Roster.Json.Printer

/-!
# Channels

* `ChannelKind` — what a channel is for; JSON spells it by name, read also as an object whose one field
  has that name and the value `null`.
* `Channel` — what the platform tells about a channel, with its JSON form.
-/

set_option autoImplicit false

namespace Roster

/-- What a channel is for. -/
inductive ChannelKind where
  | text
  | voice
  | category
  | announcement
  | thread
  | forum
deriving DecidableEq, Repr

namespace ChannelKind

def all : List ChannelKind := [.text, .voice, .category, .announcement, .thread, .forum]

def name : ChannelKind → String
  | .text => "text"
  | .voice => "voice"
  | .category => "category"
  | .announcement => "announcement"
  | .thread => "thread"
  | .forum => "forum"

def ofName? (s : String) : Option ChannelKind := all.find? fun k => k.name = s

def toJson (k : ChannelKind) : Json := .str k.name

def ofJson? : Json → Option ChannelKind
  | .string (some s) => ofName? s
  | .object [(some s, .null)] => ofName? s
  | _ => none

end ChannelKind

/-- A channel. -/
structure Channel where
  id : String
  groupId : String
  name : String
  kind : ChannelKind
  position : Int64
  parentId : Option String
deriving DecidableEq, Repr

namespace Channel

/-- A text channel with nothing but a name. -/
def new (id groupId name : String) : Channel := ⟨id, groupId, name, .text, 0, none⟩

def fieldNames : List String := ["id", "group_id", "name", "kind", "position", "parent_id"]

def toJson (c : Channel) : Json :=
  .obj ([("id", .str c.id), ("group_id", .str c.groupId), ("name", .str c.name),
    ("kind", c.kind.toJson), ("position", .integer c.position.toInt)]
    ++ Json.field? "parent_id" .str c.parentId)

def ofJson? (v : Json) : Option Channel := do
  match ← v.slots fieldNames with
  | [id, groupId, name, kind, position, parentId] =>
    some {
      id := ← Json.required Json.asString? id
      groupId := ← Json.required Json.asString? groupId
      name := ← Json.required Json.asString? name
      kind := ← Json.defaulted .text ChannelKind.ofJson? kind
      position := ← Json.defaulted 0 Json.asInt64? position
      parentId := ← Json.optional Json.asString? parentId }
  | _ => none

instance : JsonRecord Channel := ⟨toJson, ofJson?⟩

end Channel

end Roster
