import ShelfRules.Filter.Tree
import ShelfRules.Json.Printer
import ShelfRules.Value.Typed

/-!
# Stored filters

A filter is stored as a document, an object for each node, or as the text of that document in JSON.
A group has the keys `name`, `type`, `join` and `rules`; a rule has `field`, `operator`, `value`,
`valueStart` and `valueEnd`. Dates are stored as texts, and nulls are left out. Operands are read
back by the type of their field.
-/

namespace ShelfRules

/-! ## Writing -/

namespace Value

/-- The text of a date or a timestamp: its day when the field holds dates, else its moment in UTC, and
    the time on the clock when there is no moment in UTC. -/
def storedDate (type : Option FieldType) (t : Timestamp) : Value :=
  match t.toUtc? with
  | none => .text (String.ofList t.isoChars)
  | some m =>
    if type = some .date then .text (String.ofList m.date.shortChars)
    else .text (String.ofList (m.isoChars ++ ['Z']))

mutual
/-- The stored form of an operand: dates become texts, and tuples lists. -/
def stored (type : Option FieldType) : Value → Value
  | .date d => storedDate type (.naive (.ofDate d))
  | .stamp t => storedDate type t
  | .tuple items => .list (storedItems type items)
  | v => v
/-- The stored forms of the items of a tuple. -/
def storedItems (type : Option FieldType) : List Value → List Value
  | [] => []
  | v :: rest => stored type v :: storedItems type rest
end

end Value

/-- The stored form of a rule. -/
def Rule.document (r : Rule) : Value := .object [
  ("field", .text r.field.text),
  ("operator", .text r.operator.text),
  ("value", r.value.stored r.field.type),
  ("valueStart", r.start.stored r.field.type),
  ("valueEnd", r.finish.stored r.field.type)]

namespace Node

mutual
/-- The stored form of a node, with its nulls. -/
def document : Node → Value
  | rule r => r.document
  | group name join children => .object [
      ("name", name),
      ("type", .text "group"),
      ("join", .text join.name),
      ("rules", .list (documents children))]
/-- The stored forms of nodes. -/
def documents : List Node → List Value
  | [] => []
  | node :: rest => document node :: documents rest
end

end Node

namespace Group

/-- The stored form of a filter. -/
def document (g : Group) : Value := g.toNode.document.withoutNulls

/-- The text of the stored form of a filter. -/
def text? (g : Group) : Except Fault String := Json.encode? g.document

end Group

/-! ## Reading -/

/-- The rule in the entries of an object. -/
def Rule.ofEntries? (entries : Entries) : Except Fault Rule := do
  let field ← FieldName.ofValue? (entries.get "field")
  let value ← (entries.get "value").typed? field.type
  let start ← (entries.get "valueStart").typed? field.type
  let finish ← (entries.get "valueEnd").typed? field.type
  let operator ← OperatorName.ofValue? (entries.get "operator")
  Rule.of? field operator value start finish

/-- The name of a group in the entries of an object, blank when it counts as nothing. -/
def Group.nameOf (entries : Entries) : Value := (entries.get "name").orElse (.text "")

namespace Node

/-- The entries are those of a group: they have children, or the type of a group. -/
def isGroup (entries : Entries) : Bool :=
  entries.has "rules" ||
    match entries.get "type" with
    | .text type => type == "group"
    | _ => false

/-- The group of entries and children. -/
def groupOf (entries : Entries) (children : List Node) : Report Group :=
  (Join.ofValue (entries.get "join")).bind fun join =>
    .ok ⟨Group.nameOf entries, join, children⟩

mutual
/-- The node of a stored document. -/
def ofDocument : Value → Report Node
  | .object entries =>
    if isGroup entries then
      (childrenOf entries).bind fun children =>
        (groupOf entries children).bind fun g => .ok g.toNode
    else (Report.ofExcept (Rule.ofEntries? entries)).bind fun r => .ok (rule r)
  | v => .fail (.filter (.nodeNotObject v.kind))
/-- The children in the entries of a group, none when they have none. -/
def childrenOf : List (String × Value) → Report (List Node)
  | [] => .ok []
  | (key, v) :: rest => if key = "rules" then ofList v else childrenOf rest
/-- The children in a list. -/
def ofList : Value → Report (List Node)
  | .list items => ofItems items
  | _ => .fail (.filter .rulesNotList)
/-- The nodes of stored documents. -/
def ofItems : List Value → Report (List Node)
  | [] => .ok []
  | v :: rest => (ofDocument v).bind fun node => (ofItems rest).bind fun nodes => .ok (node :: nodes)
end

end Node

namespace Group

/-- The filter of a stored document. -/
def ofDocument : Value → Report Group
  | .object entries => (Node.childrenOf entries).bind (Node.groupOf entries)
  | v => .fail (.filter (.rootNotObject v.kind))

/-- The fault of a text that has no value. -/
def faultOf : Json.Error → Fault
  | .malformed cause place => .filter (.malformed cause place)
  | .integerTooLong digits => .integerTooLong (some digits)

/-- The filter of a stored text. -/
def ofText (s : String) : Report Group :=
  match Json.parse s.toList with
  | .ok v => ofDocument v
  | .error e => .fail (faultOf e)

/-- The filter of a value that should be a stored text. -/
def ofTextValue : Value → Report Group
  | .text s => ofText s
  | v => .fail (.filter (.notText v.kind))

end Group

end ShelfRules
