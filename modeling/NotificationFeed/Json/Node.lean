import NotificationFeed.Json.Lexeme
/-!
# JSON values with their spelling

A node is a JSON value together with every blank inside it, so it has one
text. `Node.put` lays a node out as pieces in front of others. A document is
a node with the blanks around it.
-/

namespace NotificationFeed

namespace Json

mutual

/-- A JSON value and how it is written. A gap is the blank behind an opening bracket or a
comma. -/
inductive Node where
  | word (w : Word)
  | number (text : Bytes)
  | string (inner : Bytes)
  | emptyArray (gap : Bytes)
  | array (gap : Bytes) (elements : Elements)
  | emptyObject (gap : Bytes)
  | object (gap : Bytes) (members : Members)

/-- The elements of an array: each node with the blank behind it. -/
inductive Elements where
  | one (node : Node) (blank : Bytes)
  | more (node : Node) (blank gap : Bytes) (rest : Elements)

/-- The members of an object: each key and node with the blanks behind the key, the colon and
the node. -/
inductive Members where
  | one (key beforeColon afterColon : Bytes) (node : Node) (blank : Bytes)
  | more (key beforeColon afterColon : Bytes) (node : Node) (blank gap : Bytes) (rest : Members)

end

instance : Inhabited Node := ⟨.word .null⟩

mutual

/-- The pieces of a node with a blank behind it, in front of `rest`. -/
def Node.put : Node → Bytes → List Piece → List Piece
  | .word w, blank, rest => ⟨.word w, blank⟩ :: rest
  | .number text, blank, rest => ⟨.number text, blank⟩ :: rest
  | .string inner, blank, rest => ⟨.string inner, blank⟩ :: rest
  | .emptyArray gap, blank, rest => ⟨.openArray, gap⟩ :: ⟨.closeArray, blank⟩ :: rest
  | .array gap es, blank, rest => ⟨.openArray, gap⟩ :: es.put (⟨.closeArray, blank⟩ :: rest)
  | .emptyObject gap, blank, rest => ⟨.openObject, gap⟩ :: ⟨.closeObject, blank⟩ :: rest
  | .object gap ms, blank, rest => ⟨.openObject, gap⟩ :: ms.put (⟨.closeObject, blank⟩ :: rest)

/-- The pieces of elements, in front of `rest`. -/
def Elements.put : Elements → List Piece → List Piece
  | .one n blank, rest => n.put blank rest
  | .more n blank gap es, rest => n.put blank (⟨.comma, gap⟩ :: es.put rest)

/-- The pieces of members, in front of `rest`. -/
def Members.put : Members → List Piece → List Piece
  | .one key bc ac n blank, rest => ⟨.string key, bc⟩ :: ⟨.colon, ac⟩ :: n.put blank rest
  | .more key bc ac n blank gap ms, rest =>
    ⟨.string key, bc⟩ :: ⟨.colon, ac⟩ :: n.put blank (⟨.comma, gap⟩ :: ms.put rest)

end

/-- How a node is written, from its first to its last character. -/
def Node.text (n : Node) : Bytes := spell (n.put [] [])

/-- The nodes of an array, in order. -/
def Elements.nodes : Elements → List Node
  | .one n _ => [n]
  | .more n _ _ es => n :: es.nodes

/-- The keys, as written, and nodes of an object, in order. -/
def Members.entries : Members → List (Bytes × Node)
  | .one key _ _ n _ => [(key, n)]
  | .more key _ _ n _ _ ms => (key, n) :: ms.entries

/-- A node with the blanks around it. -/
structure Document where
  lead : Bytes
  root : Node
  trail : Bytes

/-- How a document is written. -/
def Document.text (d : Document) : Bytes := d.lead ++ spell (d.root.put d.trail [])

end Json

end NotificationFeed
