import NotificationFeed.Json.Node
/-!
# Reading JSON documents

The pieces of a text are read one after another, with a stack of the arrays
and objects that are still open, so the depth of nesting is bounded by the
text alone. What is refused is what no document spells: a missing or extra
comma, a key that is no string, an unmatched bracket, a second value.
-/

namespace NotificationFeed

namespace Json

/-- An array or object that is still open, with what was read of it, newest first. -/
inductive Frame where
  | array (gap : Bytes) (read : List (Node × Bytes × Bytes))
  /-- The key whose value comes next is kept apart. -/
  | object (gap : Bytes) (read : List (Bytes × Bytes × Bytes × Node × Bytes × Bytes))
      (key beforeColon afterColon : Bytes)

/-- What must come next. -/
inductive Awaiting where
  | value
  /-- The first element of an array, or its end. -/
  | elementOrEnd (gap : Bytes)
  /-- The first key of an object, or its end. -/
  | keyOrEnd (gap : Bytes)
  | key (gap : Bytes) (read : List (Bytes × Bytes × Bytes × Node × Bytes × Bytes))
  | colon (gap : Bytes) (read : List (Bytes × Bytes × Bytes × Node × Bytes × Bytes))
      (key beforeColon : Bytes)
  /-- A value was read; what follows it belongs to the innermost open frame. -/
  | afterValue (node : Node) (blank : Bytes)

/-- The reader between two pieces. -/
structure Reader where
  stack : List Frame
  awaiting : Awaiting

namespace Reader

/-- The elements of an array from the last one and those before it, newest first. -/
def closeArray (last : Node) (blank : Bytes) (read : List (Node × Bytes × Bytes)) : Elements :=
  read.foldl (fun es (n, b, gap) => .more n b gap es) (.one last blank)

/-- The members of an object from the last one and those before it, newest first. -/
def closeObject (key bc ac : Bytes) (last : Node) (blank : Bytes)
    (read : List (Bytes × Bytes × Bytes × Node × Bytes × Bytes)) : Members :=
  read.foldl (fun ms (k, bc, ac, n, b, gap) => .more k bc ac n b gap ms)
    (.one key bc ac last blank)

/-- Begins a value inside the frames of `stack`. -/
def begin (stack : List Frame) (p : Piece) : Option Reader :=
  match p.lexeme with
  | .word w => some ⟨stack, .afterValue (.word w) p.blank⟩
  | .number text => some ⟨stack, .afterValue (.number text) p.blank⟩
  | .string inner => some ⟨stack, .afterValue (.string inner) p.blank⟩
  | .openArray => some ⟨stack, .elementOrEnd p.blank⟩
  | .openObject => some ⟨stack, .keyOrEnd p.blank⟩
  | _ => none

/-- Goes on after a value, inside the innermost open frame. -/
def proceed : List Frame → Node → Bytes → Piece → Option Reader
  | .array gap read :: stack, n, blank, p =>
    match p.lexeme with
    | .comma => some ⟨.array gap ((n, blank, p.blank) :: read) :: stack, .value⟩
    | .closeArray => some ⟨stack, .afterValue (.array gap (closeArray n blank read)) p.blank⟩
    | _ => none
  | .object gap read key bc ac :: stack, n, blank, p =>
    match p.lexeme with
    | .comma => some ⟨stack, .key gap ((key, bc, ac, n, blank, p.blank) :: read)⟩
    | .closeObject =>
      some ⟨stack, .afterValue (.object gap (closeObject key bc ac n blank read)) p.blank⟩
    | _ => none
  | [], _, _, _ => none

/-- Reads one piece. -/
def step (r : Reader) (p : Piece) : Option Reader :=
  match r.awaiting with
  | .value => begin r.stack p
  | .elementOrEnd gap =>
    match p.lexeme with
    | .closeArray => some ⟨r.stack, .afterValue (.emptyArray gap) p.blank⟩
    | _ => begin (.array gap [] :: r.stack) p
  | .keyOrEnd gap =>
    match p.lexeme with
    | .closeObject => some ⟨r.stack, .afterValue (.emptyObject gap) p.blank⟩
    | .string key => some ⟨r.stack, .colon gap [] key p.blank⟩
    | _ => none
  | .key gap read =>
    match p.lexeme with
    | .string key => some ⟨r.stack, .colon gap read key p.blank⟩
    | _ => none
  | .colon gap read key bc =>
    match p.lexeme with
    | .colon => some ⟨.object gap read key bc p.blank :: r.stack, .value⟩
    | _ => none
  | .afterValue n blank => proceed r.stack n blank p

end Reader

/-- Reads a document. -/
def Document.parse (s : Bytes) : Option Document := do
  let ps ← pieces (s.dropWhile isBlank)
  let r ← ps.foldlM Reader.step ⟨[], .value⟩
  match r.stack, r.awaiting with
  | [], .afterValue root trail => some { lead := s.takeWhile isBlank, root, trail }
  | _, _ => none

end Json

end NotificationFeed
