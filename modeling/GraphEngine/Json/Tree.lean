import GraphEngine.Json.Token
import GraphEngine.Text.Utf8

/-!
A JSON text as written, before anything is asked of it.

A tree keeps every member in its order, repeated names too, and numbers as literals. A text that
goes wrong still has a tree: containers that were not closed say so, and `cut` stands for a value
that is missing. A reader that walks the tree from left to right therefore meets a fault of
shape or the end of the good text in the order in which they are written.
-/
namespace GraphEngine.Json

inductive Tree where
  | null
  | boolean (value : Bool)
  | number (literal : Literal)
  | string (text : Option String)
  | array (items : List Tree) (closed : Bool)
  | object (members : List (Option String × Tree)) (closed : Bool)
  | cut

namespace Tree

/-- A container that is being read; its parts so far are kept last first. -/
inductive Frame where
  | array (items : List Tree)
  | object (members : List (Option String × Tree))
  /-- An object inside which a name waits for its value. -/
  | member (members : List (Option String × Tree)) (name : Option String)

inductive Expected where
  | value
  | valueOrClose
  | name
  | nameOrClose
  | colon
  | commaOrClose

inductive Builder where
  | building (expected : Expected) (frames : List Frame)
  | finished (tree : Tree)
  | failed (tree : Tree)

namespace Builder

def start : Builder := .building .value []

/-- A value is complete: it goes into the innermost container. -/
def place (tree : Tree) : List Frame → Builder
  | [] => .finished tree
  | .array items :: frames => .building .commaOrClose (.array (tree :: items) :: frames)
  | .object members :: frames => .building .commaOrClose (.object members :: frames)
  | .member members name :: frames =>
      .building .commaOrClose (.object ((name, tree) :: members) :: frames)

/-- The tree of what was read when the text went wrong. -/
def abandon (inner : Option Tree) : List Frame → Tree
  | [] => inner.getD .cut
  | .array items :: frames =>
      abandon (some (.array (inner.toList ++ items).reverse false)) frames
  | .object members :: frames => abandon (some (.object members.reverse false)) frames
  | .member members name :: frames =>
      abandon (some (.object ((name, inner.getD .cut) :: members).reverse false)) frames

def fail (frames : List Frame) : Builder := .failed (abandon none frames)

def closeArray : List Frame → Builder
  | .array items :: frames => place (.array items.reverse true) frames
  | frames => fail frames

def closeObject : List Frame → Builder
  | .object members :: frames => place (.object members.reverse true) frames
  | frames => fail frames

def value (token : Token) (frames : List Frame) : Builder :=
  match token with
  | .null => place .null frames
  | .boolean value => place (.boolean value) frames
  | .number literal => place (.number literal) frames
  | .string text => place (.string text) frames
  | .openArray => .building .valueOrClose (.array [] :: frames)
  | .openObject => .building .nameOrClose (.object [] :: frames)
  | .closeArray | .closeObject | .comma | .colon | .broken => fail frames

def name (token : Token) (frames : List Frame) : Builder :=
  match token, frames with
  | .string text, .object members :: frames => .building .colon (.member members text :: frames)
  | _, frames => fail frames

def afterComma : List Frame → Builder
  | .array items :: frames => .building .value (.array items :: frames)
  | frames => .building .name frames

def step (builder : Builder) (token : Token) : Builder :=
  match builder with
  | .building .value frames => value token frames
  | .building .valueOrClose frames =>
      match token with
      | .closeArray => closeArray frames
      | token => value token frames
  | .building .name frames => name token frames
  | .building .nameOrClose frames =>
      match token with
      | .closeObject => closeObject frames
      | token => name token frames
  | .building .colon frames =>
      match token with
      | .colon => .building .value frames
      | _ => fail frames
  | .building .commaOrClose frames =>
      match token with
      | .comma => afterComma frames
      | .closeArray => closeArray frames
      | .closeObject => closeObject frames
      | _ => fail frames
  | .finished tree => .failed tree
  | .failed tree => .failed tree

end Builder
end Tree

/-- A text and whether it is one JSON value from its first character to its last. -/
structure Document where
  tree : Tree
  complete : Bool

namespace Document

def ofTokens (tokens : List Token) : Document :=
  match tokens.foldl Tree.Builder.step .start with
  | .building _ frames => ⟨Tree.Builder.abandon none frames, false⟩
  | .finished tree => ⟨tree, true⟩
  | .failed tree => ⟨tree, false⟩

def ofChars (chars : List Char) : Document := ofTokens (Token.scan chars)

def ofText (text : String) : Document := ofChars text.toList

def ofBytes (bytes : List UInt8) : Document := ofTokens (Token.scanEntries (Utf8.scan bytes))

/-- The tree of a text that is good to its end. -/
def tree? (document : Document) : Option Tree :=
  if document.complete then some document.tree else none

end Document
end GraphEngine.Json
