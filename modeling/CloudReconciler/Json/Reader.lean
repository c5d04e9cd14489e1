import CloudReconciler.Json.Token

/-! # Reading JSON — from tokens to a document

    Tokens are taken one at a time.  The arrays and objects that are still
    open form a stack, and `Expect` says which token may come next, so a
    document of any depth is read without recursion. -/

namespace CloudReconciler.Json

/-- An array or object that is still open, its parts latest first. -/
inductive Frame where
  | array (items : List Json)
  | object (members : List (String × Json)) (readable : Bool)
  | member (members : List (String × Json)) (readable : Bool) (name : Option String)
  deriving Repr

/-- What may come next. -/
inductive Expect where
  | value
  | valueOrClose
  | name
  | nameOrClose
  | colon
  | commaOrClose
  | nothing
  deriving DecidableEq, Repr

/-- Open arrays and objects, innermost first, the finished document, and what may come next. -/
structure Build where
  frames : List Frame
  result : Json
  expect : Expect
  deriving Repr

namespace Build

/-- A document in which nothing has been read. -/
def empty : Build := ⟨[], .null, .value⟩

/-- An object whose names are all readable. -/
def closed (members : List (String × Json)) (readable : Bool) : Json :=
  if readable then .object members.reverse else .unreadable

/-- A finished value goes into the innermost open array or object. -/
def deliver (frames : List Frame) (value : Json) : Option Build :=
  match frames with
  | [] => some ⟨[], value, .nothing⟩
  | .array items :: outer => some ⟨.array (value :: items) :: outer, .null, .commaOrClose⟩
  | .member members readable (some name) :: outer =>
      some ⟨.object ((name, value) :: members) readable :: outer, .null, .commaOrClose⟩
  | .member members _ none :: outer =>
      some ⟨.object members false :: outer, .null, .commaOrClose⟩
  | .object _ _ :: _ => none

/-- A token that starts a value. -/
def startValue (frames : List Frame) : Token → Option Build
  | .openArray => some ⟨.array [] :: frames, .null, .valueOrClose⟩
  | .openObject => some ⟨.object [] true :: frames, .null, .nameOrClose⟩
  | .null => deliver frames .null
  | .bool b => deliver frames (.bool b)
  | .number (some n) => deliver frames (.number n)
  | .number none => deliver frames .unreadable
  | .text (some s) => deliver frames (.string s)
  | .text none => deliver frames .unreadable
  | _ => none

/-- A token that ends the innermost array or object. -/
def close (frames : List Frame) : Token → Option Build
  | .closeArray =>
      match frames with
      | .array items :: outer => deliver outer (.array items.reverse)
      | _ => none
  | .closeObject =>
      match frames with
      | .object members readable :: outer => deliver outer (closed members readable)
      | _ => none
  | _ => none

/-- A member's name. -/
def startMember (frames : List Frame) : Token → Option Build
  | .text name =>
      match frames with
      | .object members readable :: outer =>
          some ⟨.member members readable name :: outer, .null, .colon⟩
      | _ => none
  | _ => none

/-- A comma asks for another item or member. -/
def afterComma (frames : List Frame) : Option Build :=
  match frames with
  | .array _ :: _ => some ⟨frames, .null, .value⟩
  | .object _ _ :: _ => some ⟨frames, .null, .name⟩
  | _ => none

/-- One token. -/
def step (b : Build) (t : Token) : Option Build :=
  match b.expect with
  | .value => startValue b.frames t
  | .valueOrClose => if t = .closeArray then close b.frames t else startValue b.frames t
  | .name => startMember b.frames t
  | .nameOrClose => if t = .closeObject then close b.frames t else startMember b.frames t
  | .colon => if t = .colon then some ⟨b.frames, .null, .value⟩ else none
  | .commaOrClose => if t = .comma then afterComma b.frames else close b.frames t
  | .nothing => none

/-- All tokens. -/
def run (b : Build) : List Token → Option Build
  | [] => some b
  | t :: rest =>
      match b.step t with
      | some next => next.run rest
      | none => none

end Build

/-- The document that a list of tokens spells. -/
def ofTokens? (tokens : List Token) : Option Json := do
  let b ← Build.empty.run tokens
  match b.expect with
  | .nothing => some b.result
  | _ => none

/-- The document that a byte sequence spells. -/
def ofBytes? (bytes : List UInt8) : Option Json := (Token.scan? bytes).bind ofTokens?

/-- The document that a text spells. -/
def ofText? (text : String) : Option Json := ofBytes? (Utf8.encode text)

end CloudReconciler.Json
