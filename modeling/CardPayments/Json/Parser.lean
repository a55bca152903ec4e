import CardPayments.Json.Lexer

/-! # Reading JSON

The parser takes one token at a time and keeps the arrays and objects that are still open on a
stack; the whole text is read by one fold over its characters, so that neither the length of a text
nor its nesting needs a bound. -/
set_option autoImplicit false

namespace CardPayments.Json

/-- An array or object that is still open: what it holds so far, last part first. -/
inductive Open where
  | array (items : List Json)
  | object (fields : List (Option String × Json))
  /-- An object whose last key waits for its value. -/
  | member (fields : List (Option String × Json)) (key : Option String)

inductive Phase where
  | value
  | firstItem
  | firstKey
  | key
  | colon
  /-- After a complete value: a comma, or the end of what is open. -/
  | after
  | finished (value : Json)

structure Parsing where
  phase : Phase
  stack : List Open

namespace Parsing

def start : Parsing := ⟨.value, []⟩

/-- Hands a complete value to what is open around it. -/
def complete (value : Json) : List Open → Option Parsing
  | [] => some ⟨.finished value, []⟩
  | .array items :: rest => some ⟨.after, .array (value :: items) :: rest⟩
  | .member fields key :: rest => some ⟨.after, .object ((key, value) :: fields) :: rest⟩
  | .object _ :: _ => none

/-- Every key of an object, when all of them stand for texts. -/
def namedFields : List (Option String × Json) → Option (List (String × Json))
  | [] => some []
  | (some name, value) :: rest =>
      match namedFields rest with
      | some fields => some ((name, value) :: fields)
      | none => none
  | (none, _) :: _ => none

def closeObject (fields : List (Option String × Json)) : Json :=
  match namedFields fields.reverse with
  | some named => .object named
  | none => .unreadable

def stepValue (stack : List Open) : Token → Option Parsing
  | .openArray => some ⟨.firstItem, .array [] :: stack⟩
  | .openObject => some ⟨.firstKey, .object [] :: stack⟩
  | .null => complete .null stack
  | .bool b => complete (.bool b) stack
  | .number n => complete (.number n) stack
  | .string (some s) => complete (.string s) stack
  | .string none => complete .unreadable stack
  | _ => none

def stepKey (stack : List Open) : Token → Option Parsing
  | .string key =>
      match stack with
      | .object fields :: rest => some ⟨.colon, .member fields key :: rest⟩
      | _ => none
  | _ => none

def stepAfter (stack : List Open) : Token → Option Parsing
  | .comma =>
      match stack with
      | .array _ :: _ => some ⟨.value, stack⟩
      | .object _ :: _ => some ⟨.key, stack⟩
      | _ => none
  | .closeArray =>
      match stack with
      | .array items :: rest => complete (.array items.reverse) rest
      | _ => none
  | .closeObject =>
      match stack with
      | .object fields :: rest => complete (closeObject fields) rest
      | _ => none
  | _ => none

def step (p : Parsing) (token : Token) : Option Parsing :=
  match p.phase with
  | .value => stepValue p.stack token
  | .firstItem =>
      if token = .closeArray then stepAfter p.stack token else stepValue p.stack token
  | .firstKey =>
      if token = .closeObject then stepAfter p.stack token else stepKey p.stack token
  | .key => stepKey p.stack token
  | .colon => if token = .colon then some ⟨.value, p.stack⟩ else none
  | .after => stepAfter p.stack token
  | .finished _ => none

def steps (p : Parsing) : List Token → Option Parsing
  | [] => some p
  | token :: rest =>
      match p.step token with
      | some next => next.steps rest
      | none => none

end Parsing

/-- Both machines between two characters. -/
structure Reading where
  lexer : LexState
  parser : Parsing

namespace Reading

def start : Reading := ⟨.between, .start⟩

def step (r : Reading) (c : Char) : Option Reading :=
  match lexChar r.lexer c with
  | none => none
  | some (tokens, lexer) =>
      match r.parser.steps tokens with
      | some parser => some ⟨lexer, parser⟩
      | none => none

def run (r : Reading) : List Char → Option Reading
  | [] => some r
  | c :: rest =>
      match r.step c with
      | some next => next.run rest
      | none => none

def finish (r : Reading) : Option Json :=
  match lexEnd r.lexer with
  | none => none
  | some tokens =>
      match r.parser.steps tokens with
      | some ⟨.finished value, _⟩ => some value
      | _ => none

end Reading

def parse (s : List Char) : Option Json :=
  match Reading.start.run s with
  | some r => r.finish
  | none => none

def parseText (s : String) : Option Json := parse s.toList

end CardPayments.Json
