/- module: DddBoilerplate/Saga/Expression
   generality: I
   digest: The safe expression evaluator of saga definitions: scanner, recursive descent, conditions. -/

import DddBoilerplate.Domain.Text
import Mathlib.Data.List.Basic

set_option autoImplicit false
set_option relaxedAutoImplicit false
set_option linter.all false

namespace DddBoilerplate.Saga.Expression

section Values

/-- What an expression may come to. Objects and arrays of the scope carry a number that tells
them apart; an array literal is a new object, the same as no other. -/
inductive Value (ν : Type) where
  | undefined
  | null
  | bool (value : Bool)
  | number (value : ν)
  | string (value : String)
  | array (identity : Option Nat) (items : List (Value ν))
  | object (identity : Nat) (fields : List (String × Value ν))
  | host (name : String)

/-- What the expressions take from the language: its numbers, and the properties a value has
from its prototype. `toNumber` is `Number(value)`, which throws where an object hides both of
its conversions. -/
structure Runtime (ν : Type) where
  number : String → ν
  numberText : ν → String
  toNumber : Value ν → Option ν
  ofLength : Nat → ν
  zero : ν
  equal : ν → ν → Bool
  lessThan : ν → ν → Bool
  lessOrEqual : ν → ν → Bool
  inherited : Value ν → String → Value ν

/-- `Record<string, unknown>` -/
abbrev Scope (ν : Type) := List (String × Value ν)

variable {ν : Type} (R : Runtime ν)

def isNullish : Value ν → Bool
  | .null | .undefined => true
  | _ => false

/-- `a === b` -/
def strictEq : Value ν → Value ν → Bool
  | .undefined, .undefined => true
  | .null, .null => true
  | .bool a, .bool b => a = b
  | .number a, .number b => R.equal a b
  | .string a, .string b => a = b
  | .array (some a) _, .array (some b) _ => a = b
  | .object a _, .object b _ => a = b
  | .host a, .host b => a = b
  | _, _ => false

def looseEq (a b : Value ν) : Bool :=
  if strictEq R a b then true
  else if isNullish a && isNullish b then true
  else
    match a, b with
    | .number a, .number b => R.equal a b
    | .string a, .string b => a = b
    | .bool a, .bool b => a = b
    | _, _ => false

def truthy (value : Value ν) : Bool :=
  match value with
  | .undefined | .null | .bool false => false
  | .number n => !R.equal n R.zero
  | .string s => s != ""
  | _ => true

/-- `value[name]` of a value that is not nullish; a name is never an index. -/
def readProperty (value : Value ν) (name : String) : Value ν :=
  match value with
  | .undefined | .null => .undefined
  | .object _ fields => (fields.lookup name).getD (R.inherited value name)
  | .array _ items =>
    if name = "length" then .number (R.ofLength items.length) else R.inherited value name
  | .string s =>
    if name = "length" then .number (R.ofLength (Text.utf16Length s)) else R.inherited value name
  | _ => R.inherited value name

/-- `this.scope[name]` -/
def readScope (scope : Scope ν) (name : String) : Value ν :=
  readProperty R (.object 0 scope) name

end Values

inductive Failure where
  | thrown (message : String)
  | outOfFuel
  deriving DecidableEq

section Tokens

/-- `PUNCT_2` and `PUNCT_1` -/
inductive Punct where
  | andAnd | orOr | equal | notEqual | greaterOrEqual | lessOrEqual
  | openParen | closeParen | openBracket | closeBracket | comma | dot | bang | greater | less
  deriving DecidableEq

namespace Punct

def text : Punct → String
  | andAnd => "&&"
  | orOr => "||"
  | equal => "=="
  | notEqual => "!="
  | greaterOrEqual => ">="
  | lessOrEqual => "<="
  | openParen => "("
  | closeParen => ")"
  | openBracket => "["
  | closeBracket => "]"
  | comma => ","
  | dot => "."
  | bang => "!"
  | greater => ">"
  | less => "<"

def two : List Punct := [andAnd, orOr, equal, notEqual, greaterOrEqual, lessOrEqual]

def one : List Punct :=
  [openParen, closeParen, openBracket, closeBracket, comma, dot, bang, greater, less]

/-- The punctuation of `from` whose text is this. -/
def read? (candidates : List Punct) (chars : List Char) : Option Punct :=
  candidates.find? fun p => p.text.toList = chars

end Punct

inductive Token (ν : Type) where
  | number (value : ν)
  | string (value : String)
  | ident (value : String)
  | punct (value : Punct)

variable {ν : Type} (R : Runtime ν)

def Token.describe : Token ν → String
  | .number value => R.numberText value
  | .string value => value
  | .ident value => value
  | .punct value => value.text

def singleQuote : Char := Char.ofNat 0x27

def doubleQuote : Char := Char.ofNat 0x22

def backslash : Char := Char.ofNat 0x5C

/-- Space, tab, line feed and carriage return: less than what `trim` removes. -/
def isBlank (c : Char) : Bool := c.toNat ∈ [0x20, 0x09, 0x0A, 0x0D]

def isQuote (c : Char) : Bool := c = singleQuote || c = doubleQuote

def isNumeric (c : Char) : Bool := c.isDigit || c = '.'

def isIdentStart (c : Char) : Bool := c.isAlpha || c = '_' || c = '$'

def isIdentPart (c : Char) : Bool := c.isAlphanum || c = '_' || c = '$'

/-- The loop over a string literal, behind its opening quote: its value and what follows it. -/
def scanString (quote : Char) : List Char → Option (List Char × List Char)
  | [] => none
  | c :: cs =>
    if c = quote then some ([], cs)
    else if c = backslash then
      match cs with
      | [] => none
      | escaped :: rest => (scanString quote rest).map fun read => (escaped :: read.1, read.2)
    else (scanString quote cs).map fun read => (c :: read.1, read.2)

/-- One round of the loop over the source: the token, if it is no blank, and what is left. -/
def scanToken (source : String) (c : Char) (cs : List Char) :
    Except Failure (Option (Token ν) × List Char) :=
  if isBlank c then .ok (none, cs)
  else if isQuote c then
    match scanString c cs with
    | some (value, rest) => .ok (some (.string (String.ofList value)), rest)
    | none => .error (.thrown s!"Unterminated string literal in \"{source}\"")
  else if c.isDigit then
    .ok (some (.number (R.number (String.ofList ((c :: cs).takeWhile isNumeric)))),
      (c :: cs).dropWhile isNumeric)
  else if isIdentStart c then
    .ok (some (.ident (String.ofList ((c :: cs).takeWhile isIdentPart))),
      (c :: cs).dropWhile isIdentPart)
  else
    match Punct.read? Punct.two ((c :: cs).take 2) with
    | some p => .ok (some (.punct p), cs.drop 1)
    | none =>
      match Punct.read? Punct.one [c] with
      | some p => .ok (some (.punct p), cs)
      | none => .error (.thrown s!"Unexpected character \"{c}\" in \"{source}\"")

/-- The loop over the source. Every round takes a character, so its length is fuel enough. -/
def scan (source : String) : Nat → List Char → Except Failure (List (Token ν))
  | _, [] => .ok []
  | 0, _ :: _ => .error .outOfFuel
  | n + 1, c :: cs => do
    let (token, rest) ← scanToken R source c cs
    let tokens ← scan source n rest
    return token.toList ++ tokens

def tokenize (source : String) : Except Failure (List (Token ν)) :=
  scan R source source.length source.toList

end Tokens

inductive ComparisonOp where
  | equal | notEqual | greater | less | greaterOrEqual | lessOrEqual | in_
  deriving DecidableEq

section Parser

variable {ν : Type} (R : Runtime ν)

/-- The `switch` over the operator; nothing where an operand has no number. -/
def compare (op : ComparisonOp) (left right : Value ν) : Option (Value ν) :=
  let order (holds : ν → ν → Bool) : Option (Value ν) := do
    let a ← R.toNumber left
    let b ← R.toNumber right
    return .bool (holds a b)
  match op with
  | .equal => some (.bool (looseEq R left right))
  | .notEqual => some (.bool (!looseEq R left right))
  | .greater => order fun a b => R.lessThan b a
  | .less => order fun a b => R.lessThan a b
  | .greaterOrEqual => order fun a b => R.lessOrEqual b a
  | .lessOrEqual => order fun a b => R.lessOrEqual a b
  | .in_ =>
    match right with
    | .array _ items => some (.bool (items.any fun item => looseEq R item left))
    | _ => some (.bool false)

def peekComparisonOperator : List (Token ν) → Option ComparisonOp
  | .punct .equal :: _ => some .equal
  | .punct .notEqual :: _ => some .notEqual
  | .punct .greater :: _ => some .greater
  | .punct .less :: _ => some .less
  | .punct .greaterOrEqual :: _ => some .greaterOrEqual
  | .punct .lessOrEqual :: _ => some .lessOrEqual
  | .ident "in" :: _ => some .in_
  | _ => none

/-- The value of an identifier: one of four words, or a field of the scope. -/
def readIdent (scope : Scope ν) : String → Value ν
  | "true" => .bool true
  | "false" => .bool false
  | "null" => .null
  | "undefined" => .undefined
  | name => readScope R scope name

variable (source : String)

def fail {α : Type} (message : String) : Except Failure α :=
  .error (.thrown s!"Invalid saga expression \"{source}\": {message}")

/-- The loop of `parsePostfix`, with the tokens it leaves, as every routine of the parser. It
returns early at a nullish value, wherever the path stands. -/
def postfixLoop : Value ν → List (Token ν) → Except Failure (Value ν × List (Token ν))
  | value, .punct .dot :: .ident name :: ts =>
    if isNullish value then .ok (.undefined, ts)
    else postfixLoop (readProperty R value name) ts
  | _, .punct .dot :: _ => fail source "expected a property name after \".\""
  | value, ts => .ok (value, ts)

variable (scope : Scope ν)

mutual

def parseOr : Nat → List (Token ν) → Except Failure (Value ν × List (Token ν))
  | 0, _ => .error .outOfFuel
  | n + 1, ts => do
    let (left, ts) ← parseAnd n ts
    orLoop n left ts

def orLoop : Nat → Value ν → List (Token ν) → Except Failure (Value ν × List (Token ν))
  | 0, _, _ => .error .outOfFuel
  | n + 1, left, .punct .orOr :: ts => do
    let (right, ts) ← parseAnd n ts
    orLoop n (.bool (truthy R left || truthy R right)) ts
  | _ + 1, left, ts => .ok (left, ts)

def parseAnd : Nat → List (Token ν) → Except Failure (Value ν × List (Token ν))
  | 0, _ => .error .outOfFuel
  | n + 1, ts => do
    let (left, ts) ← parseComparison n ts
    andLoop n left ts

def andLoop : Nat → Value ν → List (Token ν) → Except Failure (Value ν × List (Token ν))
  | 0, _, _ => .error .outOfFuel
  | n + 1, left, .punct .andAnd :: ts => do
    let (right, ts) ← parseComparison n ts
    andLoop n (.bool (truthy R left && truthy R right)) ts
  | _ + 1, left, ts => .ok (left, ts)

def parseComparison : Nat → List (Token ν) → Except Failure (Value ν × List (Token ν))
  | 0, _ => .error .outOfFuel
  | n + 1, ts => do
    let (left, ts) ← parseUnary n ts
    match peekComparisonOperator ts with
    | none => .ok (left, ts)
    | some op =>
      let (right, ts) ← parseUnary n ts.tail
      match compare R op left right with
      | some value => .ok (value, ts)
      | none => .error (.thrown "Cannot convert object to primitive value")

def parseUnary : Nat → List (Token ν) → Except Failure (Value ν × List (Token ν))
  | 0, _ => .error .outOfFuel
  | n + 1, .punct .bang :: ts => do
    let (value, ts) ← parseUnary n ts
    return (.bool (!truthy R value), ts)
  | n + 1, ts => parsePostfix n ts

def parsePostfix : Nat → List (Token ν) → Except Failure (Value ν × List (Token ν))
  | 0, _ => .error .outOfFuel
  | n + 1, ts => do
    let (value, ts) ← parsePrimary n ts
    postfixLoop R source value ts

def parsePrimary : Nat → List (Token ν) → Except Failure (Value ν × List (Token ν))
  | 0, _ => .error .outOfFuel
  | _ + 1, [] => fail source "unexpected end of expression"
  | _ + 1, .number value :: ts => .ok (.number value, ts)
  | _ + 1, .string value :: ts => .ok (.string value, ts)
  | _ + 1, .ident name :: ts => .ok (readIdent R scope name, ts)
  | n + 1, .punct .openParen :: ts => do
    let (value, ts) ← parseOr n ts
    match ts with
    | .punct .closeParen :: ts => .ok (value, ts)
    | _ => fail source "expected \")\""
  | _ + 1, .punct .openBracket :: .punct .closeBracket :: ts => .ok (.array none [], ts)
  | n + 1, .punct .openBracket :: ts => do
    let (items, ts) ← parseItems n ts
    match ts with
    | .punct .closeBracket :: ts => .ok (.array none items, ts)
    | _ => fail source "expected \"]\""
  | _ + 1, token :: _ => fail source s!"unexpected token \"{token.describe R}\""

/-- The items of an array that is not empty. -/
def parseItems : Nat → List (Token ν) → Except Failure (List (Value ν) × List (Token ν))
  | 0, _ => .error .outOfFuel
  | n + 1, ts => do
    let (item, ts) ← parseOr n ts
    match ts with
    | .punct .comma :: ts =>
      let (items, ts) ← parseItems n ts
      return (item :: items, ts)
    | ts => .ok ([item], ts)

end

/-- Rounds enough for a descent over this many tokens. -/
def fuelFor (ts : List (Token ν)) : Nat := 8 * ts.length + 8

def parse (ts : List (Token ν)) : Except Failure (Value ν) := do
  let (value, rest) ← parseOr R source scope (fuelFor ts) ts
  match rest with
  | [] => .ok value
  | token :: _ => fail source s!"unexpected token \"{token.describe R}\""

end Parser

section Evaluation

variable {ν : Type} (R : Runtime ν)

/-- The message of an error as `evaluateExpression` rethrows it. -/
def rethrown (trimmed : String) : Failure → Failure
  | .outOfFuel => .outOfFuel
  | .thrown message =>
    if message.startsWith "Invalid saga expression" then .thrown message
    else .thrown s!"Invalid saga expression \"{trimmed}\": {message}"

/-- Evaluate an expression against a scope. Throws on malformed input. -/
def evaluateExpression (source : String) (scope : Scope ν) : Except Failure (Value ν) :=
  let trimmed := Text.trim source
  if trimmed = "" then .ok .undefined
  else (tokenize R trimmed >>= parse R trimmed scope).mapError (rethrown trimmed)

/-- Evaluate an expression as a boolean; an absent condition is `true`. -/
def evaluateCondition (source : Option String) (scope : Scope ν) : Except Failure Bool :=
  match source with
  | none => .ok true
  | some source =>
    if Text.trim source = "" then .ok true
    else (truthy R) <$> evaluateExpression R source scope

end Evaluation

end DddBoilerplate.Saga.Expression
