import ExecutableUml.Json.Value
import ExecutableUml.Text.Span

/-! Reading JSON text. A failure names its cause and the line and byte column where it was found. -/

namespace ExecutableUml.Json

open Decimal

inductive SyntaxFault where
  | endInList
  | endInObject
  | endInString
  | endInValue
  | expectedColon
  | expectedCommaOrBracket
  | expectedCommaOrBrace
  | expectedWord
  | expectedValue
  | invalidEscape
  | invalidNumber
  | numberOutOfRange
  | controlCharacter
  | keyMustBeString
  | loneSurrogate
  | endOfHexEscape
  | trailingComma
  | trailingCharacters
  | tooDeep
deriving DecidableEq, Repr

def SyntaxFault.message : SyntaxFault → String
  | .endInList => "EOF while parsing a list"
  | .endInObject => "EOF while parsing an object"
  | .endInString => "EOF while parsing a string"
  | .endInValue => "EOF while parsing a value"
  | .expectedColon => "expected `:`"
  | .expectedCommaOrBracket => "expected `,` or `]`"
  | .expectedCommaOrBrace => "expected `,` or `\x7d`"
  | .expectedWord => "expected ident"
  | .expectedValue => "expected value"
  | .invalidEscape => "invalid escape"
  | .invalidNumber => "invalid number"
  | .numberOutOfRange => "number out of range"
  | .controlCharacter => "control character (\\u0000-\\u001F) found while parsing a string"
  | .keyMustBeString => "key must be a string"
  | .loneSurrogate => "lone leading surrogate in hex escape"
  | .endOfHexEscape => "unexpected end of hex escape"
  | .trailingComma => "trailing comma"
  | .trailingCharacters => "trailing characters"
  | .tooDeep => "recursion limit exceeded"

structure ReadError where
  fault : SyntaxFault
  line : Nat
  column : Nat
deriving DecidableEq, Repr

def ReadError.message (e : ReadError) : String :=
  e.fault.message ++ " at line " ++ toString e.line ++ " column " ++ toString e.column

/-- The unread text and the number of bytes read so far. -/
structure Cursor where
  rest : List Char
  index : Nat

/-- A result, or a cause with the number of bytes up to and including the offending one. -/
abbrev Reading (α : Type) := Except (SyntaxFault × Nat) α

namespace Cursor

def next (c : Cursor) : Cursor :=
  match c.rest with
  | [] => c
  | ch :: rest => ⟨rest, c.index + ch.utf8Size⟩

/-- Fails at the text read so far. -/
def fail {α : Type} (c : Cursor) (fault : SyntaxFault) : Reading α := .error (fault, c.index)

/-- Fails at the next byte, if there is one. -/
def failNext {α : Type} (c : Cursor) (fault : SyntaxFault) : Reading α :=
  .error (fault, if c.rest.isEmpty then c.index else c.index + 1)

def isSpace (ch : Char) : Bool := ch == ' ' || ch == '\n' || ch == '\t' || ch == '\r'

/-- Skips ASCII characters that satisfy `p`. -/
def skip (p : Char → Bool) (c : Cursor) : Cursor :=
  ⟨c.rest.dropWhile p, c.index + (c.rest.takeWhile p).length⟩

def skipSpace (c : Cursor) : Cursor := c.skip isSpace

/-- The rest of a word of ASCII letters whose first letter has been read. -/
def word (c : Cursor) : List Char → Reading Cursor
  | [] => .ok c
  | w :: ws =>
    match c.rest with
    | [] => c.fail .endInValue
    | ch :: _ => if ch = w then c.next.word ws else c.failNext .expectedWord

end Cursor

/-- Digits are added to the significand while it stays below `2 ^ 64`; the result has the
significand, the number of digits added and the cursor behind them. -/
def readSignificand (significand count : Nat) (index : Nat) : List Char → Nat × Nat × Cursor
  | [] => (significand, count, ⟨[], index⟩)
  | ch :: rest =>
    let n := significand * 10 + (ch.toNat - '0'.toNat)
    if ch.isDigit && n < Nat.pow 2 64 then readSignificand n (count + 1) (index + 1) rest
    else (significand, count, ⟨ch :: rest, index⟩)

/-- The significand is rounded to a binary64 first and then scaled by one power of ten, or by
several when a single one would be too small to represent. -/
def scale : Nat → Binary64 → Int → Option Binary64
  | 0, x, _ => some x
  | fuel + 1, x, e =>
    if 0 ≤ e ∧ e ≤ 308 then x.timesTenTo e.toNat
    else if -308 ≤ e ∧ e < 0 then x.overTenTo (-e).toNat
    else if x.isZero then some x
    else if 0 < e then none
    else (x.overTenTo 308).bind fun y => scale fuel y (e + 308)

def real (c : Cursor) (negative : Bool) (significand : Nat) (e : Int) : Reading (Number × Cursor) :=
  match (Binary64.ofRatio negative significand 1).bind fun x => scale 4 x e with
  | some x => .ok (.real x, c)
  | none => c.fail .numberOutOfRange

/-- The digits of an exponent. One beyond the 32-bit range settles the number at once. -/
def readExponentDigits (negative : Bool) (significand : Nat) (before : Int) (down : Bool) (e : Nat)
    (index : Nat) : List Char → Reading (Number × Cursor)
  | [] => real ⟨[], index⟩ negative significand (if down then before - e else before + e)
  | ch :: rest =>
    if ch.isDigit then
      let n := e * 10 + (ch.toNat - '0'.toNat)
      if n < Nat.pow 2 31 then
        readExponentDigits negative significand before down n (index + 1) rest
      else if significand ≠ 0 && !down then Cursor.fail ⟨rest, index + 1⟩ .numberOutOfRange
      else .ok (.real (Binary64.zero negative), Cursor.skip Char.isDigit ⟨rest, index + 1⟩)
    else
      real ⟨ch :: rest, index⟩ negative significand (if down then before - e else before + e)

/-- The exponent after its mark. -/
def readExponent (c : Cursor) (negative : Bool) (significand : Nat) (before : Int) :
    Reading (Number × Cursor) :=
  let sign := c.rest.head?
  let c := if sign = some '+' || sign = some '-' then c.next else c
  match c.rest with
  | [] => c.fail .endInValue
  | ch :: _ =>
    if ch.isDigit then
      readExponentDigits negative significand before (sign = some '-') 0 c.index c.rest
    else c.failNext .invalidNumber

/-- The fraction after its point; digits that no longer fit the significand are dropped. -/
def readFraction (c : Cursor) (negative : Bool) (significand : Nat) (before : Int) :
    Reading (Number × Cursor) :=
  match c.rest with
  | [] => c.failNext .endInValue
  | ch :: _ =>
    if ch.isDigit then
      let (significand, count, c) := readSignificand significand 0 c.index c.rest
      let c := c.skip Char.isDigit
      match c.rest with
      | ch :: _ =>
        if ch = 'e' || ch = 'E' then readExponent c.next negative significand (before - count)
        else real c negative significand (before - count)
      | [] => real c negative significand (before - count)
    else c.failNext .invalidNumber

/-- What follows the integer digits. -/
def readNumberTail (c : Cursor) (negative : Bool) (significand dropped : Nat) :
    Reading (Number × Cursor) :=
  match c.rest.head? with
  | some '.' => readFraction c.next negative significand dropped
  | some 'e' => readExponent c.next negative significand dropped
  | some 'E' => readExponent c.next negative significand dropped
  | _ =>
    if 0 < dropped then real c negative significand dropped
    else if !negative then .ok (.natural significand, c)
    else if significand = 0 || Nat.pow 2 63 < significand then real c true significand 0
    else .ok (.negative significand, c)

/-- A number after its sign. -/
def readNumber (c : Cursor) (negative : Bool) : Reading (Number × Cursor) :=
  match c.rest with
  | [] => c.fail .endInValue
  | ch :: _ =>
    if ch = '0' then
      match c.next.rest with
      | d :: _ =>
        if d.isDigit then c.next.failNext .invalidNumber else readNumberTail c.next negative 0 0
      | [] => readNumberTail c.next negative 0 0
    else if ch.isDigit then
      let (significand, _, c) := readSignificand 0 0 c.index c.rest
      let dropped := (c.rest.takeWhile Char.isDigit).length
      readNumberTail (c.skip Char.isDigit) negative significand dropped
    else c.failNext .invalidNumber

def hexValue (ch : Char) : Option Nat :=
  if ch.isDigit then some (ch.toNat - '0'.toNat)
  else if 'a' ≤ ch ∧ ch ≤ 'f' then some (ch.toNat - 'a'.toNat + 10)
  else if 'A' ≤ ch ∧ ch ≤ 'F' then some (ch.toNat - 'A'.toNat + 10)
  else none

/-- Four bytes of a hexadecimal escape. -/
def readHex (c : Cursor) : Reading (Nat × Cursor) :=
  let left := Text.byteLength c.rest
  if left < 4 then .error (.endInString, c.index + left)
  else
    match (c.rest.take 4).mapM hexValue with
    | some ds => .ok (ds.foldl (fun n d => n * 16 + d) 0, ⟨c.rest.drop 4, c.index + 4⟩)
    | none => .error (.invalidEscape, c.index + 4)

/-- The character of a hexadecimal escape; a leading surrogate needs a second escape. -/
def readUnicode (c : Cursor) : Reading (Char × Cursor) := do
  let (n, c) ← readHex c
  if 0xDC00 ≤ n ∧ n ≤ 0xDFFF then c.fail .loneSurrogate
  else if n < 0xD800 ∨ 0xDBFF < n then .ok (Char.ofNat n, c)
  else
    match c.rest with
    | [] => c.fail .endInString
    | '\\' :: _ =>
      let c := c.next
      match c.rest with
      | [] => c.fail .endInString
      | 'u' :: _ =>
        let (low, c) ← readHex c.next
        if low < 0xDC00 ∨ 0xDFFF < low then c.fail .loneSurrogate
        else .ok (Char.ofNat ((n - 0xD800) * 0x400 + (low - 0xDC00) + 0x10000), c)
      | _ :: _ => c.failNext .endOfHexEscape
    | _ :: _ => c.failNext .endOfHexEscape

/-- The character after a backslash. -/
def readEscape (c : Cursor) : Reading (Char × Cursor) :=
  match c.rest with
  | [] => c.fail .endInString
  | '"' :: _ => .ok ('"', c.next)
  | '\\' :: _ => .ok ('\\', c.next)
  | '/' :: _ => .ok ('/', c.next)
  | 'b' :: _ => .ok ('\x08', c.next)
  | 'f' :: _ => .ok ('\x0c', c.next)
  | 'n' :: _ => .ok ('\n', c.next)
  | 'r' :: _ => .ok ('\r', c.next)
  | 't' :: _ => .ok ('\t', c.next)
  | 'u' :: _ => readUnicode c.next
  | _ :: _ => c.failNext .invalidEscape

/-- The rest of a string after its opening quote; `read` is reversed. Each step reads at least one
character, so the length of the text bounds the steps. -/
def readString : Nat → List Char → Cursor → Reading (String × Cursor)
  | 0, _, c => c.fail .endInString
  | fuel + 1, read, c =>
    match c.rest with
    | [] => c.fail .endInString
    | '"' :: _ => .ok (String.ofList read.reverse, c.next)
    | '\\' :: _ => do
      let (ch, c) ← readEscape c.next
      readString fuel (ch :: read) c
    | ch :: _ =>
      if ch.toNat < 0x20 then c.failNext .controlCharacter else readString fuel (ch :: read) c.next

mutual

/-- A value; `depth` bounds the nesting and `fuel` the steps. -/
def readValue : Nat → Nat → Cursor → Reading (Json × Cursor)
  | 0, _, c => c.fail .endInValue
  | fuel + 1, depth, c =>
    let c := c.skipSpace
    match c.rest with
    | [] => c.failNext .endInValue
    | 'n' :: _ => do let c ← c.next.word ['u', 'l', 'l']; .ok (.null, c)
    | 't' :: _ => do let c ← c.next.word ['r', 'u', 'e']; .ok (.bool true, c)
    | 'f' :: _ => do let c ← c.next.word ['a', 'l', 's', 'e']; .ok (.bool false, c)
    | '-' :: _ => do let (n, c) ← readNumber c.next true; .ok (.number n, c)
    | '"' :: _ => do let (s, c) ← readString (c.rest.length + 1) [] c.next; .ok (.string s, c)
    | '[' :: _ =>
      if depth ≤ 1 then c.failNext .tooDeep
      else do let (items, c) ← readItems fuel (depth - 1) [] c.next; .ok (.array items, c)
    | '\x7b' :: _ =>
      if depth ≤ 1 then c.failNext .tooDeep
      else do let (fields, c) ← readFields fuel (depth - 1) true [] c.next; .ok (.object fields, c)
    | ch :: _ =>
      if ch.isDigit then do let (n, c) ← readNumber c false; .ok (.number n, c)
      else c.failNext .expectedValue

/-- The items of a list up to its end; `read` is reversed. -/
def readItems : Nat → Nat → List Json → Cursor → Reading (List Json × Cursor)
  | 0, _, _, c => c.fail .endInList
  | fuel + 1, depth, read, c =>
    let c := c.skipSpace
    match c.rest with
    | [] => c.failNext .endInList
    | ']' :: _ => .ok (read.reverse, c.next)
    | ch :: _ =>
      if read.isEmpty then do
        let (v, c) ← readValue fuel depth c
        readItems fuel depth [v] c
      else if ch = ',' then
        let c := c.next.skipSpace
        match c.rest with
        | [] => c.failNext .endInValue
        | ']' :: _ => c.failNext .trailingComma
        | _ :: _ => do
          let (v, c) ← readValue fuel depth c
          readItems fuel depth (v :: read) c
      else c.failNext .expectedCommaOrBracket

/-- The fields of an object up to its end. -/
def readFields : Nat → Nat → Bool → List (String × Json) → Cursor →
    Reading (List (String × Json) × Cursor)
  | 0, _, _, _, c => c.fail .endInObject
  | fuel + 1, depth, first, read, c =>
    let c := c.skipSpace
    match c.rest with
    | [] => c.failNext .endInObject
    | '\x7d' :: _ => .ok (read, c.next)
    | ch :: _ =>
      if !first && ch ≠ ',' then c.failNext .expectedCommaOrBrace
      else
        let c := if first then c else c.next.skipSpace
        match c.rest with
        | [] => c.failNext .endInValue
        | '\x7d' :: _ => c.failNext .trailingComma
        | '"' :: _ => do
          let (key, c) ← readString (c.rest.length + 1) [] c.next
          let c := c.skipSpace
          match c.rest with
          | [] => c.failNext .endInObject
          | ':' :: _ =>
            let (v, c) ← readValue fuel depth c.next
            readFields fuel depth false (insertField key v read) c
          | _ :: _ => c.failNext .expectedColon
        | _ :: _ => c.failNext .keyMustBeString

end

/-- Line and column of the first `n` bytes: a line feed starts a new line at column 0. -/
def position (n : Nat) (line column : Nat) : List Char → Nat × Nat
  | [] => (line, column)
  | ch :: rest =>
    if n < ch.utf8Size then (line, column + n)
    else if ch = '\n' then position (n - 1) (line + 1) 0 rest
    else position (n - ch.utf8Size) line (column + ch.utf8Size) rest

/-- One value and nothing but blanks behind it. Nesting stops at 127. -/
def read (source : String) : Except ReadError Json :=
  let text := source.toList
  let result : Reading Json := do
    let (v, c) ← readValue (2 * text.length + 2) 128 ⟨text, 0⟩
    let c := c.skipSpace
    if c.rest.isEmpty then .ok v else c.failNext .trailingCharacters
  match result with
  | .ok v => .ok v
  | .error (fault, n) =>
    let (line, column) := position n 1 0 text
    .error ⟨fault, line, column⟩

end ExecutableUml.Json
