import Mathlib.Data.Int.Notation
import Mathlib.Data.List.Basic

set_option autoImplicit false

/-!
JSON as Python's `json` module writes and reads it, with `separators=(",", ":")` and `ensure_ascii=True`, where no
integer is over Python's limit of digits. Strings are over Unicode scalar values, so a `\u` escape of a
surrogate without its partner, which Python keeps, is refused here. A float is kept as its text.
-/
namespace AIRuntime.JsonText

/-- An object is its list of members in order, as a `dict` keeps them. -/
inductive Json : Type where
  | null
  | bool (b : Bool)
  | int (n : ℤ)
  | float (text : String)
  | str (s : String)
  | arr (items : List Json)
  | obj (members : List (String × Json))

namespace Json

/-- `data.get(key)` of a `dict`; `none` also for what is no object. -/
def get? (key : String) : Json → Option Json
  | .obj members => members.lookup key
  | _ => none

/-- `isinstance(value, int)`, which holds of `True` and `False` as well. -/
def int? : Json → Option ℤ
  | .int n => some n
  | .bool b => some (if b then 1 else 0)
  | _ => none

def str? : Json → Option String
  | .str s => some s
  | _ => none

end Json

def isObject : Json → Bool
  | .obj _ => true
  | _ => false

def hex4 (n : ℕ) : List Char :=
  [Nat.digitChar (n / 4096 % 16), Nat.digitChar (n / 256 % 16), Nat.digitChar (n / 16 % 16),
    Nat.digitChar (n % 16)]

/-- The UTF-16 code units of a character. -/
def units (c : Char) : List ℕ :=
  if c.toNat < 0x10000 then [c.toNat]
  else [0xD800 + (c.toNat - 0x10000) / 0x400, 0xDC00 + (c.toNat - 0x10000) % 0x400]

def escapeChar (c : Char) : List Char :=
  if c = '"' then ['\\', '"']
  else if c = '\\' then ['\\', '\\']
  else if c = '\n' then ['\\', 'n']
  else if c = '\r' then ['\\', 'r']
  else if c = '\t' then ['\\', 't']
  else if c.toNat = 8 then ['\\', 'b']
  else if c.toNat = 12 then ['\\', 'f']
  else if 32 ≤ c.toNat ∧ c.toNat ≤ 126 then [c]
  else (units c).flatMap fun u => '\\' :: 'u' :: hex4 u

/-- The same with `ensure_ascii=False`. -/
def plainEscape (c : Char) : List Char :=
  if 32 ≤ c.toNat ∧ c ≠ '"' ∧ c ≠ '\\' then [c] else escapeChar c

section Writing

variable (escape : Char → List Char)

def dumpsString (s : String) : List Char := '"' :: s.toList.flatMap escape ++ ['"']

def dumpsInt (n : ℤ) : List Char :=
  if n < 0 then '-' :: Nat.toDigits 10 n.natAbs else Nat.toDigits 10 n.natAbs

mutual

def dumpsChars : Json → List Char
  | .null => "null".toList
  | .bool true => "true".toList
  | .bool false => "false".toList
  | .int n => dumpsInt n
  | .float text => text.toList
  | .str s => dumpsString escape s
  | .arr [] => ['[', ']']
  | .arr (x :: xs) => '[' :: (dumpsChars x ++ dumpsItems xs)
  | .obj [] => ['\x7b', '\x7d']
  | .obj ((k, v) :: ms) => '\x7b' :: (dumpsString escape k ++ ':' :: (dumpsChars v ++ dumpsMembers ms))

def dumpsItems : List Json → List Char
  | [] => [']']
  | x :: xs => ',' :: (dumpsChars x ++ dumpsItems xs)

def dumpsMembers : List (String × Json) → List Char
  | [] => ['\x7d']
  | (k, v) :: ms => ',' :: (dumpsString escape k ++ ':' :: (dumpsChars v ++ dumpsMembers ms))

end

end Writing

/-- The text of `json.dumps(value, separators=(",", ":"), ensure_ascii=True)`, whatever digits an integer has. -/
def dumps (j : Json) : String := String.ofList (dumpsChars escapeChar j)

def isWhitespace (c : Char) : Bool := c = ' ' || c = '\t' || c = '\n' || c = '\r'

def skipWs : List Char → List Char
  | [] => []
  | c :: t => if isWhitespace c then skipWs t else c :: t

def hexVal (c : Char) : Option ℕ :=
  if '0' ≤ c ∧ c ≤ '9' then some (c.toNat - 48)
  else if 'a' ≤ c ∧ c ≤ 'f' then some (c.toNat - 87)
  else if 'A' ≤ c ∧ c ≤ 'F' then some (c.toNat - 55)
  else none

def hexValue (a b c d : Char) : Option ℕ :=
  match hexVal a, hexVal b, hexVal c, hexVal d with
  | some x, some y, some z, some w => some (4096 * x + 256 * y + 16 * z + w)
  | _, _, _, _ => none

def simpleEscape (c : Char) : Option ℕ :=
  if c = '"' ∨ c = '\\' ∨ c = '/' then some c.toNat
  else if c = 'b' then some 8
  else if c = 'f' then some 12
  else if c = 'n' then some 10
  else if c = 'r' then some 13
  else if c = 't' then some 9
  else none

/-- The body of a string literal up to its closing quote, each escape as the code unit it names. -/
def scanUnits : List Char → Option (List ℕ × List Char)
  | [] => none
  | c :: t =>
    if c = '"' then some ([], t)
    else if c = '\\' then
      match t with
      | [] => none
      | e :: t₁ =>
        if e = 'u' then
          match t₁ with
          | h₁ :: h₂ :: h₃ :: h₄ :: t₂ =>
            match hexValue h₁ h₂ h₃ h₄ with
            | some u => (scanUnits t₂).map fun p => (u :: p.1, p.2)
            | none => none
          | _ => none
        else
          match simpleEscape e with
          | some u => (scanUnits t₁).map fun p => (u :: p.1, p.2)
          | none => none
    -- strict mode: a raw control character ends the parse
    else if c.toNat < 32 then none
    else (scanUnits t).map fun p => (c.toNat :: p.1, p.2)

def isHigh (u : ℕ) : Bool := 0xD800 ≤ u && u < 0xDC00

def isLow (u : ℕ) : Bool := 0xDC00 ≤ u && u < 0xE000

/-- Surrogate pairs become one character. -/
def joinUnits : List ℕ → Option (List Char)
  | [] => some []
  | u :: us =>
    if isHigh u then
      match us with
      | v :: vs =>
        if isLow v then
          (joinUnits vs).map (Char.ofNat (0x10000 + (u - 0xD800) * 0x400 + (v - 0xDC00)) :: ·)
        else none
      | [] => none
    else if isLow u then none
    else (joinUnits us).map (Char.ofNat u :: ·)

def scanString (cs : List Char) : Option (String × List Char) :=
  match scanUnits cs with
  | some (us, rest) => (joinUnits us).map fun s => (String.ofList s, rest)
  | none => none

def spanDigits : List Char → List Char × List Char
  | [] => ([], [])
  | c :: t => if c.isDigit then (c :: (spanDigits t).1, (spanDigits t).2) else ([], c :: t)

def scanInt : List Char → Option (List Char × List Char)
  | [] => none
  | c :: t =>
    if c = '0' then some (['0'], t)
    else if c.isDigit then some (c :: (spanDigits t).1, (spanDigits t).2)
    else none

/-- An optional fraction; a point without a digit after it is left where it is. -/
def scanFrac : List Char → List Char × List Char
  | [] => ([], [])
  | c :: t =>
    if c = '.' ∧ (spanDigits t).1 ≠ [] then (c :: (spanDigits t).1, (spanDigits t).2)
    else ([], c :: t)

def scanSign : List Char → List Char × List Char
  | [] => ([], [])
  | c :: t => if c = '+' ∨ c = '-' then ([c], t) else ([], c :: t)

def scanExp : List Char → List Char × List Char
  | [] => ([], [])
  | c :: t =>
    if (c = 'e' ∨ c = 'E') ∧ (spanDigits (scanSign t).2).1 ≠ [] then
      (c :: ((scanSign t).1 ++ (spanDigits (scanSign t).2).1), (spanDigits (scanSign t).2).2)
    else ([], c :: t)

def scanMinus : List Char → Bool × List Char
  | [] => (false, [])
  | c :: t => if c = '-' then (true, t) else (false, c :: t)

/-- `NUMBER_RE`: sign, integer part, and the text of fraction and exponent. -/
def scanNumberParts (cs : List Char) : Option (Bool × List Char × List Char × List Char) :=
  match scanInt (scanMinus cs).2 with
  | none => none
  | some (ip, r) =>
    some ((scanMinus cs).1, ip, (scanFrac r).1 ++ (scanExp (scanFrac r).2).1,
      (scanExp (scanFrac r).2).2)

def numberValue (neg : Bool) (ip tail : List Char) : Json :=
  if tail = [] then
    .int (if neg then -(Nat.ofDigitChars 10 ip 0 : ℤ) else (Nat.ofDigitChars 10 ip 0 : ℤ))
  else .float (String.ofList ((if neg then ['-'] else []) ++ ip ++ tail))

def scanNumber (cs : List Char) : Option (Json × List Char) :=
  (scanNumberParts cs).map fun p => (numberValue p.1 p.2.1 p.2.2.1, p.2.2.2)

def constants : List (String × Json) :=
  [("null", .null), ("true", .bool true), ("false", .bool false), ("NaN", .float "NaN"),
    ("Infinity", .float "Infinity"), ("-Infinity", .float "-Infinity")]

def stripPrefix? : List Char → List Char → Option (List Char)
  | [], cs => some cs
  | _ :: _, [] => none
  | p :: ps, c :: cs => if p = c then stripPrefix? ps cs else none

def scanConstant (cs : List Char) : Option (Json × List Char) :=
  constants.findSome? fun p => (stripPrefix? p.1.toList cs).map fun r => (p.2, r)

/-- `dict` insertion: a key that is there keeps its place and gets the new value. -/
def insertMember (key : String) (value : Json) : List (String × Json) → List (String × Json)
  | [] => [(key, value)]
  | (k, v) :: ms => if k = key then (k, value) :: ms else (k, v) :: insertMember key value ms

def ofPairs (pairs : List (String × Json)) : List (String × Json) :=
  pairs.foldl (fun ms p => insertMember p.1 p.2 ms) []

mutual

/-- `scan_once`. Every second call consumes a character, which `loads` gives fuel for. -/
def parseValue : ℕ → List Char → Option (Json × List Char)
  | 0, _ => none
  | n + 1, cs =>
    match cs with
    | [] => none
    | c :: t =>
      if c = '"' then (scanString t).map fun p => (.str p.1, p.2)
      else if c = '[' then
        match skipWs t with
        | [] => none
        | d :: r =>
          if d = ']' then some (.arr [], r)
          else (parseItems n (d :: r)).map fun p => (.arr p.1, p.2)
      else if c = '\x7b' then
        match skipWs t with
        | [] => none
        | d :: r =>
          if d = '\x7d' then some (.obj [], r)
          else (parseMembers n (d :: r)).map fun p => (.obj (ofPairs p.1), p.2)
      else (scanConstant (c :: t)).or (scanNumber (c :: t))

def parseItems : ℕ → List Char → Option (List Json × List Char)
  | 0, _ => none
  | n + 1, cs =>
    match parseValue n cs with
    | none => none
    | some (v, r) =>
      match skipWs r with
      | [] => none
      | d :: r' =>
        if d = ']' then some ([v], r')
        else if d = ',' then (parseItems n (skipWs r')).map fun p => (v :: p.1, p.2)
        else none

def parseMembers : ℕ → List Char → Option (List (String × Json) × List Char)
  | 0, _ => none
  | n + 1, cs =>
    match cs with
    | [] => none
    | q :: t =>
      if q = '"' then
        match scanString t with
        | none => none
        | some (key, r) =>
          match skipWs r with
          | [] => none
          | d :: r₁ =>
            if d = ':' then
              match parseValue n (skipWs r₁) with
              | none => none
              | some (v, r₂) =>
                match skipWs r₂ with
                | [] => none
                | e :: r₃ =>
                  if e = '\x7d' then some ([(key, v)], r₃)
                  else if e = ',' then
                    (parseMembers n (skipWs r₃)).map fun p => ((key, v) :: p.1, p.2)
                  else none
            else none
      else none

end

def loadsChars (cs : List Char) : Option Json :=
  match parseValue (2 * cs.length + 2) (skipWs cs) with
  | some (v, r) => if skipWs r = [] then some v else none
  | none => none

/-- The value of `json.loads(text)`, whatever digits an integer has; `none` stands for `JSONDecodeError`. -/
def loads (text : String) : Option Json := loadsChars text.toList

end AIRuntime.JsonText
