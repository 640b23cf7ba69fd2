/-
  Ssh3.Go.StdLib

  The functions of Go's standard library that the server uses on a request and on a
  user's identity files: numbers, URL queries, paths, lines and Basic credentials.
  `strings.Fields`, `TrimSpace` and `Split` are `Text.words`, `Text.trim` and
  `List.splitOn`.
-/

import Ssh3.Lib.Base64
import Ssh3.Lib.Text
import Ssh3.Proto.Message

namespace Ssh3.Go

open Proto (ascii)

/-! ## `strconv` -/

/-- The value of a string of decimal digits. -/
def digitsValue : List UInt8 → Nat → Option Nat
  | [], n => some n
  | b :: rest, n =>
    if 48 ≤ b ∧ b ≤ 57 then digitsValue rest (n * 10 + (b.toNat - 48)) else none

def unsignedValue (s : List UInt8) : Option Nat :=
  if s = [] then none else digitsValue s 0

/-- `strconv.Atoi`, with an `int` of 64 bits -/
def atoi (s : List UInt8) : Option Int :=
  match s with
  | 45 :: rest =>
    match unsignedValue rest with
    | some n => if n ≤ 2 ^ 63 then some (-(n : Int)) else none
    | none => none
  | 43 :: rest =>
    match unsignedValue rest with
    | some n => if n < 2 ^ 63 then some n else none
    | none => none
  | s =>
    match unsignedValue s with
    | some n => if n < 2 ^ 63 then some n else none
    | none => none

/-- `%d` -/
def formatInt (n : Int) : List UInt8 := ascii (toString n)

/-! ## `net/url` -/

def unhex (b : UInt8) : Option UInt8 :=
  if 48 ≤ b ∧ b ≤ 57 then some (b - 48)
  else if 97 ≤ b ∧ b ≤ 102 then some (b - 87)
  else if 65 ≤ b ∧ b ≤ 70 then some (b - 55)
  else none

def queryUnescape : List UInt8 → Option (List UInt8)
  | [] => some []
  | 37 :: a :: b :: rest =>
    match unhex a, unhex b, queryUnescape rest with
    | some high, some low, some bytes => some ((high * 16 + low) :: bytes)
    | _, _, _ => none
  | 37 :: _ => none
  | 43 :: rest => (queryUnescape rest).map (32 :: ·)
  | b :: rest => (queryUnescape rest).map (b :: ·)

/-- A byte that `url.QueryEscape` leaves as it is. -/
def unreserved (b : UInt8) : Bool :=
  decide (97 ≤ b ∧ b ≤ 122) || decide (65 ≤ b ∧ b ≤ 90) || decide (48 ≤ b ∧ b ≤ 57) ||
    decide (b ∈ ascii "-_.~")

def upperhex (n : Nat) : UInt8 := (ascii "0123456789ABCDEF").getD n 0

def escapeByte (b : UInt8) : List UInt8 :=
  if unreserved b then [b]
  else if b = 32 then [43]
  else [37, upperhex (b.toNat / 16), upperhex (b.toNat % 16)]

def queryEscape (s : List UInt8) : List UInt8 := s.flatMap escapeByte

/-- One entry of a query; the entries that have an error are left out. -/
def parseQueryEntry (entry : List UInt8) : Option (List UInt8 × List UInt8) :=
  if 59 ∈ entry ∨ entry = [] then none
  else
    match queryUnescape (Text.cut 61 entry).1, queryUnescape (Text.cut 61 entry).2 with
    | some key, some value => some (key, value)
    | _, _ => none

/-- `url.Query().Get(name)` -/
def queryGet (rawQuery name : List UInt8) : List UInt8 :=
  (((rawQuery.splitOn 38).filterMap parseQueryEntry).lookup name).getD []

/-! ## `path` -/

/-- The components of a cleaned path, the last one first. -/
def cleanComponents (rooted : Bool) : List (List UInt8) → List (List UInt8) → List (List UInt8)
  | [], done => done
  | component :: rest, done =>
    if component = [] ∨ component = ascii "." then cleanComponents rooted rest done
    else if component = ascii ".." then
      match done with
      | [] => cleanComponents rooted rest (if rooted then [] else [component])
      | last :: before =>
        cleanComponents rooted rest (if last = ascii ".." then component :: done else before)
    else cleanComponents rooted rest (component :: done)

def joinComponents : List (List UInt8) → List UInt8
  | [] => []
  | [component] => component
  | component :: rest => component ++ 47 :: joinComponents rest

/-- `path.Clean` -/
def cleanPath (path : List UInt8) : List UInt8 :=
  let rooted := decide (path.head? = some 47)
  let cleaned := joinComponents (cleanComponents rooted (path.splitOn 47) []).reverse
  if rooted then 47 :: cleaned else if cleaned = [] then ascii "." else cleaned

/-- `path.Join` -/
def joinPaths (elements : List (List UInt8)) : List UInt8 :=
  let nonEmpty := elements.filter (· ≠ [])
  if nonEmpty = [] then [] else cleanPath (joinComponents nonEmpty)

/-! ## `bufio` -/

def maxScanTokenSize : Nat := 64 * 1024

/-- The lines a `bufio.Scanner` returns, and whether it stopped at a line that is too long. -/
def scanLines (contents : List UInt8) : List (List UInt8) × Bool :=
  let pieces := contents.splitOn 10
  let lines := if pieces.getLast? = some [] then pieces.dropLast else pieces
  ((lines.takeWhile fun line => line.length < maxScanTokenSize).map Text.dropCarriageReturn,
    lines.any fun line => maxScanTokenSize ≤ line.length)

/-- The scanner goes through all pieces between line feeds but an empty last one. -/
theorem scanLines_of_splitOn {contents : List UInt8} {init : List (List UInt8)}
    {last : List UInt8} (h : contents.splitOn 10 = init ++ [last]) :
    (scanLines contents).1 = ((init ++ if last = [] then [] else [last]).takeWhile fun line =>
      line.length < maxScanTokenSize).map Text.dropCarriageReturn := by
  rw [scanLines, h, List.getLast?_concat, List.dropLast_concat]
  by_cases hlast : last = []
  · rw [if_pos hlast, if_pos (congrArg some hlast), List.append_nil]
  · rw [if_neg hlast, if_neg (hlast ∘ Option.some_inj.mp)]

/-! ## `net/http` -/

/-- The part of an `http.Request` that is looked at.  The names of the headers are in their
    canonical form. -/
structure HttpRequest where
  header : List (List UInt8 × List UInt8)
  /-- `r.URL.User.Username()` -/
  urlUsername : List UInt8
  rawQuery : List UInt8
  deriving DecidableEq, Repr

/-- `r.Header.Get(name)` -/
def HttpRequest.get (r : HttpRequest) (name : List UInt8) : List UInt8 :=
  (r.header.lookup name).getD []

/-- `base64.StdEncoding` -/
def stdEncoding : Base64.Engine where
  alphabet := Base64.standard
  padded := true
  strict := false
  value_pad := Base64.STANDARD.value_pad

/-- `DecodeString`, which skips line breaks -/
def stdDecodeString (s : List UInt8) : Option (List UInt8) :=
  stdEncoding.decode (s.filter fun b => b ≠ 10 ∧ b ≠ 13)

/-- `r.BasicAuth()` -/
def HttpRequest.basicAuth (r : HttpRequest) : Option (List UInt8 × List UInt8) :=
  let auth := r.get (ascii "Authorization")
  let scheme := ascii "Basic "
  if auth.length < scheme.length ∨ ¬Text.eqIgnoreAsciiCase (auth.take scheme.length) scheme then
    none
  else
    match stdDecodeString (auth.drop scheme.length) with
    | some decoded => Text.splitOnce 58 decoded
    | none => none

def StatusForbidden : Nat := 403
def StatusUnauthorized : Nat := 401
def StatusTooEarly : Nat := 425
def StatusInternalServerError : Nat := 500

end Ssh3.Go
