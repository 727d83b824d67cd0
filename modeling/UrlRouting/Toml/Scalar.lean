import UrlRouting.Document.Basic
import UrlRouting.Toml.Text

/-! Numbers, truth values and dates of TOML texts. Fractions and dates are no parameter values, so
only their form counts. -/

namespace UrlRouting.Toml

/-- The digits of a number. A single underscore may stand between two of them. -/
def digits? (test : Char → Bool) (s : List Char) : Option (List Char) :=
  match s with
  | [] => none
  | [c] => if test c then some [c] else none
  | c :: '_' :: rest => if test c then (digits? test rest).map (c :: ·) else none
  | c :: rest => if test c then (digits? test rest).map (c :: ·) else none

def inBase (base : Nat) (digits : List Char) : Nat :=
  digits.foldl (fun n c => n * base + (Percent.hexValue? c).getD 0) 0

def numeral? (base : Nat) (s : List Char) : Option Nat :=
  (digits? (fun c => (Percent.hexValue? c).any fun v => decide (v < base)) s).map (inBase base)

/-- A decimal number, which begins with a zero only if it is zero. -/
def decimal? (s : List Char) : Option Nat :=
  match s with
  | '0' :: _ :: _ => none
  | _ => numeral? 10 s

def sign (s : List Char) : Bool × List Char :=
  match s with
  | '-' :: rest => (true, rest)
  | '+' :: rest => (false, rest)
  | _ => (false, s)

/-- An integer; only a decimal one has a sign. -/
def integer? (s : List Char) : Option Int :=
  match s with
  | '0' :: 'x' :: rest => (numeral? 16 rest).map Int.ofNat
  | '0' :: 'o' :: rest => (numeral? 8 rest).map Int.ofNat
  | '0' :: 'b' :: rest => (numeral? 2 rest).map Int.ofNat
  | _ =>
    let (negative, rest) := sign s
    (decimal? rest).map fun n => if negative then -(n : Int) else n

def isExponentMark (c : Char) : Bool := c == 'e' || c == 'E'

def isFraction (s : List Char) : Bool :=
  let body := (sign s).2
  let mantissa := body.takeWhile fun c => !isExponentMark c
  let exponent := body.dropWhile fun c => !isExponentMark c
  let whole := mantissa.takeWhile (· != '.')
  let part := mantissa.dropWhile (· != '.')
  let word := String.ofList body
  word == "inf" || word == "nan" ||
    ((decimal? whole).isSome && !(part.isEmpty && exponent.isEmpty) &&
      (part.isEmpty || (numeral? 10 (part.drop 1)).isSome) &&
      (exponent.isEmpty || (numeral? 10 (sign (exponent.drop 1)).2).isSome))

def two? (a b : Char) : Option Nat :=
  if isDigit a && isDigit b then some ((a.toNat - 48) * 10 + (b.toNat - 48)) else none

def daysOfMonth (year month : Nat) : Nat :=
  if month = 2 then
    if year % 4 = 0 ∧ (year % 100 ≠ 0 ∨ year % 400 = 0) then 29 else 28
  else if [4, 6, 9, 11].contains month then 30
  else 31

def day? : List Char → Option (List Char)
  | a :: b :: c :: d :: '-' :: m :: n :: '-' :: x :: y :: rest => do
    let century ← two? a b
    let year ← two? c d
    let month ← two? m n
    let day ← two? x y
    if 1 ≤ month ∧ month ≤ 12 ∧ 1 ≤ day ∧ day ≤ daysOfMonth (century * 100 + year) month then
      some rest
    else none
  | _ => none

def minutes? : List Char → Option (List Char)
  | a :: b :: ':' :: c :: d :: rest => do
    let hour ← two? a b
    let minute ← two? c d
    if hour < 24 ∧ minute < 60 then some rest else none
  | _ => none

def time? (s : List Char) : Option (List Char) := do
  match ← minutes? s with
  | ':' :: a :: b :: rest => do
    let second ← two? a b
    if 60 < second then none
    match rest with
    | '.' :: rest =>
      if (rest.takeWhile isDigit).isEmpty then none else some (rest.dropWhile isDigit)
    | _ => some rest
  | rest => some rest

def isOffset : List Char → Bool
  | [] => true
  | ['Z'] => true
  | ['z'] => true
  | '+' :: rest => minutes? rest == some []
  | '-' :: rest => minutes? rest == some []
  | _ => false

def isDate (s : List Char) : Bool :=
  match day? s with
  | some [] => true
  | some (c :: rest) =>
    (c == 'T' || c == 't' || c == ' ') && (time? rest).any isOffset
  | none => time? s == some []

def wordValue? (s : List Char) : Option Scalar :=
  match String.ofList s with
  | "true" => some (.bool true)
  | "false" => some (.bool false)
  | _ =>
    match integer? s with
    | some i => some (Document.intScalar i)
    | none => if isFraction s || isDate s then some .foreign else none

def isWordChar (c : Char) : Bool :=
  isDigit c || ('a' ≤ c && c ≤ 'z') || ('A' ≤ c && c ≤ 'Z') || "+-_.:".toList.contains c

/-- Splits a word off a text. A blank between a day and a time belongs to the word. -/
def word (text : List Char) : List Char × List Char :=
  let first := text.takeWhile isWordChar
  let rest := text.dropWhile isWordChar
  match rest with
  | ' ' :: c :: more =>
    if day? first = some [] ∧ isDigit c then
      (first ++ ' ' :: (c :: more).takeWhile isWordChar, (c :: more).dropWhile isWordChar)
    else (first, rest)
  | _ => (first, rest)

end UrlRouting.Toml
