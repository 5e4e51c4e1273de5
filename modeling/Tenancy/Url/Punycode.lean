import Tenancy.Text.Basic

/-! Text in ASCII letters and digits. The ASCII characters of the text come first; the others follow
in the order of their code points, each as the number of places and code points that are passed over
to reach it. A number is written in base 36, with a threshold for each digit below which it is the
last, and thresholds follow the size of the numbers before. -/
namespace Tenancy.Punycode

def digit (d : Nat) : Char :=
  if d < 26 then Char.ofNat ('a'.toNat + d) else Char.ofNat ('0'.toNat + (d - 26))

/-- The value of a digit of lower case. -/
def value? (c : Char) : Option Nat :=
  if 'a' ≤ c ∧ c ≤ 'z' then some (c.toNat - 'a'.toNat)
  else if '0' ≤ c ∧ c ≤ '9' then some (c.toNat - '0'.toNat + 26)
  else none

/-- The threshold of a digit, counted from one. -/
def threshold (bias position : Nat) : Nat := max 1 (min 26 (36 * position - bias))

theorem threshold_pos (bias position : Nat) : 0 < threshold bias position := by
  unfold threshold
  omega

/-- A number from its lowest digit on. -/
def digits (bias position n : Nat) : List Char :=
  let t := threshold bias position
  if n < t then [digit n]
  else digit (t + (n - t) % (36 - t)) :: digits bias (position + 1) ((n - t) / (36 - t))
termination_by n
decreasing_by
  have pos := threshold_pos bias position
  have le := Nat.div_le_self (n - threshold bias position) (36 - threshold bias position)
  omega

/-- The bias for numbers of a size. Each digit that a size has beyond its last counts for 36. -/
def biasOf (place size : Nat) : Nat :=
  if 455 < size then biasOf (place + 36) (size / 35) else place + 36 * size / (size + 38)
termination_by size

/-- The bias after a number that made a text so long. The first number counts for less. -/
def nextBias (number length : Nat) (isFirst : Bool) : Nat :=
  let size := if isFirst then number / 700 else number / 2
  biasOf 0 (size + size / length)

/-- How far a text is written: its characters up to a code point, and of that one up to a place. -/
structure Progress where
  code : Nat := 0x80
  place : Nat := 0
  length : Nat
  bias : Nat := 72
  isFirst : Bool := true

/-- Writes characters of a text, each with its index, in the order of their code points. -/
def insertions (text : List Char) : Progress → List (Char × Nat) → List Char
  | _, [] => []
  | done, (c, index) :: rest =>
    let place := (text.take index).countP (· ≤ c)
    let number := (c.toNat - done.code) * (done.length + 1) + place - done.place
    let length := done.length + 1
    let next : Progress := {
      code := c.toNat
      place := place + 1
      length
      bias := nextBias number length done.isFirst
      isFirst := false }
    digits done.bias 1 number ++ insertions text next rest

def isAscii (c : Char) : Bool := c.toNat < 0x80

def encode (text : List Char) : List Char :=
  let basic := text.filter isAscii
  let others := text.zipIdx.filter (!isAscii ·.1)
  let inOrder := others.mergeSort fun a b => a.1 ≤ b.1
  let mark := if basic.isEmpty then [] else ['-']
  basic ++ mark ++ insertions text { length := basic.length } inOrder

/-- A number begun: its value so far, the weight of its next digit and the place of that digit. -/
structure Partial where
  value : Nat := 0
  weight : Nat := 1
  position : Nat := 1

/-- Puts the characters that numbers stand for into a text. -/
def inserted? (text : List Char) (done : Progress) (begun : Partial) :
    List Char → Option (List Char)
  | [] => if begun.position = 1 then some text else none
  | c :: rest =>
    match value? c with
    | none => none
    | some d =>
      let t := threshold done.bias begun.position
      let number := begun.value + d * begun.weight
      if t ≤ d then
        inserted? text done ⟨number, begun.weight * (36 - t), begun.position + 1⟩ rest
      else
        let length := done.length + 1
        let code := done.code + (done.place + number) / length
        let place := (done.place + number) % length
        if code.isValidChar then
          let next : Progress := {
            code
            place := place + 1
            length
            bias := nextBias number length done.isFirst
            isFirst := false }
          inserted? (text.take place ++ Char.ofNat code :: text.drop place) next {} rest
        else none

/-- Reads what is written, of which the part before the last hyphen is ASCII text. Where there is
none there is no hyphen either. -/
def decode? (written : List Char) : Option (List Char) :=
  match splitLast? '-' written with
  | some ([], _) => none
  | some (basic, numbers) =>
    if basic.all isAscii then inserted? basic { length := basic.length } {} numbers else none
  | none => inserted? [] { length := 0 } {} written

end Tenancy.Punycode
