import Tenancy.Url.Ipv4

/-! Network addresses of eight groups of sixteen bits. Two colons in a row stand for the zeros that
are missing, and the last two groups may be written as an address of four bytes. -/
namespace Tenancy

open scoped Powers

structure Ipv6 where
  groups : List UInt16
  length_groups : groups.length = 8
deriving DecidableEq

namespace Ipv6

def ofGroups? (groups : List UInt16) : Option Ipv6 :=
  if h : groups.length = 8 then some ⟨groups, h⟩ else none

def group? (text : List Char) : Option UInt16 :=
  if text.isEmpty || 4 < text.length then none else (naturalIn? 16 text).map UInt16.ofNat

def lastGroups? (text : List Char) : Option (List UInt16) :=
  match Ipv4.ofDotted? text with
  | some address =>
    some [UInt16.ofNat (address.value.toNat / 2 ^ (16 : Nat)), UInt16.ofNat (address.value.toNat % 2 ^ (16 : Nat))]
  | none => (group? text).map fun group => [group]

/-- The groups up to the end of an address. -/
def groups? : List (List Char) → Option (List UInt16)
  | [] => some []
  | [last] => lastGroups? last
  | part :: rest => do return (← group? part) :: (← groups? rest)

/-- The text before and after the first two colons in a row. -/
def splitGap? : List Char → Option (List Char × List Char)
  | ':' :: ':' :: rest => some ([], rest)
  | c :: rest => (splitGap? rest).map fun parts => (c :: parts.1, parts.2)
  | [] => none

def parts (text : List Char) : List (List Char) :=
  if text.isEmpty then [] else splitAll (· = ':') text

/-- Reads an address. A gap stands for one group at least. -/
def ofText? (text : List Char) : Option Ipv6 :=
  match splitGap? text with
  | none => (groups? (parts text)).bind ofGroups?
  | some (before, after) => do
    let front ← (parts before).mapM group?
    let back ← groups? (parts after)
    let missing := 8 - (front.length + back.length)
    if missing = 0 then none
    else ofGroups? (front ++ List.replicate missing 0 ++ back)

/-- The number of zeros in a row from a place on. -/
def zerosFrom (address : Ipv6) (place : Nat) : Nat :=
  ((address.groups.drop place).takeWhile (· = 0)).length

/-- The place of the first of the longest rows of zeros. -/
def gapPlace (address : Ipv6) : Nat :=
  (List.range 8).foldl (fun best place =>
    if address.zerosFrom best < address.zerosFrom place then place else best) 0

/-- The shortest text: the longest row of zeros is left out, unless it is a single zero. -/
def text (address : Ipv6) : String :=
  let place := address.gapPlace
  let zeros := address.zerosFrom place
  let groups := address.groups.map fun group => String.ofList (hexText group.toNat)
  if zeros < 2 then Text.joined ":" groups
  else Text.joined ":" (groups.take place) ++ "::" ++ Text.joined ":" (groups.drop (place + zeros))

end Ipv6
end Tenancy
