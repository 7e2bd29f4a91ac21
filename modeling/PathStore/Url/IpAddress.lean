/-
This file tells which texts are addresses of the Internet Protocol.
-/
import PathStore.Bytes
import PathStore.Number.Numeral

namespace PathStore.Url.IpAddress

/-- A number below 256 without needless zeros. -/
def isOctet (group : List Char) : Bool :=
  group.length ≤ 3 && (group.length = 1 || group.head? != some '0') &&
    match Numeral.digits? group with
    | some value => value < 256
    | none => false

/-- Four octets with dots between them. -/
def isVersion4 (text : List Char) : Bool :=
  let groups := Text.splitList '.' text
  groups.length = 4 && groups.all isOctet

/-- Up to four hexadecimal digits. -/
def isHextet (group : List Char) : Bool :=
  !group.isEmpty && group.length ≤ 4 && group.all fun digit => (Bytes.hexValue? digit).isSome

/-- The groups between colons, with two in place of four octets at the end. -/
def groups? (text : List Char) : Option (List (List Char)) :=
  let groups := Text.splitList ':' text
  let last := groups.getLast?.getD []
  if !last.contains '.' then some groups
  else if isVersion4 last then some (groups.dropLast ++ [['0'], ['0']])
  else none

/-- The number of the groups at one side of a gap; a colon at the end of the text is part of the gap. -/
def sideLength? (groups outermost : List (List Char)) : Option Nat :=
  if groups = [[]] then some 0
  else if outermost.head? = some [] then none
  else if groups.all isHextet then some groups.length
  else none

/-- Eight groups, or fewer with one gap that stands for at least one. -/
def hasGroups (groups : List (List Char)) : Bool :=
  let inner := (groups.drop 1).dropLast
  if inner.contains [] then
    let before := groups.take 1 ++ inner.takeWhile (· ≠ [])
    let after := groups.drop (before.length + 1)
    match sideLength? before before, sideLength? after after.reverse with
    | some left, some right => left + right < 8
    | _, _ => false
  else groups.length = 8 && groups.all isHextet

/-- Whether the text after an address names a zone, if it is not empty. -/
def isZone : List Char → Bool
  | [] => true
  | _ :: zone => !zone.isEmpty && !zone.contains '%'

/-- Groups between colons, and a zone if a percent sign comes after them. -/
def isVersion6 (text : List Char) : Bool :=
  let address := text.takeWhile (· ≠ '%')
  !text.contains '/' && isZone (text.drop address.length) && 3 ≤ (Text.splitList ':' address).length &&
    match groups? address with
    | some groups => hasGroups groups
    | none => false

end PathStore.Url.IpAddress
