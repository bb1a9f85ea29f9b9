import PageLoom.DevServer.RequestTarget

set_option autoImplicit false

/-! # Hosts of request targets

A target may name a host in front of its path. Nothing is ever looked up there, but brackets in it
have to stand around an address: a target whose host has others cannot be taken apart. -/

namespace PageLoom
namespace RequestTarget

/-- The host that a target names. -/
def host? (t : Text) : Option Text :=
  let rest := (splitScheme (kept t)).2
  if "//".toList.isPrefixOf rest then
    some ((rest.drop 2).takeWhile fun c => c ≠ '/' && c ≠ '?' && c ≠ '#')
  else none

/-! ## Addresses -/

/-- A part of an address of four decimal numbers. -/
def isDecimalPart (t : Text) : Bool :=
  1 ≤ t.length && t.length ≤ 3 && t.all Char.isDigit && (t = ['0'] || t.head? ≠ some '0') &&
    Text.digitsValue t ≤ 255

/-- An address of four decimal numbers. -/
def isDecimalAddress (t : Text) : Bool :=
  let parts := Text.splitOn '.' t
  parts.length = 4 && parts.all isDecimalPart

/-- A group of hexadecimal digits. -/
def isGroup (t : Text) : Bool :=
  1 ≤ t.length && t.length ≤ 4 && t.all fun c => (Text.hexValue? c).isSome

/-- The groups before or behind a gap. At the end of the address a gap takes two colons, so the part
    there is empty and counts for nothing; `outer` is that part. -/
def groupsBeside (outer : Option Text) (parts : List Text) : Option Nat :=
  if outer = some [] then if parts.length = 1 then some 0 else none
  else if parts.all isGroup then some parts.length else none

/-- Eight groups, or fewer with a gap. -/
def areGroups (parts : List Text) : Bool :=
  let inner := parts.tail.dropLast
  match inner.findIdx? (·.isEmpty) with
  | none => parts.length = 8 && parts.all isGroup
  | some i =>
      let before := parts.take (i + 1)
      let behind := parts.drop (i + 2)
      (inner.filter (·.isEmpty)).length = 1 &&
        match groupsBeside before.head? before, groupsBeside behind.getLast? behind with
        | some n, some k => n + k < 8
        | _, _ => false

/-- An address of groups of hexadecimal digits between colons. It may end in four decimal numbers,
    for two groups, and a zone may stand behind it. -/
def isGroupAddress (t : Text) : Bool :=
  let address := t.takeWhile (· ≠ '%')
  let zone := t.drop address.length
  let parts := Text.splitOn ':' address
  let ending := parts.getLast?.getD []
  (zone.isEmpty || (1 < zone.length && !zone.tail.contains '%')) && 3 ≤ parts.length &&
    (if ending.contains '.' then
      isDecimalAddress ending && areGroups (parts.dropLast ++ ["0".toList, "0".toList])
    else areGroups parts)

/-- An address of a kind to come: its version, and anything behind a point. -/
def isFutureAddress (t : Text) : Bool :=
  let version := (t.drop 1).takeWhile fun c => (Text.hexValue? c).isSome
  let rest := t.drop (1 + version.length)
  !version.isEmpty && rest.head? = some '.' && 2 ≤ rest.length

/-- Whether brackets in a host stand around an address. -/
def isHost (t : Text) : Bool :=
  match t.contains '[', t.contains ']' with
  | false, false => true
  | true, true =>
      let address := ((t.dropWhile (· ≠ '[')).drop 1).takeWhile (· ≠ ']')
      if address.head? = some 'v' then isFutureAddress address else isGroupAddress address
  | _, _ => false

/-- Whether a target can be taken apart. -/
def isSound (t : Text) : Bool := (host? t).all isHost

end RequestTarget
end PageLoom
