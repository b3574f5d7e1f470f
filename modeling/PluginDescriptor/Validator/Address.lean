import PluginDescriptor.Text.Numeral
import PluginDescriptor.Text.Split

/-!
# Internet addresses

The written forms of addresses of both versions of the protocol. Only ASCII digits count, and numbers
have no zeros in front in the form with points.
-/

set_option autoImplicit false

namespace PluginDescriptor.Address

/-- A number from 0 to 255 with no zero in front. -/
def isOctet (s : List Char) : Bool :=
  !s.isEmpty && s.all Char.isDigit && s.length ≤ 3 && (s == ['0'] || s.head? != some '0')
    && Text.digitsValue 10 s ≤ 255

/-- Four octets with points between them. -/
def isV4List (s : List Char) : Bool :=
  let octets := Text.splitAt '.' s
  octets.length == 4 && octets.all isOctet

/-- An address of four octets. -/
def isV4 (s : String) : Bool := isV4List s.toList

/-- Up to four digits in base 16. -/
def isHextet (s : List Char) : Bool := s.length ≤ 4 && s.all (Text.isDigitIn 16)

/-- The parts of a longer address with the last one, where it has points, read as two hextets; `none`
when that fails. -/
def plainParts (parts : List (List Char)) : Option (List (List Char)) :=
  match parts.getLast? with
  | some last =>
    if last.contains '.' then
      if isV4List last then some (parts.dropLast ++ [['0'], ['0']]) else none
    else some parts
  | none => none

/-- The places of empty parts, those at both ends left out. -/
def emptyPlaces (parts : List (List Char)) : List Nat :=
  (List.range parts.length).filter fun i =>
    0 < i && i + 1 < parts.length && (parts.getD i ['0']).isEmpty

/-- Eight hextets with colons between them, or fewer with one gap between two colons. -/
def isHextetRow (parts : List (List Char)) : Bool :=
  if 9 < parts.length then false
  else
    match emptyPlaces parts with
    | [] =>
      parts.length == 8 && parts.head? != some [] && parts.getLast? != some [] && parts.all isHextet
    | [gap] =>
      let high := parts.take gap
      let low := parts.drop (gap + 1)
      -- an empty part at an end belongs to a gap at that end
      let highOk := if parts.head? == some [] then high.length == 1 else high.all isHextet
      let lowOk := if parts.getLast? == some [] then low.length == 1 else low.all isHextet
      let count (part : List (List Char)) : Nat := if part == [[]] then 0 else part.length
      highOk && lowOk && count high + count low < 8
    | _ => false

/-- An address of eight hextets, perhaps with a scope after a percent sign. -/
def isV6 (s : String) : Bool :=
  let (address, scope) := Text.cutAt '%' s.toList
  let scopeOk := match scope with
    | none => true
    | some scope => !scope.isEmpty && !scope.contains '%'
  let slashless := !s.toList.contains '/'
  let parts := Text.splitAt ':' address
  slashless && scopeOk && 3 ≤ parts.length
    && (match plainParts parts with
      | some parts => isHextetRow parts
      | none => false)

end PluginDescriptor.Address
