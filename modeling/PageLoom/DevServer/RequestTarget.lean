import PageLoom.Text.Utf8

set_option autoImplicit false

/-! # Request targets

A request names what it wants by a target, of which only the path counts: a scheme, a host, a query
and a fragment are passed over. In a path, a percent sign and two hexadecimal digits stand for an
octet, and the octets of the path are UTF-8. -/

namespace PageLoom
namespace RequestTarget

/-- A character of a scheme. -/
def inScheme (c : Char) : Bool := c.isAlphanum || c = '+' || c = '-' || c = '.'

/-- The scheme of a target, which may be empty, and the rest. -/
def splitScheme (t : Text) : Text × Text :=
  match Text.splitFirst? ":" t with
  | some (scheme, rest) =>
      if (scheme.head?.any Char.isAlpha) && scheme.all inScheme then (scheme, rest) else ([], t)
  | none => ([], t)

/-- The path of what follows the scheme. -/
def pathOfRest (t : Text) : Text :=
  let t := if "//".toList.isPrefixOf t then
      (t.drop 2).dropWhile fun c => c ≠ '/' && c ≠ '?' && c ≠ '#'
    else t
  (t.takeWhile (· ≠ '#')).takeWhile (· ≠ '?')

/-- What counts of a target: not the control characters and blanks before it, and neither tabs nor
    line ends anywhere. -/
def kept (t : Text) : Text :=
  (t.dropWhile fun c => c.toNat ≤ 0x20).filter fun c => c ≠ '\t' && c ≠ '\r' && c ≠ '\n'

/-- The path of a target, still encoded. -/
def encodedPath (t : Text) : Text := pathOfRest (splitScheme (kept t)).2

/-- The octets that ASCII text with percent signs stands for. A percent sign without two
    hexadecimal digits stands for itself. -/
def octets : Text → Octets
  | '%' :: a :: b :: rest =>
      match Text.hexValue? a, Text.hexValue? b with
      | some x, some y => UInt8.ofNat (x * 16 + y) :: octets rest
      | _, _ => UInt8.ofNat '%'.toNat :: octets (a :: b :: rest)
  | c :: rest => UInt8.ofNat c.toNat :: octets rest
  | [] => []
termination_by t => t.length

/-- Decodes a path. Octets that are no UTF-8 become replacement characters; a character outside of
    ASCII stands for itself and ends the octets before it. -/
def decode (t : Text) : Text := go [] t
where
  go (ascii : Text) : Text → Text
    | [] => Utf8.decodeLossy (octets ascii)
    | c :: rest =>
        if c.toNat < 0x80 then go (ascii ++ [c]) rest
        else Utf8.decodeLossy (octets ascii) ++ c :: go [] rest

/-- A character that is never encoded. -/
def isPlain (c : Char) : Bool :=
  c.isAlphanum || c = '-' || c = '.' || c = '_' || c = '~' || c = '/'

/-- Encodes a path: every other character by its UTF-8 octets. -/
def encode (t : Text) : Text :=
  t.flatMap fun c =>
    if isPlain c then [c]
    else (Utf8.encode [c]).flatMap fun b =>
      ['%', Text.hexDigit (b.toNat / 16), Text.hexDigit b.toNat]

end RequestTarget
end PageLoom
