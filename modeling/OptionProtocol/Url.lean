import OptionProtocol.Text.LetterCase
import OptionProtocol.Text.Basic

/-! The parts of URLs that tell where to ask: scheme and authority. -/

set_option autoImplicit false

namespace OptionProtocol

/-- A URL's scheme in lower case and the authority behind it; either may be empty. -/
structure Url where
  scheme : String := ""
  authority : String := ""
  deriving DecidableEq, Repr

namespace Url

/-- Line ends and tabs do not count in URLs. -/
def isSkipped (c : Char) : Bool := c = '\t' || c = '\r' || c = '\n'

def isSchemeChar (c : Char) : Bool := c.isAlphanum || c = '+' || c = '-' || c = '.'

/-- The scheme before the first colon, if it is one, and what follows it. -/
def splitScheme (s : List Char) : List Char × List Char :=
  let before := s.takeWhile (· ≠ ':')
  match s.drop before.length with
  | ':' :: rest =>
      if (before.head?.any Char.isAlpha) && before.all isSchemeChar then (before, rest)
      else ([], s)
  | _ => ([], s)

/-- The authority: what follows two slashes, up to the path, the query or the fragment. -/
def authorityOf (s : List Char) : List Char :=
  match s with
  | '/' :: '/' :: rest => rest.takeWhile fun c => c ≠ '/' && c ≠ '?' && c ≠ '#'
  | _ => []

/-- Characters that stand for a delimiter of URLs when they are written compatibly. -/
def isDisguisedDelimiter (c : Char) : Bool :=
  [0x2047, 0x2048, 0x2049, 0x2100, 0x2101, 0x2105, 0x2106, 0x2A74, 0xFE13, 0xFE16, 0xFE55, 0xFE56,
    0xFE5F, 0xFE6B, 0xFF03, 0xFF0F, 0xFF1A, 0xFF1F, 0xFF20].contains c.toNat

/-- Brackets come in pairs, and no character hides a delimiter. -/
def isSound (authority : List Char) : Bool :=
  (authority.contains '[' == authority.contains ']') &&
    !authority.any isDisguisedDelimiter

def parse? (text : String) : Option Url :=
  let (scheme, rest) := splitScheme (text.toList.filter fun c => !isSkipped c)
  let authority := authorityOf rest
  if isSound authority then
    some ⟨Text.lowered (String.ofList scheme), String.ofList authority⟩
  else none

def isWeb (url : Url) : Bool := url.scheme = "http" || url.scheme = "https"

def isComplete (url : Url) : Bool := url.scheme ≠ "" && url.authority ≠ ""

end Url

end OptionProtocol
