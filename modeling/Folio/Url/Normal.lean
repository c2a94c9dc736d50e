import Folio.Url.Address
import Folio.Url.Percent
import Folio.Url.Punycode

/-!
# Addresses of links

An address is normalized before it is put into markup: its host name is written in
ASCII and the rest in percent escapes. Where the address is shown, both are undone.
Addresses that would run a script or open a local file are refused.
-/

namespace Folio
namespace Url

open Text

/-- Whether the host name of an address is to be converted. -/
def convertsHost (a : Address) : Bool :=
  !a.host.isEmpty &&
    (a.scheme.isEmpty ||
      ["http:".toList, "https:".toList, "mailto:".toList].contains a.scheme)

/-- Convert the host name of an address, if it can be. -/
def convertHost (f : List Char -> Option (List Char)) (a : Address) : Address :=
  if convertsHost a then { a with host := (f a.host).getD a.host } else a

/-- An address as it is put into markup. -/
def normalize (s : List Char) : List Char :=
  (convertHost hostToAscii (parse s)).textWith encode

/-- An address as it is shown. -/
def display (s : List Char) : List Char :=
  decode (convertHost hostToShown (parse s)).text

/-- Schemes that run a script or open what is not on the net. -/
def isRisky (s : List Char) : Bool :=
  ["vbscript:".toList, "javascript:".toList, "file:".toList, "data:".toList].any (startsWith · s)

/-- Data of a kind that is only shown. -/
def isImageData (s : List Char) : Bool :=
  ["gif;".toList, "png;".toList, "jpeg;".toList, "webp;".toList].any fun kind =>
    startsWith ("data:image/".toList ++ kind) s

/-- Whether a link may lead to an address. -/
def isAllowed (s : List Char) : Bool :=
  let s := lower (trim s)
  !isRisky s || isImageData s

end Url
end Folio
