import LiveMarkdown.Url.Parts
import LiveMarkdown.Url.Percent
import LiveMarkdown.Url.Punycode

/-!
# Addresses of links

How an address is written into a document (`normalize`), how it is shown to a reader (`display`),
and which addresses a document may point to (`isAllowed`).
-/

namespace LiveMarkdown.Url

/-- Is the host name of this scheme written in ASCII and shown in its own script? -/
def recodesHost (scheme : Text) : Bool :=
  scheme.isEmpty || scheme == "http:" || scheme == "https:" || scheme == "mailto:"

/-- The parts with the host name recoded; as they are if it cannot be. -/
def Parts.recodeHost (f : Text → Option Text) (p : Parts) : Parts :=
  if !p.host.isEmpty && recodesHost p.scheme then { p with host := (f p.host).getD p.host } else p

/-- An address as it is written into a document. -/
def normalize (t : Text) : Text :=
  ((Parts.ofText t).recodeHost Punycode.hostToAscii).toTextWith Percent.encode

/-- An address as it is shown. -/
def display (t : Text) : Text :=
  Percent.decode ((Parts.ofText t).recodeHost Punycode.hostToUnicode).toText

/-- The formats of pictures that may stand in an address themselves. -/
def isPictureData (t : Text) : Bool :=
  ["data:image/gif;", "data:image/png;", "data:image/jpeg;", "data:image/webp;"].any
    fun head => head.toList.isPrefixOf t

/-- May a document point to the address? Scripts, local files and data other than pictures are
refused. -/
def isAllowed (url : Text) : Bool :=
  let t := Text.lower (Text.trim url)
  if ["vbscript:", "javascript:", "file:", "data:"].any fun head => head.toList.isPrefixOf t then
    isPictureData t
  else true

end LiveMarkdown.Url
