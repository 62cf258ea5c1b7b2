import LiveMarkdown.Text.Blank
import LiveMarkdown.Text.Case

/-!
# Top-level domains

The last label of a host name that is recognised without a scheme: a few general domains, and the
codes of countries. Every other domain needs a scheme to become a link, so that file names and
abbreviations in running text are left alone.
-/

namespace LiveMarkdown.Url

/-- The general domains. -/
def generalDomains : List Text :=
  Text.blankWords (String.toList
    "biz com edu gov net org pro web xxx aero asia coop info museum name shop рф")

/-- The codes of countries, grouped by their first letter: the letters that may come second. -/
def countryLetters : List (Char × Text) := [
  ('a', "cdefgilmnoqrstuwxz"), ('b', "abdefghijmnorstvwyz"), ('c', "acdfghiklmnoruvwxyz"),
  ('d', "ejkmoz"), ('e', "cegrstu"), ('f', "ijkmor"), ('g', "abdefghilmnpqrstuwy"),
  ('h', "kmnrtu"), ('i', "delmnoqrst"), ('j', "emop"), ('k', "eghimnprwyz"),
  ('l', "abcikrstuvy"), ('m', "acdeghklmnopqrstuvwxyz"), ('n', "acefgilopruz"), ('o', "m"),
  ('p', "aefghklmnrstwy"), ('q', "a"), ('r', "eosuw"), ('s', "abcdeghijklmnortuvxyz"),
  ('t', "cdfghjklmnortvwz"), ('u', "agksyz"), ('v', "aceginu"), ('w', "fs"), ('y', "et"),
  ('z', "amw")]

/-- Is the label the code of a country? -/
def isCountryCode : Text → Bool
  | [first, second] => ((countryLetters.lookup first).getD []).contains second
  | _ => false

/-- Is the label a top-level domain, case disregarded? -/
def isTopLevel (label : Text) : Bool :=
  let label := Text.lower (label.map Text.foldCase)
  generalDomains.contains label || isCountryCode label

end LiveMarkdown.Url
