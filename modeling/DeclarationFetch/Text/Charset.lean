import DeclarationFetch.Text.Charset.Chinese
import DeclarationFetch.Text.Charset.Escaped
import DeclarationFetch.Text.Charset.Korean
import DeclarationFetch.Text.Charset.Switched
import DeclarationFetch.Text.Charset.Unicode
import DeclarationFetch.Text.CodePage.Dos
import DeclarationFetch.Text.CodePage.Macintosh
import DeclarationFetch.Text.CodePage.Mainframe
import DeclarationFetch.Text.CodePage.Regional
import DeclarationFetch.Text.CodePage.Windows

/-!
# Names of character sets

A character set by any of its names. Case and punctuation do not count, save that a point is part of a
name.
-/

namespace DeclarationFetch.Text.Charset

def latin1 : Charset := .total
  ["latin_1", "8859", "cp819", "csisolatin1", "ibm819", "iso8859", "iso8859_1", "iso_8859_1",
    "iso_8859_1_1987", "iso_ir_100", "l1", "latin", "latin1", "charmap"] plain

def ascii : Charset := .total
  ["ascii", "646", "ansi_x3.4_1968", "ansi_x3.4_1986", "ansi_x3_4_1968", "cp367", "csascii", "ibm367",
    "iso646_us", "iso_646.irv_1991", "iso_ir_6", "us", "us_ascii"]
  fun bytes => bytes.map fun b => if b < 0x80 then Char.ofNat b else replacement

def pages : List CodePage :=
  CodePage.isoPages ++ CodePage.windowsPages ++ CodePage.dosPages ++ CodePage.macintoshPages ++
    CodePage.mainframePages ++ CodePage.regionalPages

def all : List Charset :=
  latin1 :: ascii :: unicode ++ pages.map CodePage.charset ++ japanese ++ korean ++ chinese ++
    switching.map Switching.charset ++ escaped

/-- The words of a name, each in small letters, with underscores between them. -/
def plainName (name : List Char) : List Char :=
  let isWord (c : Char) := c.isAlphanum || c = '.'
  let runs := (name.map Char.toLower).splitBy fun a b => isWord a == isWord b
  ['_'].intercalate (runs.filter fun run => run.any isWord)

/-- A name with a point may also be written with an underscore, but then it is not the first one of a
character set. -/
def ofName? (name : List Char) : Option Charset :=
  let plain := plainName name
  let low := String.ofList (plain.map fun c => if c = '.' then '_' else c)
  let plain := String.ofList plain
  (all.find? fun set => set.names.contains plain).or
    (if low = plain then none else all.find? fun set => (set.names.drop 1).contains low)

end DeclarationFetch.Text.Charset
